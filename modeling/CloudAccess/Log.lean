/-
# Log records

What the library has to say while it works.  A record has a level, the name of the logger that
speaks, and a message.  Operations that log return their records beside their result, in the
order in which they were written.
-/
import CloudAccess.Text.Basic

namespace CloudAccess

namespace Log

/-- How much attention a record asks for. -/
inductive Level where
  | debug
  | warning
  | error
deriving DecidableEq

/-- The name of a level. -/
def Level.name : Level → Text
  | .debug => "DEBUG"
  | .warning => "WARNING"
  | .error => "ERROR"

/-- The rank of a level; a log that admits a level admits those above it. -/
def Level.rank : Level → Nat
  | .debug => 10
  | .warning => 30
  | .error => 40

/-- One thing said. -/
structure Record where
  logger : Text
  level : Level
  message : Text
deriving DecidableEq

/-- The record as one text, with its logger in front. -/
def Record.line (r : Record) : Text := r.logger ++ ": " ++ r.message

/-- The records that a log admits which is open from a level upwards. -/
def admitted (level : Level) (records : List Record) : List Record :=
  records.filter fun r => level.rank ≤ r.level.rank

end Log

end CloudAccess
