/-
# The command line

Collects what `CommandLine.run` needs (the words, the variables, the time, the width of the screen
and the file that is named), and passes on what it leaves behind.  The width is what the variables
tell; a terminal is not asked for its own.
-/
import CloudAccess.CommandLine.Program
import Std.Time.DateTime.Timestamp

namespace CloudAccess.CommandLine

/-- A text as it is written out; what is no character becomes a replacement character. -/
def shownText (t : Text) : String :=
  String.ofList (t.map fun c => if c.val.isValidChar then Char.ofNat c.val else '\ufffd')

/-- The variables in a block that ends each with a zero byte. -/
def environmentOf (block : Bytes) : Configuration.Environment :=
  Dictionary.ofList ((Text.splitOn (.ofNat 0) (Utf8.decodeKeeping block)).filterMap fun entry =>
    (Text.cut? '=' entry).map fun (name, value) => (name, some value))

/-- The width of the screen where nothing is known about it. -/
def usualWidth : Nat := 80

/-- The number that a variable tells, if it tells one. -/
def told? (environment : Configuration.Environment) (name : Text) : Option Nat :=
  (environment.get? name).join.bind fun t =>
    if t.isDigits then (Integer.read t).toOption.map Int.toNat else none

/-- The width that the variables tell.  The last cell stays free, and so does one more where they
tell the height as well. -/
def widthOf (environment : Configuration.Environment) : Nat :=
  match told? environment "COLUMNS" with
  | none => usualWidth - 1
  | some width => if (told? environment "LINES").isSome then width - 2 else width - 1

/-- What keeps a text from being written as bytes. -/
def refusal? (text : Text) : Option Unreported :=
  match Utf8.encode text with
  | .ok _ => none
  | .error u => some ⟨.unencodable u, rfl⟩

/-- What is found at a path among the files. -/
def find (path : Text) : IO Storage.Found := do
  let place := (← IO.currentDir) / shownText path
  if ← place.isDir then return .unreadable .isFolder
  try
    return .file (← IO.FS.readBinFile place).toList
  catch
    | .noFileOrDirectory .. => return .missing
    | .permissionDenied .. => return .unreadable .denied
    | error => return .unreadable (.failing (Text.ofString error.toString))

/-- What the program finds around it when it runs with the given words. -/
def surroundings (words : List Text) : IO Surroundings := do
  let environment := environmentOf (← IO.FS.readBinFile "/proc/self/environ").toList
  let found : Storage.Found ← match Invocation.ofWords words with
    | .ok ⟨_, arguments⟩ => arguments.config.elim (pure .missing) find
    | .error _ => pure .missing
  let now ← Std.Time.Timestamp.now
  return {
    storage := fun _ => found
    environment
    now := .whole now.toSecondsSinceUnixEpoch.val
    width := widthOf environment
    refuses := refusal? }

end CloudAccess.CommandLine

open CloudAccess CloudAccess.CommandLine in
/-- The program: its words are the arguments. -/
def main (arguments : List String) : IO UInt32 := do
  let words := arguments.map Text.ofString
  let errors ← IO.getStderr
  match run (← surroundings words) words with
  | .error failure =>
    errors.putStrLn (shownText failure.fault.message)
    return 1
  | .ok outcome =>
    for record in outcome.log do
      errors.putStrLn (shownText (record.level.name ++ " " ++ record.line))
    errors.putStr (shownText outcome.trouble)
    (← IO.getStdout).putStr (shownText outcome.output)
    return outcome.status.toUInt32
