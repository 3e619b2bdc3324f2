/-
# The program

What the program does with its words and its surroundings: it reads the words, builds the standard
configuration with the overrides that they give, resolves the spec of the provider, and shows it or
signs an address with it.

A fault of the library is reported in one line and ends the program with status 2.  Any other fault
ends it without a report of its own, and is the failure that `run` returns.

The screen may fail the program too.  Variables tell its size, and it is not set up if they tell it
in digits that are not read as a number; on a screen without columns nothing is shown; and what goes
to it goes through a stream that may refuse to write it.
-/
import CloudAccess.CommandLine.Arguments
import CloudAccess.Configuration.Stack
import CloudAccess.Factory
import CloudAccess.Signing.Spec
import CloudAccess.Spec.Sheet

namespace CloudAccess.CommandLine

/-! ## 1. Around the program -/

/-- A fault that the program has no report for. -/
abbrev Unreported := { fault : Fault // fault.category.isReported = false }

/-- What the program finds around it: files, variables, the present time, and a screen.  `levels` is
how many containers of a document may stand inside each other when it is read, `judge` reads the
parameters of handlers in what is shown, and `refuses` is what the stream to the screen fails with,
if it fails, when a text is written to it. -/
structure Surroundings where
  storage : Storage
  environment : Configuration.Environment
  now : Number
  width : Nat
  levels : Nat := Json.usualLevels
  judge : Console.Markup.Judge := Console.Markup.lenient
  refuses : Text → Option Unreported := fun _ => none

/-- What the program leaves behind: a status, what it wrote for the user and about trouble, and the
records of its log. -/
structure Outcome where
  status : Nat
  output : Text
  trouble : Text
  log : List Log.Record
deriving DecidableEq

/-- A line as it is written. -/
def written (line : Text) : Text := line ++ ([.ofNat 0x0A] : Text)

/-- The outcome of a command line that was not carried out. -/
def Stop.outcome (s : Stop) : Outcome where
  status := s.status
  output := []
  trouble := if s.complaint?.isSome then written s.line else []
  log := []

/-- The logger that speaks for the program. -/
def logger : Text := "cloudcontext.cli"

/-- The line that reports a fault. -/
def report (fault : Fault) : Text := written (fault.category.title ++ ": " ++ fault.message)

/-- The variables that tell the size of the screen. -/
def sizeVariables : List Text := ["COLUMNS", "LINES"]

/-- What keeps the screen from being set up: a size in digits that are not read as a number. -/
def screenTrouble? (environment : Configuration.Environment) : Option Fault :=
  sizeVariables.findSome? fun name =>
    (environment.get? name).join.bind fun told =>
      if told.isDigits then
        match Integer.read told with
        | .ok _ => none
        | .error misread => some (.misreadInteger misread)
      else none

/-- Put a text on the screen: nothing of it, where the screen has no columns. -/
def Surroundings.display (around : Surroundings) (text : Text) : Except Failure Text :=
  if around.width = 0 then .ok []
  else
    match around.refuses text with
    | some fault => .error (.ofFault fault)
    | none => .ok text

/-! ## 2. What an invocation does -/

/-- The records of an activity and its result, which can be something written for the user. -/
structure Activity where
  log : List Log.Record
  result : Except Failure Text

namespace Arguments

/-- What the standard configuration is made from. -/
def sources (a : Arguments) (around : Surroundings) : Configuration.Sources where
  overrides := some (Dictionary.ofList (a.define.map fun (key, value) => (key, some value)))
  path := a.config
  environment := around.environment

/-- The spec to be resolved. -/
def request (a : Arguments) : Factory.Request where
  provider := a.provider
  identity := a.identity
  credential := a.credential

/-- The lowest level that is logged. -/
def level (a : Arguments) : Log.Level := if a.verbose then .debug else .warning

end Arguments

/-- Print a signed address of the path that is asked for. -/
def signed (around : Surroundings) (a : Arguments) (s : Spec) : Activity :=
  match s.signer? (.whole a.lifetime) (.whole a.skew) with
  | .error failure => ⟨[], .error failure⟩
  | .ok signer =>
    let signing := signer.sign logger around.now a.path
    ⟨signing.log, signing.outcome >>= fun address => around.display (written address.url)⟩

/-- Carry out a command on a spec. -/
def Command.perform (command : Command) (around : Surroundings) (a : Arguments) (s : Spec) :
    Activity :=
  match command with
  | .spec => ⟨[], (s.render around.width around.judge).mapError .ofFault >>= around.display⟩
  | .sign => signed around a s

/-- Carry out an invocation. -/
def Invocation.perform (i : Invocation) (around : Surroundings) : Activity :=
  let warnings := Configuration.warnings around.environment
  match Configuration.ofSources around.storage (i.arguments.sources around) around.levels with
  | .error fault => ⟨warnings, .error (.ofFault fault)⟩
  | .ok configuration =>
    let factory : Factory := ⟨configuration, Registry.bundled, logger⟩
    let resolved := factory.createSpec i.arguments.request
    match resolved.outcome with
    | .error failure => ⟨warnings ++ resolved.log, .error failure⟩
    | .ok spec =>
      let activity := i.command.perform around i.arguments spec
      ⟨warnings ++ resolved.log ++ activity.log, activity.result⟩

/-! ## 3. The program -/

/-- Run the program. -/
def run (around : Surroundings) (words : List Text) : Except Failure Outcome :=
  match Invocation.ofWords words with
  | .error stop => .ok stop.outcome
  | .ok i =>
    match screenTrouble? around.environment with
    | some fault => .error (.ofFault fault)
    | none =>
      let activity := i.perform around
      let log := Log.admitted i.arguments.level activity.log
      match activity.result with
      | .ok output => .ok ⟨0, output, [], log⟩
      | .error failure =>
        if failure.fault.category.isReported then .ok ⟨2, [], report failure.fault, log⟩
        else .error failure

end CloudAccess.CommandLine
