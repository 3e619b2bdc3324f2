/-
# The arguments of the program

Two commands: `spec` shows the resolved spec of a provider, `sign` prints a signed address for a
path.  Both take a configuration file, overrides of single settings, and an identity and a
credential to use where none is configured.
-/
import CloudAccess.CommandLine.Grammar
import CloudAccess.Text.Blank
import CloudAccess.Text.Integer

namespace CloudAccess.CommandLine

/-- The arguments of a command.  A place is empty where only a mark was given for it. -/
structure Arguments where
  provider : Option Text := none
  path : Option Text := none
  config : Option Text := none
  define : List (Text × Text) := []
  identity : Option Text := none
  credential : Option Text := none
  verbose : Bool := false
  lifetime : Int := 3600
  skew : Int := 0
deriving DecidableEq

/-- What the program is asked to do. -/
inductive Command where
  | spec
  | sign
deriving DecidableEq

/-- The name of a command. -/
def Command.name : Command → Text
  | .spec => "spec"
  | .sign => "sign"

/-- A command with its arguments. -/
structure Invocation where
  command : Command
  arguments : Arguments
deriving DecidableEq

/-- The complaint about an override that is not of the form `key=value`. -/
def malformedOverride (t : Text) : Text := "expected key=value, got '" ++ t ++ "'"

/-- The override that a text writes: blanks around the key do not count. -/
def override? (t : Text) : Except Text (Text × Text) :=
  match Text.cut? '=' t with
  | some (c :: key, value) => .ok (Text.strip (c :: key), value)
  | _ => .error (malformedOverride t)

/-- The integer that an argument writes. -/
def integer? (t : Text) : Except Text Int :=
  match Integer.read t with
  | .ok n => .ok n
  | .error _ => .error ("invalid int value: " ++ Text.quoted t)

/-- The switches of both commands. -/
def commonSwitches : List (Switch Arguments) := [
  ⟨["-h", "--help"], .help⟩,
  ⟨["-c", "--config"], .value fun t a => .ok { a with config := some t }⟩,
  ⟨["-D", "--define"], .value fun t a =>
    (override? t).map fun entry => { a with define := a.define ++ [entry] }⟩,
  ⟨["--identity"], .value fun t a => .ok { a with identity := some t }⟩,
  ⟨["--credential"], .value fun t a => .ok { a with credential := some t }⟩,
  ⟨["-v", "--verbose"], .flag fun a => { a with verbose := true }⟩]

/-- The place of the provider. -/
def providerPlace : Place Arguments := .one "provider" fun t a => { a with provider := t }

/-- The grammar of a command. -/
def Command.grammar : Command → Grammar Arguments
  | .spec => ⟨"cloudcontext spec", commonSwitches, [providerPlace]⟩
  | .sign =>
    { program := "cloudcontext sign"
      switches := commonSwitches ++ [
        ⟨["--ttl"], .value fun t a => (integer? t).map fun n => { a with lifetime := n }⟩,
        ⟨["--skew"], .value fun t a => (integer? t).map fun n => { a with skew := n }⟩]
      places := [providerPlace, .one "path" fun t a => { a with path := t }] }

/-- What has been read of a command line: the invocation and the words its command did not
know. -/
abbrev Reading := Option (Invocation × List Text)

/-- The name of the program. -/
def program : Text := "cloudcontext"

/-- Read a command with its arguments. -/
def readCommand (words : List Text) (_ : Reading) : Except Stop Reading :=
  let name := words.headD []
  match [Command.spec, .sign].find? fun command => command.name = name with
  | none =>
    .error ⟨program, some ("argument command: invalid choice: " ++ Text.quoted name ++
      " (choose from 'spec', 'sign')")⟩
  | some command =>
    (command.grammar.parse {} (words.drop 1)).map fun (arguments, unknown) =>
      some (⟨command, arguments⟩, unknown)

/-- The grammar of the program: a command with its arguments. -/
def grammar : Grammar Reading where
  program := program
  switches := [⟨["-h", "--help"], .help⟩]
  places := [.rest "command" readCommand]

/-- What a command line asks for. -/
def Invocation.ofWords (words : List Text) : Except Stop Invocation :=
  match grammar.parse none words with
  | .error stop => .error stop
  | .ok (none, _) => grammar.stop "the following arguments are required: command"
  | .ok (some (invocation, unknown), aside) =>
    match aside ++ unknown with
    | [] => .ok invocation
    | words => grammar.stop ("unrecognized arguments: " ++ Text.join " " words)

end CloudAccess.CommandLine
