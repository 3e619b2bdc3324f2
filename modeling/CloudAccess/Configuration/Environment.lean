/-
# Settings from the environment

A variable `CLOUDCONTEXT_<PROVIDER>_<SETTING>` sets `provider.setting`, in lower case.  The
setting is what comes after the last underscore, so a provider's name may hold underscores.
Variables that begin this way and lack one of the two parts are skipped with a warning.
-/
import CloudAccess.Configuration.Layers
import CloudAccess.Log

namespace CloudAccess.Configuration

/-- What the names of the variables begin with. -/
def variableStart : Text := "CLOUDCONTEXT_"

/-- Variables and their values, in order. -/
abbrev Environment := Dictionary (Option Text)

/-- What the name of a variable means. -/
inductive Variable where
  /-- It has nothing to do with the library. -/
  | unrelated
  /-- It lacks a provider or a setting. -/
  | incomplete
  | setting (key : Text)
deriving DecidableEq

/-- The meaning of a variable's name. -/
def Variable.ofName (name : Text) : Variable :=
  match Text.dropStart? variableStart name with
  | none => .unrelated
  | some rest =>
    match Text.cutLast? '_' rest with
    | none => .incomplete
    | some (provider, final) =>
      if provider.isEmpty || final.isEmpty then .incomplete
      else .setting (key (Text.lower provider) (Text.lower final))

/-- The logger that speaks for the configuration. -/
def logger : Text := "cloudcontext.config"

/-- The warning about a variable that is skipped. -/
def skipped (name : Text) : Log.Record :=
  ⟨logger, .warning,
    "Ignoring variable " ++ name ++ ". Expected: " ++ variableStart ++ "<PROVIDER>_<SETTING>"⟩

/-- The settings that an environment gives. -/
def ofEnvironment (environment : Environment) : Settings :=
  Dictionary.ofList (environment.entries.filterMap fun (name, value) =>
    match Variable.ofName name with
    | .setting key => some (key, value)
    | _ => none)

/-- The warnings about the variables of an environment. -/
def warnings (environment : Environment) : List Log.Record :=
  (environment.keys.filter fun name => Variable.ofName name = .incomplete).map skipped

end CloudAccess.Configuration
