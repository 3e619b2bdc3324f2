/-
# The standard stack

The configuration that the program works with: the bundled defaults, the environment over them,
then a file if one is named, and the caller's overrides on top.
-/
import CloudAccess.Configuration.Defaults
import CloudAccess.Configuration.Environment

namespace CloudAccess.Configuration

/-- What the standard stack is made from. -/
structure Sources where
  overrides : Option Settings := none
  path : Option Text := none
  environment : Environment := Dictionary.empty

/-- The two lowest layers. -/
def base (environment : Environment) : Configuration := ⟨[defaults, ofEnvironment environment]⟩

/-- The standard stack. -/
def ofSources (storage : Storage) (s : Sources) (levels : Nat := Json.usualLevels) :
    Except Fault Configuration :=
  match s.path with
  | none => .ok ((base s.environment).withLayer s.overrides)
  | some path =>
    match ofFile storage path levels with
    | .error fault => .error fault
    | .ok settings => .ok (((base s.environment).withLayer (some settings)).withLayer s.overrides)

end CloudAccess.Configuration
