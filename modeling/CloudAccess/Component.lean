/-
# Components

What a registry holds and a spec names: builders, capability types, and objects of which nothing
is known but how they are shown.  A builder is one of the bundled pairs or an extension, which
takes over everything from a bundled builder except what it says otherwise: its default
properties, and the failures that it raises.

A component plays a part: the properties builder collects properties, the context builder makes a
context of them.  An extension can play either, since it inherits from the bundled builder of
whichever part it is given.
-/
import CloudAccess.Configuration.Layers
import CloudAccess.Failure

namespace CloudAccess

/-! ## 1. Parts, flavours and stages -/

/-- The part that a builder plays. -/
inductive Part where
  | properties
  | context
deriving DecidableEq

/-- The part in words. -/
def Part.title : Part → Text
  | .properties => "properties builder"
  | .context => "context builder"

/-- The bundled builders come in three flavours. -/
inductive Flavour where
  | generic
  | s3
  | atmos
deriving DecidableEq

/-- A stage in the life of a builder: its making, and each call that it answers. -/
inductive Stage where
  | construct
  | provider
  | apiVersion
  | credentials
  | endpoint
  | build
  | attachModules
  | buildContext
  | createApi
deriving DecidableEq

/-! ## 2. Components -/

/-- A builder that takes over from a bundled one.  `home` is where its class is defined, and
`serial` tells extensions apart that are alike in all else.  A maker that is not a class makes
builders of the class and is shown in its own way.  A maker may count as false. -/
structure Extension where
  name : Text
  serial : Nat := 0
  flavour : Flavour := .generic
  isClass : Bool := true
  isTruthy : Bool := true
  defaults? : Option Settings := none
  failures : List (Stage × Failure) := []
  home : Text := "custom"
deriving DecidableEq

/-- Something that can be registered under a name. -/
inductive Component where
  | bundled (part : Part) (flavour : Flavour)
  | extension (e : Extension)
  /-- The type of the clients of S3. -/
  | s3Client
  /-- The type of the share addresses of Atmos. -/
  | shareUrls
  /-- Any other object, by the way it is shown. -/
  | object (shown : Text) (isTruthy : Bool)
deriving DecidableEq

namespace Component

/-- The full name of a class, and the shown form of anything else. -/
def typeName : Component → Text
  | .bundled .properties .generic => "cloudcontext.builders.PropertiesBuilder"
  | .bundled .properties .s3 => "cloudcontext.providers.s3.S3PropertiesBuilder"
  | .bundled .properties .atmos => "cloudcontext.providers.atmos.AtmosPropertiesBuilder"
  | .bundled .context .generic => "cloudcontext.builders.ContextBuilder"
  | .bundled .context .s3 => "cloudcontext.providers.s3.S3ContextBuilder"
  | .bundled .context .atmos => "cloudcontext.providers.atmos.AtmosContextBuilder"
  | .extension e => if e.isClass then e.home ++ "." ++ e.name else "<factory " ++ e.name ++ ">"
  | .s3Client => "botocore.client.BaseClient"
  | .shareUrls => "cloudcontext.providers.atmos.AtmosShareUrls"
  | .object shown _ => shown

/-- The component is a class. -/
def isClass : Component → Bool
  | .extension e => e.isClass
  | .object _ _ => false
  | _ => true

/-- How a component is shown in a message. -/
def shown (c : Component) : Text :=
  if c.isClass then "<class '" ++ c.typeName ++ "'>" else c.typeName

/-- How a component that may be missing is shown. -/
def shown? : Option Component → Text
  | none => "None"
  | some c => c.shown

/-- The name of the class that a builder belongs to. -/
def className : Component → Text
  | .bundled .properties .generic => "PropertiesBuilder"
  | .bundled .properties .s3 => "S3PropertiesBuilder"
  | .bundled .properties .atmos => "AtmosPropertiesBuilder"
  | .bundled .context .generic => "ContextBuilder"
  | .bundled .context .s3 => "S3ContextBuilder"
  | .bundled .context .atmos => "AtmosContextBuilder"
  | .extension e => e.name
  | .s3Client => "BaseClient"
  | .shareUrls => "AtmosShareUrls"
  | .object shown _ => shown

/-- The name by which a failure to construct tells who failed: that of a class, or how anything
else is shown. -/
def makerName (c : Component) : Text := if c.isClass then c.className else c.shown

/-- The component counts as true where a choice asks for the first that does. -/
def isTruthy : Component → Bool
  | .extension e => e.isTruthy
  | .object _ isTruthy => isTruthy
  | _ => true

/-- The component, unless it is missing or counts as false; then another one. -/
def orElse (c? : Option Component) (fallback : Component) : Component :=
  match c? with
  | some c => if c.isTruthy then c else fallback
  | none => fallback

/-- The flavour that a component has in a part, if it can play it. -/
def flavour? (part : Part) : Component → Option Flavour
  | .bundled p flavour => if p = part then some flavour else none
  | .extension e => some e.flavour
  | _ => none

/-- The failure that a component raises at a stage. -/
def failure? (c : Component) (stage : Stage) : Option Failure :=
  match c with
  | .extension e => e.failures.lookup stage
  | _ => none

end Component

/-! ## 3. Traced computations -/

/-- A module that is run when a context is built, if it has a hook that can be called; the hook
may raise a failure. -/
inductive Hook where
  | absent
  | notCallable
  | present (failure? : Option Failure)
deriving DecidableEq

/-- An extension module, by name. -/
structure Module where
  name : Text
  hook : Hook
deriving DecidableEq

/-- What is given as the modules of a call. -/
inductive Modules where
  /-- Something to run through: the modules that come out, or the failure that ends the run. -/
  | iterable (outcome : Except Failure (List Module))
  /-- An object of a kind that cannot be run through. -/
  | notIterable (kind : Text)

/-- Missing modules are an object that cannot be run through. -/
def Modules.ofOption : Option (List Module) → Modules
  | none => .notIterable "NoneType"
  | some modules => .iterable (.ok modules)

instance : Coe (Option (List Module)) Modules := ⟨Modules.ofOption⟩

/-- A run through modules, in the context of what is being handled. -/
def Modules.run (modules : Modules) (handled? : Option Failure) : Except Failure (List Module) :=
  match modules with
  | .iterable outcome => outcome
  | .notIterable kind => .error (.arising handled? (.notIterable kind))

/-- A call that was made. -/
inductive Call where
  /-- A builder was asked to do its work of a stage, with the arguments that are texts. -/
  | builder (actor : Component) (stage : Stage) (arguments : List (Option Text))
  /-- The hook of a module was called with a builder and the provider's client. -/
  | hook (module : Module) (builder : Text) (client : Option Text)
deriving DecidableEq

/-- A computation with the calls it made: the last call may be the one that failed. -/
structure Traced (α : Type) where
  calls : List Call
  outcome : Except Failure α

namespace Traced

variable {α β : Type}

/-- A computation that makes no calls. -/
def ofExcept (outcome : Except Failure α) : Traced α := ⟨[], outcome⟩

/-- One computation after another, unless the first fails. -/
def andThen (first : Traced α) (next : α → Traced β) : Traced β :=
  match first.outcome with
  | .error failure => ⟨first.calls, .error failure⟩
  | .ok a => ⟨first.calls ++ (next a).calls, (next a).outcome⟩

instance : Monad Traced where
  pure a := ⟨[], .ok a⟩
  bind := andThen

/-- The same computation with another failure. -/
def mapFailure (f : Failure → Failure) (t : Traced α) : Traced α :=
  ⟨t.calls, t.outcome.mapError f⟩

/-- A builder is asked to do its work of a stage: the call is made, and the builder raises its
failure for the stage, if it has one. -/
def ask (actor : Component) (stage : Stage) (arguments : List (Option Text)) : Traced Unit :=
  ⟨[.builder actor stage arguments],
    match actor.failure? stage with
    | some failure => .error failure
    | none => .ok ()⟩

end Traced

end CloudAccess
