/-
# Contexts and their builders

A context builder holds accepted properties, the capability types and the extension modules; the
context it builds holds the same, and the provider's client.  The client is made first, then the
hooks of the modules run in order, and the first failure ends it.

Whoever extends this library has a hand in that: a builder may make its client in its own way, and
the hook of a module is called with the builder and the client and may change both the builder and
what the modules after it do.  Building a context is therefore written once over whatever is at
work (`Workings`), and the bundled builders are one case of it.
-/
import CloudAccess.Provider.Atmos
import CloudAccess.Provider.S3

namespace CloudAccess

/-! ## 1. Contexts -/

/-- A provider's client. -/
inductive Client where
  | s3 (client : S3.Client)
  | atmos (signer : Signer)

/-- The name of a client's class. -/
def Client.className : Client → Text
  | .s3 _ => "S3Client"
  | .atmos _ => "AtmosShareUrls"

/-- A context with modules and a client of any kind. -/
structure ContextOf (μ α : Type) where
  provider : Option Text
  properties : Properties
  sync : Option Component
  async : Option Component
  modules : List μ
  client : α

/-- A context. -/
abbrev Context := ContextOf Module (Option Client)

/-! ## 2. Building a context -/

/-- What a module has under the name of the hook. -/
inductive Attribute (σ α : Type) where
  | absent
  | notCallable
  | callable (call : α → σ → σ × Except Failure Unit)

/-- What is at work while a context is built.  `σ` is the builder with all that extensions can read
and change, `μ` are the modules and `α` the clients. -/
structure Workings (σ μ α : Type) where
  properties : σ → Properties
  sync : σ → Option Component
  async : σ → Option Component
  modules : σ → List μ
  createClient : σ → σ × Except Failure α
  /-- What a module has for a hook when its turn comes. -/
  hook : σ → μ → Attribute σ α

/-- Something that is asked of an extension, with the builder as it is then. -/
inductive BuildStep (σ μ α : Type) where
  | createClient (builder : σ)
  | configure (module : μ) (builder : σ) (client : α)

/-- What was asked of extensions, in order, what became of the builder, and how it ended. -/
structure Build (σ μ α β : Type) where
  steps : List (BuildStep σ μ α)
  builder : σ
  outcome : Except Failure β

/-- The same with another failure. -/
def Build.mapFailure {σ μ α β : Type} (f : Failure → Failure) (t : Build σ μ α β) :
    Build σ μ α β :=
  { t with outcome := t.outcome.mapError f }

namespace Workings

variable {σ μ α : Type}

/-- Run the hooks of modules that have one that can be called, in order, until one fails. -/
def runHooks (w : Workings σ μ α) (client : α) (builder : σ) : List μ → Build σ μ α Unit
  | [] => ⟨[], builder, .ok ()⟩
  | m :: rest =>
    match w.hook builder m with
    | .absent | .notCallable => w.runHooks client builder rest
    | .callable call =>
      match call client builder with
      | (after, .error failure) => ⟨[.configure m builder client], after, .error failure⟩
      | (after, .ok ()) =>
        let t := w.runHooks client after rest
        { t with steps := .configure m builder client :: t.steps }

/-- The context of a builder with a client. -/
def contextWith (w : Workings σ μ α) (builder : σ) (client : α) : ContextOf μ α where
  provider := Properties.getD (w.properties builder) Properties.providerKey (some [])
  properties := w.properties builder
  sync := w.sync builder
  async := w.async builder
  modules := w.modules builder
  client := client

/-- Build the context: the client first, then the hooks of the modules that the builder has by
then. -/
def build (w : Workings σ μ α) (builder : σ) : Build σ μ α (ContextOf μ α) :=
  match w.createClient builder with
  | (after, .error failure) => ⟨[.createClient builder], after, .error failure⟩
  | (after, .ok client) =>
    let t := w.runHooks client after (w.modules after)
    ⟨.createClient builder :: t.steps, t.builder,
      t.outcome.map fun _ => w.contextWith t.builder client⟩

end Workings

/-! ## 3. Context builders -/

/-- What a context builder has read off its properties. -/
inductive Preparation where
  | generic
  | s3
  | atmos (accepted : Atmos.Accepted)
deriving DecidableEq

/-- Builds contexts from finished properties. -/
structure ContextBuilder where
  component : Component
  preparation : Preparation
  sync : Option Component
  async : Option Component
  properties : Properties
  modules : List Module := []
deriving DecidableEq

namespace ContextBuilder

/-- What a bundled builder reads off properties, unless it rejects them. -/
def prepare (flavour : Flavour) (p : Properties) (handled? : Option Failure := none) :
    Except Failure Preparation :=
  match flavour with
  | .generic => .ok .generic
  | .s3 => (S3.checkCredentials p).mapError (.arising handled?) |>.map fun _ => .s3
  | .atmos => (Atmos.accept p handled?).map .atmos

/-- A builder made by a component.  An object that cannot play the part cannot be called. -/
def create? (component : Component) (sync async : Option Component) (properties : Properties)
    (handled? : Option Failure := none) : Traced ContextBuilder := do
  Traced.ask component .construct []
  match component.flavour? .context with
  | none => Traced.ofExcept (.error (.arising handled? (.notCallable component.className)))
  | some flavour =>
    let preparation ← Traced.ofExcept (prepare flavour properties handled?)
    return { component, preparation, sync, async, properties }

/-- The builder with the given modules in place of those it had. -/
def attach (b : ContextBuilder) (modules : List Module) : ContextBuilder := { b with modules }

/-- The client that a builder makes, without being asked. -/
def client? (b : ContextBuilder) (refused : S3.Refusals := fun _ => none) :
    Except Fault (Option Client) :=
  match b.preparation with
  | .generic => .ok none
  | .s3 => (S3.Client.ofProperties b.properties refused).map fun client => some (.s3 client)
  | .atmos accepted => (Atmos.signer? b.properties accepted).map fun signer => some (.atmos signer)

/-- The client that a builder makes when it is asked. -/
def createClient (b : ContextBuilder) (handled? : Option Failure := none)
    (refused : S3.Refusals := fun _ => none) : Except Failure (Option Client) :=
  match b.component.failure? .createApi with
  | some failure => .error failure
  | none => (b.client? refused).mapError (.arising handled?)

/-- A builder that is told apart by its failures alone, and modules with hooks that can do nothing
but raise: all of them leave the builder as it is. -/
def workings (handled? : Option Failure := none) (refused : S3.Refusals := fun _ => none) :
    Workings ContextBuilder Module (Option Client) where
  properties := properties
  sync := sync
  async := async
  modules := modules
  createClient b := (b, b.createClient handled? refused)
  hook _ m :=
    match m.hook with
    | .absent => .absent
    | .notCallable => .notCallable
    | .present none => .callable fun _ b => (b, .ok ())
    | .present (some failure) => .callable fun _ b => (b, .error failure)

/-- The call that a step is. -/
def call : BuildStep ContextBuilder Module (Option Client) → Call
  | .createClient b => .builder b.component .createApi []
  | .configure m b client => .hook m b.component.className (client.map Client.className)

/-- Build the context. -/
def build (b : ContextBuilder) (handled? : Option Failure := none)
    (refused : S3.Refusals := fun _ => none) : Traced Context := do
  Traced.ask b.component .buildContext []
  let t := (workings handled? refused).build b
  ⟨t.steps.map call, t.outcome⟩

end ContextBuilder

end CloudAccess
