/-
# Assembly

From a spec to a context builder.  The properties builder is made, the setters that the spec asks
for are applied, the properties are finished, the context builder is made with them, and the
modules are attached.  A failure at any step ends the assembly.

A builder that cannot be made is reported as such, with what went wrong as the cause.  Whatever
failed, rejected credentials among its causes are what is reported, never a fault they led to.
Each assembly writes one record.

An assembly may be asked for while a failure is being handled.  That failure is then behind every
fault that arises in it, though not behind what extensions raise, which come with links of their
own.
-/
import CloudAccess.Context
import CloudAccess.Log
import CloudAccess.Spec

namespace CloudAccess

namespace Assembly

/-! ## 1. The steps -/

/-- The setters that a spec asks for; fields that it leaves open are skipped. -/
def setters (s : Spec) : List Properties.Setter :=
  .provider (some s.provider) ::
    ((s.apiVersion.map fun version => .apiVersion (some version)).toList ++
      (s.identity.map fun identity => .credentials (some identity) s.credential).toList ++
      (s.endpoint.map fun uri => .endpoint (some uri)).toList)

/-- The report that a component could not be made in a part. -/
def notConstructed (part : Part) (component : Component) (cause : Failure) : Failure :=
  .wrap (.notConstructed part.title component.makerName cause.fault.message) cause

/-- The properties that a builder starts from. -/
def start (component : Component) (overrides : Option Settings)
    (handled? : Option Failure := none) : Traced Properties := do
  Traced.ask component .construct []
  match component.flavour? .properties with
  | none => Traced.ofExcept (.error (.arising handled? (.notCallable component.className)))
  | some flavour =>
    let own? : Option Properties :=
      match component with
      | .extension e => e.defaults?
      | _ => none
    return Properties.seed (own?.getD (Properties.defaults flavour)) overrides

/-- Apply setters, one after the other. -/
def applySetters (component : Component) (p : Properties) :
    List Properties.Setter → Traced Properties
  | [] => pure p
  | setter :: rest =>
    (Traced.ask component setter.stage setter.arguments).andThen fun _ =>
      applySetters component (setter.apply p) rest

/-- The finished properties for a spec. -/
def collect (component : Component) (s : Spec) (overrides : Option Settings)
    (handled? : Option Failure := none) : Traced Properties := do
  let p ← (start component overrides handled?).mapFailure (notConstructed .properties component)
  let p ← applySetters component p (setters s)
  Traced.ask component .build []
  return p

/-- Attach modules to a builder, which needs a run through them. -/
def attachModules (b : ContextBuilder) (modules : Modules) (handled? : Option Failure := none) :
    Traced ContextBuilder := do
  let modules ← Traced.ofExcept (modules.run handled?)
  Traced.ask b.component .attachModules []
  return b.attach modules

/-- All steps, without the choice of what to report. -/
def run (s : Spec) (modules : Modules) (overrides : Option Settings)
    (handled? : Option Failure := none) : Traced ContextBuilder := do
  let propertiesBuilder := Component.orElse s.propertiesBuilder (.bundled .properties .generic)
  let contextBuilder := Component.orElse s.contextBuilder (.bundled .context .generic)
  let properties ← collect propertiesBuilder s overrides handled?
  let builder ← (ContextBuilder.create? contextBuilder s.sync s.async properties
    handled?).mapFailure (notConstructed .context contextBuilder)
  attachModules builder modules handled?

/-! ## 2. The outcome -/

/-- What an assembly ends in: a builder or a failure. -/
structure Result (α : Type) where
  builder : Option α := none
  failure : Option Failure := none
deriving DecidableEq

/-- There was no failure. -/
def Result.isOk {α : Type} (r : Result α) : Bool := r.failure.isNone

/-- The builder, or the failure. -/
def Result.unwrap {α : Type} (r : Result α) : Except Failure (Option α) :=
  match r.failure with
  | some failure => .error failure
  | none => .ok r.builder

/-- An assembly that has been carried out. -/
structure Report where
  calls : List Call
  record : Log.Record
  result : Result ContextBuilder

/-- The record that an assembly writes, and its result. -/
def conclude (logger : Text) (s : Spec) :
    Except Failure ContextBuilder → Log.Record × Result ContextBuilder
  | .ok builder =>
    (⟨logger, .debug,
        "Assembled " ++ builder.component.className ++ " for provider " ++ s.provider⟩,
      { builder := some builder })
  | .error failure =>
    match failure.authorization? with
    | some rejected =>
      (⟨logger, .warning,
          "Credentials rejected for provider " ++ s.provider ++ ": " ++ rejected.fault.message⟩,
        { failure := some rejected })
    | none =>
      (⟨logger, .error,
          "Context assembly failed for provider " ++ s.provider ++ ": " ++
            failure.fault.message⟩,
        { failure := some failure })

/-- Assemble a context builder for a spec. -/
def assemble (logger : Text) (s : Spec) (modules : Modules) (overrides : Option Settings)
    (handled? : Option Failure := none) : Report :=
  let t := run s modules overrides handled?
  let (record, result) := conclude logger s t.outcome
  ⟨t.calls, record, result⟩

/-- The builder of an assembly, or its failure. -/
def Report.outcome (r : Report) : Except Failure ContextBuilder :=
  match r.result.builder, r.result.failure with
  | _, some failure => .error failure
  | some builder, none => .ok builder
  | none, none => .error (.ofFault .notText)

/-- Build the context of a builder; rejected credentials among the causes of a failure are
reported in its place. -/
def buildContext (b : ContextBuilder) (handled? : Option Failure := none)
    (refused : S3.Refusals := fun _ => none) : Traced Context :=
  (b.build handled? refused).mapFailure Failure.surfaced

/-- Build the context of a builder with whatever is at work in it, and report as before. -/
def buildContextOf {σ μ α : Type} (w : Workings σ μ α) (builder : σ) :
    Build σ μ α (ContextOf μ α) :=
  (w.build builder).mapFailure Failure.surfaced

end Assembly

end CloudAccess
