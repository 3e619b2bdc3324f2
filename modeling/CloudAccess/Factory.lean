/-
# The factory

Builds provider contexts from a configuration and a registry.  The overrides of a call lie on
top of the configuration for that call only, and they also seed the properties.  Identity and
credential may be given with a call; the configuration wins over them.
-/
import CloudAccess.Assembly
import CloudAccess.Registry

namespace CloudAccess

/-- Resolves specs and assembles contexts.  `logger` is the name under which it logs. -/
structure Factory where
  configuration : Configuration
  registry : Registry
  logger : Text := "cloudcontext.null"

namespace Factory

/-- What a call of the factory asks for. -/
structure Request where
  provider : Option Text
  identity : Option Text := none
  credential : Option Text := none
  overrides : Option Settings := none
  modules : Modules := .iterable (.ok [])

/-- What a call of the factory did: what it logged, the calls it made, and its result. -/
structure Response (α : Type) where
  log : List Log.Record
  calls : List Call
  outcome : Except Failure α

/-- Resolve everything that is needed to build a provider's context. -/
def resolve (f : Factory) (r : Request) : Except Fault Spec := do
  let ⟨provider, provider_ne⟩ ← Spec.provider? r.provider
  let c := f.configuration.withLayer r.overrides
  let access ← c.access (some provider) r.identity r.credential
  let builders ← f.registry.resolveBuilders provider c
  let capabilities ← f.registry.resolveCapabilities provider c
  return {
    provider, provider_ne
    endpoint := access.endpoint
    apiVersion := access.apiVersion
    identity := access.identity
    credential := access.credential
    sync := capabilities.sync
    async := capabilities.async
    propertiesBuilder := some builders.properties
    contextBuilder := some builders.context }

/-- The record of a resolved spec. -/
def resolvedRecord (f : Factory) (s : Spec) : Log.Record :=
  ⟨f.logger, .debug, "Resolved " ++ s.summary⟩

/-- The spec of a provider. -/
def createSpec (f : Factory) (r : Request) (handled? : Option Failure := none) : Response Spec :=
  match f.resolve r with
  | .error fault => ⟨[], [], .error (.arising handled? fault)⟩
  | .ok spec => ⟨[f.resolvedRecord spec], [], .ok spec⟩

/-- The request with an identity and a credential taken from the overrides where the call gave
none. -/
def Request.completed (r : Request) : Request :=
  let overrides := r.overrides.getD Dictionary.empty
  { r with
    identity := r.identity.or (overrides.get? Properties.identityKey).join
    credential := r.credential.or (overrides.get? Properties.credentialKey).join
    overrides := some overrides }

/-- The context builder of a provider. -/
def createBuilder (f : Factory) (r : Request) (handled? : Option Failure := none) :
    Response ContextBuilder :=
  let r := r.completed
  match f.createSpec r handled? with
  | ⟨log, calls, .error failure⟩ => ⟨log, calls, .error failure⟩
  | ⟨log, calls, .ok spec⟩ =>
    let report := Assembly.assemble f.logger spec r.modules r.overrides handled?
    ⟨log ++ [report.record], calls ++ report.calls, report.outcome⟩

/-- The context of a provider. -/
def createContext (f : Factory) (r : Request) (handled? : Option Failure := none)
    (refused : S3.Refusals := fun _ => none) : Response Context :=
  match f.createBuilder r handled? with
  | ⟨log, calls, .error failure⟩ => ⟨log, calls, .error failure⟩
  | ⟨log, calls, .ok builder⟩ =>
    let t := Assembly.buildContext builder handled? refused
    ⟨log, calls ++ t.calls, t.outcome⟩

end Factory

/-- The context builder for a spec, without a factory. -/
def createBuilderFromSpec (s : Spec) (modules : Modules) (overrides : Option Settings)
    (handled? : Option Failure := none) : Traced ContextBuilder :=
  let report := Assembly.assemble "cloudcontext.null" s modules overrides handled?
  ⟨report.calls, report.outcome⟩

/-- The context for a spec, without a factory. -/
def createContextFromSpec (s : Spec) (modules : Modules) (overrides : Option Settings)
    (handled? : Option Failure := none) (refused : S3.Refusals := fun _ => none) :
    Traced Context :=
  (createBuilderFromSpec s modules overrides handled?).andThen fun builder =>
    Assembly.buildContext builder handled? refused

end CloudAccess
