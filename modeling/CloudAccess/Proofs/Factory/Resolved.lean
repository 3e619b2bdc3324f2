/-
# What a factory resolves and builds

Resolving passes through the provider's name, the configuration and the registry, and each of them
can fail.  `resolve_eq_ok_iff` says what a spec holds once all of them have succeeded, field by
field and in terms of the layered configuration alone.  From there `createBuilder_eq_ok_iff` says
when a builder is made and which one.  Where one of them fails, the fault is of the kind that is
reported (`isReported_of_resolve`).
-/
import CloudAccess.Factory
import CloudAccess.Proofs.Assembly.Outcome

namespace CloudAccess

namespace Factory

/-! ## 1. Specs -/

/-- The configuration of a call: the overrides lie on top. -/
def layered (f : Factory) (r : Request) : Configuration := f.configuration.withLayer r.overrides

/-- A spec that a factory resolves a request to. -/
structure Resolved (f : Factory) (r : Request) (s : Spec) : Prop where
  provider : r.provider = some s.provider
  endpoint : s.endpoint = (f.layered r).get (Configuration.key s.provider "endpoint") none
  apiVersion : s.apiVersion = (f.layered r).get (Configuration.key s.provider "apiversion") none
  identity : s.identity = (f.layered r).get (Configuration.key s.provider "identity") r.identity
  credential :
    s.credential = (f.layered r).get (Configuration.key s.provider "credential") r.credential
  builders : ∃ builders, f.registry.resolveBuilders s.provider (f.layered r) = .ok builders ∧
    s.propertiesBuilder = some builders.properties ∧ s.contextBuilder = some builders.context
  capabilities :
    f.registry.resolveCapabilities s.provider (f.layered r) = .ok ⟨s.sync, s.async⟩

/-- The name of a provider is accepted if it is there and not empty. -/
theorem provider?_eq (name : Text) (h : name ≠ []) :
    Spec.provider? (some name) = .ok ⟨name, h⟩ := by
  cases name with
  | nil => exact absurd rfl h
  | cons c rest => rfl

theorem access_eq (c : Configuration) (name : Text) (h : name ≠ [])
    (identity credential : Option Text) :
    c.access (some name) identity credential
      = .ok ⟨c.get (Configuration.key name "endpoint") none,
          c.get (Configuration.key name "apiversion") none,
          c.get (Configuration.key name "identity") identity,
          c.get (Configuration.key name "credential") credential⟩ := by
  cases name with
  | nil => exact absurd rfl h
  | cons c rest => rfl

/-- What resolving does once the provider's name is known. -/
theorem resolve_eq {f : Factory} {r : Request} {name : Text} (hname : r.provider = some name)
    (h : name ≠ []) :
    f.resolve r =
      match f.registry.resolveBuilders name (f.layered r) with
      | .error fault => .error fault
      | .ok builders =>
        match f.registry.resolveCapabilities name (f.layered r) with
        | .error fault => .error fault
        | .ok capabilities => .ok {
            provider := name
            provider_ne := h
            endpoint := (f.layered r).get (Configuration.key name "endpoint") none
            apiVersion := (f.layered r).get (Configuration.key name "apiversion") none
            identity := (f.layered r).get (Configuration.key name "identity") r.identity
            credential := (f.layered r).get (Configuration.key name "credential") r.credential
            sync := capabilities.sync
            async := capabilities.async
            propertiesBuilder := some builders.properties
            contextBuilder := some builders.context } := by
  rw [resolve, hname, provider?_eq name h]
  simp only [bind, Except.bind, access_eq _ name h]
  rw [layered]
  cases f.registry.resolveBuilders name (f.configuration.withLayer r.overrides) with
  | error fault => rfl
  | ok builders =>
    cases f.registry.resolveCapabilities name (f.configuration.withLayer r.overrides) with
    | error fault => rfl
    | ok capabilities => rfl

/-- **Resolving succeeds if each of its steps does.** -/
theorem resolve_eq_ok_iff {f : Factory} {r : Request} {s : Spec} :
    f.resolve r = .ok s ↔ Resolved f r s := by
  constructor
  · intro h
    have hprovider : ∃ name, r.provider = some name ∧ name ≠ [] := by
      cases hname : r.provider with
      | none => rw [resolve, hname] at h; cases h
      | some name =>
        refine ⟨name, rfl, ?_⟩
        rintro rfl
        rw [resolve, hname] at h
        cases h
    obtain ⟨name, hname, hne⟩ := hprovider
    rw [resolve_eq hname hne] at h
    split at h
    · cases h
    · next builders hbuilders =>
      split at h
      · cases h
      · next capabilities hcapabilities =>
        cases h
        exact ⟨hname, rfl, rfl, rfl, rfl, ⟨builders, hbuilders, rfl, rfl⟩, hcapabilities⟩
  · intro h
    obtain ⟨builders, hbuilders, hproperties, hcontext⟩ := h.builders
    rw [resolve_eq h.provider s.provider_ne, hbuilders, h.capabilities]
    simp only [← h.endpoint, ← h.apiVersion, ← h.identity, ← h.credential, ← hproperties,
      ← hcontext]

/-! ## 2. Builders -/

/-- **A builder is made if the spec is resolved and no step of its assembly fails.** -/
theorem createBuilder_eq_ok_iff {f : Factory} {r : Request} {b : ContextBuilder} :
    (f.createBuilder r).outcome = .ok b ↔
      ∃ s, Resolved f r.completed s ∧
        (∀ step ∈ Assembly.plan s r.modules r.completed.overrides, step.failure? = none) ∧
        b = Assembly.assembled s r.modules r.completed.overrides := by
  have hmodules : r.completed.modules = r.modules := rfl
  rw [createBuilder, createSpec]
  cases hresolve : f.resolve r.completed with
  | error fault =>
    constructor
    · intro h
      cases h
    · rintro ⟨s, hs, -⟩
      rw [resolve_eq_ok_iff.mpr hs] at hresolve
      cases hresolve
  | ok s =>
    show (Assembly.assemble f.logger s r.completed.modules r.completed.overrides).outcome = .ok b
      ↔ _
    rw [Assembly.outcome_assemble_eq_ok_iff, hmodules]
    constructor
    · intro h
      exact ⟨s, resolve_eq_ok_iff.mp hresolve, h⟩
    · rintro ⟨t, ht, h⟩
      rw [resolve_eq_ok_iff.mpr ht] at hresolve
      cases hresolve
      exact h

end Factory

/-! ## 3. Faults -/

theorem Registry.isReported_of_resolveSetting {r : Registry} {c : Configuration}
    {provider setting : Text} {kind : Registry.Kind} {fault : Fault}
    (h : r.resolveSetting c provider setting kind = .error fault) :
    fault.category.isReported = true := by
  rw [Registry.resolveSetting] at h
  split at h
  · cases h
  · simp only at h
    split at h
    · cases h
      rfl
    · rw [Registry.resolve] at h
      split at h
      · cases h
      · cases h
        rfl

theorem Registry.isReported_of_resolveBuilders {r : Registry} {provider : Text}
    {c : Configuration} {fault : Fault} (h : r.resolveBuilders provider c = .error fault) :
    fault.category.isReported = true := by
  rw [Registry.resolveBuilders] at h
  split at h
  · next hcontext =>
    cases h
    exact Registry.isReported_of_resolveSetting hcontext
  · split at h
    · next hproperties =>
      cases h
      exact Registry.isReported_of_resolveSetting hproperties
    · cases h

theorem Registry.isReported_of_resolveCapabilities {r : Registry} {provider : Text}
    {c : Configuration} {fault : Fault} (h : r.resolveCapabilities provider c = .error fault) :
    fault.category.isReported = true := by
  rw [Registry.resolveCapabilities] at h
  split at h
  · next hsync =>
    cases h
    exact Registry.isReported_of_resolveSetting hsync
  · split at h
    · next hasync =>
      cases h
      exact Registry.isReported_of_resolveSetting hasync
    · cases h

/-- **Whatever keeps a request from being resolved is reported.** -/
theorem Factory.isReported_of_resolve {f : Factory} {r : Request} {fault : Fault}
    (h : f.resolve r = .error fault) : fault.category.isReported = true := by
  cases hname : r.provider with
  | none =>
    rw [resolve, hname] at h
    cases h
    rfl
  | some name =>
    rcases eq_or_ne name [] with rfl | hne
    · rw [resolve, hname] at h
      cases h
      rfl
    · rw [resolve_eq hname hne] at h
      split at h
      · next hbuilders =>
        cases h
        exact Registry.isReported_of_resolveBuilders hbuilders
      · split at h
        · next hcapabilities =>
          cases h
          exact Registry.isReported_of_resolveCapabilities hcapabilities
        · cases h

end CloudAccess
