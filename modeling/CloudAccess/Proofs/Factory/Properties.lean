/-
# The properties of a builder that a factory has made

Five sources have a say in a property: the defaults of the properties builder, the overrides of the
call, the layered configuration, the identity and the credential given with the call, and those
among the overrides.  `Effective` says who wins for each key, and `createBuilder_properties` that
the factory keeps to it.

The overrides count twice.  As the topmost layer of the configuration they answer for the keys of
the provider, and as a seed of the properties they stand under every key, the provider's own ones
included, that nothing else is put under.
-/
import Mathlib.Data.Option.Basic
import CloudAccess.Proofs.Configuration.Layers
import CloudAccess.Proofs.Factory.Resolved
import CloudAccess.Proofs.Properties.Setters

namespace CloudAccess

open Configuration (Access)

/-! ## 1. Who wins -/

/-- The properties that a builder of a flavour brings along: its own ones if it has any, and those
of the bundled builder otherwise. -/
def Component.defaults (c : Component) (flavour : Flavour) : Properties :=
  match c with
  | .extension e => e.defaults?.getD (Properties.defaults flavour)
  | _ => Properties.defaults flavour

namespace Factory

/-- The overrides of a call; none are as good as empty ones. -/
def Request.overlay (r : Request) : Settings := r.overrides.getD Dictionary.empty

/-- What a call finds out about a provider.  The configuration wins over the identity and the
credential of the call, and those win over the ones among the overrides. -/
def accessOf (c : Configuration) (r : Request) (provider : Text) : Access where
  endpoint := c.get (Configuration.key provider "endpoint") none
  apiVersion := c.get (Configuration.key provider "apiversion") none
  identity := c.get (Configuration.key provider "identity")
    (r.identity.or (r.overlay.get? Properties.identityKey).join)
  credential := c.get (Configuration.key provider "credential")
    (r.credential.or (r.overlay.get? Properties.credentialKey).join)

/-- **Who wins for each key.**  The provider is always set; the api version, the endpoint and the
identity are set where they are known.  With an identity comes its own credential or none at all,
whatever the defaults and the overrides say.  Every other key is as in the overrides, and as in the
defaults where those are silent. -/
structure Effective (defaults : Properties) (overlay : Settings) (provider : Text) (a : Access)
    (built : Properties) : Prop where
  provider : built.get? Properties.providerKey = some (some provider)
  apiVersion : ∀ version, a.apiVersion = some version →
    built.get? Properties.apiVersionKey = some (some version)
  endpoint : ∀ uri, a.endpoint = some uri →
    built.get? Properties.endpointKey = some (some uri)
  credentials : ∀ identity, a.identity = some identity →
    built.get? Properties.identityKey = some (some identity) ∧
    built.get? Properties.credentialKey = a.credential.map some
  others : ∀ key, key ≠ Properties.providerKey →
    (key = Properties.apiVersionKey → a.apiVersion = none) →
    (key = Properties.endpointKey → a.endpoint = none) →
    (key = Properties.identityKey ∨ key = Properties.credentialKey → a.identity = none) →
    built.get? key = (overlay.get? key).or (defaults.get? key)

end Factory

/-! ## 2. Builders that count as true

A choice between a builder and the generic one passes over what counts as false.  The registry makes
this choice first, so what it resolves is what an assembly uses. -/

theorem Component.orElse_some {c : Component} (h : c.isTruthy = true) (fallback : Component) :
    Component.orElse (some c) fallback = c := if_pos h

theorem Component.isTruthy_orElse (c? : Option Component) {fallback : Component}
    (h : fallback.isTruthy = true) : (Component.orElse c? fallback).isTruthy = true := by
  cases c? with
  | none => exact h
  | some c =>
    rw [Component.orElse]
    split
    · next hc => exact hc
    · exact h

/-- The builders that a registry resolves count as true. -/
theorem Registry.isTruthy_of_resolveBuilders {r : Registry} {provider : Text} {c : Configuration}
    {builders : Builders} (h : r.resolveBuilders provider c = .ok builders) :
    builders.properties.isTruthy = true ∧ builders.context.isTruthy = true := by
  rw [resolveBuilders] at h
  split at h
  · cases h
  · split at h
    · cases h
    · cases h
      exact ⟨Component.isTruthy_orElse _ rfl, Component.isTruthy_orElse _ rfl⟩

/-! ## 3. What a spec has set -/

namespace Assembly

open Properties (Setter)

theorem findSome?_reverse_toList {α β : Type} (o : Option α) (g : α → Option β) :
    o.toList.reverse.findSome? g = o.bind g := by
  cases o with
  | none => rfl
  | some a => exact List.findSome?_singleton

/-- **What the setters of a spec say about a key.**  No two of them speak of the same one. -/
theorem findSome?_setters (s : Spec) (key : Text) :
    (setters s).reverse.findSome? (·.says? key)
      = if key = Properties.providerKey then some (some (some s.provider))
        else if key = Properties.apiVersionKey then s.apiVersion.map fun v => some (some v)
        else if key = Properties.endpointKey then s.endpoint.map fun uri => some (some uri)
        else if key = Properties.identityKey then s.identity.map fun i => some (some i)
        else if key = Properties.credentialKey then s.identity.map fun _ => s.credential.map some
        else none := by
  have hparts : (setters s).reverse.findSome? (·.says? key)
      = (s.endpoint.bind fun uri => (Setter.endpoint (some uri)).says? key).or
          ((s.identity.bind fun i => (Setter.credentials (some i) s.credential).says? key).or
            ((s.apiVersion.bind fun v => (Setter.apiVersion (some v)).says? key).or
              ((Setter.provider (some s.provider)).says? key))) := by
    rw [setters, List.reverse_cons, List.reverse_append, List.reverse_append,
      List.findSome?_append, List.findSome?_append, List.findSome?_append,
      findSome?_reverse_toList, findSome?_reverse_toList, findSome?_reverse_toList,
      Option.bind_map, Option.bind_map, Option.bind_map, List.findSome?_singleton, Option.or_assoc,
      Option.or_assoc]
    rfl
  rw [hparts]
  obtain ⟨⟨hpv, hpe, hpi, hpc⟩, ⟨hve, hvi, hvc⟩, ⟨hei, hec⟩, hic⟩ := Setter.keys_ne
  by_cases hprovider : key = Properties.providerKey
  · subst hprovider
    simp [Setter.says?, hpv, hpe, hpi, hpc]
  by_cases hversion : key = Properties.apiVersionKey
  · subst hversion
    simp [Setter.says?, Option.map_eq_bind, hpv.symm, hve, hvi, hvc]
  by_cases hendpoint : key = Properties.endpointKey
  · subst hendpoint
    simp [Setter.says?, Option.map_eq_bind, hpe.symm, hve.symm, hei, hec]
  by_cases hidentity : key = Properties.identityKey
  · subst hidentity
    simp [Setter.says?, Option.map_eq_bind, hpi.symm, hvi.symm, hei.symm]
  by_cases hcredential : key = Properties.credentialKey
  · subst hcredential
    simp [Setter.says?, Option.map_eq_bind, hpc.symm, hvc.symm, hec.symm, hic.symm]
  simp [Setter.says?, hprovider, hversion, hendpoint, hidentity, hcredential]

/-- A component starts from the overrides over its defaults. -/
theorem startingProperties_eq {c : Component} {flavour : Flavour}
    (h : c.flavour? .properties = some flavour) (overrides : Option Settings) :
    startingProperties c overrides = Properties.seed (c.defaults flavour) overrides := by
  rw [startingProperties.eq_def, h, Option.getD_some]
  cases c with
  | extension e => rfl
  | bundled part flavour => rfl
  | s3Client => rfl
  | shareUrls => rfl
  | object shown isTruthy => rfl

theorem get?_collected {s : Spec} {flavour : Flavour} (overlay : Settings) (key : Text)
    (h : (propertiesBuilder s).flavour? .properties = some flavour) :
    (collected s (some overlay)).get? key
      = ((setters s).reverse.findSome? (·.says? key)).getD
          ((overlay.get? key).or (((propertiesBuilder s).defaults flavour).get? key)) := by
  rw [collected, Setter.get?_foldl_apply, startingProperties_eq h, Setter.get?_seed,
    Option.bind_some]

/-- Where nothing keeps a component from being made a properties builder, it is one. -/
theorem exists_flavour_of_succeeds {s : Spec} {modules : Modules} {overrides : Option Settings}
    {handled? : Option Failure}
    (h : ∀ step ∈ plan s modules overrides handled?, step.failure? = none) :
    ∃ flavour, (propertiesBuilder s).flavour? .properties = some flavour := by
  have hfirst := h (constructStep .properties (propertiesBuilder s)
    (propertiesTrouble? (propertiesBuilder s) handled?)) (by simp [plan, collectSteps])
  rw [constructStep, Option.map_eq_none_iff, propertiesTrouble?] at hfirst
  split at hfirst
  · cases hfirst
  · cases hfirst
  · next flavour _ hflavour => exact ⟨flavour, hflavour⟩

end Assembly

/-! ## 4. The properties of a builder -/

namespace Factory

open Properties

/-- The properties that are collected for a spec hold what the spec says. -/
theorem effective_collected {s : Spec} {flavour : Flavour} (overlay : Settings)
    (h : (Assembly.propertiesBuilder s).flavour? .properties = some flavour) :
    Effective ((Assembly.propertiesBuilder s).defaults flavour) overlay s.provider
      ⟨s.endpoint, s.apiVersion, s.identity, s.credential⟩
      (Assembly.collected s (some overlay)) := by
  have hget := fun key => Assembly.get?_collected (s := s) overlay key h
  simp only [Assembly.findSome?_setters] at hget
  obtain ⟨⟨hpv, hpe, hpi, hpc⟩, ⟨hve, hvi, hvc⟩, ⟨hei, hec⟩, hic⟩ := Setter.keys_ne
  refine ⟨?_, fun version hversion => ?_, fun uri huri => ?_, fun identity hidentity => ⟨?_, ?_⟩,
    fun key hprovider hversion hendpoint hidentity => ?_⟩
  · rw [hget, if_pos rfl]
    rfl
  · have hs : s.apiVersion = some version := hversion
    rw [hget, if_neg hpv.symm, if_pos rfl, hs]
    rfl
  · have hs : s.endpoint = some uri := huri
    rw [hget, if_neg hpe.symm, if_neg hve.symm, if_pos rfl, hs]
    rfl
  · have hs : s.identity = some identity := hidentity
    rw [hget, if_neg hpi.symm, if_neg hvi.symm, if_neg hei.symm, if_pos rfl, hs]
    rfl
  · have hs : s.identity = some identity := hidentity
    rw [hget, if_neg hpc.symm, if_neg hvc.symm, if_neg hec.symm, if_neg hic.symm, if_pos rfl, hs]
    rfl
  · -- whatever has no value of its own is not set
    rw [hget, if_neg hprovider]
    split
    · next h => rw [show s.apiVersion = none from hversion h]; rfl
    split
    · next h => rw [show s.endpoint = none from hendpoint h]; rfl
    split
    · next h => rw [show s.identity = none from hidentity (Or.inl h)]; rfl
    split
    · next h => rw [show s.identity = none from hidentity (Or.inr h)]; rfl
    · rfl

/-- What a spec holds is what the call finds out about its provider. -/
theorem access_of_resolved {f : Factory} {r : Request} {s : Spec} (h : Resolved f r.completed s) :
    (⟨s.endpoint, s.apiVersion, s.identity, s.credential⟩ : Access)
      = accessOf (f.configuration.withLayer (some r.overlay)) r s.provider := by
  rw [h.endpoint, h.apiVersion, h.identity, h.credential]
  rfl

/-- **The properties of a builder that a factory has made.**  The registry has resolved a properties
builder for the provider, which is the one that was used, and the properties are those that the
overrides, the defaults of this builder and the findings about the provider make. -/
theorem createBuilder_properties {f : Factory} {r : Request} {b : ContextBuilder}
    (hb : (f.createBuilder r).outcome = .ok b) :
    ∃ provider builders flavour, r.provider = some provider ∧
      f.registry.resolveBuilders provider (f.configuration.withLayer (some r.overlay))
        = .ok builders ∧
      builders.properties.flavour? .properties = some flavour ∧
      Effective (builders.properties.defaults flavour) r.overlay provider
        (accessOf (f.configuration.withLayer (some r.overlay)) r provider) b.properties := by
  obtain ⟨s, hs, hsucceeds, rfl⟩ := createBuilder_eq_ok_iff.mp hb
  obtain ⟨builders, hbuilders, hproperties, -⟩ := hs.builders
  obtain ⟨flavour, hflavour⟩ := Assembly.exists_flavour_of_succeeds hsucceeds
  have hused : Assembly.propertiesBuilder s = builders.properties := by
    rw [Assembly.propertiesBuilder, hproperties]
    exact Component.orElse_some (Registry.isTruthy_of_resolveBuilders hbuilders).1 _
  have heffective := effective_collected r.overlay hflavour
  rw [access_of_resolved hs, hused] at heffective
  rw [hused] at hflavour
  exact ⟨s.provider, builders, flavour, hs.provider, hbuilders, hflavour, heffective⟩

/-- A provider whose properties are collected by the builder of S3. -/
def storeFactory : Factory where
  configuration := ⟨[Dictionary.ofList [("store.propertiesbuilder", some "s3"),
    ("store.endpoint", some "https://store.example.com"), ("store.credential", some "configured")]]⟩
  registry := Registry.bundled

/-- A call that names an identity, hides the configured credential, and has another one left among
its overrides. -/
def storeRequest : Request where
  provider := some "store"
  overrides := some (Dictionary.ofList [("store.identity", some "reader"),
    ("store.credential", none), (credentialKey, some "left over"), (regionKey, some "nowhere")])

/-- The builder that is made of it. -/
def storeBuilder : ContextBuilder where
  component := .bundled .context .generic
  preparation := .generic
  sync := none
  async := none
  properties := Dictionary.ofList [(regionKey, some "nowhere"), (addressingStyleKey, some "path"),
    (signatureVersionKey, some "s3v4"), ("store.identity", some "reader"),
    ("store.credential", none), (providerKey, some "store"), (identityKey, some "reader"),
    (endpointKey, some "https://store.example.com")]

theorem createBuilder_storeRequest :
    (storeFactory.createBuilder storeRequest).outcome = .ok storeBuilder := by decide +kernel

/-- The credential that is left over does not get beside the identity, while the provider's own keys
and the region stay as the overrides have them. -/
theorem createBuilder_properties_store :
    (storeFactory.createBuilder storeRequest).outcome = .ok storeBuilder ∧
      storeBuilder.properties.get? identityKey = some (some ("reader" : Text)) ∧
      storeBuilder.properties.get? credentialKey = none ∧
      storeBuilder.properties.get? ("store.identity" : Text) = some (some ("reader" : Text)) ∧
      storeBuilder.properties.get? regionKey = some (some ("nowhere" : Text)) := by
  obtain ⟨provider, builders, flavour, hprovider, -, -, heffective⟩ :=
    createBuilder_properties createBuilder_storeRequest
  obtain rfl : ("store" : Text) = provider := Option.some_inj.mp hprovider
  obtain ⟨hidentity, hcredential⟩ := heffective.credentials ("reader" : Text) (by decide +kernel)
  refine ⟨createBuilder_storeRequest, hidentity, ?_, ?_, ?_⟩
  · rw [hcredential]
    decide +kernel
  · rw [heffective.others ("store.identity" : Text) (by decide +kernel) (by decide +kernel)
      (by decide +kernel) (by decide +kernel)]
    rfl
  · rw [heffective.others regionKey (by decide +kernel) (by decide +kernel) (by decide +kernel)
      (by decide +kernel)]
    rfl

end Factory

end CloudAccess
