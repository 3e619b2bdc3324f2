/-
# Shared addresses of an Atmos context

A context of the Atmos pair hands out addresses (`Context.shareUrl`).  What has to go well before it
does is spread over the factory, the assembly, the properties and the client, and comes down to
three things (`shares_iff`): the spec is resolved, it has a signer, and the signer signs.
-/
import CloudAccess.Proofs.Provider.Atmos
import CloudAccess.Proofs.Signing.Issued

namespace CloudAccess

/-! ## 1. What is asked for -/

/-- The logger of those who have no other. -/
def nullLogger : Text := "cloudcontext.null"

/-- The address that a context hands out for a path, if its client hands out any. -/
def Context.shareUrl (context : Context) (now : Number) (path : Text) : Option Text :=
  match context.client with
  | some (.atmos signer) =>
    (signer.sign nullLogger now (some path)).outcome.toOption.map fun u => u.url
  | _ => none

theorem Context.shareUrl_eq_some_iff {context : Context} {now : Number} {path url : Text} :
    context.shareUrl now path = some url ↔
      ∃ signer u, context.client = some (.atmos signer) ∧ signer.Issued now path u ∧
        u.url = url := by
  rw [shareUrl]
  split
  · next signer hclient =>
    rw [Option.map_eq_some_iff]
    constructor
    · rintro ⟨u, hu, rfl⟩
      cases hsigned : (signer.sign nullLogger now (some path)).outcome with
      | error failure =>
        rw [hsigned] at hu
        cases hu
      | ok v =>
        rw [hsigned] at hu
        obtain rfl := Option.some.inj hu
        exact ⟨signer, v, hclient, Signer.sign_path_eq_ok_iff.mp hsigned, rfl⟩
    · rintro ⟨other, u, hother, hissued, rfl⟩
      rw [hclient] at hother
      cases hother
      refine ⟨u, ?_, rfl⟩
      rw [Signer.sign_path_eq_ok_iff.mpr hissued]
      rfl
  · next hclient =>
    constructor
    · intro h
      cases h
    · rintro ⟨signer, u, hsigner, -⟩
      exact absurd hsigner (hclient signer)

/-- A context is made and hands out the address. -/
def Factory.Shares (f : Factory) (r : Request) (now : Number) (path url : Text) : Prop :=
  ∃ context, (f.createContext r).outcome = .ok context ∧ context.shareUrl now path = some url

theorem Factory.Shares.exists_resolve {f : Factory} {r : Request} {now : Number} {path url : Text}
    (h : f.Shares r now path url) : ∃ s, f.resolve r.completed = .ok s := by
  obtain ⟨context, hcontext, -⟩ := h
  obtain ⟨b, hb, -⟩ := createContext_eq_ok_iff.mp hcontext
  obtain ⟨s, hs, -⟩ := createBuilder_eq_ok_iff.mp hb
  exact ⟨s, resolve_eq_ok_iff.mpr hs⟩

namespace Atmos

open Properties

/-- The overrides that set the lifetime of shared addresses. -/
def shareOverrides (lifetime : Int) : Settings :=
  Dictionary.ofList [(shareLifetimeKey, some (Integer.write lifetime))]

/-- A call for a context whose addresses have a lifetime. -/
def shareRequest (provider : Text) (identity credential : Option Text) (lifetime : Int) :
    Factory.Request where
  provider := some provider
  identity := identity
  credential := credential
  overrides := some (shareOverrides lifetime)

theorem get?_shareOverrides (lifetime : Int) (key : Text) :
    (shareOverrides lifetime).get? key
      = if shareLifetimeKey = key then some (some (Integer.write lifetime)) else none :=
  Dictionary.get?_insert Dictionary.empty shareLifetimeKey key (some (Integer.write lifetime))

theorem get?_defaults_atmos (key : Text) :
    (Properties.defaults .atmos).get? key
      = if shareLifetimeKey = key then some (some ("3600" : Text)) else none :=
  Dictionary.get?_insert Dictionary.empty shareLifetimeKey key (some ("3600" : Text))

/-- The lifetime has a key of its own. -/
theorem shareLifetimeKey_notMem :
    shareLifetimeKey ∉ [providerKey, apiVersionKey, endpointKey, identityKey, credentialKey] := by
  decide +kernel

/-! ## 2. The assembly of the Atmos pair -/

/-- A spec that names the Atmos pair. -/
structure HasPair (s : Spec) : Prop where
  properties : s.propertiesBuilder = some (.bundled .properties .atmos)
  context : s.contextBuilder = some (.bundled .context .atmos)

variable {s : Spec}

theorem HasPair.propertiesBuilder_eq (h : HasPair s) :
    Assembly.propertiesBuilder s = .bundled .properties .atmos := by
  rw [Assembly.propertiesBuilder, h.properties]
  rfl

theorem HasPair.contextBuilder_eq (h : HasPair s) :
    Assembly.contextBuilder s = .bundled .context .atmos := by
  rw [Assembly.contextBuilder, h.context]
  rfl

/-- A bundled component raises nothing of its own, so the properties are always collected. -/
theorem HasPair.collectSteps_succeed (h : HasPair s) (handled? : Option Failure) :
    ∀ step ∈ Assembly.collectSteps s handled?, step.failure? = none := by
  rw [Assembly.collectSteps, h.propertiesBuilder_eq]
  simp only [List.forall_mem_append, List.forall_mem_cons, List.forall_mem_map]
  exact ⟨⟨rfl, fun _ _ => rfl⟩, rfl, List.forall_mem_nil _⟩

/-- **Nothing but the acceptance of the properties** can go wrong. -/
theorem HasPair.findSome?_plan (h : HasPair s) (modules : List Module)
    (overrides : Option Settings) (handled? : Option Failure) :
    (Assembly.plan s (.iterable (.ok modules)) overrides handled?).findSome? Traced.Step.failure?
      = match accept (Assembly.collected s overrides) handled? with
        | .ok _ => none
        | .error failure =>
          some (Assembly.notConstructed .context (.bundled .context .atmos) failure) := by
  have htrouble : Assembly.contextTrouble? (.bundled .context .atmos)
        (Assembly.collected s overrides) handled?
      = match accept (Assembly.collected s overrides) handled? with
        | .ok _ => none
        | .error failure => some failure := by
    simp only [Assembly.contextTrouble?, Component.failure?, Component.flavour?, if_true,
      ContextBuilder.prepare]
    cases accept (Assembly.collected s overrides) handled? with
    | ok accepted => rfl
    | error failure => rfl
  rw [Assembly.plan, List.findSome?_append,
    List.findSome?_eq_none_iff.mpr (h.collectSteps_succeed handled?), Option.none_or,
    Assembly.buildSteps, h.contextBuilder_eq, htrouble]
  cases accept (Assembly.collected s overrides) handled? with
  | ok accepted => rfl
  | error failure => rfl

theorem HasPair.succeeds_iff (h : HasPair s) (modules : List Module)
    (overrides : Option Settings) :
    (∀ step ∈ Assembly.plan s (.iterable (.ok modules)) overrides, step.failure? = none) ↔
      ∃ accepted, accept (Assembly.collected s overrides) = .ok accepted := by
  rw [← List.findSome?_eq_none_iff, h.findSome?_plan]
  cases accept (Assembly.collected s overrides) with
  | ok accepted => exact ⟨fun _ => ⟨accepted, rfl⟩, fun _ => rfl⟩
  | error failure => exact ⟨nofun, nofun⟩

theorem HasPair.client?_assembled (h : HasPair s) {overrides : Option Settings}
    {accepted : Accepted} (haccepted : accept (Assembly.collected s overrides) = .ok accepted) :
    (Assembly.assembled s (.iterable (.ok [])) overrides).client?
      = (signer? (Assembly.collected s overrides) accepted).map fun signer =>
          some (.atmos signer) := by
  have hprepared : (Assembly.assembled s (.iterable (.ok [])) overrides).preparation
      = .atmos accepted := by
    show Assembly.prepared (Assembly.contextBuilder s) (Assembly.collected s overrides) = _
    rw [h.contextBuilder_eq, Assembly.prepared]
    simp only [Component.flavour?, ↓reduceIte, Option.map_some, ContextBuilder.prepare, haccepted]
    rfl
  rw [ContextBuilder.client?, hprepared]
  rfl

/-- The lifetime is the one among the overrides, or else the one that the pair brings along. -/
theorem HasPair.get?_shareLifetimeKey (h : HasPair s) (overlay : Settings) :
    (Assembly.collected s (some overlay)).get? shareLifetimeKey
      = (overlay.get? shareLifetimeKey).or (some (some ("3600" : Text))) := by
  have hflavour : (Assembly.propertiesBuilder s).flavour? .properties = some .atmos := by
    rw [h.propertiesBuilder_eq]
    rfl
  have hdefault : ((Component.bundled .properties .atmos).defaults .atmos).get? shareLifetimeKey
      = some (some ("3600" : Text)) := (get?_defaults_atmos shareLifetimeKey).trans (if_pos rfl)
  have hshare := shareLifetimeKey_notMem
  simp only [List.mem_cons, List.not_mem_nil, or_false, not_or] at hshare
  obtain ⟨hprovider, hversion, hendpoint, hidentity, hcredential⟩ := hshare
  rw [(Factory.effective_collected overlay hflavour).others shareLifetimeKey hprovider
    (fun h => absurd h hversion) (fun h => absurd h hendpoint)
    fun h => absurd h (not_or.mpr ⟨hidentity, hcredential⟩), h.propertiesBuilder_eq, hdefault]

/-- The collected properties mirror the spec. -/
theorem HasPair.mirrors (h : HasPair s) (lifetime : Int) :
    Mirrors s lifetime (Assembly.collected s (some (shareOverrides lifetime))) := by
  have hflavour : (Assembly.propertiesBuilder s).flavour? .properties = some .atmos := by
    rw [h.propertiesBuilder_eq]
    rfl
  have heffective := Factory.effective_collected (shareOverrides lifetime) hflavour
  rw [h.propertiesBuilder_eq] at heffective
  have hshare := shareLifetimeKey_notMem
  simp only [List.mem_cons, List.not_mem_nil, or_false, not_or] at hshare
  obtain ⟨-, -, hendpoint, hidentity, -⟩ := hshare
  obtain ⟨⟨-, hpe, hpi, -⟩, ⟨hve, hvi, -⟩, ⟨hei, hec⟩, -⟩ := Setter.keys_ne
  -- neither the overrides nor the defaults have more than the lifetime
  have hsilent : ∀ key, shareLifetimeKey ≠ key →
      ((shareOverrides lifetime).get? key).or
        (((Component.bundled .properties .atmos).defaults .atmos).get? key) = none := by
    intro key hkey
    rw [get?_shareOverrides, if_neg hkey, Option.none_or]
    exact (get?_defaults_atmos key).trans (if_neg hkey)
  refine ⟨?_, fun identity hs => (heffective.credentials identity hs).2, ?_, ?_⟩
  · cases hs : s.identity with
    | some identity => exact (heffective.credentials identity hs).1
    | none =>
      rw [heffective.others identityKey hpi.symm (fun h => absurd h hvi.symm)
        (fun h => absurd h hei.symm) fun _ => hs]
      exact hsilent identityKey hidentity
  · cases hs : s.endpoint with
    | some endpoint => exact heffective.endpoint endpoint hs
    | none =>
      rw [heffective.others endpointKey hpe.symm (fun h => absurd h hve.symm) (fun _ => hs)
        fun h => absurd h (not_or.mpr ⟨hei, hec⟩)]
      exact hsilent endpointKey hendpoint
  · rw [h.get?_shareLifetimeKey, get?_shareOverrides, if_pos rfl]
    rfl

/-! ## 3. Sharing -/

/-- A builder that the Atmos pair has made builds a context if its client can be made. -/
theorem HasPair.build_assembled (h : HasPair s) {overrides : Option Settings}
    {handled? : Option Failure} {accepted : Accepted}
    (haccepted : accept (Assembly.collected s overrides) = .ok accepted) {signer : Signer} :
    (∃ context,
        ((Assembly.assembled s (.iterable (.ok [])) overrides).build handled?).outcome
          = .ok context ∧
        context.client = some (.atmos signer)) ↔
      signer? (Assembly.collected s overrides) accepted = .ok signer := by
  have hraises : ∀ stage,
      (Assembly.assembled s (.iterable (.ok [])) overrides).component.failure? stage = none := by
    intro stage
    show (Assembly.contextBuilder s).failure? stage = none
    rw [h.contextBuilder_eq]
    rfl
  rw [ContextBuilder.outcome_build hraises rfl, h.client?_assembled haccepted]
  cases signer? (Assembly.collected s overrides) accepted with
  | error fault =>
    constructor
    · rintro ⟨context, hcontext, -⟩
      cases hcontext
    · intro h
      cases h
  | ok made =>
    constructor
    · rintro ⟨context, hcontext, hclient⟩
      cases hcontext
      cases hclient
      rfl
    · intro hmade
      cases hmade
      exact ⟨_, rfl, rfl⟩

/-- **A context of the Atmos pair** has a signer for its client if the properties are accepted and
give this signer. -/
theorem HasPair.exists_context_iff (h : HasPair s) {f : Factory} {r : Factory.Request}
    (hs : f.resolve r.completed = .ok s) (hmodules : r.modules = .iterable (.ok []))
    (signer : Signer) :
    (∃ context, (f.createContext r).outcome = .ok context ∧
        context.client = some (.atmos signer)) ↔
      ∃ accepted, accept (Assembly.collected s (some r.overlay)) = .ok accepted ∧
        signer? (Assembly.collected s (some r.overlay)) accepted = .ok signer := by
  simp only [Factory.createContext_eq_ok_iff, Factory.createBuilder_eq_ok_iff,
    ← Factory.resolve_eq_ok_iff, hs, hmodules]
  constructor
  · rintro ⟨context, ⟨b, ⟨t, ht, hsucceeds, rfl⟩, hcontext⟩, hclient⟩
    obtain rfl := Except.ok.inj ht
    obtain ⟨accepted, haccepted⟩ := (h.succeeds_iff [] (some r.overlay)).mp hsucceeds
    exact ⟨accepted, haccepted, (h.build_assembled haccepted).mp ⟨context, hcontext, hclient⟩⟩
  · rintro ⟨accepted, haccepted, hsigner⟩
    obtain ⟨context, hcontext, hclient⟩ := (h.build_assembled haccepted).mpr hsigner
    exact ⟨context, ⟨_, ⟨s, rfl, (h.succeeds_iff [] (some r.overlay)).mpr ⟨accepted, haccepted⟩,
      rfl⟩, hcontext⟩, hclient⟩

/-- The request as the factory completes it. -/
theorem shareRequest_completed (provider : Text) (identity credential : Option Text)
    (lifetime : Int) :
    (shareRequest provider identity credential lifetime).completed
      = shareRequest provider identity credential lifetime := by
  have hshare := shareLifetimeKey_notMem
  simp only [List.mem_cons, List.not_mem_nil, or_false, not_or] at hshare
  obtain ⟨-, -, -, hidentity, hcredential⟩ := hshare
  have hoverrides : (some (shareOverrides lifetime)).getD Dictionary.empty
      = shareOverrides lifetime := rfl
  rw [Factory.Request.completed, shareRequest]
  simp only [hoverrides, get?_shareOverrides, if_neg hidentity, if_neg hcredential,
    Option.join_none, Option.or_none]

/-- **An address is shared** if the spec has a signer and the signer signs. -/
theorem shares_iff {f : Factory} {provider : Text} {identity credential : Option Text}
    {lifetime : Int} (hwritable : Integer.isWritable lifetime = true) {s : Spec}
    (hs : f.resolve (shareRequest provider identity credential lifetime) = .ok s) (h : HasPair s)
    {now : Number} {path url : Text} :
    f.Shares (shareRequest provider identity credential lifetime) now path url ↔
      ∃ signer u, s.signer? (.whole lifetime) (.whole 0) = .ok signer ∧
        signer.Issued now path u ∧ u.url = url := by
  have hcompleted := hs
  rw [← shareRequest_completed] at hcompleted
  have hclient := fun signer => (h.exists_context_iff hcompleted rfl signer).trans
    (client_iff_signer (h.mirrors lifetime) hwritable)
  simp only [Factory.Shares, Context.shareUrl_eq_some_iff, ← hclient]
  constructor
  · rintro ⟨context, hcontext, signer, u, hsigner, hissued, hurl⟩
    exact ⟨signer, u, ⟨context, hcontext, hsigner⟩, hissued, hurl⟩
  · rintro ⟨signer, u, ⟨context, hcontext, hsigner⟩, hissued, hurl⟩
    exact ⟨context, hcontext, signer, u, hsigner, hissued, hurl⟩

end Atmos

end CloudAccess
