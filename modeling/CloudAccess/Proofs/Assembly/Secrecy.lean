/-
# Assemblies that differ in a credential

A credential is looked at when a context builder is made: it has to be there, and the Atmos builder
decodes it.  A credential that does not decode is a fault with a reason, and the reason tells
something of the credential; but that fault is never reported, because the builder reports rejected
credentials in its place and the assembly reports these and nothing they led to.

So two assemblies whose specs and overrides differ in interchangeable credentials write the same
record and end alike: both with a builder, or both with the same fault (`assemble_alike`).  The
argument goes along the plan.  Its steps ask the same builders for the same stages, so the first
failures are told alike.
-/
import CloudAccess.Proofs.Assembly.Outcome
import CloudAccess.Proofs.Configuration.Interchange
import CloudAccess.Proofs.Factory.Properties
import CloudAccess.Spec.Sheet

namespace CloudAccess

/-! ## 1. What is told of a failure -/

/-- What a caller is told of an outcome: that all went well, or what went wrong. -/
def told {α : Type} : Except Failure α → Except Fault Unit
  | .ok _ => .ok ()
  | .error failure => .error failure.fault

namespace Failure

/-- The same is told of two failures: what went wrong, and the rejected credentials behind it. -/
structure ToldAlike (f g : Failure) : Prop where
  fault : f.fault = g.fault
  rejected : f.authorization?.map Failure.fault = g.authorization?.map Failure.fault

theorem ToldAlike.refl (f : Failure) : ToldAlike f f := ⟨rfl, rfl⟩

/-- Failures are the same, or rejected credentials of one kind, whatever is behind them. -/
def SameRefusal (f g : Failure) : Prop :=
  f = g ∨ f.fault = g.fault ∧ f.fault.category.isAuthorization = true

/-- **The same refusal is reported alike** by whoever made the builder. -/
theorem SameRefusal.notConstructed {f g : Failure} (h : SameRefusal f g) (part : Part)
    (c : Component) :
    ToldAlike (Assembly.notConstructed part c f) (Assembly.notConstructed part c g) := by
  rcases h with rfl | ⟨hfault, hrejected⟩
  · exact .refl _
  · have hwrapped : ∀ {cause : Failure}, cause.fault.category.isAuthorization = true →
        (Assembly.notConstructed part c cause).authorization?.map Failure.fault
          = some cause.fault := by
      intro cause hcause
      obtain ⟨rejected, hsome, hsame⟩ := Assembly.authorization?_notConstructed part c hcause
      rw [hsome, Option.map_some, hsame]
    constructor
    · rw [Assembly.notConstructed, Assembly.notConstructed, fault_wrap, fault_wrap, hfault]
    · rw [hwrapped hrejected, hwrapped (hfault ▸ hrejected), hfault]

theorem SameRefusal.map_notConstructed {x y : Option Failure} (h : Option.Rel SameRefusal x y)
    (part : Part) (c : Component) :
    Option.Rel ToldAlike (x.map (Assembly.notConstructed part c))
      (y.map (Assembly.notConstructed part c)) := by
  cases h with
  | none => exact .none
  | some hfg => exact .some (hfg.notConstructed part c)

end Failure

/-! ## 2. Accepting alike properties -/

variable {flavour : Flavour} {provider : Text}

namespace Properties

variable {p q : Properties}

theorem filled?_of_others (h : Alike flavour provider p.get? q.get?) {key : Text}
    (hkey : ¬ IsCredentialKey provider key) : p.filled? key = q.filled? key := by
  rw [filled?, filled?, h.others key hkey]

/-- A credential is filled in both, or in neither. -/
theorem filled?_credential (h : Alike flavour provider p.get? q.get?) :
    CredentialAlike flavour (p.filled? credentialKey) (q.filled? credentialKey) := by
  have hentry := h.credential credentialKey (Or.inr rfl)
  rw [filled?, filled?]
  generalize p.get? credentialKey = x at hentry ⊢
  generalize q.get? credentialKey = y at hentry ⊢
  cases hentry with
  | none => exact .none
  | some hvalue =>
    cases hvalue with
    | none => exact .none
    | @some v w hvw =>
      cases v with
      | nil =>
        obtain rfl := hvw.empty_iff.mp rfl
        exact .none
      | cons c rest =>
        cases w with
        | nil => cases hvw.empty_iff.mpr rfl
        | cons d more => exact .some hvw

/-- The properties beside the credential, which no credential key can be mistaken for. -/
theorem not_isCredentialKey_others (provider : Text) :
    ¬ IsCredentialKey provider identityKey ∧ ¬ IsCredentialKey provider endpointKey ∧
      ¬ IsCredentialKey provider shareLifetimeKey :=
  ⟨not_isCredentialKey (by decide +kernel), not_isCredentialKey (by decide +kernel),
    not_isCredentialKey (by decide +kernel)⟩

end Properties

/-- What an outcome failed with. -/
def failureOf? {α : Type} : Except Failure α → Option Failure
  | .ok _ => none
  | .error failure => some failure

open Failure (SameRefusal ToldAlike)

theorem S3.checkCredentials_alike {p q : Properties} (h : Alike flavour provider p.get? q.get?) :
    checkCredentials p = checkCredentials q := by
  have hcredential := Properties.filled?_credential h
  rw [checkCredentials, checkCredentials,
    Properties.filled?_of_others h (Properties.not_isCredentialKey_others provider).1]
  generalize Properties.filled? p Properties.credentialKey = x at hcredential ⊢
  generalize Properties.filled? q Properties.credentialKey = y at hcredential ⊢
  cases hcredential with
  | none => rfl
  | some hvw => rfl

theorem SameRefusal.refl? : ∀ x, Option.Rel SameRefusal x x
  | none => .none
  | some _ => .some (.inl rfl)

/-- **Alike properties are accepted or refused alike.**  Where a credential does not decode, what is
behind the refusal may differ. -/
theorem Atmos.accept_alike {p q : Properties} (h : Alike .atmos provider p.get? q.get?) :
    Option.Rel SameRefusal (failureOf? (accept p)) (failureOf? (accept q)) := by
  obtain ⟨hidentity, hendpoint, hlifetime⟩ :=
    Properties.not_isCredentialKey_others provider
  have hcredential := Properties.filled?_credential h
  rw [accept, accept, Properties.filled?_of_others h hidentity,
    Properties.filled?_of_others h hendpoint, lifetime?, lifetime?, h.others _ hlifetime]
  generalize Properties.filled? p Properties.credentialKey = x at hcredential ⊢
  generalize Properties.filled? q Properties.credentialKey = y at hcredential ⊢
  cases Properties.filled? q Properties.identityKey with
  | none => exact SameRefusal.refl? _
  | some identity =>
    cases hcredential with
    | none => exact SameRefusal.refl? _
    | @some v w hvw =>
      have haccepted := hvw.accepted rfl
      simp only
      generalize (EncodedKey.text v).decode = x at haccepted ⊢
      generalize (EncodedKey.text w).decode = y at haccepted ⊢
      cases x with
      | error f =>
        cases y with
        | ok key => cases haccepted
        | error g =>
          refine .some (.inr ⟨?_, ?_⟩)
          · rw [Failure.fault_wrap, Failure.fault_wrap]
          · rw [Failure.fault_wrap]
            rfl
      | ok key =>
        cases y with
        | error g => cases haccepted
        | ok other =>
          -- the key goes into what is accepted, and into nothing else
          simp only
          split
          · exact SameRefusal.refl? _
          · split
            · exact .none
            · exact SameRefusal.refl? _
            · exact SameRefusal.refl? _

/-- **Alike properties are prepared alike.** -/
theorem ContextBuilder.prepare_alike {p q : Properties}
    (h : Alike flavour provider p.get? q.get?) :
    Option.Rel SameRefusal (failureOf? (prepare flavour p)) (failureOf? (prepare flavour q)) := by
  cases flavour with
  | generic => exact .none
  | s3 =>
    rw [prepare, prepare]
    simp only [S3.checkCredentials_alike h]
    exact SameRefusal.refl? _
  | atmos =>
    have hmap (x : Except Failure Atmos.Accepted) :
        failureOf? (x.map Preparation.atmos) = failureOf? x := by
      cases x with
      | ok accepted => rfl
      | error failure => rfl
    rw [prepare, prepare]
    simp only [hmap]
    exact Atmos.accept_alike h

/-! ## 3. Alike specs -/

theorem CredentialAlike.masked_eq {x y : Option Text} (h : CredentialAlike flavour x y) :
    Spec.masked x = Spec.masked y := by
  cases h with
  | none => rfl
  | some hvw => rfl

theorem CredentialAlike.shownCredential_eq {x y : Option Text} (h : CredentialAlike flavour x y) :
    Spec.shownCredential x = Spec.shownCredential y := by
  cases h with
  | none => rfl
  | @some v w hvw =>
    cases v with
    | nil =>
      obtain rfl := hvw.empty_iff.mp rfl
      rfl
    | cons c rest =>
      cases w with
      | nil => cases hvw.empty_iff.mpr rfl
      | cons d more => rfl

/-- Specs that differ in interchangeable credentials. -/
structure SpecAlike (flavour : Flavour) (s t : Spec) : Prop where
  provider : s.provider = t.provider
  endpoint : s.endpoint = t.endpoint
  apiVersion : s.apiVersion = t.apiVersion
  identity : s.identity = t.identity
  credential : CredentialAlike flavour s.credential t.credential
  sync : s.sync = t.sync
  async : s.async = t.async
  propertiesBuilder : s.propertiesBuilder = t.propertiesBuilder
  contextBuilder : s.contextBuilder = t.contextBuilder

namespace SpecAlike

variable {s t : Spec}

/-- **The line that shows a spec** has stars for a credential, whatever it is. -/
theorem summary_eq (h : SpecAlike flavour s t) : s.summary = t.summary := by
  rw [Spec.summary, Spec.summary, h.credential.masked_eq, h.provider, h.endpoint, h.apiVersion,
    h.identity, h.sync, h.async]

/-- **The sheet that shows a spec** has stars for a credential, unless it is empty. -/
theorem sheet_eq (h : SpecAlike flavour s t) : s.sheet = t.sheet := by
  rw [Spec.sheet, Spec.sheet, Spec.rows, Spec.rows, h.credential.shownCredential_eq, h.provider,
    h.endpoint, h.apiVersion, h.identity, h.sync, h.async, h.propertiesBuilder, h.contextBuilder]

end SpecAlike

/-! ## 4. Alike assemblies -/

namespace Assembly

open Traced (Step runSteps)

variable {s t : Spec}

theorem propertiesBuilder_of_alike (h : SpecAlike flavour s t) :
    propertiesBuilder s = propertiesBuilder t := by
  rw [propertiesBuilder, propertiesBuilder, h.propertiesBuilder]

theorem contextBuilder_of_alike (h : SpecAlike flavour s t) :
    contextBuilder s = contextBuilder t := by
  rw [contextBuilder, contextBuilder, h.contextBuilder]

/-- **Alike specs set alike properties.** -/
theorem collected_alike (h : SpecAlike flavour s t) {o q : Settings}
    (ho : Alike flavour provider o.get? q.get?) :
    Alike flavour provider (collected s (some o)).get? (collected t (some q)).get? := by
  have hget : ∀ (s : Spec) (o : Settings), (collected s (some o)).get? = fun key =>
      ((setters s).reverse.findSome? (·.says? key)).getD
        ((startingProperties (propertiesBuilder s) (some o)).get? key) := fun s o =>
    funext fun key => Properties.Setter.get?_foldl_apply _ _ key
  have hstart : Alike flavour provider
      (startingProperties (propertiesBuilder s) (some o)).get?
      (startingProperties (propertiesBuilder t) (some q)).get? := by
    have hseed : ∀ (c : Component) (o : Settings), (startingProperties c (some o)).get?
        = fun key => (o.get? key).or ((startingProperties c none).get? key) := fun c o =>
      funext fun key => Properties.Setter.get?_seed _ (some o) key
    rw [hseed, hseed, propertiesBuilder_of_alike h]
    exact ho.or (.refl flavour provider _)
  -- only what is said of the credential can differ
  have hsaid : ∀ key, key ≠ Properties.credentialKey →
      (setters s).reverse.findSome? (·.says? key)
        = (setters t).reverse.findSome? (·.says? key) := by
    intro key hkey
    rw [findSome?_setters, findSome?_setters, if_neg hkey, if_neg hkey, h.provider, h.apiVersion,
      h.endpoint, h.identity]
  rw [hget, hget]
  refine ⟨fun key hkey => ?_, fun key hkey => ?_⟩
  · by_cases hcredential : key = Properties.credentialKey
    · obtain ⟨⟨-, -, -, hpc⟩, ⟨-, -, hvc⟩, ⟨-, hec⟩, hic⟩ := Properties.Setter.keys_ne
      simp only [findSome?_setters, hcredential, if_neg hpc.symm, if_neg hvc.symm, if_neg hec.symm,
        if_neg hic.symm, if_true, h.identity]
      cases t.identity with
      | none => exact hstart.credential _ (hcredential ▸ hkey)
      | some identity =>
        have hset := h.credential
        generalize s.credential = x at hset ⊢
        generalize t.credential = y at hset ⊢
        cases hset with
        | none => exact .none
        | some hvw => exact .some (.some hvw)
    · simp only [hsaid key hcredential]
      cases (setters t).reverse.findSome? (·.says? key) with
      | none => exact hstart.credential key hkey
      | some said => exact .refl flavour said
  · simp only [hsaid key fun heq => hkey (Or.inr heq), hstart.others key hkey]

/-- The failures of the steps that collect the properties depend on who is asked for which stage. -/
theorem failures_collectSteps_of_alike (h : SpecAlike flavour s t) :
    (collectSteps s).findSome? Step.failure? = (collectSteps t).findSome? Step.failure? := by
  have hstages : (setters s).map Properties.Setter.stage
      = (setters t).map Properties.Setter.stage := by
    rw [setters, setters, h.apiVersion, h.identity, h.endpoint]
    simp only [List.map_cons, List.map_append]
    cases t.identity with
    | none => rfl
    | some identity => rfl
  have hfailures : ∀ s, (collectSteps s).map Step.failure?
      = (propertiesTrouble? (propertiesBuilder s)).map
            (notConstructed .properties (propertiesBuilder s)) ::
          (((setters s).map Properties.Setter.stage).map (propertiesBuilder s).failure? ++
            [(propertiesBuilder s).failure? .build]) := by
    intro s
    rw [collectSteps, List.map_append, List.map_cons, List.map_map, List.map_map]
    rfl
  have hfind : ∀ steps : List Step,
      steps.findSome? Step.failure? = (steps.map Step.failure?).findSome? id := by
    intro steps
    rw [List.findSome?_map]
    rfl
  rw [hfind, hfind, hfailures, hfailures, hstages, propertiesBuilder_of_alike h]

/-- A component with a flavour is kept from being a context builder by its own failure, or by what
the builder of this flavour refuses. -/
theorem contextTrouble?_eq {c : Component} (h : c.flavour? .context = some flavour)
    (p : Properties) : contextTrouble? c p
      = (c.failure? .construct).or (failureOf? (ContextBuilder.prepare flavour p)) := by
  rw [contextTrouble?, h]
  cases c.failure? .construct with
  | some failure => rfl
  | none =>
    cases hprepare : ContextBuilder.prepare flavour p with
    | error failure => simp only [hprepare, failureOf?, Option.none_or]
    | ok preparation => simp only [hprepare, failureOf?, Option.none_or]

/-- **The first failures of alike plans are told alike.** -/
theorem firstFailure_alike (h : SpecAlike flavour s t) {o q : Settings}
    (ho : Alike flavour provider o.get? q.get?)
    (hflavour : (contextBuilder s).flavour? .context = some flavour)
    (modules : Modules) :
    Option.Rel ToldAlike ((plan s modules (some o)).findSome? Step.failure?)
      ((plan t modules (some q)).findSome? Step.failure?) := by
  have hrefl : ∀ x, Option.Rel ToldAlike x x
    | none => .none
    | some f => .some (.refl f)
  have htrouble : Option.Rel SameRefusal
      (contextTrouble? (contextBuilder s) (collected s (some o)))
      (contextTrouble? (contextBuilder t) (collected t (some q))) := by
    rw [← contextBuilder_of_alike h, contextTrouble?_eq hflavour, contextTrouble?_eq hflavour]
    exact rel_or (SameRefusal.refl? _) (ContextBuilder.prepare_alike (collected_alike h ho))
  rw [plan, plan, List.findSome?_append, List.findSome?_append,
    failures_collectSteps_of_alike h]
  refine rel_or (hrefl _) ?_
  have hpair : ∀ first second : Step,
      [first, second].findSome? Step.failure? = first.failure?.or second.failure? := by
    intro first second
    rw [← List.singleton_append, List.findSome?_append, List.findSome?_singleton,
      List.findSome?_singleton]
  rw [buildSteps, buildSteps, hpair, hpair]
  rw [contextBuilder_of_alike h] at htrouble ⊢
  exact rel_or (Failure.SameRefusal.map_notConstructed htrouble .context (contextBuilder t))
    (hrefl _)

/-- **Failures that are told alike are reported alike.** -/
theorem conclude_alike {f g : Failure} (hfg : ToldAlike f g) (hprovider : s.provider = t.provider)
    (logger : Text) (calls others : List Call) :
    let reported := conclude logger s (.error f)
    let same := conclude logger t (.error g)
    reported.1 = same.1 ∧
      told (Report.outcome ⟨calls, reported.1, reported.2⟩)
        = told (Report.outcome ⟨others, same.1, same.2⟩) := by
  have hrejected := hfg.rejected
  simp only [conclude, hprovider, hfg.fault]
  cases hf : f.authorization? with
  | none =>
    rw [hf] at hrejected
    rw [Option.map_eq_none_iff.mp hrejected.symm]
    exact ⟨rfl, congrArg Except.error hfg.fault⟩
  | some a =>
    rw [hf] at hrejected
    obtain ⟨b, hb, hab⟩ := Option.map_eq_some_iff.mp hrejected.symm
    rw [hb]
    refine ⟨?_, congrArg Except.error hab.symm⟩
    simp only [hab]

/-- **Alike assemblies write the same record and end alike:** both with a builder, or both with a
failure of which the same is told. -/
theorem assemble_alike (h : SpecAlike flavour s t) {o q : Settings}
    (ho : Alike flavour provider o.get? q.get?)
    (hflavour : (contextBuilder s).flavour? .context = some flavour)
    (logger : Text) (modules : Modules) :
    (assemble logger s modules (some o)).record = (assemble logger t modules (some q)).record ∧
      told (assemble logger s modules (some o)).outcome
        = told (assemble logger t modules (some q)).outcome := by
  have hfirst := firstFailure_alike h ho hflavour modules
  rw [assemble_eq, assemble_eq, outcome_run, outcome_run]
  generalize (plan s modules (some o)).findSome? Step.failure? = x at hfirst ⊢
  generalize (plan t modules (some q)).findSome? Step.failure? = y at hfirst ⊢
  cases hfirst with
  | none =>
    have hclass : (assembled s modules (some o)).component
        = (assembled t modules (some q)).component := contextBuilder_of_alike h
    refine ⟨?_, rfl⟩
    simp only [conclude, hclass, h.provider]
  | some hfg => exact conclude_alike hfg h.provider logger _ _

end Assembly

end CloudAccess
