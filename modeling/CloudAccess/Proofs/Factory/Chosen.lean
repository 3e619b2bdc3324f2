/-
# The builder that runs

A builder comes a long way from its registration to the assembly that calls it: the name in the
configuration leads to the registry, the registry to the spec, and the spec to the step that makes
the builder of a part.  On the way it is replaced by the generic builder of the part in two places,
and both of them ask whether the builder counts as true (`Uses`).  So a component that counts as
true and has been registered under the configured name is the one that runs
(`configured_builder_runs`), and one that counts as false is passed over without a word
(`emptyMaker_passed_over`).
-/
import CloudAccess.Proofs.Factory.Slots

namespace CloudAccess

namespace Registry

/-! ## 1. Accepted registrations -/

/-- A component was registered under a name of a kind, and the registration was accepted. -/
def Accepted (history : List Offer) (kind name : Text) (component : Component) : Prop :=
  ∃ before o rest, history = before ++ o :: rest ∧ o.kind = kind ∧ o.name = name ∧
    o.target = some component ∧ (empty.after before).rejection? o = none

variable {history : List Offer}

/-- A component that was accepted under a name is the first that was offered there. -/
theorem firstComponent?_of_accepted {kind name : Text} {component : Component}
    (h : Accepted history kind name component) :
    firstComponent? (offered history kind name) = some component := by
  obtain ⟨before, o, rest, rfl, rfl, rfl, htarget, haccepted⟩ := h
  have hunder : o.isUnder o.kind o.name = true := Offer.isUnder_iff.mpr ⟨rfl, rfl⟩
  have hlater :
      offered (o :: rest) o.kind o.name = some component :: offered rest o.kind o.name := by
    rw [offered, List.filter_cons_of_pos hunder, List.map_cons, htarget]
    rfl
  rw [offered_append, hlater, firstComponent?, List.findSome?_append]
  cases hearlier : (offered before o.kind o.name).findSome? id with
  | none => rfl
  | some holder =>
    have hsame : o.target = some holder := by
      by_contra hother
      have hrejected := isSome_rejection?_after_iff.mpr (Or.inr ⟨holder, hearlier, hother⟩)
      rw [haccepted] at hrejected
      cases hrejected
    rw [← hsame, htarget]
    rfl

/-! ## 2. What a slot holds -/

variable {c : Configuration} {provider : Text} {slot : Slot}

/-- A slot that is configured to the name of an accepted component holds that component. -/
theorem Slot.Holds.eq_of_accepted {named? : Option Component} {raw : Text} {component : Component}
    (h : slot.Holds history c provider named?)
    (hkey : c.get (Configuration.key provider slot.setting) none = some raw)
    (haccepted : Accepted history slot.kind.name (Text.strip raw) component) :
    named? = some component := by
  cases h with
  | absent hnone =>
    rw [hkey] at hnone
    cases hnone
  | bound hsome hname hoffered =>
    obtain rfl := Option.some.inj (hkey.symm.trans hsome)
    exact firstComponent?_of_accepted haccepted

/-! ## 3. The builders of a provider -/

/-- The builder of a part. -/
def Builders.ofPart (builders : Builders) : Part → Component
  | .properties => builders.properties
  | .context => builders.context

theorem resolveBuilders_eq_ok_iff {r : Registry} {builders : Builders} :
    r.resolveBuilders provider c = .ok builders ↔
      ∀ part : Part, ∃ named?, r.look c provider part.slot = .ok named? ∧
        builders.ofPart part = Component.orElse named? (.bundled part .generic) := by
  constructor
  · intro h
    rw [resolveBuilders] at h
    split at h
    · cases h
    · next context hcontext =>
      split at h
      · cases h
      · next properties hproperties =>
        cases h
        rintro (_ | _)
        · exact ⟨properties, hproperties, rfl⟩
        · exact ⟨context, hcontext, rfl⟩
  · intro h
    obtain ⟨properties, hproperties, hfirst⟩ := h .properties
    obtain ⟨context, hcontext, hsecond⟩ := h .context
    rw [look] at hproperties hcontext
    obtain ⟨first, second⟩ := builders
    rw [resolveBuilders]
    simp only [Part.slot, Slot.setting, Slot.kind] at hproperties hcontext
    simp only [Kind.name, hproperties, hcontext]
    rw [← hfirst, ← hsecond]
    rfl

/-- The builders of a provider are resolved if both slots hold something, or nothing. -/
theorem exists_resolveBuilders_iff :
    (∃ builders, (empty.after history).resolveBuilders provider c = .ok builders) ↔
      ∀ part : Part, ∃ named?, part.slot.Holds history c provider named? := by
  simp only [resolveBuilders_eq_ok_iff, look_eq_ok_iff]
  constructor
  · rintro ⟨builders, hall⟩ part
    obtain ⟨named?, hholds, -⟩ := hall part
    exact ⟨named?, hholds⟩
  · intro hall
    choose named? hholds using hall
    refine ⟨⟨Component.orElse (named? .properties) (.bundled .properties .generic),
      Component.orElse (named? .context) (.bundled .context .generic)⟩, fun part => ?_⟩
    refine ⟨named? part, hholds part, ?_⟩
    cases part with
    | properties => rfl
    | context => rfl

theorem uses_of_resolveBuilders {builders : Builders}
    (h : (empty.after history).resolveBuilders provider c = .ok builders) (part : Part) :
    ∃ named?, part.slot.Holds history c provider named? ∧
      Uses part named? (builders.ofPart part) := by
  obtain ⟨named?, hlook, hpart⟩ := resolveBuilders_eq_ok_iff.mp h part
  exact ⟨named?, look_eq_ok_iff.mp hlook, hpart ▸ uses_orElse part named?⟩

end Registry

/-! ## 4. The step of a part -/

namespace Assembly

/-- The calls of an assembly before the builder of a part is made. -/
def callsBefore (s : Spec) : Part → List Call
  | .properties => []
  | .context => collectCalls s

/-- An assembly gets to the step that makes the builder of a part. -/
def Reaches (s : Spec) : Part → Prop
  | .properties => True
  | .context => ∀ step ∈ collectSteps s, step.failure? = none

theorem calls_assemble (logger : Text) (s : Spec) (modules : Modules)
    (overrides : Option Settings) : (assemble logger s modules overrides).calls
      = (Traced.runSteps (plan s modules overrides)).calls := by
  show (run s modules overrides).calls = _
  rw [run_eq, Traced.andThen]
  split
  · rfl
  · exact List.append_nil _

/-- **The step of a part calls the component that is used for it.** -/
theorem uses_constructed (s : Spec) (part : Part) (logger : Text) (modules : Modules)
    (overrides : Option Settings) (hreaches : Reaches s part) :
    ∃ component, Uses part (part.slot.content s) component ∧
      callsBefore s part ++ [.builder component .construct []]
        <+: (assemble logger s modules overrides).calls := by
  rw [calls_assemble]
  cases part with
  | properties =>
    obtain ⟨later, hplan⟩ : ∃ later, plan s modules overrides
        = [] ++ constructStep .properties (propertiesBuilder s)
            (propertiesTrouble? (propertiesBuilder s)) :: later := ⟨_, rfl⟩
    rw [hplan]
    have hcall := Traced.prefix_calls_runSteps (constructStep .properties (propertiesBuilder s)
      (propertiesTrouble? (propertiesBuilder s))) later (List.forall_mem_nil _)
    exact ⟨_, uses_orElse .properties s.propertiesBuilder, hcall⟩
  | context =>
    obtain ⟨later, hplan⟩ : ∃ later, plan s modules overrides
        = collectSteps s ++ constructStep .context (contextBuilder s)
            (contextTrouble? (contextBuilder s) (collected s overrides)) :: later := ⟨_, rfl⟩
    rw [hplan]
    have hcall := Traced.prefix_calls_runSteps (constructStep .context (contextBuilder s)
      (contextTrouble? (contextBuilder s) (collected s overrides))) later hreaches
    rw [Traced.callsOf_append, callsOf_collectSteps] at hcall
    exact ⟨_, uses_orElse .context s.contextBuilder, hcall⟩

end Assembly

/-! ## 5. From the configuration to the step -/

namespace Factory

open Registry (Offer Accepted)

theorem resolved_of_createSpec {f : Factory} {r : Request} {s : Spec}
    (h : (f.createSpec r).outcome = .ok s) : Resolved f r s := by
  rw [outcome_createSpec] at h
  cases hresolve : f.resolve r with
  | error fault =>
    rw [hresolve] at h
    cases h
  | ok t =>
    rw [hresolve] at h
    cases h
    exact resolve_eq_ok_iff.mp hresolve

/-- The builders of a spec are those that its provider's configuration names. -/
theorem content_of_resolved {f : Factory} {r : Request} {s : Spec} (h : Resolved f r s)
    (part : Part) :
    ∃ builders, f.registry.resolveBuilders s.provider (f.layered r) = .ok builders ∧
      part.slot.content s = some (builders.ofPart part) := by
  obtain ⟨builders, hbuilders, hproperties, hcontext⟩ := h.builders
  refine ⟨builders, hbuilders, ?_⟩
  cases part with
  | properties => exact hproperties
  | context => exact hcontext

/-- **A configured builder is the one that runs,** if it counts as true.  Where a provider's key
holds the name of an accepted component, that component is what the name resolves to, what the spec
carries, and what the assembly calls in the step of its part.  Another builder, the generic one, is
used where the key is absent, where its name was only registered without a component, where the spec
has none, and where the component counts as false.  Builders are resolved unless the name in one of
the two slots is blank or unknown. -/
theorem configured_builder_runs (history : List Offer) (c : Configuration) (provider : Text)
    (part : Part) :
    (∀ raw component, c.get (Configuration.key provider part.slot.setting) none = some raw →
      Accepted history part.slot.kind.name (Text.strip raw) component →
      component.isTruthy = true →
        (∀ builders, (Registry.empty.after history).resolveBuilders provider c = .ok builders →
          builders.ofPart part = component) ∧
        ∀ (f : Factory) (r : Request) (s : Spec), f.registry = Registry.empty.after history →
          f.layered r = c → r.provider = some provider → (f.createSpec r).outcome = .ok s →
            part.slot.content s = some component ∧
            ∀ logger modules overrides, Assembly.Reaches s part →
              Assembly.callsBefore s part ++ [.builder component .construct []]
                <+: (Assembly.assemble logger s modules overrides).calls) ∧
    (∀ builders, (Registry.empty.after history).resolveBuilders provider c = .ok builders →
      ∃ named?, part.slot.Holds history c provider named? ∧
        Uses part named? (builders.ofPart part)) ∧
    (∀ (s : Spec) logger modules overrides, Assembly.Reaches s part →
      ∃ component, Uses part (part.slot.content s) component ∧
        Assembly.callsBefore s part ++ [.builder component .construct []]
          <+: (Assembly.assemble logger s modules overrides).calls) ∧
    ((∃ builders, (Registry.empty.after history).resolveBuilders provider c = .ok builders) ↔
      ∀ other : Part, ∃ named?, other.slot.Holds history c provider named?) := by
  refine ⟨fun raw component hkey haccepted htruthy => ?_,
    fun builders h => Registry.uses_of_resolveBuilders h part,
    fun s => Assembly.uses_constructed s part, Registry.exists_resolveBuilders_iff⟩
  have hresolved : ∀ builders,
      (Registry.empty.after history).resolveBuilders provider c = .ok builders →
        builders.ofPart part = component := by
    intro builders hbuilders
    obtain ⟨named?, hholds, huses⟩ := Registry.uses_of_resolveBuilders hbuilders part
    rw [hholds.eq_of_accepted hkey haccepted] at huses
    exact huses.eq_of_isTruthy htruthy
  refine ⟨hresolved, fun f r s hregistry hlayered hprovider hspec => ?_⟩
  have h := resolved_of_createSpec hspec
  obtain rfl : provider = s.provider := Option.some.inj (hprovider.symm.trans h.provider)
  obtain ⟨builders, hbuilders, hcontent⟩ := content_of_resolved h part
  rw [hregistry, hlayered] at hbuilders
  rw [hresolved builders hbuilders] at hcontent
  refine ⟨hcontent, fun logger modules overrides hreaches => ?_⟩
  obtain ⟨used, huses, hcalls⟩ :=
    Assembly.uses_constructed s part logger modules overrides hreaches
  rw [hcontent] at huses
  rw [← huses.eq_of_isTruthy htruthy]
  exact hcalls

/-- A maker of context builders that can be called, and counts as false. -/
def emptyMaker : Component :=
  .extension { name := "F", flavour := .atmos, isClass := false, isTruthy := false }

/-- A maker that counts as true, under the same name as the other one, for another part. -/
def fullMaker : Component := .extension { name := "T", isClass := false }

/-- Both makers are registered, after a registration without a component. -/
def makersHistory : List Offer := [
  ⟨"contextbuilder", "x", none⟩,
  ⟨"contextbuilder", "x", some emptyMaker⟩,
  ⟨"propertiesbuilder", "x", some fullMaker⟩]

/-- A factory over them, with a provider that names both. -/
def makersFactory : Factory where
  configuration := ⟨[Dictionary.ofList
    [("p.contextbuilder", some "x"), ("p.propertiesbuilder", some " x ")]]⟩
  registry := Registry.empty.after makersHistory

/-- The configuration of the provider. -/
abbrev makersConfiguration : Configuration := makersFactory.configuration

theorem accepted_emptyMaker : Accepted makersHistory "contextbuilder" "x" emptyMaker :=
  ⟨[⟨"contextbuilder", "x", none⟩], ⟨"contextbuilder", "x", some emptyMaker⟩,
    [⟨"propertiesbuilder", "x", some fullMaker⟩], rfl, rfl, rfl, rfl, by decide +kernel⟩

theorem accepted_fullMaker : Accepted makersHistory "propertiesbuilder" "x" fullMaker :=
  ⟨makersHistory.take 2, ⟨"propertiesbuilder", "x", some fullMaker⟩, [], rfl, rfl, rfl, rfl,
    by decide +kernel⟩

/-- The maker that counts as true is the properties builder that runs. -/
theorem configured_builder_runs_makers :
    ∃ s, (makersFactory.createSpec { provider := some "p" }).outcome = .ok s ∧
      s.propertiesBuilder = some fullMaker ∧
      [.builder fullMaker .construct []]
        <+: (Assembly.assemble "log" s (.iterable (.ok [])) none).calls := by
  have hkey : makersConfiguration.get (Configuration.key "p" Part.properties.slot.setting) none
      = some " x " := by decide +kernel
  have hgranted : ∃ s, (makersFactory.createSpec { provider := some "p" }).outcome = .ok s := by
    cases h : (makersFactory.createSpec { provider := some "p" }).outcome with
    | ok s => exact ⟨s, rfl⟩
    | error failure =>
      have hok : (makersFactory.createSpec { provider := some "p" }).outcome.toBool = true := by
        decide +kernel
      rw [h] at hok
      cases hok
  obtain ⟨s, hs⟩ := hgranted
  obtain ⟨-, hspec⟩ := (configured_builder_runs makersHistory makersConfiguration "p"
    .properties).1 " x " fullMaker hkey accepted_fullMaker rfl
  obtain ⟨hcontent, hcalls⟩ := hspec makersFactory { provider := some "p" } s rfl rfl rfl hs
  exact ⟨s, hs, hcontent, hcalls "log" (.iterable (.ok [])) none trivial⟩

/-- **A configured builder is passed over if it counts as false,** although its registration was
accepted and it can be called: the generic builder is what its name resolves to. -/
theorem emptyMaker_passed_over :
    Accepted makersHistory "contextbuilder" "x" emptyMaker ∧
      makersConfiguration.get (Configuration.key "p" "contextbuilder") none = some "x" ∧
      emptyMaker.flavour? .context = some .atmos ∧
      (Registry.empty.after makersHistory).resolveBuilders "p" makersConfiguration
        = .ok ⟨fullMaker, .bundled .context .generic⟩ :=
  ⟨accepted_emptyMaker, by decide +kernel, rfl, by decide +kernel⟩

end Factory

end CloudAccess
