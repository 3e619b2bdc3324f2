/-
# What a request resolves to

A provider's configuration has four slots for components: the two builders and the two capabilities.
Each has a key and a kind of its own, and what is in it depends on nothing else (`Slot.Holds`,
`Slot.Fails`): the name at the key, without the blanks around it, stands for the component that has
this name among those of the kind.

The slots are looked at in a fixed order, and the first that is at fault decides
(`resolve_of_fails`).  So a request is resolved if and only if no slot is at fault, and then every
slot of the spec is filled with what its own key says (`createSpec_slots`).  A builder has to count
as true for that: one that does not is replaced by the generic builder (`hollowClass_replaced`).
-/
import CloudAccess.Proofs.Factory.Resolved
import CloudAccess.Proofs.Registry.History

namespace CloudAccess

namespace Registry

/-! ## 1. Slots -/

/-- A setting that names a component. -/
inductive Slot where
  | contextBuilder
  | propertiesBuilder
  | sync
  | async
deriving DecidableEq

namespace Slot

/-- The last part of the key of a slot. -/
def setting : Slot → Text
  | contextBuilder => "contextbuilder"
  | propertiesBuilder => "propertiesbuilder"
  | sync => "sync"
  | async => "async"

/-- The kind of the components that a slot holds. -/
def kind : Slot → Kind
  | contextBuilder => .contextBuilder
  | propertiesBuilder => .propertiesBuilder
  | sync => .capability
  | async => .capability

/-- The slots that are looked at before. -/
def before : Slot → List Slot
  | contextBuilder => []
  | propertiesBuilder => [contextBuilder]
  | sync => [contextBuilder, propertiesBuilder]
  | async => [contextBuilder, propertiesBuilder, sync]

/-- What a spec holds in a slot. -/
def content (s : Spec) : Slot → Option Component
  | contextBuilder => s.contextBuilder
  | propertiesBuilder => s.propertiesBuilder
  | sync => s.sync
  | async => s.async

variable (history : List Offer) (c : Configuration) (provider : Text) (slot : Slot)

/-- What a slot holds, whatever it counts as.  A name that was only offered without a component is
there and stands for nothing. -/
inductive Holds : Option Component → Prop where
  | absent (hkey : c.get (Configuration.key provider slot.setting) none = none) : Holds none
  | bound {raw : Text} (hkey : c.get (Configuration.key provider slot.setting) none = some raw)
      (hname : Text.strip raw ≠ [])
      (hoffered : offered history slot.kind.name (Text.strip raw) ≠ []) :
      Holds (firstComponent? (offered history slot.kind.name (Text.strip raw)))

/-- What is wrong with the name in a slot. -/
inductive Fails : Fault → Prop where
  | blank {raw : Text} (hkey : c.get (Configuration.key provider slot.setting) none = some raw)
      (hname : Text.strip raw = []) :
    Fails (.blankName provider (Configuration.key provider slot.setting) raw)
  | unknown {raw : Text} (hkey : c.get (Configuration.key provider slot.setting) none = some raw)
      (hname : Text.strip raw ≠ []) (hnone : offered history slot.kind.name (Text.strip raw) = []) :
    Fails (.unregistered slot.kind.name (Text.strip raw) (some provider)
      (some (Configuration.key provider slot.setting)))

end Slot

/-- What a registry has for a slot. -/
def look (r : Registry) (c : Configuration) (provider : Text) (slot : Slot) :
    Except Fault (Option Component) :=
  r.resolveSetting c provider slot.setting slot.kind

variable {history : List Offer} {c : Configuration} {provider : Text} {slot : Slot}

/-! ## 2. One slot -/

theorem Slot.holds_or_fails (history : List Offer) (c : Configuration) (provider : Text)
    (slot : Slot) :
    (∃ named?, slot.Holds history c provider named?) ∨
      ∃ fault, slot.Fails history c provider fault := by
  cases hkey : c.get (Configuration.key provider slot.setting) none with
  | none => exact .inl ⟨none, .absent hkey⟩
  | some raw =>
    by_cases hname : Text.strip raw = []
    · exact .inr ⟨_, .blank hkey hname⟩
    · by_cases hoffered : offered history slot.kind.name (Text.strip raw) = []
      · exact .inr ⟨_, .unknown hkey hname hoffered⟩
      · exact .inl ⟨_, .bound hkey hname hoffered⟩

/-- **Either all slots hold something, or nothing, or one of them is the first at fault.** -/
theorem Slot.all_hold_or_first_fails (history : List Offer) (c : Configuration)
    (provider : Text) :
    (∀ slot : Slot, ∃ named?, slot.Holds history c provider named?) ∨
      ∃ (slot : Slot) (fault : Fault),
        (∀ earlier ∈ slot.before, ∃ named?, earlier.Holds history c provider named?) ∧
          slot.Fails history c provider fault := by
  rcases holds_or_fails history c provider contextBuilder with hcontext | ⟨fault, hfails⟩
  · rcases holds_or_fails history c provider propertiesBuilder with hproperties | ⟨fault, hfails⟩
    · rcases holds_or_fails history c provider sync with hsync | ⟨fault, hfails⟩
      · rcases holds_or_fails history c provider async with hasync | ⟨fault, hfails⟩
        · left
          rintro (_ | _ | _ | _)
          exacts [hcontext, hproperties, hsync, hasync]
        · refine .inr ⟨async, fault, ?_, hfails⟩
          simp only [before, List.forall_mem_cons]
          exact ⟨hcontext, hproperties, hsync, fun _ hnone => absurd hnone List.not_mem_nil⟩
      · refine .inr ⟨sync, fault, ?_, hfails⟩
        simp only [before, List.forall_mem_cons]
        exact ⟨hcontext, hproperties, fun _ hnone => absurd hnone List.not_mem_nil⟩
    · refine .inr ⟨propertiesBuilder, fault, ?_, hfails⟩
      simp only [before, List.forall_mem_cons]
      exact ⟨hcontext, fun _ hnone => absurd hnone List.not_mem_nil⟩
  · exact .inr ⟨contextBuilder, fault, fun _ hnone => absurd hnone List.not_mem_nil, hfails⟩

theorem Slot.Fails.category {fault : Fault} (h : slot.Fails history c provider fault) :
    fault.category = .resolution := by
  cases h with
  | blank => rfl
  | unknown => rfl

theorem look_eq_ok_iff {named? : Option Component} :
    (empty.after history).look c provider slot = .ok named? ↔
      slot.Holds history c provider named? := by
  have hkind : (Kind.ofName? slot.kind.name).isSome = true := by
    rw [Kind.ofName?_eq_some_iff.mpr rfl]
    rfl
  rw [look, resolveSetting]
  constructor
  · intro h
    cases hkey : c.get (Configuration.key provider slot.setting) none with
    | none =>
      simp only [hkey, Except.ok.injEq] at h
      exact h ▸ .absent hkey
    | some raw =>
      simp only [hkey] at h
      split at h
      · cases h
      · next hname =>
        rw [resolve_after] at h
        split at h
        · next hfound =>
          cases h
          exact .bound hkey (by simpa using hname) hfound.2
        · cases h
  · intro h
    cases h with
    | absent hkey => simp only [hkey]
    | bound hkey hname hoffered =>
      simp only [hkey, List.isEmpty_eq_false_iff.mpr hname, Bool.false_eq_true, if_false]
      rw [resolve_after, if_pos ⟨hkind, hoffered⟩]

/-- A slot holds one thing only. -/
theorem Slot.Holds.unique {first second : Option Component}
    (hfirst : slot.Holds history c provider first)
    (hsecond : slot.Holds history c provider second) : first = second :=
  Except.ok.inj ((look_eq_ok_iff.mpr hfirst).symm.trans (look_eq_ok_iff.mpr hsecond))

theorem look_of_fails {fault : Fault} (h : slot.Fails history c provider fault) :
    (empty.after history).look c provider slot = .error fault := by
  rw [look, resolveSetting]
  cases h with
  | blank hkey hname => simp only [hkey, List.isEmpty_iff.mpr hname, if_true]
  | unknown hkey hname hnone =>
    simp only [hkey, List.isEmpty_eq_false_iff.mpr hname, Bool.false_eq_true, if_false]
    rw [resolve_after, if_neg fun h => h.2 hnone]

end Registry

/-! ## 3. What is used for a part -/

/-- The slot that names the builder of a part. -/
def Part.slot : Part → Registry.Slot
  | .properties => .propertiesBuilder
  | .context => .contextBuilder

/-- The builder of a part for which no other is used. -/
def Part.generic (part : Part) : Component := .bundled part .generic

/-- **Which component is used for a part,** of one that may be missing: that one if it counts as
true, and the generic builder otherwise. -/
inductive Uses (part : Part) : Option Component → Component → Prop where
  | own {component : Component} (truthy : component.isTruthy = true) :
      Uses part (some component) component
  | missing : Uses part none part.generic
  | passedOver {component : Component} (falsy : component.isTruthy = false) :
      Uses part (some component) part.generic

theorem uses_orElse (part : Part) (named? : Option Component) :
    Uses part named? (Component.orElse named? (.bundled part .generic)) := by
  cases named? with
  | none => exact .missing
  | some component =>
    cases htruthy : component.isTruthy with
    | true =>
      rw [Component.orElse, htruthy, if_pos rfl]
      exact .own htruthy
    | false =>
      rw [Component.orElse, htruthy, if_neg Bool.false_ne_true]
      exact .passedOver htruthy

theorem Uses.eq_of_isTruthy {part : Part} {component used : Component}
    (h : Uses part (some component) used) (htruthy : component.isTruthy = true) :
    used = component := by
  cases h with
  | own truthy => rfl
  | passedOver falsy =>
    rw [htruthy] at falsy
    cases falsy

/-- **What fills a slot of a spec** that holds some component, or none: for a builder what is used
for its part, and for a capability what the slot holds. -/
inductive Registry.Slot.Fills : Slot → Option Component → Option Component → Prop where
  | builder {part : Part} {named? : Option Component} {used : Component}
      (uses : Uses part named? used) : Fills part.slot named? (some used)
  | capability {slot : Slot} {named? : Option Component} (hkind : slot.kind = .capability) :
      Fills slot named? named?

namespace Factory

open Registry (Offer Slot)

/-! ## 4. All slots -/

variable {f : Factory} {r : Request} {history : List Offer} {provider : Text}

/-- **The slots are looked at one after the other.** -/
theorem resolve_eq_slots (hprovider : r.provider = some provider) (hne : provider ≠ []) :
    f.resolve r =
      match f.registry.look (f.layered r) provider .contextBuilder with
      | .error fault => .error fault
      | .ok context =>
        match f.registry.look (f.layered r) provider .propertiesBuilder with
        | .error fault => .error fault
        | .ok properties =>
          match f.registry.look (f.layered r) provider .sync with
          | .error fault => .error fault
          | .ok sync =>
            match f.registry.look (f.layered r) provider .async with
            | .error fault => .error fault
            | .ok async => .ok {
                provider := provider
                provider_ne := hne
                endpoint := (f.layered r).get (Configuration.key provider "endpoint") none
                apiVersion := (f.layered r).get (Configuration.key provider "apiversion") none
                identity := (f.layered r).get (Configuration.key provider "identity") r.identity
                credential :=
                  (f.layered r).get (Configuration.key provider "credential") r.credential
                sync := sync
                async := async
                propertiesBuilder :=
                  some (Component.orElse properties (.bundled .properties .generic))
                contextBuilder :=
                  some (Component.orElse context (.bundled .context .generic)) } := by
  rw [resolve_eq hprovider hne]
  simp only [Registry.resolveBuilders, Registry.resolveCapabilities, Registry.look, Slot.setting,
    Slot.kind, Registry.Kind.name]
  cases f.registry.resolveSetting (f.layered r) provider "contextbuilder" .contextBuilder with
  | error fault => rfl
  | ok context =>
    cases f.registry.resolveSetting (f.layered r) provider "propertiesbuilder"
        .propertiesBuilder with
    | error fault => rfl
    | ok properties =>
      cases f.registry.resolveSetting (f.layered r) provider "sync" .capability with
      | error fault => rfl
      | ok sync =>
        cases f.registry.resolveSetting (f.layered r) provider "async" .capability with
        | error fault => rfl
        | ok async => rfl

/-- **A request is resolved if no slot is at fault,** and each slot of the spec is filled with what
it holds. -/
theorem resolve_of_holds (hregistry : f.registry = Registry.empty.after history)
    (hprovider : r.provider = some provider) (hne : provider ≠ [])
    {named? : Slot → Option Component}
    (hholds : ∀ slot : Slot, slot.Holds history (f.layered r) provider (named? slot)) :
    ∃ s, f.resolve r = .ok s ∧ ∀ slot : Slot, slot.Fills (named? slot) (slot.content s) := by
  have hlook : ∀ slot, f.registry.look (f.layered r) provider slot = .ok (named? slot) :=
    fun slot => hregistry ▸ Registry.look_eq_ok_iff.mpr (hholds slot)
  rw [resolve_eq_slots hprovider hne]
  simp only [hlook]
  refine ⟨_, rfl, fun slot => ?_⟩
  cases slot with
  | contextBuilder => exact .builder (uses_orElse .context (named? .contextBuilder))
  | propertiesBuilder => exact .builder (uses_orElse .properties (named? .propertiesBuilder))
  | sync => exact .capability rfl
  | async => exact .capability rfl

/-- **The first slot at fault decides.** -/
theorem resolve_of_fails (hregistry : f.registry = Registry.empty.after history)
    (hprovider : r.provider = some provider) (hne : provider ≠ []) {slot : Slot} {fault : Fault}
    (hbefore : ∀ earlier ∈ slot.before, ∃ named?,
      earlier.Holds history (f.layered r) provider named?)
    (hfails : slot.Fails history (f.layered r) provider fault) : f.resolve r = .error fault := by
  have hlook : ∀ earlier ∈ slot.before, ∃ named?,
      f.registry.look (f.layered r) provider earlier = .ok named? := by
    intro earlier hearlier
    obtain ⟨named?, hholds⟩ := hbefore earlier hearlier
    exact ⟨named?, hregistry ▸ Registry.look_eq_ok_iff.mpr hholds⟩
  have hfault : f.registry.look (f.layered r) provider slot = .error fault :=
    hregistry ▸ Registry.look_of_fails hfails
  rw [resolve_eq_slots hprovider hne]
  cases slot with
  | contextBuilder => simp only [hfault]
  | propertiesBuilder =>
    obtain ⟨context, hcontext⟩ := hlook .contextBuilder (by simp [Slot.before])
    simp only [hcontext, hfault]
  | sync =>
    obtain ⟨context, hcontext⟩ := hlook .contextBuilder (by simp [Slot.before])
    obtain ⟨properties, hproperties⟩ := hlook .propertiesBuilder (by simp [Slot.before])
    simp only [hcontext, hproperties, hfault]
  | async =>
    obtain ⟨context, hcontext⟩ := hlook .contextBuilder (by simp [Slot.before])
    obtain ⟨properties, hproperties⟩ := hlook .propertiesBuilder (by simp [Slot.before])
    obtain ⟨sync, hsync⟩ := hlook .sync (by simp [Slot.before])
    simp only [hcontext, hproperties, hsync, hfault]

theorem outcome_createSpec (f : Factory) (r : Request) (handled? : Option Failure) :
    (f.createSpec r handled?).outcome = (f.resolve r).mapError (.arising handled?) := by
  rw [createSpec]
  cases f.resolve r with
  | error fault => rfl
  | ok s => rfl

/-- **What comes of a request for a spec.**  Without a provider it is refused as badly configured.
With one it is granted exactly if no slot is at fault, and then every slot of the spec is filled
with what it holds, a builder only if it counts as true; otherwise the first slot at fault says what
is wrong. -/
theorem createSpec_slots (hregistry : f.registry = Registry.empty.after history) (r : Request)
    (handled? : Option Failure) :
    (r.provider = none ∨ r.provider = some [] →
      (f.createSpec r handled?).outcome = .error (.arising handled? .providerMissing) ∧
        Fault.providerMissing.category = .configuration) ∧
    ∀ provider, r.provider = some provider → provider ≠ [] →
      ((∃ s, (f.createSpec r handled?).outcome = .ok s) ↔
        ∀ slot : Slot, ∃ named?, slot.Holds history (f.layered r) provider named?) ∧
      (∀ s, (f.createSpec r handled?).outcome = .ok s →
        ∀ slot : Slot, ∃ named?, slot.Holds history (f.layered r) provider named? ∧
          slot.Fills named? (slot.content s)) ∧
      ∀ failure, (f.createSpec r handled?).outcome = .error failure ↔
        ∃ (slot : Slot) (fault : Fault),
          (∀ earlier ∈ slot.before, ∃ named?,
            earlier.Holds history (f.layered r) provider named?) ∧
          slot.Fails history (f.layered r) provider fault ∧ fault.category = .resolution ∧
          failure = .arising handled? fault := by
  rw [outcome_createSpec]
  refine ⟨?_, fun provider hprovider hne => ?_⟩
  · rintro (hnone | hempty)
    · rw [resolve, hnone]
      exact ⟨rfl, rfl⟩
    · rw [resolve, hempty]
      exact ⟨rfl, rfl⟩
  · rcases Slot.all_hold_or_first_fails history (f.layered r) provider with
      hall | ⟨slot, fault, hbefore, hfails⟩
    · choose named? hholds using hall
      obtain ⟨s, hs, hfills⟩ := resolve_of_holds hregistry hprovider hne hholds
      rw [hs]
      refine ⟨⟨fun _ slot => ⟨_, hholds slot⟩, fun _ => ⟨s, rfl⟩⟩, ?_, ?_⟩
      · rintro _ ⟨⟩ slot
        exact ⟨named? slot, hholds slot, hfills slot⟩
      · intro failure
        constructor
        · rintro ⟨⟩
        · rintro ⟨slot, fault, hbefore, hfails, -⟩
          rw [resolve_of_fails hregistry hprovider hne hbefore hfails] at hs
          cases hs
    · have hs := resolve_of_fails hregistry hprovider hne hbefore hfails
      rw [hs]
      refine ⟨⟨?_, ?_⟩, ?_, ?_⟩
      · rintro ⟨_, ⟨⟩⟩
      · intro hall
        choose named? hholds using hall
        obtain ⟨s, hok, -⟩ := resolve_of_holds hregistry hprovider hne hholds
        rw [hs] at hok
        cases hok
      · rintro _ ⟨⟩
      · intro failure
        constructor
        · rintro ⟨⟩
          exact ⟨slot, fault, hbefore, hfails, hfails.category, rfl⟩
        · rintro ⟨other, otherFault, hotherBefore, hotherFails, -, rfl⟩
          rw [resolve_of_fails hregistry hprovider hne hotherBefore hotherFails] at hs
          cases hs
          rfl

/-- One name in two kinds, and a second capability. -/
def sharedNameHistory : List Offer := [
  ⟨"contextbuilder", "x", some (.bundled .context .atmos)⟩,
  ⟨"capability", "x", some .shareUrls⟩,
  ⟨"capability", "y", some .s3Client⟩,
  ⟨"capability", "x", some .s3Client⟩]

/-- A factory over this registry, with a provider that uses the name twice. -/
def sharedNameFactory : Factory where
  configuration := ⟨[Dictionary.ofList
    [("p.contextbuilder", some " x\t"), ("p.sync", some "x"), ("p.async", some "z")]]⟩
  registry := Registry.empty.after sharedNameHistory

/-- A call that mends the fourth slot. -/
def mendingRequest : Request where
  provider := some "p"
  overrides := some (Dictionary.ofList [("p.async", some "y")])

/-- A call that names a properties builder, of which there are none. -/
def spoilingRequest : Request where
  provider := some "p"
  overrides := some (Dictionary.ofList [("p.propertiesbuilder", some "x ")])

/-- What the slots hold then. -/
def mendedContent : Slot → Option Component
  | .contextBuilder => some (.bundled .context .atmos)
  | .propertiesBuilder => none
  | .sync => some .shareUrls
  | .async => some .s3Client

theorem holds_mendingRequest (slot : Slot) :
    slot.Holds sharedNameHistory (sharedNameFactory.layered mendingRequest) "p"
      (mendedContent slot) := by
  cases slot with
  | contextBuilder =>
    have hkey : (sharedNameFactory.layered mendingRequest).get
        (Configuration.key "p" Slot.contextBuilder.setting) none = some " x\t" := by decide +kernel
    exact .bound hkey (by decide +kernel) (by decide +kernel)
  | propertiesBuilder => exact .absent (by decide +kernel)
  | sync =>
    have hkey : (sharedNameFactory.layered mendingRequest).get
        (Configuration.key "p" Slot.sync.setting) none = some "x" := by decide +kernel
    exact .bound hkey (by decide +kernel) (by decide +kernel)
  | async =>
    have hkey : (sharedNameFactory.layered mendingRequest).get
        (Configuration.key "p" Slot.async.setting) none = some "y" := by decide +kernel
    exact .bound hkey (by decide +kernel) (by decide +kernel)

/-- A slot is filled with a component that counts as true, if it holds one. -/
theorem fills_eq_of_isTruthy {slot : Slot} {component : Component} {content : Option Component}
    (h : slot.Fills (some component) content) (htruthy : component.isTruthy = true) :
    content = some component := by
  cases h with
  | builder uses => rw [uses.eq_of_isTruthy htruthy]
  | capability hkind => rfl

/-- Each slot looks its name up among the components of its own kind.  So one name stands for a
builder and for a capability, and the second slot is at fault where it asks for a third kind; the
unknown name in the fourth slot does not come up then. -/
theorem createSpec_slots_sharedName :
    (∃ s, (sharedNameFactory.createSpec mendingRequest).outcome = .ok s ∧
        s.contextBuilder = some (.bundled .context .atmos) ∧
        s.sync = some .shareUrls ∧ s.async = some .s3Client) ∧
      (sharedNameFactory.createSpec spoilingRequest).outcome
        = .error (.ofFault (.unregistered "propertiesbuilder" "x" (some "p")
          (some "p.propertiesbuilder"))) ∧
      (sharedNameFactory.createSpec { spoilingRequest with provider := none }).outcome
        = .error (.ofFault .providerMissing) := by
  have hregistry : sharedNameFactory.registry = Registry.empty.after sharedNameHistory := rfl
  have hslots := fun r => createSpec_slots hregistry r none
  refine ⟨?_, ?_, ((hslots _).1 (.inl rfl)).1⟩
  · obtain ⟨hgranted, hcontent, -⟩ := (hslots mendingRequest).2 "p" rfl (by decide)
    obtain ⟨s, hs⟩ := hgranted.mpr fun slot => ⟨_, holds_mendingRequest slot⟩
    have hfills : ∀ slot : Slot, slot.Fills (mendedContent slot) (slot.content s) := by
      intro slot
      obtain ⟨named?, hholds, hfills⟩ := hcontent s hs slot
      rwa [hholds.unique (holds_mendingRequest slot)] at hfills
    exact ⟨s, hs, fills_eq_of_isTruthy (hfills .contextBuilder) rfl,
      fills_eq_of_isTruthy (hfills .sync) rfl, fills_eq_of_isTruthy (hfills .async) rfl⟩
  · have hkey : (sharedNameFactory.layered spoilingRequest).get
        (Configuration.key "p" Slot.propertiesBuilder.setting) none = some "x " := by
      decide +kernel
    have hearlier : (sharedNameFactory.layered spoilingRequest).get
        (Configuration.key "p" Slot.contextBuilder.setting) none = some " x\t" := by
      decide +kernel
    refine (((hslots spoilingRequest).2 "p" rfl (by decide)).2.2 _).mpr
      ⟨.propertiesBuilder, _, fun earlier hbefore => ?_,
        .unknown hkey (by decide +kernel) (by decide +kernel), rfl, by decide +kernel⟩
    rw [List.mem_singleton.mp hbefore]
    exact ⟨_, .bound hearlier (by decide +kernel) (by decide +kernel)⟩

/-- A class that counts as false, since classes of its class have a length and its own is zero. -/
def hollowClass : Component := .extension { name := "Hollow", isTruthy := false }

/-- A factory with this class for the builder of a provider's contexts. -/
def hollowFactory : Factory where
  configuration := ⟨[Dictionary.ofList [("p.contextbuilder", some "x")]]⟩
  registry := Registry.empty.after [⟨"contextbuilder", "x", some hollowClass⟩]

/-- **A class that is registered and named is not always in the spec.**  The name is known, so the
request is granted, and the slot is filled with the generic builder. -/
theorem hollowClass_replaced :
    hollowClass.isClass = true ∧
      hollowFactory.registry.look (hollowFactory.layered { provider := some "p" }) "p"
        .contextBuilder = .ok (some hollowClass) ∧
      ∃ s, (hollowFactory.createSpec { provider := some "p" }).outcome = .ok s ∧
        s.contextBuilder = some (.bundled .context .generic) := by
  have hlook : hollowFactory.registry.look (hollowFactory.layered { provider := some "p" }) "p"
      .contextBuilder = .ok (some hollowClass) := by decide +kernel
  have hgranted : ((hollowFactory.createSpec { provider := some "p" }).outcome.map
      Spec.contextBuilder) = .ok (some (.bundled .context .generic)) := by decide +kernel
  refine ⟨rfl, hlook, ?_⟩
  cases h : (hollowFactory.createSpec { provider := some "p" }).outcome with
  | error failure =>
    rw [h] at hgranted
    cases hgranted
  | ok s =>
    rw [h] at hgranted
    exact ⟨s, rfl, Except.ok.inj hgranted⟩

end Factory

end CloudAccess
