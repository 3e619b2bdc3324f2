/-
# Providers do not get in each other's way

A configuration holds the settings of many providers side by side, under keys that begin with the
provider's name.  A spec of one of them is made from its own eight keys, so a layer that has none of
these can be put into the stack at any place, or among the overrides of a call, and the call has the
same outcome: the same spec, or the same fault with all that is told in it (`createSpec_of_silent`).

Names of providers may hold dots, and one may begin with another.  Their keys are still apart,
because a setting has no dot in it and what follows the last dot of a key is the setting
(`key_inj`): a layer of one provider's settings is silent on every other provider.
-/
import CloudAccess.Proofs.Factory.Agreement
import CloudAccess.Proofs.Text.Pieces

namespace CloudAccess

/-! ## 1. Layers that are silent on a provider -/

namespace Configuration

/-- The layer has none of the keys of a provider. -/
def SilentOn (provider : Text) (layer : Settings) : Prop :=
  ∀ setting ∈ settingNames, key provider setting ∉ layer.keys

/-- The layer has keys of one provider only. -/
def IsAbout (provider : Text) (layer : Settings) : Prop :=
  ∀ k ∈ layer.keys, ∃ setting ∈ settingNames, k = key provider setting

instance (provider : Text) (layer : Settings) : Decidable (SilentOn provider layer) :=
  inferInstanceAs (Decidable (∀ setting ∈ settingNames, key provider setting ∉ layer.keys))

instance (provider : Text) (layer : Settings) : Decidable (IsAbout provider layer) :=
  inferInstanceAs
    (Decidable (∀ k ∈ layer.keys, ∃ setting ∈ settingNames, k = key provider setting))

theorem dot_notMem_settingNames : ∀ setting ∈ settingNames, CodePoint.ofChar '.' ∉ setting := by
  decide +kernel

/-- **A key tells its provider and its setting**, since the last dot of the key parts them. -/
theorem key_inj {provider other setting otherSetting : Text} (h : setting ∈ settingNames)
    (hother : otherSetting ∈ settingNames) :
    key provider setting = key other otherSetting ↔ provider = other ∧ setting = otherSetting := by
  have hkey : ∀ p s : Text, key p s = p ++ CodePoint.ofChar '.' :: s := fun p s =>
    List.append_assoc p _ s
  rw [hkey, hkey]
  exact Text.append_cons_inj (dot_notMem_settingNames setting h)
    (dot_notMem_settingNames otherSetting hother)

/-- What is about one provider is silent on every other. -/
theorem IsAbout.silentOn {provider other : Text} {layer : Settings} (h : IsAbout other layer)
    (hne : other ≠ provider) : SilentOn provider layer := by
  intro setting hsetting hmem
  obtain ⟨otherSetting, hother, heq⟩ := h _ hmem
  exact hne ((key_inj hsetting hother).mp heq).1.symm

theorem SilentOn.get?_eq_none {provider setting : Text} {layer : Settings}
    (h : SilentOn provider layer) (hsetting : setting ∈ settingNames) :
    layer.get? (key provider setting) = none := by
  cases hget : layer.get? (key provider setting) with
  | none => rfl
  | some value =>
    refine absurd ?_ (h setting hsetting)
    rw [← Dictionary.contains_iff, Dictionary.contains, hget]
    rfl

/-! ## 2. Configurations with such a layer -/

/-- A layer that does not have a key makes no difference to it, wherever the layer stands. -/
theorem get?_insert_layer (lower upper : List Settings) {layer : Settings} {k : Text}
    (h : layer.get? k = none) :
    (⟨lower ++ layer :: upper⟩ : Configuration).get? k
      = (⟨lower ++ upper⟩ : Configuration).get? k := by
  simp only [get?, List.reverse_append, List.reverse_cons, List.append_assoc,
    List.findSome?_append, List.findSome?_singleton, h, Option.none_or]

/-- Settings that have the same for the keys of a provider, on configurations that do so too. -/
theorem agreeOn_withLayer_of_eq {provider : Text} {c d : Configuration} {o q : Option Settings}
    (hc : AgreeOn provider c d)
    (h : ∀ setting ∈ settingNames, o.bind (·.get? (key provider setting))
      = q.bind (·.get? (key provider setting))) :
    AgreeOn provider (c.withLayer o) (d.withLayer q) := by
  intro setting hsetting
  rw [get?_withLayer, get?_withLayer, h setting hsetting, hc setting hsetting]

end Configuration

/-! ## 3. The outcome of a call -/

open Configuration (AgreeOn IsAbout SilentOn settingNames)

namespace Factory

/-- A call has the same response where it is resolved alike and logged by the same logger. -/
theorem createSpec_congr {f g : Factory} {r q : Request} (hresolve : f.resolve r = g.resolve q)
    (hlogger : f.logger = g.logger) : f.createSpec r = g.createSpec q := by
  rw [createSpec, createSpec, hresolve]
  simp only [resolvedRecord, hlogger]

/-- The overrides of a call with a layer among them, on either side, have the same for the keys of
a provider that the layer is silent on. -/
theorem get?_merge_of_none {overrides : Option Settings} {layer : Settings} {k : Text}
    (h : layer.get? k = none) :
    ((overrides.getD Dictionary.empty).merge layer).get? k = overrides.bind (·.get? k) ∧
      (layer.merge (overrides.getD Dictionary.empty)).get? k = overrides.bind (·.get? k) := by
  rw [Dictionary.get?_merge, Dictionary.get?_merge, h]
  cases overrides with
  | none => exact ⟨rfl, rfl⟩
  | some o => exact ⟨Option.none_or, Option.or_none⟩

/-- **What has none of a provider's keys makes no difference to it.**  A layer that is silent on the
provider of a call can be put into the stack at any place, or among the overrides below or above
them, and the response is the same.  All layers about another provider are silent on this one,
whatever the two names have in common. -/
theorem createSpec_of_silent (f : Factory) (lower upper : List Settings) (layer : Settings)
    {r : Request} {provider : Text} (hprovider : r.provider = some provider) :
    (SilentOn provider layer →
      { f with configuration := ⟨lower ++ layer :: upper⟩ }.createSpec r
          = { f with configuration := ⟨lower ++ upper⟩ }.createSpec r ∧
        f.createSpec { r with overrides := some ((r.overrides.getD Dictionary.empty).merge layer) }
          = f.createSpec r ∧
        f.createSpec { r with overrides := some (layer.merge (r.overrides.getD Dictionary.empty)) }
          = f.createSpec r) ∧
      ∀ other, other ≠ provider → IsAbout other layer → SilentOn provider layer := by
  refine ⟨fun hsilent => ?_, fun other hne habout => habout.silentOn hne⟩
  have hnone : ∀ setting ∈ settingNames, layer.get? (Configuration.key provider setting) = none :=
    fun setting hsetting => hsilent.get?_eq_none hsetting
  have hsame : ∀ name, r.provider = some name → name = provider := fun name hname =>
    Option.some.inj (hname.symm.trans hprovider)
  refine ⟨createSpec_congr (resolve_congr rfl rfl rfl rfl fun name hname => ?_) rfl,
    createSpec_congr (resolve_congr rfl rfl rfl rfl fun name hname => ?_) rfl,
    createSpec_congr (resolve_congr rfl rfl rfl rfl fun name hname => ?_) rfl⟩
  all_goals obtain rfl := hsame name hname
  · exact Configuration.agreeOn_withLayer_of_eq
      (fun setting hsetting => Configuration.get?_insert_layer lower upper (hnone setting hsetting))
      fun setting hsetting => rfl
  · exact Configuration.agreeOn_withLayer_of_eq (fun setting _ => rfl) fun setting hsetting =>
      (get?_merge_of_none (hnone setting hsetting)).1
  · exact Configuration.agreeOn_withLayer_of_eq (fun setting _ => rfl) fun setting hsetting =>
      (get?_merge_of_none (hnone setting hsetting)).2

/-- A provider whose clients have a type that nobody has registered. -/
def parentSettings : Settings :=
  Dictionary.ofList [("a.endpoint", some "https://a.example.com"), ("a.sync", some " unknown ")]

/-- A provider whose name begins with the name of the first one. -/
def childSettings : Settings :=
  Dictionary.ofList [("a.b.endpoint", some "https://b.example.com"), ("a.b.sync", some "s3.client"),
    ("a.b.credential", some "c2VjcmV0"), ("a.b.contextbuilder", some "s3")]

/-- A factory over the first provider. -/
def parentFactory : Factory where
  configuration := ⟨[parentSettings]⟩
  registry := Registry.bundled

theorem isAbout_childSettings : IsAbout "a.b" childSettings := by decide +kernel

/-- The settings of `a.b` are silent on `a`, and calls for `a` fail with them as without them. -/
theorem createSpec_of_silent_child :
    SilentOn "a" childSettings ∧
      { parentFactory with configuration := ⟨[parentSettings, childSettings]⟩ }.createSpec
          { provider := some "a" } = parentFactory.createSpec { provider := some "a" } ∧
      ({ parentFactory with configuration := ⟨[parentSettings, childSettings]⟩ }.createSpec
          { provider := some "a" }).outcome
        = .error (.ofFault (.unregistered "capability" "unknown" (some "a") (some "a.sync"))) := by
  obtain ⟨hsame, habout⟩ := createSpec_of_silent parentFactory [parentSettings] [] childSettings
    (r := { provider := some "a" }) rfl
  have hsilent := habout "a.b" (by decide +kernel) isAbout_childSettings
  obtain ⟨hinserted, -, -⟩ := hsame hsilent
  refine ⟨hsilent, hinserted, ?_⟩
  rw [show ([parentSettings, childSettings] : List Settings) = [parentSettings] ++ [childSettings]
    from rfl, hinserted]
  decide +kernel

end Factory

end CloudAccess
