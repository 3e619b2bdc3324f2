/-
# What resolving looks at

Resolving a provider looks at eight keys and no others: the provider's name, a dot and one of the
settings in `settingNames`.  So factories over configurations that agree on these keys resolve a
request to the same spec, or fail with the same fault (`resolve_congr`), and a layer without such
keys can be added or taken away (`agreeOn_withLayer`).
-/
import CloudAccess.Proofs.Configuration.Layers
import CloudAccess.Proofs.Factory.Resolved

namespace CloudAccess

/-! ## 1. The keys of a provider -/

namespace Configuration

/-- The settings of a provider. -/
def settingNames : List Text :=
  ["endpoint", "apiversion", "identity", "credential", Registry.Kind.contextBuilder.name,
    Registry.Kind.propertiesBuilder.name, "sync", "async"]

/-- Two configurations have the same for the keys of a provider. -/
def AgreeOn (provider : Text) (c d : Configuration) : Prop :=
  ∀ setting ∈ settingNames, c.get? (key provider setting) = d.get? (key provider setting)

theorem AgreeOn.get_eq {provider : Text} {c d : Configuration} (h : AgreeOn provider c d)
    {setting : Text} (hsetting : setting ∈ settingNames) (fallback : Option Text) :
    c.get (key provider setting) fallback = d.get (key provider setting) fallback := by
  rw [get, get, h setting hsetting]

/-- A layer without keys of the provider makes no difference to it. -/
theorem agreeOn_withLayer {provider : Text} (c : Configuration) {layer : Settings}
    (h : ∀ setting ∈ settingNames, layer.get? (key provider setting) = none) :
    AgreeOn provider (c.withLayer (some layer)) c := by
  intro setting hsetting
  rw [get?_withLayer, Option.bind_some, h setting hsetting, Option.none_or]

end Configuration

/-! ## 2. Resolving -/

open Configuration (AgreeOn settingNames)

namespace Registry

theorem resolveSetting_congr (r : Registry) {c d : Configuration} {provider setting : Text}
    (kind : Kind) (h : AgreeOn provider c d) (hsetting : setting ∈ settingNames) :
    r.resolveSetting c provider setting kind = r.resolveSetting d provider setting kind := by
  rw [resolveSetting, resolveSetting, h.get_eq hsetting]

theorem resolveBuilders_congr (r : Registry) {c d : Configuration} {provider : Text}
    (h : AgreeOn provider c d) :
    r.resolveBuilders provider c = r.resolveBuilders provider d := by
  rw [resolveBuilders, resolveBuilders,
    r.resolveSetting_congr .contextBuilder h (by simp [settingNames]),
    r.resolveSetting_congr .propertiesBuilder h (by simp [settingNames])]

theorem resolveCapabilities_congr (r : Registry) {c d : Configuration} {provider : Text}
    (h : AgreeOn provider c d) :
    r.resolveCapabilities provider c = r.resolveCapabilities provider d := by
  rw [resolveCapabilities, resolveCapabilities,
    r.resolveSetting_congr .capability h (by simp [settingNames]),
    r.resolveSetting_congr .capability h (by simp [settingNames])]

end Registry

namespace Factory

/-- **Factories that agree on the keys of a provider** resolve it alike, faults included. -/
theorem resolve_congr {f g : Factory} {r q : Request} (hregistry : f.registry = g.registry)
    (hprovider : r.provider = q.provider) (hidentity : r.identity = q.identity)
    (hcredential : r.credential = q.credential)
    (h : ∀ provider, r.provider = some provider →
      AgreeOn provider (f.layered r) (g.layered q)) :
    f.resolve r = g.resolve q := by
  cases hname : r.provider with
  | none =>
    rw [resolve, resolve, ← hprovider, hname]
    rfl
  | some name =>
    have hagree := h name hname
    rcases eq_or_ne name [] with rfl | hne
    · rw [resolve, resolve, ← hprovider, hname]
      rfl
    · rw [resolve_eq hname hne, resolve_eq (hprovider ▸ hname) hne, hregistry, hidentity,
        hcredential, Registry.resolveBuilders_congr _ hagree,
        Registry.resolveCapabilities_congr _ hagree]
      simp only [hagree.get_eq (show ("endpoint" : Text) ∈ settingNames by simp [settingNames]),
        hagree.get_eq (show ("apiversion" : Text) ∈ settingNames by simp [settingNames]),
        hagree.get_eq (show ("identity" : Text) ∈ settingNames by simp [settingNames]),
        hagree.get_eq (show ("credential" : Text) ∈ settingNames by simp [settingNames])]

end Factory

end CloudAccess
