/-
# All views of a configuration agree

A stack of settings can be looked at key by key from the top, or all at once, merged from the
bottom; and `contains` looks at its layers from the bottom, one after the other.  Whichever way is
taken, the same is found: each is related to the merged view, by induction on the stack from its
upper end, since that is the end where layers are added.

The settings of a provider are the merged view under keys that begin alike.  What is left of such a
key tells which key it was, so none are lost and none run together (`get?_providerSettings`).

Two layers can be added one after the other or as one (`views_agree`).
-/
import CloudAccess.Proofs.Configuration.Layers

namespace CloudAccess.Configuration

/-! ## 1. Key by key and all at once -/

theorem get?_flatten (c : Configuration) (key : Text) : c.flatten.get? key = c.get? key := by
  obtain ⟨layers⟩ := c
  induction layers using List.reverseRecOn with
  | nil => rfl
  | append_singleton layers layer ih =>
    rw [flatten_concat, Dictionary.get?_merge, ih, get?_concat]

theorem contains_eq (c : Configuration) (key : Text) : c.contains key = (c.get? key).isSome := by
  rw [contains, get?, List.isSome_findSome?, List.any_reverse]
  rfl

/-- **The keys stand where they first come from below.** -/
theorem keys_flatten (c : Configuration) :
    c.flatten.keys = (c.layers.flatMap Dictionary.keys).eraseDups := by
  obtain ⟨layers⟩ := c
  induction layers using List.reverseRecOn with
  | nil => rfl
  | append_singleton layers layer ih =>
    have hnew (old : List Text) : layer.keys.removeAll old = layer.keys.filter (· ∉ old) := by
      rw [List.removeAll]
      refine List.filter_congr fun key _ => ?_
      simp
    have hnodup (p : Text → Bool) : (layer.keys.filter p).Nodup := layer.nodup.filter p
    rw [flatten_concat, Dictionary.keys_merge, ih, List.flatMap_append, List.flatMap_singleton,
      List.eraseDups_append, hnew, eraseDups_of_nodup (hnodup _)]
    simp only [List.mem_eraseDups]

/-! ## 2. The settings of a provider -/

/-- What is left of a text tells which text it was. -/
theorem dropStart?_injective {piece t u rest : Text} (ht : rest ∈ Text.dropStart? piece t)
    (hu : rest ∈ Text.dropStart? piece u) : t = u :=
  (Text.dropStart?_eq_some_iff.mp ht).trans (Text.dropStart?_eq_some_iff.mp hu).symm

/-- **A provider's setting is found under its key,** and under no other. -/
theorem get?_providerSettings (c : Configuration) (provider setting : Text) :
    (c.providerSettings provider).get? setting = c.get? (key provider setting) := by
  have hrest : Text.dropStart? (provider ++ ".") (key provider setting) = some setting :=
    Text.dropStart?_eq_some_iff.mpr rfl
  rw [← get?_flatten]
  exact Dictionary.get?_ofList_filterMap (fun _ _ _ => dropStart?_injective) c.flatten hrest

/-! ## 3. Layers one after the other -/

/-- Two layers as one; either may be missing, and the second wins. -/
def together (lower upper : Option Settings) : Settings :=
  (lower.getD Dictionary.empty).merge (upper.getD Dictionary.empty)

/-- Two configurations that look the same in every way, the order of keys included.  How many
layers they have may differ. -/
structure LooksLike (c d : Configuration) : Prop where
  get_eq : ∀ key fallback, c.get key fallback = d.get key fallback
  contains_eq : ∀ key, c.contains key = d.contains key
  flatten_eq : c.flatten = d.flatten
  keys_eq : c.keys = d.keys
  size_eq : c.size = d.size
  providerSettings_eq : ∀ provider, c.providerSettings provider = d.providerSettings provider

/-- What a configuration looks like is settled by its merged view. -/
theorem looksLike_of_flatten {c d : Configuration} (h : c.flatten = d.flatten) : LooksLike c d where
  get_eq key fallback := by rw [get, get, ← get?_flatten, ← get?_flatten, h]
  contains_eq key := by rw [contains_eq, contains_eq, ← get?_flatten, ← get?_flatten, h]
  flatten_eq := h
  keys_eq := by rw [keys, keys, h]
  size_eq := by rw [size, size, h]
  providerSettings_eq provider := by rw [providerSettings, providerSettings, h]

theorem flatten_withLayer_withLayer (c : Configuration) (lower upper : Option Settings) :
    ((c.withLayer lower).withLayer upper).flatten
      = (c.withLayer (some (together lower upper))).flatten := by
  rw [flatten_withLayer, flatten_withLayer, flatten_withLayer, Dictionary.merge_assoc]
  rfl

/-- **All views of a configuration agree.**  A key is looked up, and contained, alike in the stack
and in the merged view; the keys are those of all layers, each once, where it first comes from
below; a provider has the settings whose keys are contained, with their values.  And two layers,
of which any may be empty or missing, look like the one layer that they make together. -/
theorem views_agree (c : Configuration) :
    (∀ key fallback, c.get key fallback = (c.flatten.get? key).getD fallback) ∧
      (∀ key, c.contains key = c.flatten.contains key) ∧
      (c.keys = (c.layers.flatMap Dictionary.keys).eraseDups ∧ c.keys.Nodup ∧
        (∀ key, key ∈ c.keys ↔ c.flatten.contains key = true) ∧ c.size = c.keys.length) ∧
      (∀ provider setting, (c.providerSettings provider).get? setting =
        if c.contains (key provider setting) then some (c.get (key provider setting) none)
        else none) ∧
      ∀ lower upper, LooksLike ((c.withLayer lower).withLayer upper)
        (c.withLayer (some (together lower upper))) := by
  refine ⟨fun key fallback => ?_, fun key => ?_,
    ⟨c.keys_flatten, c.flatten.nodup, fun key => ?_, ?_⟩, fun provider setting => ?_,
    fun lower upper => ?_⟩
  · rw [get, get?_flatten]
  · rw [contains_eq, Dictionary.contains, get?_flatten]
  · rw [Dictionary.contains_iff]
    rfl
  · exact c.flatten.length_keys.symm
  · rw [get?_providerSettings, contains_eq, get]
    cases c.get? (key provider setting) with
    | none => rfl
    | some value => rfl
  · exact looksLike_of_flatten (c.flatten_withLayer_withLayer lower upper)

end CloudAccess.Configuration
