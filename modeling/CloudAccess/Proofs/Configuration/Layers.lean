/-
# Layers on top of each other

A configuration is looked up from the top, so a layer that is added answers first
(`get?_withLayer`), and an empty or missing one makes no difference.  Merged from the bottom, the
same layer is put over what is there (`flatten_withLayer`).
-/
import CloudAccess.Configuration.Layers
import CloudAccess.Proofs.Dictionary

namespace CloudAccess.Configuration

/-! ## 1. From the top -/

theorem get?_concat (layers : List Settings) (layer : Settings) (key : Text) :
    get? ⟨layers ++ [layer]⟩ key = (layer.get? key).or (get? ⟨layers⟩ key) := by
  rw [get?, List.reverse_append, List.reverse_singleton, List.singleton_append,
    List.findSome?_cons]
  cases layer.get? key with
  | none => rfl
  | some value => rfl

/-- **The layer on top answers first.** -/
theorem get?_withLayer (c : Configuration) (layer? : Option Settings) (key : Text) :
    (c.withLayer layer?).get? key = (layer?.bind (·.get? key)).or (c.get? key) := by
  cases layer? with
  | none => rfl
  | some layer =>
    rw [withLayer, Option.bind_some]
    cases hempty : layer.isEmpty with
    | true => rw [if_pos rfl, Dictionary.get?_of_isEmpty hempty, Option.none_or]
    | false =>
      rw [if_neg Bool.false_ne_true, get?_concat]

/-! ## 2. From the bottom -/

theorem flatten_concat (layers : List Settings) (layer : Settings) :
    flatten ⟨layers ++ [layer]⟩ = (flatten ⟨layers⟩).merge layer := by
  rw [flatten, List.foldl_append]
  rfl

/-- **The layer on top is put over all others.** -/
theorem flatten_withLayer (c : Configuration) (layer? : Option Settings) :
    (c.withLayer layer?).flatten = c.flatten.merge (layer?.getD Dictionary.empty) := by
  cases layer? with
  | none => exact (c.flatten.merge_of_isEmpty rfl).symm
  | some layer =>
    rw [withLayer, Option.getD_some]
    cases hempty : layer.isEmpty with
    | true => rw [if_pos rfl, Dictionary.merge_of_isEmpty _ hempty]
    | false => rw [if_neg Bool.false_ne_true, flatten_concat]

end CloudAccess.Configuration
