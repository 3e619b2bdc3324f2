/-
# The order of texts

Texts are compared like words in a dictionary, character by character and by the numbers of the
characters.  `le_iff` says so in terms of the order of lists of numbers, which is a linear one, and
so sorting by it (`pairwise_lt_mergeSort`) puts texts that are all different into an order in which
each lies below those after it.
-/
import Mathlib.Data.List.Lex
import CloudAccess.Text.Basic

namespace CloudAccess.Text

/-- The numbers of the characters, by which texts are ordered. -/
def numbers (t : Text) : List Nat := t.map CodePoint.val

theorem numbers_injective {s t : Text} (h : s.numbers = t.numbers) : s = t :=
  List.map_inj_right (fun _ _ => CodePoint.ext) |>.mp h

/-- **Texts are in the order of their characters' numbers.** -/
theorem le_iff {s t : Text} : le s t = true ↔ s.numbers ≤ t.numbers := by
  induction s generalizing t with
  | nil => exact ⟨fun _ => not_lt.mp (List.not_lt_nil _), fun _ => rfl⟩
  | cons a s ih =>
    cases t with
    | nil =>
      constructor
      · intro h
        cases h
      · intro h
        exact absurd (List.nil_lt_cons _ _) (not_lt.mpr h)
    | cons b t =>
      have hcons : numbers (a :: s) ≤ numbers (b :: t) ↔
          a.val < b.val ∨ a.val = b.val ∧ numbers s ≤ numbers t := by
        rw [le_iff_lt_or_eq, le_iff_lt_or_eq]
        simp only [numbers, List.map_cons, List.cons_lt_cons_iff, List.cons.injEq]
        rw [and_or_left, or_assoc]
      rw [le, Bool.or_eq_true, Bool.and_eq_true, decide_eq_true_eq, beq_iff_eq, ih, hcons]

/-- A text is in order before another one or after it. -/
theorem le_total (s t : Text) : (le s t || le t s) = true := by
  rw [Bool.or_eq_true, le_iff, le_iff]
  exact LinearOrder.le_total _ _

theorem le_trans (s t u : Text) (hst : le s t = true) (htu : le t u = true) : le s u = true := by
  rw [le_iff] at hst htu ⊢
  exact hst.trans htu

/-- Of two different texts in order, the first one is below the second. -/
theorem lt_of_le_of_ne {s t : Text} (hle : le s t = true) (hne : s ≠ t) :
    s.numbers < t.numbers :=
  lt_iff_le_and_ne.mpr ⟨le_iff.mp hle, fun h => hne (numbers_injective h)⟩

/-- **Sorted texts lie one below the other**, if they are all different. -/
theorem pairwise_lt_mergeSort {ts : List Text} (h : ts.Nodup) :
    (ts.mergeSort le).Pairwise fun s t => s.numbers < t.numbers := by
  have hsorted : (ts.mergeSort le).Pairwise fun s t => le s t = true :=
    List.pairwise_mergeSort le_trans le_total ts
  have hnodup : (ts.mergeSort le).Nodup := (List.mergeSort_perm ts le).nodup_iff.mpr h
  exact hsorted.imp₂ (fun _ _ => lt_of_le_of_ne) hnodup

end CloudAccess.Text
