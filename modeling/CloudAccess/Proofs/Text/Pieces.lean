/-
# Taking texts apart and putting them together

`splitOn`, `cut?` and `cutLast?` take a text apart at a separator.  Each of them undoes putting
its pieces together, provided that the pieces which have to be found do not hold the separator
themselves: all of them for `splitOn`, the first one for `cut?`, the last one for `cutLast?`.

`splitOn_append_cons` needs no such condition.  It says that a separator anywhere in a text is
a place where the pieces part, and the other laws of `splitOn` follow from it.

Where a text is known only as two parts with a separator between them, there may be several such
pairs; `append_cons_eq_iff` says how two of them are related.
-/
import Mathlib.Data.List.TakeDrop
import Mathlib.Data.List.TakeWhile
import CloudAccess.Text.Basic

namespace CloudAccess.Text

/-! ## 1. Splitting at every separator -/

/-- A separator parts the pieces before it from the pieces after it. -/
theorem splitOn_append_cons (separator : CodePoint) (before after : Text) :
    splitOn separator (before ++ separator :: after)
      = splitOn separator before ++ splitOn separator after := by
  induction before with
  | nil => simp [splitOn]
  | cons c rest ih =>
    rw [List.cons_append, splitOn, splitOn]
    by_cases hc : c = separator
    · rw [if_pos hc, if_pos hc, ih, List.cons_append]
    · rw [if_neg hc, if_neg hc, ih]
      cases hs : splitOn separator rest with
      | nil => exact absurd hs (splitOn_ne_nil separator rest)
      | cons piece pieces => rfl

/-- A text without the separator is one piece. -/
theorem splitOn_of_notMem {separator : CodePoint} {t : Text} (h : separator ∉ t) :
    splitOn separator t = [t] := by
  induction t with
  | nil => rfl
  | cons c rest ih =>
    rw [List.mem_cons, not_or] at h
    rw [splitOn, if_neg (Ne.symm h.1), ih h.2]

theorem join_singleton (separator : CodePoint) (piece : Text) :
    join [separator] [piece] = piece := by
  simp [join, List.intercalate]

theorem join_cons_cons (separator : CodePoint) (piece next : Text) (more : List Text) :
    join [separator] (piece :: next :: more)
      = piece ++ separator :: join [separator] (next :: more) := by
  simp [join, List.intercalate]

/-- **Splitting undoes joining.** -/
theorem splitOn_join {separator : CodePoint} :
    ∀ {pieces : List Text}, pieces ≠ [] → (∀ piece ∈ pieces, separator ∉ piece) →
      splitOn separator (join [separator] pieces) = pieces
  | [], h, _ => absurd rfl h
  | [piece], _, h => by
    rw [join_singleton]
    exact splitOn_of_notMem (h piece List.mem_cons_self)
  | piece :: next :: more, _, h => by
    have ih : splitOn separator (join [separator] (next :: more)) = next :: more :=
      splitOn_join (by simp) fun q hq => h q (List.mem_cons_of_mem _ hq)
    rw [join_cons_cons, splitOn_append_cons, splitOn_of_notMem (h piece List.mem_cons_self), ih]
    rfl

/-- A joined text holds nothing but the characters of its pieces and the separator. -/
theorem mem_join {separator c : CodePoint} {pieces : List Text}
    (h : c ∈ join [separator] pieces) : c = separator ∨ ∃ piece ∈ pieces, c ∈ piece := by
  induction pieces with
  | nil => simp [join, List.intercalate] at h
  | cons piece more ih =>
    cases more with
    | nil => exact Or.inr ⟨piece, by simp, by simpa [join, List.intercalate] using h⟩
    | cons next rest =>
      have hcons : join [separator] (piece :: next :: rest)
          = piece ++ separator :: join [separator] (next :: rest) := by
        simp [join, List.intercalate]
      rw [hcons, List.mem_append, List.mem_cons] at h
      rcases h with h | h | h
      · exact Or.inr ⟨piece, List.mem_cons_self, h⟩
      · exact Or.inl h
      · rcases ih h with h | ⟨q, hq, hc⟩
        · exact Or.inl h
        · exact Or.inr ⟨q, List.mem_cons_of_mem _ hq, hc⟩

/-- The characters of a piece are characters of the text. -/
theorem mem_of_mem_splitOn {separator c : CodePoint} {t piece : Text}
    (hp : piece ∈ splitOn separator t) (hc : c ∈ piece) : c ∈ t := by
  induction t generalizing piece with
  | nil =>
    rw [splitOn, List.mem_singleton] at hp
    rw [hp] at hc
    exact hc
  | cons d rest ih =>
    rw [splitOn] at hp
    split at hp
    · rcases List.mem_cons.mp hp with h | h
      · rw [h] at hc; exact absurd hc List.not_mem_nil
      · exact List.mem_cons_of_mem _ (ih h hc)
    · cases hs : splitOn separator rest with
      | nil => exact absurd hs (splitOn_ne_nil separator rest)
      | cons first more =>
        rw [hs] at hp
        rcases List.mem_cons.mp hp with h | h
        · rw [h] at hc
          rcases List.mem_cons.mp hc with h | h
          · rw [h]; exact List.mem_cons_self
          · exact List.mem_cons_of_mem _ (ih (by rw [hs]; exact List.mem_cons_self) h)
        · exact List.mem_cons_of_mem _ (ih (by rw [hs]; exact List.mem_cons_of_mem _ h) hc)

/-- A piece does not hold the separator. -/
theorem notMem_of_mem_splitOn {separator : CodePoint} {t piece : Text}
    (hp : piece ∈ splitOn separator t) : separator ∉ piece := by
  induction t generalizing piece with
  | nil =>
    rw [splitOn, List.mem_singleton] at hp
    rw [hp]
    exact List.not_mem_nil
  | cons d rest ih =>
    rw [splitOn] at hp
    split at hp
    · rcases List.mem_cons.mp hp with h | h
      · rw [h]; exact List.not_mem_nil
      · exact ih h
    · next hd =>
      cases hs : splitOn separator rest with
      | nil => exact absurd hs (splitOn_ne_nil separator rest)
      | cons first more =>
        rw [hs] at hp
        rcases List.mem_cons.mp hp with h | h
        · rw [h, List.mem_cons, not_or]
          exact ⟨Ne.symm hd, ih (by rw [hs]; exact List.mem_cons_self)⟩
        · exact ih (by rw [hs]; exact List.mem_cons_of_mem _ h)

/-! ## 2. Cutting at the first and at the last separator, and replacing -/

theorem cut?_append_cons {separator : CodePoint} {before : Text} (after : Text)
    (h : separator ∉ before) :
    cut? separator (before ++ separator :: after) = some (before, after) := by
  induction before with
  | nil => simp [cut?]
  | cons c rest ih =>
    rw [List.mem_cons, not_or] at h
    rw [List.cons_append, cut?, if_neg (Ne.symm h.1), ih h.2]
    rfl

theorem cut?_of_notMem {separator : CodePoint} {t : Text} (h : separator ∉ t) :
    cut? separator t = none := by
  induction t with
  | nil => rfl
  | cons c rest ih =>
    rw [List.mem_cons, not_or] at h
    rw [cut?, if_neg (Ne.symm h.1), ih h.2]
    rfl

theorem cutLast?_eq_none_iff {separator : CodePoint} {t : Text} :
    cutLast? separator t = none ↔ separator ∉ t := by
  induction t with
  | nil => simp [cutLast?]
  | cons c rest ih =>
    rw [List.mem_cons, not_or, cutLast?, ← ih]
    cases cutLast? separator rest with
    | some parts => simp
    | none => simp [eq_comm]

theorem cutLast?_append_cons {separator : CodePoint} (before : Text) {after : Text}
    (h : separator ∉ after) :
    cutLast? separator (before ++ separator :: after) = some (before, after) := by
  induction before with
  | nil => rw [List.nil_append, cutLast?, cutLast?_eq_none_iff.mpr h]; exact if_pos rfl
  | cons c rest ih => rw [List.cons_append, cutLast?, ih]

/-- What `cut?` finds: the separator between the two parts, and none in the first. -/
theorem cut?_eq_some {separator : CodePoint} {t before after : Text}
    (h : cut? separator t = some (before, after)) :
    t = before ++ separator :: after ∧ separator ∉ before := by
  induction t generalizing before with
  | nil => simp [cut?] at h
  | cons c rest ih =>
    rw [cut?] at h
    split at h
    · next hc =>
      simp only [Option.some.injEq, Prod.mk.injEq] at h
      obtain ⟨rfl, rfl⟩ := h
      exact ⟨by rw [hc]; rfl, List.not_mem_nil⟩
    · next hc =>
      obtain ⟨⟨first, last⟩, hcut, heq⟩ := Option.map_eq_some_iff.mp h
      simp only [Prod.mk.injEq] at heq
      obtain ⟨rfl, rfl⟩ := heq
      obtain ⟨hrest, hnot⟩ := ih hcut
      refine ⟨by rw [hrest]; rfl, ?_⟩
      rw [List.mem_cons, not_or]
      exact ⟨Ne.symm hc, hnot⟩

/-- What `cutLast?` finds: the separator between the two parts, and none in the last. -/
theorem cutLast?_eq_some {separator : CodePoint} {t before after : Text}
    (h : cutLast? separator t = some (before, after)) :
    t = before ++ separator :: after ∧ separator ∉ after := by
  induction t generalizing before with
  | nil => cases h
  | cons c rest ih =>
    rw [cutLast?] at h
    cases hcut : cutLast? separator rest with
    | some parts =>
      obtain ⟨first, last⟩ := parts
      simp only [hcut, Option.some.injEq, Prod.mk.injEq] at h
      obtain ⟨rfl, rfl⟩ := h
      obtain ⟨hrest, hnot⟩ := ih hcut
      exact ⟨by rw [hrest]; rfl, hnot⟩
    | none =>
      simp only [hcut, Option.ite_none_right_eq_some, Option.some.injEq, Prod.mk.injEq] at h
      obtain ⟨hc, rfl, rfl⟩ := h
      exact ⟨by rw [hc]; rfl, cutLast?_eq_none_iff.mp hcut⟩

/-- A piece that does not occur is not replaced. -/
theorem replaceAll_of_not_infix {old new t : Text} (hold : old ≠ []) (h : ¬ old <:+: t) :
    replaceAll old new t = t := by
  rw [replaceAll, if_neg (by simpa using hold)]
  induction t with
  | nil => rfl
  | cons c rest ih =>
    have hhere : ¬ startsWith (c :: rest) old = true := by
      intro hstarts
      obtain ⟨after, hafter⟩ := startsWith_iff.mp hstarts
      exact h ⟨[], after, by rw [hafter]; rfl⟩
    have hlater : ¬ old <:+: rest := fun hrest => h (hrest.trans (List.suffix_cons c rest).isInfix)
    rw [replaceFrom, if_neg hhere, ih hlater]

/-! ## 3. Leading and trailing characters of a class -/

/-- A text of which the first part belongs to a class, up to a character that does not. -/
theorem span_append {p : CodePoint → Bool} {before after : Text} (h : ∀ c ∈ before, p c = true)
    (hend : ∀ c ∈ after.head?, p c = false) : (before ++ after).span p = (before, after) := by
  rw [List.span_eq_takeWhile_dropWhile, List.takeWhile_append_of_pos h,
    List.dropWhile_append_of_pos h]
  cases after with
  | nil => simp
  | cons c rest =>
    have hc : p c = false := hend c rfl
    simp [hc]

/-- What `trimEnd` takes away belongs to the class. -/
theorem trimEnd_append (p : CodePoint → Bool) (t : Text) :
    ∃ tail : Text, t = trimEnd p t ++ tail ∧ ∀ c ∈ tail, p c = true := by
  refine ⟨(t.reverse.takeWhile p).reverse, ?_, ?_⟩
  · rw [trimEnd, ← List.reverse_append, List.takeWhile_append_dropWhile, List.reverse_reverse]
  · intro c hc
    exact List.mem_takeWhile_imp (List.mem_reverse.mp hc)

/-- Trimming separators from the end leaves the pieces as they are, but for empty ones. -/
theorem splitOn_trimEnd_subset {p : CodePoint → Bool} {separator : CodePoint}
    (hp : ∀ c, p c = true → c = separator) (t : Text) :
    splitOn separator (trimEnd p t) ⊆ splitOn separator t := by
  obtain ⟨tail, ht, htail⟩ := trimEnd_append p t
  cases tail with
  | nil => rw [List.append_nil] at ht; rw [← ht]; exact List.Subset.refl _
  | cons c rest =>
    have hc : c = separator := hp c (htail c List.mem_cons_self)
    rw [hc] at ht
    intro piece hpiece
    rw [ht, splitOn_append_cons]
    exact List.mem_append_left _ hpiece

/-! ## 4. Two ways to cut one text -/

/-- **A text that is cut at a separator in two ways** has the piece between the two cuts in the
front part of one and in the back part of the other. -/
theorem append_cons_eq_iff {separator : CodePoint} {a b c d : Text} :
    a ++ separator :: b = c ++ separator :: d ↔
      (a = c ∧ b = d) ∨
      (∃ w : Text, a = c ++ separator :: w ∧ d = w ++ separator :: b) ∨
      (∃ w : Text, c = a ++ separator :: w ∧ b = w ++ separator :: d) := by
  constructor
  · intro h
    rcases List.append_eq_append_iff.mp h with ⟨w, hc, hb⟩ | ⟨w, ha, hd⟩
    · cases w with
      | nil =>
        rw [List.nil_append, List.cons.injEq] at hb
        exact Or.inl ⟨by rw [hc, List.append_nil], hb.2⟩
      | cons e w =>
        rw [List.cons_append, List.cons.injEq] at hb
        exact Or.inr (Or.inr ⟨w, by rw [hc, hb.1], hb.2⟩)
    · cases w with
      | nil =>
        rw [List.nil_append, List.cons.injEq] at hd
        exact Or.inl ⟨by rw [ha, List.append_nil], hd.2.symm⟩
      | cons e w =>
        rw [List.cons_append, List.cons.injEq] at hd
        exact Or.inr (Or.inl ⟨w, by rw [ha, hd.1], hd.2⟩)
  · rintro (⟨rfl, rfl⟩ | ⟨w, rfl, rfl⟩ | ⟨w, rfl, rfl⟩)
    · rfl
    · rw [List.append_assoc, List.cons_append]
    · rw [List.append_assoc, List.cons_append]

/-- A separator that does not occur in the first of two parts stands in the second. -/
theorem append_eq_append_cons {separator : CodePoint} {s t before after : Text}
    (hs : separator ∉ s) (h : s ++ t = before ++ separator :: after) :
    ∃ w : Text, before = s ++ w ∧ t = w ++ separator :: after := by
  rcases List.append_eq_append_iff.mp h with hw | ⟨w, hw, hrest⟩
  · exact hw
  · cases w with
    | nil => exact ⟨[], by rw [hw, List.append_nil, List.append_nil], hrest.symm⟩
    | cons d w =>
      rw [List.cons_append, List.cons.injEq] at hrest
      exact absurd (by rw [hw, hrest.1]; simp) hs

/-- Where no separator follows, the two cuts are at the same place. -/
theorem append_cons_inj {separator : CodePoint} {a b c d : Text} (hb : separator ∉ b)
    (hd : separator ∉ d) : a ++ separator :: b = c ++ separator :: d ↔ a = c ∧ b = d := by
  rw [append_cons_eq_iff]
  constructor
  · rintro (h | ⟨w, -, rfl⟩ | ⟨w, -, rfl⟩)
    · exact h
    · exact absurd (List.mem_append_right _ List.mem_cons_self) hd
    · exact absurd (List.mem_append_right _ List.mem_cons_self) hb
  · exact Or.inl

/-- A text whose end is also its end with `y` behind it consists of what is in `y`. -/
theorem subset_of_append_eq {a b x y : Text} (hy : y ≠ []) (h : a ++ x = b ++ x ++ y) : x ⊆ y := by
  induction hn : x.length using Nat.strong_induction_on generalizing x with
  | _ n ih =>
    rcases List.append_eq_append_iff.mp h with ⟨w, hw, hx⟩ | ⟨w, -, hyw⟩
    · -- `x` is `y` with a shorter text before it, and that one has the same property
      have hshorter : w.length < n := by
        have hpos : 0 < y.length := List.length_pos_iff.mpr hy
        rw [← hn, hx, List.length_append]
        omega
      have hrepeats : a ++ w = b ++ w ++ y := by
        rw [List.append_assoc, ← hx, hw]
      have hsubset : w ⊆ y := ih w.length hshorter hrepeats rfl
      rw [hx]
      exact List.append_subset.mpr ⟨hsubset, List.Subset.refl y⟩
    · rw [hyw]
      exact List.subset_append_right w x

end CloudAccess.Text
