/-
# Texts that fit on a line

Joiners and emoji selectors change the room of what stands beside them.  A text without either is
loose: its width is the sum of the widths of its characters (`cells_eq_sum`), so widths add up
wherever such texts are put together.

A text that fits into a line stays on one line whatever its words are (`lines_of_fits`), because
each word finds the room that is left for it and for all after it (`foldl_add_of_fits`).  What is
left to do is to fill the line up with spaces, at its end (`leftAligned_of_fits`) or on both sides
(`centred_of_fits`).
-/
import Mathlib.Algebra.BigOperators.Group.List.Basic
import Mathlib.Algebra.GroupWithZero.Nat
import CloudAccess.Console.Wrap
import CloudAccess.Proofs.Text.Pieces

namespace CloudAccess

namespace Text

/-! ## 1. Widths that add up -/

/-- No character of the text changes the room of another. -/
def Loose (t : Text) : Prop := ∀ c ∈ t, c.isJoiner = false ∧ c.isEmojiSelector = false

instance (t : Text) : Decidable t.Loose :=
  inferInstanceAs (Decidable (∀ c ∈ t, c.isJoiner = false ∧ c.isEmojiSelector = false))

theorem Loose.append {s t : Text} (hs : s.Loose) (ht : t.Loose) : (s ++ t).Loose := by
  intro c hc
  rcases List.mem_append.mp hc with hc | hc
  · exact hs c hc
  · exact ht c hc

theorem loose_replicate {c : CodePoint} (n : Nat) (hjoiner : c.isJoiner = false)
    (hselector : c.isEmojiSelector = false) : Loose (List.replicate n c) := by
  intro d hd
  rw [List.eq_of_mem_replicate hd]
  exact ⟨hjoiner, hselector⟩

theorem loose_spaces (n : Nat) : (spaces n).Loose := loose_replicate n (by decide) (by decide)

theorem cellsFrom_of_loose {t : Text} (h : t.Loose) (last? : Option CodePoint) :
    cellsFrom false last? t = (t.map CodePoint.cells).sum := by
  induction t generalizing last? with
  | nil => rfl
  | cons c rest ih =>
    obtain ⟨hjoiner, hselector⟩ := h c List.mem_cons_self
    have hrest : Loose rest := fun d hd => h d (List.mem_cons_of_mem _ hd)
    rw [cellsFrom, hjoiner, hselector, if_neg Bool.false_ne_true, if_neg Bool.false_ne_true,
      if_neg Bool.false_ne_true, ih hrest, List.map_cons, List.sum_cons]

/-- **The width of a loose text is the sum of the widths of its characters.** -/
theorem cells_eq_sum {t : Text} (h : t.Loose) : t.cells = (t.map CodePoint.cells).sum :=
  cellsFrom_of_loose h none

theorem cells_append {s t : Text} (hs : s.Loose) (ht : t.Loose) :
    (s ++ t).cells = s.cells + t.cells := by
  rw [cells_eq_sum (hs.append ht), cells_eq_sum hs, cells_eq_sum ht, List.map_append,
    List.sum_append]

theorem cells_replicate {c : CodePoint} (n : Nat) (hjoiner : c.isJoiner = false)
    (hselector : c.isEmojiSelector = false) : cells (List.replicate n c) = n * c.cells := by
  rw [cells_eq_sum (loose_replicate n hjoiner hselector), List.map_replicate, List.sum_replicate]
  rfl

@[simp] theorem cells_spaces (n : Nat) : (spaces n).cells = n := by
  rw [spaces, cells_replicate n (by decide) (by decide), CodePoint.cells_eq_one (by decide),
    Nat.mul_one]

theorem spaces_append_spaces (m n : Nat) : spaces m ++ spaces n = spaces (m + n) :=
  List.replicate_append_replicate

theorem spaces_append_spaces_append (m n : Nat) (t : Text) :
    spaces m ++ (spaces n ++ t) = spaces (m + n) ++ t := by
  rw [← List.append_assoc, spaces_append_spaces]

/-- A text with spaces behind it, up to a width. -/
theorem fit_of_le {t : Text} {width : Nat} (h : t.cells ≤ width) :
    t.fit width = t ++ spaces (width - t.cells) := by
  rw [fit, if_pos h]

/-- A text that fills its place is left alone. -/
theorem fit_of_eq {t : Text} {width : Nat} (h : t.cells = width) : t.fit width = t := by
  rw [fit_of_le h.le, h, Nat.sub_self, spaces, List.replicate_zero, List.append_nil]

end Text

namespace Console.Wrap

/-! ## 2. Words on a line -/

variable {overflow : Overflow} {width : Nat}

theorem flatten_wordsFrom (word : Text) (ended : Bool) (t : Text) :
    (wordsFrom word ended t).flatten = word.reverse ++ t := by
  induction t generalizing word ended with
  | nil => simp [wordsFrom]
  | cons c rest ih =>
    rw [wordsFrom]
    split
    · rw [ih, List.reverse_cons, List.append_assoc, List.singleton_append]
    · split
      · rw [List.flatten_cons, ih]
        rfl
      · rw [ih, List.reverse_cons, List.append_assoc, List.singleton_append]

/-- Nothing is lost between the words. -/
theorem flatten_words (t : Text) : (words t).flatten = t := by
  rw [words, flatten_wordsFrom, List.reverse_reverse, List.takeWhile_append_dropWhile]

theorem loose_trimEnd {word : Text} (h : word.Loose) (p : CodePoint → Bool) :
    (Text.trimEnd p word).Loose := by
  obtain ⟨tail, hword, -⟩ := Text.trimEnd_append p word
  intro c hc
  exact h c (by rw [hword]; exact List.mem_append_left _ hc)

/-- A word needs no more room without its blanks. -/
theorem cells_trimEnd_le {word : Text} (h : word.Loose) (p : CodePoint → Bool) :
    (Text.trimEnd p word).cells ≤ word.cells := by
  obtain ⟨tail, hword, -⟩ := Text.trimEnd_append p word
  have htail : tail.Loose := fun c hc => h c (by rw [hword]; exact List.mem_append_right _ hc)
  have hsum := Text.cells_append (loose_trimEnd h p) htail
  rw [← hword] at hsum
  omega

/-- A word that fits behind what is on the line goes there. -/
theorem add_of_fits {f : Filling} {word : Text} (hloose : word.Loose)
    (hfits : f.used + word.cells ≤ width) :
    f.add overflow width word = ⟨f.finished, f.line ++ word, f.used + word.cells⟩ := by
  have := cells_trimEnd_le hloose CodePoint.isBlank
  rw [Filling.add]
  exact if_pos (by omega)

/-- Words that fit together go on one line together. -/
theorem foldl_add_of_fits {ws : List Text} {f : Filling} (hloose : ∀ word ∈ ws, word.Loose)
    (hfits : f.used + (ws.map Text.cells).sum ≤ width) :
    ws.foldl (Filling.add overflow width) f
      = ⟨f.finished, f.line ++ ws.flatten, f.used + (ws.map Text.cells).sum⟩ := by
  induction ws generalizing f with
  | nil => simp
  | cons word ws ih =>
    rw [List.map_cons, List.sum_cons] at hfits
    rw [List.foldl_cons, add_of_fits (hloose word List.mem_cons_self) (by omega),
      ih (fun w hw => hloose w (List.mem_cons_of_mem _ hw)) (by dsimp only; omega)]
    simp [List.append_assoc, Nat.add_assoc]

theorem sum_cells_of_flatten {ws : List Text} (hloose : ∀ word ∈ ws, word.Loose) :
    (ws.map Text.cells).sum = Text.cells ws.flatten := by
  induction ws with
  | nil => rfl
  | cons word ws ih =>
    have hrest : ∀ w ∈ ws, w.Loose := fun w hw => hloose w (List.mem_cons_of_mem _ hw)
    have hflat : Text.Loose ws.flatten := by
      intro c hc
      obtain ⟨w, hw, hcw⟩ := List.mem_flatten.mp hc
      exact hrest w hw c hcw
    rw [List.map_cons, List.sum_cons, ih hrest, List.flatten_cons,
      Text.cells_append (hloose word List.mem_cons_self) hflat]

/-- **A text that fits into the width is not broken.** -/
theorem breakLine_of_fits {t : Text} (hloose : t.Loose) (hfits : t.cells ≤ width) :
    breakLine overflow width t = [t] := by
  have hwords : ∀ word ∈ words t, word.Loose := by
    intro word hword c hc
    exact hloose c (by rw [← flatten_words t]; exact List.mem_flatten.mpr ⟨word, hword, hc⟩)
  have hsum : ((words t).map Text.cells).sum = t.cells := by
    rw [sum_cells_of_flatten hwords, flatten_words]
  rw [breakLine, foldl_add_of_fits hwords (by simpa [hsum] using hfits), flatten_words]
  rfl

/-! ## 3. A whole text on one line -/

/-- Behind a character that is no blank no blanks hang over. -/
theorem takeWhile_reverse_of_getLast? {t : Text} (h : ∀ c ∈ t.getLast?, c.isBlank = false) :
    t.reverse.takeWhile CodePoint.isBlank = [] := by
  rw [← List.head?_reverse] at h
  cases hr : t.reverse with
  | nil => rfl
  | cons c rest =>
    rw [hr] at h
    rw [List.takeWhile_cons, h c rfl, if_neg Bool.false_ne_true]

theorem trimEnd_of_getLast? {t : Text} (h : ∀ c ∈ t.getLast?, c.isBlank = false) :
    Text.trimEnd CodePoint.isBlank t = t := by
  have hsplit := List.takeWhile_append_dropWhile (p := CodePoint.isBlank) (l := t.reverse)
  rw [takeWhile_reverse_of_getLast? h, List.nil_append] at hsplit
  rw [Text.trimEnd, hsplit, List.reverse_reverse]

theorem dropOverhang_of_getLast? {t : Text} (h : ∀ c ∈ t.getLast?, c.isBlank = false) :
    dropOverhang width t = t := by
  rw [dropOverhang, takeWhile_reverse_of_getLast? h, List.length_nil, Nat.zero_min, Nat.sub_zero,
    List.take_length]

/-- The text is a line: it holds no line feed and no tab, and does not end in a blank. -/
structure IsLine (t : Text) : Prop where
  loose : t.Loose
  lineFeed : CodePoint.ofNat 0x0A ∉ t
  tab : CodePoint.ofNat 0x09 ∉ t
  final : ∀ c ∈ t.getLast?, c.isBlank = false

/-- **A line that fits stays as it is.** -/
theorem lines_of_fits {t : Text} (h : IsLine t) (hfits : t.cells ≤ width) :
    lines overflow width t = [t] := by
  rw [lines, Text.splitOn_of_notMem h.lineFeed, List.flatMap_singleton, expandTabs,
    Text.splitOn_of_notMem h.tab, expandFrom, breakLine_of_fits h.loose hfits, List.map_singleton,
    dropOverhang_of_getLast? h.final]

theorem cutOff_of_fits {t : Text} (hfits : t.cells ≤ width) : cutOff overflow width t = t := by
  unfold cutOff
  exact if_pos hfits

theorem leftAligned_of_fits {t : Text} (hloose : t.Loose) (hfits : t.cells ≤ width) :
    leftAligned overflow width t = t ++ Text.spaces (width - t.cells) := by
  rw [leftAligned, cutOff_of_fits hfits, Text.fit_of_le hfits]
  apply Text.fit_of_eq
  rw [Text.cells_append hloose (Text.loose_spaces _), Text.cells_spaces]
  omega

/-- The spaces before a text in the middle of its place are half of those that are left. -/
theorem centred_of_fits {t : Text} (h : IsLine t) (hfits : t.cells ≤ width) :
    centred overflow width t
      = Text.spaces ((width - t.cells) / 2) ++ t ++
          Text.spaces (width - t.cells - (width - t.cells) / 2) := by
  have hcells : (Text.spaces ((width - t.cells) / 2) ++ t).cells
      = (width - t.cells) / 2 + t.cells := by
    rw [Text.cells_append (Text.loose_spaces _) h.loose, Text.cells_spaces]
  rw [centred, trimEnd_of_getLast? h.final, cutOff_of_fits hfits,
    Text.fit_of_le (by rw [hcells]; omega), hcells, Nat.sub_add_eq, Nat.sub_right_comm]

end Console.Wrap

end CloudAccess
