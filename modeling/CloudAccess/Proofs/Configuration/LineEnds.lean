/-
# Line ends in a document

Before a document is read, every kind of line end becomes a line feed.  For what the document
denotes this makes no difference: a line end stands between its pieces and never within one.

Texts that are the same but for their line ends (`SameLines`) come apart in the same way wherever no
line feed follows, and visible characters are the same in both.  So the pieces of a document
correspond to each other (`written_of_sameLines`), and so do the pieces before an obstacle
(`comesTo_of_sameLines`).
-/
import CloudAccess.Configuration.File
import CloudAccess.Proofs.Json.Soundness

namespace CloudAccess.Configuration

open Json

/-! ## 1. Line ends -/

theorem unifyLineEnds_cons {c : CodePoint} (h : c.val ≠ 0x0D) (rest : Text) :
    unifyLineEnds (c :: rest) = c :: unifyLineEnds rest := by
  rw [unifyLineEnds.eq_def]
  exact if_neg h

theorem unifyLineEnds_pair {c d : CodePoint} (hc : c.val = 0x0D) (hd : d.val = 0x0A)
    (rest : Text) :
    unifyLineEnds (c :: d :: rest) = CodePoint.ofNat 0x0A :: unifyLineEnds rest := by
  rw [unifyLineEnds.eq_def]
  exact (if_pos hc).trans (if_pos hd)

theorem unifyLineEnds_return {c : CodePoint} (hc : c.val = 0x0D) {rest : Text}
    (hrest : ∀ d ∈ rest.head?, d.val ≠ 0x0A) :
    unifyLineEnds (c :: rest) = CodePoint.ofNat 0x0A :: unifyLineEnds rest := by
  rw [unifyLineEnds.eq_def]
  refine (if_pos hc).trans ?_
  cases rest with
  | nil => rfl
  | cons d more => exact if_neg (hrest d rfl)

/-- A carriage return becomes a line feed. -/
theorem exists_unifyLineEnds_return {c : CodePoint} (hc : c.val = 0x0D) (rest : Text) :
    ∃ more, unifyLineEnds (c :: rest) = CodePoint.ofNat 0x0A :: more := by
  rw [unifyLineEnds.eq_def]
  simp only [hc, ↓reduceIte]
  split
  · split
    · exact ⟨_, rfl⟩
    · exact ⟨_, rfl⟩
  · exact ⟨_, rfl⟩

/-- A line end is not torn where the text goes on with something else. -/
theorem unifyLineEnds_append_cons (s rest : Text) {c : CodePoint} (hc : c.val ≠ 0x0A) :
    unifyLineEnds (s ++ c :: rest) = unifyLineEnds s ++ unifyLineEnds (c :: rest) := by
  fun_induction unifyLineEnds s with
  | case1 => rfl
  | case2 a ha d more hd ih =>
    rw [List.cons_append, List.cons_append, unifyLineEnds_pair ha hd, ih, List.cons_append]
  | case3 a ha d more hd ih =>
    rw [List.cons_append, unifyLineEnds_return ha (by simpa using hd), ih, List.cons_append]
  | case4 a ha =>
    rw [List.singleton_append, unifyLineEnds_return ha (by simpa using hc), List.singleton_append]
  | case5 a more ha ih =>
    rw [List.cons_append, unifyLineEnds_cons ha, ih, List.cons_append]

theorem unifyLineEnds_idem (t : Text) : unifyLineEnds (unifyLineEnds t) = unifyLineEnds t := by
  have hfeed : (CodePoint.ofNat 0x0A).val ≠ 0x0D := by decide
  fun_induction unifyLineEnds t with
  | case1 => rfl
  | case2 a ha d more hd ih => rw [unifyLineEnds_cons hfeed, ih]
  | case3 a ha d more hd ih => rw [unifyLineEnds_cons hfeed, ih]
  | case4 a ha => exact unifyLineEnds_cons hfeed []
  | case5 a more ha ih => rw [unifyLineEnds_cons ha, ih]

/-! ## 2. Texts that are the same but for their line ends -/

/-- The texts are the same but for their line ends. -/
def SameLines (t u : Text) : Prop := unifyLineEnds t = unifyLineEnds u

/-- All characters are visible, or blanks within a line. -/
def Visible (w : Text) : Prop := ∀ c ∈ w, 0x20 ≤ c.val

theorem visible_cons {c : CodePoint} {w : Text} :
    Visible (c :: w) ↔ 0x20 ≤ c.val ∧ Visible w := List.forall_mem_cons

theorem visible_append {v w : Text} : Visible (v ++ w) ↔ Visible v ∧ Visible w :=
  List.forall_mem_append

/-- A text that becomes two pieces consists of what becomes the one and what becomes the other. -/
theorem exists_append_of_unifyLineEnds {t x y : Text} (h : unifyLineEnds t = x ++ y) :
    ∃ x' y', t = x' ++ y' ∧ unifyLineEnds x' = x ∧ unifyLineEnds y' = y := by
  fun_induction unifyLineEnds t generalizing x with
  | case1 =>
    obtain ⟨rfl, rfl⟩ := List.append_eq_nil_iff.mp h.symm
    exact ⟨[], [], rfl, rfl, rfl⟩
  | case2 a ha d more hd ih =>
    cases x with
    | nil => exact ⟨[], a :: d :: more, rfl, rfl, by rw [unifyLineEnds_pair ha hd]; exact h⟩
    | cons e x =>
      obtain ⟨rfl, hmore⟩ := List.cons.inj h
      obtain ⟨x', y', rfl, rfl, rfl⟩ := ih hmore
      exact ⟨a :: d :: x', y', rfl, unifyLineEnds_pair ha hd x', rfl⟩
  | case3 a ha d more hd ih =>
    cases x with
    | nil =>
      exact ⟨[], a :: d :: more, rfl, rfl,
        by rw [unifyLineEnds_return ha (by simpa using hd)]; exact h⟩
    | cons e x =>
      obtain ⟨rfl, hmore⟩ := List.cons.inj h
      obtain ⟨x', y', heq, rfl, rfl⟩ := ih hmore
      refine ⟨a :: x', y', congrArg (a :: ·) heq, unifyLineEnds_return ha fun b hb => ?_, rfl⟩
      obtain ⟨rest, rfl⟩ := List.head?_eq_some_iff.mp hb
      rw [← (List.cons.inj heq).1]
      exact hd
  | case4 a ha =>
    cases x with
    | nil => exact ⟨[], [a], rfl, rfl, by rw [unifyLineEnds_return ha (by simp)]; exact h⟩
    | cons e x =>
      obtain ⟨rfl, hmore⟩ := List.cons.inj h
      obtain ⟨rfl, rfl⟩ := List.append_eq_nil_iff.mp hmore.symm
      exact ⟨[a], [], rfl, unifyLineEnds_return ha (by simp), rfl⟩
  | case5 a more ha ih =>
    cases x with
    | nil => exact ⟨[], a :: more, rfl, rfl, by rw [unifyLineEnds_cons ha]; exact h⟩
    | cons e x =>
      obtain ⟨rfl, hmore⟩ := List.cons.inj h
      obtain ⟨x', y', rfl, rfl, rfl⟩ := ih hmore
      exact ⟨a :: x', y', rfl, unifyLineEnds_cons ha x', rfl⟩

/-- A character that is visible is the same in both texts. -/
theorem SameLines.cons_inv {t u : Text} {c : CodePoint} (hc : 0x20 ≤ c.val)
    (h : SameLines t (c :: u)) : ∃ t', t = c :: t' ∧ SameLines t' u := by
  rw [SameLines, unifyLineEnds_cons (by omega)] at h
  cases t with
  | nil => cases h
  | cons d t =>
    have hreturn : d.val ≠ 0x0D := by
      intro hd
      obtain ⟨more, hmore⟩ := exists_unifyLineEnds_return hd t
      rw [hmore] at h
      obtain rfl := (List.cons.inj h).1
      exact absurd hc (by decide)
    rw [unifyLineEnds_cons hreturn] at h
    obtain ⟨rfl, hrest⟩ := List.cons.inj h
    exact ⟨t, rfl, hrest⟩

/-- Visible characters are the same in both texts. -/
theorem SameLines.visible_inv {t w u : Text} (hw : Visible w) (h : SameLines t (w ++ u)) :
    ∃ t', t = w ++ t' ∧ SameLines t' u := by
  induction w generalizing t with
  | nil => exact ⟨t, rfl, h⟩
  | cons c w ih =>
    obtain ⟨hc, hw⟩ := visible_cons.mp hw
    obtain ⟨t', rfl, ht'⟩ := h.cons_inv hc
    obtain ⟨t'', rfl, ht''⟩ := ih hw ht'
    exact ⟨t'', rfl, ht''⟩

/-- Texts come apart in the same way before anything that is no line feed. -/
theorem SameLines.append_inv {t s u : Text} {c : CodePoint} (hc : c.val ≠ 0x0A)
    (h : SameLines t (s ++ c :: u)) :
    ∃ s' t', t = s' ++ t' ∧ SameLines s' s ∧ SameLines t' (c :: u) := by
  rw [SameLines, unifyLineEnds_append_cons s u hc] at h
  exact exists_append_of_unifyLineEnds h

/-- They come apart in the same way after anything that is visible. -/
theorem SameLines.concat_inv {t w u : Text} {c : CodePoint} (hc : 0x20 ≤ c.val)
    (h : SameLines t (w ++ [c] ++ u)) :
    ∃ w' t', t = w' ++ t' ∧ SameLines w' (w ++ [c]) ∧ SameLines t' u := by
  rw [List.append_assoc, List.singleton_append, SameLines,
    unifyLineEnds_append_cons w u (by omega), unifyLineEnds_cons (by omega), List.append_cons] at h
  obtain ⟨w', t', rfl, hw', ht'⟩ := exists_append_of_unifyLineEnds h
  refine ⟨w', t', rfl, ?_, ht'⟩
  rw [SameLines, hw', unifyLineEnds_append_cons w [] (by omega), unifyLineEnds_cons (by omega)]
  rfl

theorem blank_cons {c : CodePoint} {s : Text} :
    Blank (c :: s) ↔ isSpace c = true ∧ Blank s := List.forall_mem_cons

/-- White space stays white space. -/
theorem blank_unifyLineEnds_iff {s : Text} : Blank (unifyLineEnds s) ↔ Blank s := by
  have hfeed : isSpace (CodePoint.ofNat 0x0A) = true := by decide
  have hreturn : ∀ {c : CodePoint}, c.val = 0x0D → isSpace c = true := by
    intro c hc
    simp [isSpace, hc]
  fun_induction unifyLineEnds s with
  | case1 => rfl
  | case2 a ha d more hd ih =>
    have hspace : isSpace d = true := by simp [isSpace, hd]
    simp only [blank_cons, hfeed, hreturn ha, hspace, ih, true_and]
  | case3 a ha d more hd ih => simp only [blank_cons, hfeed, hreturn ha, ih, true_and]
  | case4 a ha => simp only [blank_cons, hfeed, hreturn ha]
  | case5 a more ha ih => simp only [blank_cons, ih]

theorem SameLines.blank {t s : Text} (hs : Blank s) (h : SameLines t s) : Blank t := by
  rw [← blank_unifyLineEnds_iff] at hs ⊢
  rwa [h]

theorem SameLines.eq_nil {t : Text} (h : SameLines t []) : t = [] := by
  cases t with
  | nil => rfl
  | cons c t =>
    by_cases hc : c.val = 0x0D
    · obtain ⟨more, hmore⟩ := exists_unifyLineEnds_return hc t
      rw [SameLines, hmore] at h
      cases h
    · rw [SameLines, unifyLineEnds_cons hc] at h
      cases h

/-- **Visible texts are the same** in both texts. -/
theorem SameLines.eq_of_visible {t w : Text} (hw : Visible w) (h : SameLines t w) : t = w := by
  obtain ⟨t', rfl, ht'⟩ := visible_inv (u := []) hw (by rwa [List.append_nil])
  rw [ht'.eq_nil, List.append_nil]

/-! ## 3. Visible pieces of a document -/

theorem visible_of_hexValue? {c : CodePoint} {v : Nat} (h : c.hexValue? = some v) :
    0x20 ≤ c.val := by
  rw [CodePoint.hexValue?] at h
  split at h
  · next hdigit =>
    rw [CodePoint.isAsciiDigit_iff] at hdigit
    omega
  · split at h
    · omega
    · split at h
      · omega
      · cases h

theorem visible_fourHex {h : Text} {n : Nat} (digits : FourHex h n) : Visible h := by
  obtain ⟨-, -, -, -, -, hvalues⟩ := digits.exists_digits
  intro c hc
  obtain ⟨v, hv⟩ := hvalues c hc
  exact visible_of_hexValue? hv

/-- The letters of simple escapes are visible. -/
theorem visible_of_simpleEscape? {e d : CodePoint} (h : simpleEscape? e = some d) :
    0x20 ≤ e.val := by
  have hnone : ∀ v < 0x20, simpleEscape? (CodePoint.ofNat v) = none := by decide
  by_contra hlow
  rw [← CodePoint.ofNat_val e, hnone e.val (Nat.lt_of_not_le hlow)] at h
  cases h

theorem visible_body {w t : Text} (h : Body w t) : Visible w := by
  induction h with
  | nil => exact nofun
  | plain not_quote not_escape visible rest ih => exact visible_cons.mpr ⟨visible, ih⟩
  | simple letter rest ih =>
    exact visible_cons.mpr ⟨by decide, visible_cons.mpr ⟨visible_of_simpleEscape? letter, ih⟩⟩
  | unicode digits single rest ih =>
    exact visible_cons.mpr ⟨by decide, visible_cons.mpr ⟨by decide,
      visible_append.mpr ⟨visible_fourHex digits, ih⟩⟩⟩
  | pair first second isHigh isLow rest ih =>
    exact visible_cons.mpr ⟨by decide, visible_cons.mpr ⟨by decide,
      visible_append.mpr ⟨visible_fourHex first, visible_cons.mpr ⟨by decide,
        visible_cons.mpr ⟨by decide, visible_append.mpr ⟨visible_fourHex second, ih⟩⟩⟩⟩⟩⟩

theorem visible_digits {ds : Text} (h : Digits ds) : Visible ds := by
  intro c hc
  have := CodePoint.isAsciiDigit_iff.mp (h.2 c hc)
  omega

theorem visible_minus {s : Text} (h : Minus s) : Visible s := by
  rcases h with rfl | rfl
  · exact nofun
  · exact visible_cons.mpr ⟨by decide, nofun⟩

theorem visible_whole {ds : Text} (h : Whole ds) : Visible ds := by
  cases h with
  | zero => exact visible_cons.mpr ⟨by decide, nofun⟩
  | digits ne_zero all => exact visible_digits all

theorem visible_fraction {fraction : Text} (h : Fraction fraction) : Visible fraction := by
  cases h with
  | absent => exact nofun
  | present digits => exact visible_cons.mpr ⟨by decide, visible_digits digits⟩

theorem visible_exponent {exponent : Text} (h : Exponent exponent) : Visible exponent := by
  cases h with
  | absent => exact nofun
  | @present e sign ds letter signed digits =>
    have he : 0x20 ≤ e.val := by
      rcases letter with rfl | rfl <;> decide
    have hsign : Visible sign := by
      rcases signed with rfl | rfl | rfl
      · exact nofun
      · exact visible_cons.mpr ⟨by decide, nofun⟩
      · exact visible_cons.mpr ⟨by decide, nofun⟩
    exact visible_cons.mpr ⟨he, visible_append.mpr ⟨hsign, visible_digits digits⟩⟩

theorem visible_word : ∀ p ∈ words, Visible p.1 := by
  unfold Visible
  decide

theorem visible_scalar {w : Text} {v : Value} (h : Scalar w v) : Visible w := by
  cases h with
  | word known => exact visible_word _ known
  | text body =>
    exact visible_cons.mpr ⟨by decide,
      visible_append.mpr ⟨visible_body body, visible_cons.mpr ⟨by decide, nofun⟩⟩⟩
  | whole sign digits number =>
    exact visible_append.mpr ⟨visible_minus sign, visible_whole digits⟩
  | real sign digits afterPoint power present =>
    exact visible_append.mpr ⟨visible_minus sign, visible_append.mpr ⟨visible_whole digits,
      visible_append.mpr ⟨visible_fraction afterPoint, visible_exponent power⟩⟩⟩

/-! ## 4. Documents -/

/-- White space before something visible is white space in both texts. -/
theorem SameLines.blank_inv {t s u : Text} (hs : Blank s) (hu : ∃ c rest, u = c :: rest ∧ IsHead c)
    (h : SameLines t (s ++ u)) : ∃ s' t', t = s' ++ t' ∧ Blank s' ∧ SameLines t' u := by
  obtain ⟨c, rest, rfl, hc⟩ := hu
  have hfeed : c.val ≠ 0x0A := fun heq => absurd hc.1 (by rw [heq]; decide)
  obtain ⟨s', t', rfl, hs', ht'⟩ := h.append_inv hfeed
  exact ⟨s', t', rfl, hs'.blank hs, ht'⟩

/-- A piece comes apart from the mark after it. -/
theorem SameLines.mark_inv {t w u : Text} {c : CodePoint} (hc : 0x20 ≤ c.val)
    (h : SameLines t (w ++ c :: u)) :
    ∃ w' t', t = w' ++ c :: t' ∧ SameLines w' w ∧ SameLines t' u := by
  obtain ⟨w', t', rfl, hw', ht'⟩ := h.append_inv (show c.val ≠ 0x0A by omega)
  obtain ⟨t'', rfl, ht''⟩ := ht'.cons_inv hc
  exact ⟨w', t'', rfl, hw', ht''⟩

variable {levels : Nat}

/-- A part that is whole ends with something visible. -/
theorem exists_concat_of_written {w : Text} {part : Json.Part} (h : Written levels w part)
    (whole : part.IsWhole) : ∃ w' c, w = w' ++ [c] ∧ 0x20 ≤ c.val := by
  induction h with
  | @scalar _ w v scalar =>
    obtain ⟨c, rest, heq, -⟩ := scalar.head
    have hne : w ≠ [] := by simp [heq]
    exact ⟨w.dropLast, w.getLast hne, (List.dropLast_append_getLast hne).symm,
      visible_scalar scalar _ (List.getLast_mem hne)⟩
  | @emptyList _ s blank => exact ⟨listMark :: s, listEndMark, rfl, by decide⟩
  | @list _ s w vs blank elements =>
    exact ⟨listMark :: (s ++ w), listEndMark, by simp, by decide⟩
  | @emptyObject _ s blank => exact ⟨openMark :: s, closeMark, rfl, by decide⟩
  | @object _ s w ps blank members =>
    exact ⟨openMark :: (s ++ w), closeMark, by simp, by decide⟩
  | ofObject object ih => exact ih trivial
  | _ => exact whole.elim

/-- **A part of a document stays one** when its line ends change. -/
theorem written_of_sameLines {w t : Text} {part : Json.Part} (h : Written levels w part)
    (hsame : SameLines t w) : Written levels t part := by
  induction h generalizing t with
  | scalar scalar =>
    rw [hsame.eq_of_visible (visible_scalar scalar)]
    exact .scalar scalar
  | emptyList blank =>
    obtain ⟨t, rfl, hinside⟩ := hsame.cons_inv (by decide)
    obtain ⟨s, u, rfl, hs, hu⟩ := hinside.mark_inv (by decide)
    rw [hu.eq_nil]
    exact .emptyList (hs.blank blank)
  | list blank elements ih =>
    obtain ⟨t, rfl, hinside⟩ := hsame.cons_inv (by decide)
    obtain ⟨s, t, rfl, hs, hafter⟩ := hinside.blank_inv blank (elements.head_append _)
    obtain ⟨w, u, rfl, hw, hu⟩ := hafter.mark_inv (by decide)
    rw [hu.eq_nil]
    exact .list hs (ih hw)
  | emptyObject blank =>
    obtain ⟨t, rfl, hinside⟩ := hsame.cons_inv (by decide)
    obtain ⟨s, u, rfl, hs, hu⟩ := hinside.mark_inv (by decide)
    rw [hu.eq_nil]
    exact .emptyObject (hs.blank blank)
  | object blank members ih =>
    obtain ⟨t, rfl, hinside⟩ := hsame.cons_inv (by decide)
    obtain ⟨s, t, rfl, hs, hafter⟩ := hinside.blank_inv blank (members.head_append _)
    obtain ⟨w, u, rfl, hw, hu⟩ := hafter.mark_inv (by decide)
    rw [hu.eq_nil]
    exact .object hs (ih hw)
  | ofObject object ih => exact .ofObject (ih hsame)
  | element value blank ih =>
    obtain ⟨w, c, rfl, hc⟩ := exists_concat_of_written value trivial
    obtain ⟨w, s, rfl, hw, hs⟩ := hsame.concat_inv hc
    exact .element (ih hw) (hs.blank blank)
  | lastElement element ih => exact .lastElement (ih hsame)
  | moreElements element blank others ih ihs =>
    obtain ⟨w, t, rfl, hw, hafter⟩ := hsame.mark_inv (by decide)
    obtain ⟨s, t, rfl, hs, hothers⟩ := hafter.blank_inv blank others.head
    exact .moreElements (ih hw) hs (ihs hothers)
  | member body blank₁ blank₂ element ih =>
    obtain ⟨t, rfl, hinside⟩ := hsame.cons_inv (by decide)
    obtain ⟨t, rfl, hquote⟩ := hinside.visible_inv (visible_body body)
    obtain ⟨t, rfl, hcolon⟩ := hquote.cons_inv (by decide)
    obtain ⟨s₁, t, rfl, hs₁, hvalue⟩ := hcolon.mark_inv (by decide)
    obtain ⟨s₂, t, rfl, hs₂, helement⟩ := hvalue.blank_inv blank₂ element.head
    exact .member body (hs₁.blank blank₁) hs₂ (ih helement)
  | lastMember member ih => exact .lastMember (ih hsame)
  | moreMembers member blank others ih ihs =>
    obtain ⟨w, t, rfl, hw, hafter⟩ := hsame.mark_inv (by decide)
    obtain ⟨s, t, rfl, hs, hothers⟩ := hafter.blank_inv blank others.head
    exact .moreMembers (ih hw) hs (ihs hothers)

theorem document_of_sameLines {t u : Text} {part : Json.Part} (whole : part.IsWhole)
    (h : Document levels u part) (hsame : SameLines t u) : Document levels t part := by
  cases h with
  | intro blank₁ written blank₂ =>
    obtain ⟨s₁, t, rfl, hs₁, hwritten⟩ := hsame.blank_inv blank₁ (written.head_append _)
    obtain ⟨w, c, rfl, hc⟩ := exists_concat_of_written written whole
    obtain ⟨w, s₂, rfl, hw, hs₂⟩ := hwritten.concat_inv hc
    exact .intro hs₁ (written_of_sameLines written hw) (hs₂.blank blank₂)

/-- **What a document denotes** does not depend on its line ends. -/
theorem document_unifyLineEnds_iff {t : Text} {v : Value} :
    Document levels (unifyLineEnds t) (.value v) ↔ Document levels t (.value v) :=
  ⟨fun h => document_of_sameLines trivial h (unifyLineEnds_idem t).symm,
    fun h => document_of_sameLines trivial h (unifyLineEnds_idem t)⟩

/-! ## 5. Obstacles -/

theorem numberEnds_of_sameLines {t rest : Text} (h : NumberEnds rest)
    (hsame : SameLines t rest) : NumberEnds t where
  digit c hc := by
    obtain ⟨more, rfl⟩ := List.head?_eq_some_iff.mp hc
    rw [Bool.eq_false_iff]
    intro hdigit
    have hvisible : 0x20 ≤ c.val := by
      have := CodePoint.isAsciiDigit_iff.mp hdigit
      omega
    obtain ⟨more', rfl, -⟩ := SameLines.cons_inv hvisible hsame.symm
    rw [h.digit c rfl] at hdigit
    cases hdigit
  fraction f after heq hf := by
    subst heq
    obtain ⟨after', rfl, -⟩ := SameLines.visible_inv (visible_fraction hf) hsame.symm
    exact h.fraction f after' rfl hf
  exponent e after heq he := by
    subst heq
    obtain ⟨after', rfl, -⟩ := SameLines.visible_inv (visible_exponent he) hsame.symm
    exact h.exponent e after' rfl he

/-- **Reading comes to the same obstacle** when the line ends change. -/
theorem comesTo_of_sameLines {o : Obstacle} {t u : Text} {stage : Json.Stage}
    (h : ComesTo o levels u stage) (hsame : SameLines t u) : ComesTo o levels t stage := by
  induction h generalizing t with
  | integer is_integer sign whole long count ends =>
    obtain ⟨t, rfl, hdigits⟩ := hsame.visible_inv (visible_minus sign)
    obtain ⟨t, rfl, hrest⟩ := hdigits.visible_inv (visible_whole whole)
    exact .integer is_integer sign whole long count (numberEnds_of_sameLines ends hrest)
  | noListLevel is_array =>
    obtain ⟨t, rfl, -⟩ := hsame.cons_inv (by decide)
    exact .noListLevel is_array
  | noObjectLevel is_object =>
    obtain ⟨t, rfl, -⟩ := hsame.cons_inv (by decide)
    exact .noObjectLevel is_object
  | list blank inside ih =>
    obtain ⟨t, rfl, hinside⟩ := hsame.cons_inv (by decide)
    obtain ⟨s, t, rfl, hs, ht⟩ := hinside.blank_inv blank inside.head
    exact .list hs (ih ht)
  | object blank inside ih =>
    obtain ⟨t, rfl, hinside⟩ := hsame.cons_inv (by decide)
    obtain ⟨s, t, rfl, hs, ht⟩ := hinside.blank_inv blank inside.head
    exact .object hs (ih ht)
  | element inside ih => exact .element (ih hsame)
  | laterElement before blank later ih =>
    obtain ⟨w, t, rfl, hw, hafter⟩ := hsame.mark_inv (by decide)
    obtain ⟨s, t, rfl, hs, hlater⟩ := hafter.blank_inv blank later.head
    exact .laterElement (written_of_sameLines before hw) hs (ih hlater)
  | member body blank₁ blank₂ inside ih =>
    obtain ⟨t, rfl, hinside⟩ := hsame.cons_inv (by decide)
    obtain ⟨t, rfl, hquote⟩ := hinside.visible_inv (visible_body body)
    obtain ⟨t, rfl, hcolon⟩ := hquote.cons_inv (by decide)
    obtain ⟨s₁, t, rfl, hs₁, hvalue⟩ := hcolon.mark_inv (by decide)
    obtain ⟨s₂, t, rfl, hs₂, ht⟩ := hvalue.blank_inv blank₂ inside.head
    exact .member body (hs₁.blank blank₁) hs₂ (ih ht)
  | laterMember before blank later ih =>
    obtain ⟨w, t, rfl, hw, hafter⟩ := hsame.mark_inv (by decide)
    obtain ⟨s, t, rfl, hs, hlater⟩ := hafter.blank_inv blank later.head
    exact .laterMember (written_of_sameLines before hw) hs (ih hlater)

theorem stopsAt_of_sameLines {o : Obstacle} {t u : Text} (h : StopsAt o levels u)
    (hsame : SameLines t u) : StopsAt o levels t := by
  cases h with
  | intro blank value =>
    obtain ⟨s, t, rfl, hs, ht⟩ := hsame.blank_inv blank value.head
    exact .intro hs (comesTo_of_sameLines value ht)

theorem stopsAt_unifyLineEnds_iff {o : Obstacle} {t : Text} :
    StopsAt o levels (unifyLineEnds t) ↔ StopsAt o levels t :=
  ⟨fun h => stopsAt_of_sameLines h (unifyLineEnds_idem t).symm,
    fun h => stopsAt_of_sameLines h (unifyLineEnds_idem t)⟩

end CloudAccess.Configuration
