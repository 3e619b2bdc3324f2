/-
# Texts that are shown as they stand

Three things in a text are read as more than themselves: a tag in brackets, a backslash before a
bracket, and the code of an emoji.  A text without any of them is unmarked.  The law is that an
unmarked text without control characters is shown as it stands (`shown_of_unmarked`).

The readers work from the left with a count of characters to skip or to copy, while the three
conditions speak of pieces anywhere in a text.  So each reader is related to its condition by what
it finds at one place (`codeFrom_eq_some`, `tagBody?_eq_some`), and then by induction over the text
for any state that it can be in.
-/
import CloudAccess.Console.Markup
import CloudAccess.Proofs.Text.Pieces

namespace CloudAccess.Console

/-! ## 1. Codes of emoji -/

namespace Emoji

/-- What ends a code: the second colon, perhaps after the form that is asked for. -/
def endings : List Text := [":", "-emoji:", "-text:"]

/-- A text holds the code of an emoji that is known. -/
def HoldsCode (t : Text) : Prop :=
  ∃ before name ending after : Text,
    t = before ++ CodePoint.ofChar ':' :: (name ++ ending ++ after) ∧ ending ∈ endings ∧
      (∀ c ∈ name, c ≠ CodePoint.ofChar ':' ∧ c.isBlank = false) ∧ (ofName? name).isSome = true

theorem HoldsCode.cons {t : Text} (c : CodePoint) (h : HoldsCode t) : HoldsCode (c :: t) := by
  obtain ⟨before, name, ending, after, rfl, hrest⟩ := h
  exact ⟨c :: before, name, ending, after, rfl, hrest⟩

/-- What is found after a colon: a name up to an ending. -/
theorem codeFrom_eq_some {name t : Text} {code : Code} (h : codeFrom name t = some code) :
    ∃ more ending after : Text, t = more ++ ending ++ after ∧ ending ∈ endings ∧
      (∀ c ∈ more, c ≠ CodePoint.ofChar ':' ∧ c.isBlank = false) ∧
      code.name = name.reverse ++ more := by
  induction t generalizing name with
  | nil => cases h
  | cons c rest ih =>
    rw [codeFrom] at h
    split at h
    · next hends =>
      obtain ⟨after, hafter⟩ := Text.startsWith_iff.mp hends
      obtain rfl := Option.some.inj h
      exact ⟨[], "-emoji:", after, hafter, by decide, by simp, by simp⟩
    · split at h
      · next hends =>
        obtain ⟨after, hafter⟩ := Text.startsWith_iff.mp hends
        obtain rfl := Option.some.inj h
        exact ⟨[], "-text:", after, hafter, by decide, by simp, by simp⟩
      · split at h
        · next hcolon =>
          obtain rfl := Option.some.inj h
          exact ⟨[], ":", rest, by rw [hcolon]; rfl, by decide, by simp, by simp⟩
        · next hcolon =>
          split at h
          · cases h
          · next hblank =>
            obtain ⟨more, ending, after, rfl, hending, hmore, hname⟩ := ih h
            refine ⟨c :: more, ending, after, rfl, hending, ?_, ?_⟩
            · intro d hd
              rcases List.mem_cons.mp hd with rfl | hd
              · exact ⟨hcolon, Bool.eq_false_iff.mpr hblank⟩
              · exact hmore d hd
            · rw [hname, List.reverse_cons, List.append_assoc, List.singleton_append]

/-- A code that is found where no known one stands has no replacement. -/
theorem replacement?_eq_none {rest : Text} {code : Code}
    (h : ¬ HoldsCode (CodePoint.ofChar ':' :: rest)) (hcode : codeFrom [] rest = some code) :
    code.replacement? = none := by
  obtain ⟨name, ending, after, rfl, hending, hplain, hname⟩ := codeFrom_eq_some hcode
  rw [Code.replacement?, Option.map_eq_none_iff, hname, List.reverse_nil, List.nil_append,
    ← Option.not_isSome_iff_eq_none]
  intro hknown
  exact h ⟨[], name, ending, after, rfl, hending, hplain, hknown⟩

theorem replaceFrom_of_not_holdsCode {t : Text} (h : ¬ HoldsCode t) (copied : Nat) :
    replaceFrom copied 0 t = t := by
  induction t generalizing copied with
  | nil => cases copied <;> rfl
  | cons c rest ih =>
    have hrest : ¬ HoldsCode rest := fun hheld => h (hheld.cons c)
    cases copied with
    | succ n => rw [replaceFrom, ih hrest]
    | zero =>
      rw [replaceFrom]
      split
      · next hcolon =>
        rw [hcolon] at h
        cases hcode : codeFrom [] rest with
        | none => simp only [ih hrest]
        | some code => simp only [replacement?_eq_none h hcode, ih hrest]
      · rw [ih hrest]

/-- **A text that holds no known code is left alone.** -/
theorem replace_of_not_holdsCode {t : Text} (h : ¬ HoldsCode t) : replace t = t :=
  replaceFrom_of_not_holdsCode h 0

/-- A code has no blank in it, so it does not begin with a colon before one. -/
theorem HoldsCode.of_cons_blank {c : CodePoint} {t : Text} (hblank : c.isBlank = true)
    (h : HoldsCode (CodePoint.ofChar ':' :: c :: t)) : HoldsCode (c :: t) := by
  obtain ⟨before, name, ending, after, heq, hending, hname, hknown⟩ := h
  cases before with
  | nil =>
    exfalso
    simp only [List.nil_append, List.cons.injEq, true_and] at heq
    cases name with
    | nil =>
      -- an ending begins with a colon or a hyphen
      have hfirst : ∀ e ∈ endings, ∀ d ∈ e.head?, d.isBlank = false := by decide
      have hne : ∀ e ∈ endings, e ≠ [] := by decide
      cases ending with
      | nil => exact hne _ hending rfl
      | cons d ending =>
        simp only [List.nil_append, List.cons_append, List.cons.injEq] at heq
        have := hfirst _ hending d rfl
        rw [← heq.1, hblank] at this
        cases this
    | cons d name =>
      simp only [List.cons_append, List.cons.injEq] at heq
      have := (hname d List.mem_cons_self).2
      rw [← heq.1, hblank] at this
      cases this
  | cons d before =>
    rw [List.cons_append, List.cons.injEq] at heq
    exact ⟨before, name, ending, after, heq.2, hending, hname, hknown⟩

/-- A text without colons holds no code that is not in what follows it. -/
theorem HoldsCode.of_append {s t : Text} (hs : CodePoint.ofChar ':' ∉ s)
    (h : HoldsCode (s ++ t)) : HoldsCode t := by
  obtain ⟨before, name, ending, after, heq, hrest⟩ := h
  obtain ⟨w, -, rfl⟩ := Text.append_eq_append_cons hs heq
  exact ⟨w, name, ending, after, rfl, hrest⟩

end Emoji

/-! ## 2. Tags -/

namespace Markup

/-- A text holds a tag: brackets around what begins as a tag does and has no bracket in it. -/
def HoldsTag (t : Text) : Prop :=
  ∃ (before : Text) (c : CodePoint) (body after : Text),
    t = before ++ CodePoint.ofChar '[' :: c :: (body ++ CodePoint.ofChar ']' :: after) ∧
      beginsTag c = true ∧ ∀ d ∈ body, d ≠ CodePoint.ofChar '[' ∧ d ≠ CodePoint.ofChar ']'

theorem HoldsTag.cons {t : Text} (c : CodePoint) (h : HoldsTag t) : HoldsTag (c :: t) := by
  obtain ⟨before, d, body, after, rfl, hrest⟩ := h
  exact ⟨c :: before, d, body, after, rfl, hrest⟩

theorem HoldsTag.of_append {s t : Text} (hs : CodePoint.ofChar '[' ∉ s)
    (h : HoldsTag (s ++ t)) : HoldsTag t := by
  obtain ⟨before, c, body, after, heq, hrest⟩ := h
  obtain ⟨w, -, rfl⟩ := Text.append_eq_append_cons hs heq
  exact ⟨w, c, body, after, rfl, hrest⟩

/-- What is read after an opening bracket makes a tag. -/
theorem holdsTag_of_tagBody? {rest body : Text} (h : tagBody? rest = some body) :
    HoldsTag (CodePoint.ofChar '[' :: rest) := by
  cases rest with
  | nil => cases h
  | cons c rest =>
    simp only [tagBody?, Option.ite_none_right_eq_some] at h
    obtain ⟨hc, hclosed, -⟩ := h
    obtain ⟨after, hafter⟩ := List.head?_eq_some_iff.mp hclosed
    have hwhole := List.prefix_iff_eq_append.mp (List.takeWhile_prefix (l := rest) fun d =>
      d ≠ CodePoint.ofChar ']' && d ≠ CodePoint.ofChar '[')
    rw [hafter] at hwhole
    refine ⟨[], c, _, after, by rw [hwhole]; rfl, hc, ?_⟩
    intro d hd
    have := List.mem_takeWhile_imp hd
    simpa [and_comm] using this

/-- A text without tags is one piece, whatever has been read before it. -/
theorem piecesFrom_of_not_holdsTag {t : Text} (h : ¬ HoldsTag t) (position slashes : Nat)
    (pending : Text) : piecesFrom position 0 slashes pending t
      = plain (pending.reverse ++ backslashes slashes ++ t) := by
  induction t generalizing position slashes pending with
  | nil => rw [piecesFrom, List.append_nil]
  | cons c rest ih =>
    have hrest : ¬ HoldsTag rest := fun hheld => h (hheld.cons c)
    have hnone : (if c = CodePoint.ofChar '[' then tagBody? rest else none) = none := by
      split
      · next hc =>
        cases htag : tagBody? rest with
        | none => rfl
        | some body => exact absurd (hc ▸ holdsTag_of_tagBody? htag) h
      · rfl
    rw [piecesFrom]
    split
    · next hc =>
      rw [ih hrest, hc, backslashes, backslashes, List.replicate_succ', List.append_assoc,
        List.append_assoc, List.append_assoc]
      rfl
    · simp only [hnone]
      rw [ih hrest]
      simp [backslashes]

/-! ## 3. Unmarked texts -/

/-- A text that holds no tag, no escaped bracket, and no code of an emoji. -/
structure Unmarked (t : Text) : Prop where
  tag : ¬ HoldsTag t
  escape : ¬ ("\\[" : Text) <:+: t
  code : ¬ Emoji.HoldsCode t

/-- **An unmarked text is shown as it stands**, but for control characters. -/
theorem shown_of_unmarked {t : Text} (h : Unmarked t) (hkept : ∀ c ∈ t, isDropped c = false)
    (judge : Judge) : shown judge t = .ok t := by
  have hplain : shownPlain t = t := by
    rw [shownPlain, Text.replaceAll_of_not_infix (by decide) h.escape,
      Emoji.replace_of_not_holdsCode h.code]
    exact List.filter_eq_self.mpr fun c hc => by rw [hkept c hc]; rfl
  have hpieces : pieces t = plain t := piecesFrom_of_not_holdsTag h.tag 0 0 []
  rw [shown, hpieces, plain]
  cases t with
  | nil => rfl
  | cons c rest =>
    rw [List.isEmpty_cons, if_neg Bool.false_ne_true, shownFrom, hplain]
    simp [shownFrom, Except.map]

/-- A tag that opens a style shows nothing itself. -/
theorem shown_of_opening {t before body after : Text} {opened : Opened} {position : Nat}
    (hpieces : pieces t = [.plain before, .tag body position, .plain after])
    (hbody : Tag.ofBody body = .ok (.opening opened)) (judge : Judge) :
    shown judge t = .ok (shownPlain before ++ shownPlain after) := by
  rw [shown, hpieces, shownFrom, shownFrom, hbody]
  simp [Tag.apply, shownFrom, Except.map]

/-- A code has two colons. -/
theorem two_le_count_of_holdsCode {t : Text} (h : Emoji.HoldsCode t) :
    2 ≤ t.count (CodePoint.ofChar ':') := by
  obtain ⟨before, name, ending, after, rfl, hending, -⟩ := h
  have hmem : ∀ e ∈ Emoji.endings, 0 < e.count (CodePoint.ofChar ':') := by decide
  have hone := hmem _ hending
  rw [List.count_append, List.count_cons_self, List.count_append, List.count_append]
  omega

/-- A text without opening brackets and with no more than one colon is unmarked. -/
theorem unmarked_of_count {t : Text} (hbracket : CodePoint.ofChar '[' ∉ t)
    (hcolon : t.count (CodePoint.ofChar ':') ≤ 1) : Unmarked t where
  tag := by
    rintro ⟨before, c, body, after, rfl, -⟩
    exact hbracket (by simp)
  escape := by
    rintro ⟨before, after, rfl⟩
    exact hbracket (by simp [Text.ofString])
  code hheld := absurd (two_le_count_of_holdsCode hheld) (by omega)

/-- An escaped bracket begins with its backslash. -/
theorem escape_of_append {s t : Text} (hs : CodePoint.ofChar '\\' ∉ s)
    (h : ("\\[" : Text) <:+: s ++ t) : ("\\[" : Text) <:+: t := by
  obtain ⟨before, after, heq⟩ := h
  rw [List.append_assoc] at heq
  obtain ⟨w, -, hw⟩ := Text.append_eq_append_cons hs heq.symm
  exact ⟨w, after, by rw [hw, List.append_assoc]; rfl⟩

theorem Unmarked.append {s t : Text} (hs : ∀ c ∈ s,
      c ≠ CodePoint.ofChar '[' ∧ c ≠ CodePoint.ofChar '\\' ∧ c ≠ CodePoint.ofChar ':')
    (h : Unmarked t) : Unmarked (s ++ t) where
  tag hheld := h.tag (hheld.of_append fun hmem => (hs _ hmem).1 rfl)
  escape hinfix := h.escape (escape_of_append (fun hmem => (hs _ hmem).2.1 rfl) hinfix)
  code hheld := h.code (hheld.of_append fun hmem => (hs _ hmem).2.2 rfl)

/-- A colon before a blank begins no code. -/
theorem Unmarked.colon {c : CodePoint} {t : Text} (hblank : c.isBlank = true)
    (h : Unmarked (c :: t)) : Unmarked (CodePoint.ofChar ':' :: c :: t) where
  tag hheld := h.tag (HoldsTag.of_append (s := [CodePoint.ofChar ':']) (by decide) hheld)
  escape hinfix := h.escape (escape_of_append (s := [CodePoint.ofChar ':']) (by decide) hinfix)
  code hheld := h.code (hheld.of_cons_blank hblank)

end Markup

end CloudAccess.Console
