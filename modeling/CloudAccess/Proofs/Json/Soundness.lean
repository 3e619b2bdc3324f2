/-
# What is read is a document

The other direction: whatever the reader accepts is written as the grammar says.  Each reader takes
a part from the front of what is left of the text, so what it finds is stated as a part with the
rest behind it.

With it come the ways to stop that are not a complaint about the grammar.  Where the reader gives
up, the text has come to an obstacle (`ComesTo`), and where the text comes to one, the reader gives
up on it.
-/
import CloudAccess.Proofs.Json.Reading
import CloudAccess.Proofs.Text.Decimal

namespace CloudAccess.Json

/-! ## 1. Results -/

/-- What a result says of the text: what has been read stands in it, before the rest, and if it is
not a complaint that reading has stopped at, there is a reason. -/
def Explained {α : Type} (reads : α → Text → Prop) (stuck : Stop → Prop) : Step α → Prop
  | .ok (a, rest) => reads a rest
  | .error (.malformed _ _) => True
  | .error stop => stuck stop

/-- What is said of a failure passes to the failure of what goes on from there. -/
theorem Explained.error {α β : Type} {reads : α → Text → Prop} {reads' : β → Text → Prop}
    {stuck stuck' : Stop → Prop} {stop : Stop} (h : Explained reads stuck (.error stop))
    (hstuck : ∀ stop, stuck stop → stuck' stop) : Explained reads' stuck' (.error stop) := by
  cases stop with
  | malformed => trivial
  | integer misread => exact hstuck _ h
  | tooDeep container => exact hstuck _ h

/-- What is said of a result passes to what is made of it. -/
theorem Explained.map {α β : Type} {reads : α → Text → Prop} {reads' : β → Text → Prop}
    {stuck stuck' : Stop → Prop} {step : Step α} (h : Explained reads stuck step) (f : α → β)
    (hreads : ∀ a rest, reads a rest → reads' (f a) rest)
    (hstuck : ∀ stop, stuck stop → stuck' stop) :
    Explained reads' stuck' (step.map fun (a, rest) => (f a, rest)) := by
  cases step with
  | ok found => exact hreads found.1 found.2 h
  | error stop => exact h.error hstuck

theorem Explained.mono {α : Type} {reads reads' : α → Text → Prop} {stuck : Stop → Prop}
    {step : Step α} (h : Explained reads stuck step)
    (hreads : ∀ a rest, reads a rest → reads' a rest) : Explained reads' stuck step := by
  cases step with
  | ok found => exact hreads found.1 found.2 h
  | error stop => exact h.error fun _ => id

/-! ## 2. White space and texts -/

/-- What is skipped is white space. -/
theorem exists_blank_skip (t : Text) : ∃ s, Blank s ∧ t = s ++ skip t :=
  ⟨t.takeWhile isSpace, fun _ hc => List.mem_takeWhile_imp hc,
    List.takeWhile_append_dropWhile.symm⟩

theorem exists_blank_of_skip {t rest : Text} {c : CodePoint} (h : skip t = c :: rest) :
    ∃ s, Blank s ∧ t = s ++ c :: rest := by
  obtain ⟨s, hs, ht⟩ := exists_blank_skip t
  exact ⟨s, hs, by rw [← h]; exact ht⟩

theorem fourHex?_sound {t rest : Text} {n : Nat} (h : fourHex? t = some (n, rest)) :
    ∃ digits, FourHex digits n ∧ t = digits ++ rest := by
  match t, h with
  | a :: b :: c :: d :: more, h =>
    simp only [fourHex?, Option.bind_eq_bind, Option.bind_eq_some_iff, Option.some.injEq,
      Prod.mk.injEq] at h
    obtain ⟨x, hx, y, hy, z, hz, u, hu, hn, rfl⟩ := h
    refine ⟨[a, b, c, d], ?_, rfl⟩
    simp only [FourHex, fourHex?, hx, hy, hz, hu, Option.bind_eq_bind, Option.bind_some, hn]

/-- The text begins with the escape of a second half, and does not end with it. -/
def GoesOnLow (t : Text) : Prop :=
  ∃ h n rest, FourHex h n ∧ IsLow n ∧ rest ≠ [] ∧ t = escapeMark :: numberMark :: (h ++ rest)

/-- An escape by number is four digits, or eight for a pair. -/
theorem unicodeEscape_sound {t rest : Text} {c : CodePoint} (h : unicodeEscape t = .ok (c, rest)) :
    (∃ digits n, FourHex digits n ∧ t = digits ++ rest ∧ c = CodePoint.ofNat n ∧
      ¬(IsHigh n ∧ GoesOnLow rest)) ∨
    ∃ first second high low, FourHex first high ∧ FourHex second low ∧ IsHigh high ∧ IsLow low ∧
      t = first ++ escapeMark :: numberMark :: (second ++ rest) ∧
      c = CodePoint.ofNat (0x10000 + (high - 0xD800) * 0x400 + (low - 0xDC00)) := by
  rw [unicodeEscape.eq_def] at h
  split at h
  · cases h
  · cases h
  · next high left _ hfour =>
    obtain ⟨first, hfirst, rfl⟩ := fourHex?_sound hfour
    simp only at h
    split at h
    · next hhigh =>
      split at h
      · next backslash u after _ =>
        split at h
        · next hmarks =>
          obtain ⟨rfl, rfl, -⟩ := hmarks
          split at h
          · cases h
          · next low left hlow =>
            obtain ⟨second, hsecond, rfl⟩ := fourHex?_sound hlow
            split at h
            · next hrange =>
              obtain ⟨rfl, rfl⟩ := Prod.mk.inj (Except.ok.inj h)
              exact Or.inr ⟨first, second, high, low, hfirst, hsecond, hhigh, hrange, rfl, rfl⟩
            · next hrange =>
              obtain ⟨rfl, rfl⟩ := Prod.mk.inj (Except.ok.inj h)
              refine Or.inl ⟨first, high, hfirst, rfl, rfl, fun hpair => hrange ?_⟩
              obtain ⟨-, l, n, more, hl, hn, -, heq⟩ := hpair
              rw [(List.cons.inj (List.cons.inj heq).2).2, fourHex?_append hl] at hlow
              obtain ⟨rfl, -⟩ := Prod.mk.inj (Option.some.inj hlow)
              exact hn
        · next hmarks =>
          obtain ⟨rfl, rfl⟩ := Prod.mk.inj (Except.ok.inj h)
          refine Or.inl ⟨first, high, hfirst, rfl, rfl, fun hpair => hmarks ?_⟩
          obtain ⟨-, l, n, more, hl, -, hmore, heq⟩ := hpair
          obtain ⟨rfl, htail⟩ := List.cons.inj heq
          obtain ⟨rfl, rfl⟩ := List.cons.inj htail
          have := List.length_pos_iff.mpr hmore
          refine ⟨rfl, rfl, ?_⟩
          rw [List.length_append, hl.length_eq]
          omega
      · next hshape =>
        obtain ⟨rfl, rfl⟩ := Prod.mk.inj (Except.ok.inj h)
        refine Or.inl ⟨first, high, hfirst, rfl, rfl, fun hpair => ?_⟩
        obtain ⟨-, l, n, more, -, -, -, heq⟩ := hpair
        exact hshape _ _ _ heq
    · next hhigh =>
      obtain ⟨rfl, rfl⟩ := Prod.mk.inj (Except.ok.inj h)
      exact Or.inl ⟨first, high, hfirst, rfl, rfl, fun hpair => hhigh hpair.1⟩

/-- An escape by number goes on with the rest of the text. -/
theorem unicode_sound {after w content rest : Text} {c : CodePoint}
    (h : unicodeEscape after = .ok (c, w ++ quoteMark :: rest)) (hw : Body w content) :
    ∃ w', escapeMark :: numberMark :: after = w' ++ quoteMark :: rest ∧ Body w' (c :: content) := by
  obtain ⟨digits, n, hdigits, rfl, rfl, hsingle⟩ | ⟨first, second, high, low, hfirst, hsecond,
    hhigh, hlow, rfl, hc⟩ := unicodeEscape_sound h
  · refine ⟨escapeMark :: numberMark :: (digits ++ w), by simp only [List.cons_append,
      List.append_assoc], .unicode hdigits (fun hpair => hsingle ⟨hpair.1, ?_⟩) hw⟩
    obtain ⟨l, m, more, hl, hm, rfl⟩ := hpair.2
    exact ⟨l, m, more ++ quoteMark :: rest, hl, hm, by simp, by simp only [List.cons_append,
      List.append_assoc]⟩
  · rw [hc]
    exact ⟨escapeMark :: numberMark :: (first ++ escapeMark :: numberMark :: (second ++ w)),
      by simp only [List.cons_append, List.append_assoc], .pair hfirst hsecond hhigh hlow hw⟩

/-- **A text that is read is written** up to its closing quote. -/
theorem textBody_explained (opening rounds : Nat) (t : Text) :
    Explained (fun content rest => ∃ w, t = w ++ quoteMark :: rest ∧ Body w content)
      (fun _ => False) (textBody opening rounds t) := by
  induction rounds generalizing t with
  | zero => trivial
  | succ rounds ih =>
    cases t with
    | nil => trivial
    | cons c t =>
      rw [textBody.eq_def]
      simp only
      split
      · next hquote => exact ⟨[], by rw [hquote]; rfl, .nil⟩
      · next hquote =>
        split
        · next hescape =>
          subst hescape
          split
          · trivial
          · next e after =>
            split
            · next hletter =>
              subst hletter
              split
              · trivial
              · next d left hread =>
                refine (ih left).map _ (fun content rest => ?_) fun _ => id
                rintro ⟨w, rfl, hw⟩
                exact unicode_sound hread hw
            · next hletter =>
              split
              · trivial
              · next d hsimple =>
                refine (ih after).map _ (fun content rest => ?_) fun _ => id
                rintro ⟨w, rfl, hw⟩
                exact ⟨_, rfl, .simple hsimple hw⟩
        · next hescape =>
          split
          · trivial
          · next hcontrol =>
            refine (ih t).map _ (fun content rest => ?_) fun _ => id
            rintro ⟨w, rfl, hw⟩
            exact ⟨_, rfl, .plain hquote hescape (by omega) hw⟩

/-! ## 3. Numbers -/

/-- Digits are taken up to what is none. -/
theorem digits_sound (t : Text) : t = (digits t).1 ++ (digits t).2 ∧
    (∀ c ∈ (digits t).1, c.isAsciiDigit = true) ∧
    ∀ c ∈ (digits t).2.head?, c.isAsciiDigit = false := by
  rw [digits, List.span_eq_takeWhile_dropWhile]
  refine ⟨List.takeWhile_append_dropWhile.symm, fun _ hc => List.mem_takeWhile_imp hc,
    fun c hc => ?_⟩
  simpa [Option.mem_def.mp hc] using List.head?_dropWhile_not CodePoint.isAsciiDigit t

theorem digits_singleton {c : CodePoint} (hc : c.isAsciiDigit = true) : Digits [c] :=
  ⟨List.cons_ne_nil _ _, List.forall_mem_singleton.mpr hc⟩

theorem digits_fst_ne_nil {ds : Text} (h : Digits ds) (rest : Text) :
    (digits (ds ++ rest)).1 ≠ [] := by
  obtain ⟨d, more, rfl⟩ := List.exists_cons_of_ne_nil h.1
  rw [digits, List.span_eq_takeWhile_dropWhile, List.cons_append,
    List.takeWhile_cons_of_pos (h.2 d List.mem_cons_self)]
  exact List.cons_ne_nil _ _

theorem wholePart?_sound {t ds after : Text} (h : wholePart? t = some (ds, after)) :
    Whole ds ∧ t = ds ++ after ∧ (1 < ds.length → ∀ c ∈ after.head?, c.isAsciiDigit = false) := by
  cases t with
  | nil => cases h
  | cons c rest =>
    rw [wholePart?] at h
    split at h
    · next hzero =>
      cases h
      exact ⟨by rw [hzero]; exact .zero, rfl, fun hlong => absurd hlong (by simp)⟩
    · next hzero =>
      split at h
      · next hdigit =>
        obtain ⟨htext, hall, hafter⟩ := digits_sound (c :: rest)
        rw [Option.some.inj h] at htext hall hafter
        have hne : ds ≠ [] := by
          have := digits_fst_ne_nil (digits_singleton hdigit) rest
          rwa [List.singleton_append, Option.some.inj h] at this
        obtain ⟨d, more, rfl⟩ := List.exists_cons_of_ne_nil hne
        obtain rfl := (List.cons.inj htext).1
        exact ⟨.digits hzero ⟨hne, hall⟩, htext, fun _ => hafter⟩
      · cases h

theorem fractionPart_sound (t : Text) :
    Fraction (fractionPart t).1 ∧ t = (fractionPart t).1 ++ (fractionPart t).2 := by
  rw [fractionPart.eq_def]
  split
  · next point d rest =>
    split
    · next hpoint =>
      obtain ⟨rfl, hd⟩ := hpoint
      obtain ⟨htext, hall, -⟩ := digits_sound (d :: rest)
      have hne := digits_fst_ne_nil (digits_singleton hd) rest
      exact ⟨.present ⟨hne, hall⟩, congrArg (_ :: ·) htext⟩
    · exact ⟨.absent, rfl⟩
  · exact ⟨.absent, rfl⟩

theorem exponentSign_sound (t : Text) :
    ((exponentSign t).1 = [] ∨ (exponentSign t).1 = [plusSign] ∨
      (exponentSign t).1 = [minusSign]) ∧ t = (exponentSign t).1 ++ (exponentSign t).2 := by
  cases t with
  | nil => exact ⟨Or.inl rfl, rfl⟩
  | cons c rest =>
    rw [exponentSign]
    split
    · next hsign =>
      rcases hsign with rfl | rfl
      · exact ⟨Or.inr (Or.inr rfl), rfl⟩
      · exact ⟨Or.inr (Or.inl rfl), rfl⟩
    · exact ⟨Or.inl rfl, rfl⟩

theorem exponentPart_sound (t : Text) :
    Exponent (exponentPart t).1 ∧ t = (exponentPart t).1 ++ (exponentPart t).2 := by
  cases t with
  | nil => exact ⟨.absent, rfl⟩
  | cons e rest =>
    by_cases hletter : e = 'e' ∨ e = 'E'
    · obtain ⟨signed, hrest⟩ := exponentSign_sound rest
      obtain ⟨htext, hall, -⟩ := digits_sound (exponentSign rest).2
      have hparts : rest = (exponentSign rest).1 ++ (digits (exponentSign rest).2).1 ++
          (digits (exponentSign rest).2).2 := by
        rw [List.append_assoc, ← htext, ← hrest]
      rw [exponentPart_cons hletter]
      split
      · exact ⟨.absent, rfl⟩
      · next hne =>
        exact ⟨.present hletter signed ⟨fun hnil => hne (by rw [hnil]; rfl), hall⟩,
          congrArg (e :: ·) hparts⟩
    · rw [exponentPart.eq_def]
      simp only
      rw [if_neg hletter]
      exact ⟨.absent, rfl⟩

/-- **A number ends** where reading finds neither more digits nor a fraction nor an exponent. -/
theorem numberEnds_iff {rest : Text} : NumberEnds rest ↔
    (∀ c ∈ rest.head?, c.isAsciiDigit = false) ∧ (fractionPart rest).1 = [] ∧
      (exponentPart rest).1 = [] := by
  constructor
  · intro h
    exact ⟨h.digit, h.fraction _ _ (fractionPart_sound rest).2 (fractionPart_sound rest).1,
      h.exponent _ _ (exponentPart_sound rest).2 (exponentPart_sound rest).1⟩
  · rintro ⟨hdigit, hfraction, hexponent⟩
    refine ⟨hdigit, fun f after heq hf => ?_, fun e after heq he => ?_⟩
    · cases hf with
      | absent => rfl
      | @present ds hds =>
        obtain ⟨d, more, rfl⟩ := List.exists_cons_of_ne_nil hds.1
        have hd : d.isAsciiDigit = true := hds.2 d List.mem_cons_self
        rw [heq, List.cons_append, List.cons_append, fractionPart] at hfraction
        simp only [hd, and_self, ↓reduceIte, reduceCtorEq] at hfraction
    · cases he with
      | absent => rfl
      | @present letter sign ds known signed hds =>
        rw [heq, List.cons_append, List.append_assoc, exponentPart_cons known,
          exponentSign_append signed hds, if_neg] at hexponent
        · cases hexponent
        · rw [List.isEmpty_iff]
          exact digits_fst_ne_nil hds after

theorem Whole.allDigits {ds : Text} (h : Whole ds) : Digits ds := by
  cases h with
  | zero => exact ⟨by simp, by decide⟩
  | digits ne_zero all => exact all

/-- The digits before the point are an integer, unless there are too many of them. -/
theorem read_eq_error_iff {minus ds : Text} (sign : Minus minus) (hds : Whole ds)
    {misread : Integer.Misread} : Integer.read (minus ++ ds) = .error misread ↔
      Integer.digitLimit < ds.length ∧ misread = .tooLong ds.length := by
  obtain ⟨hne, hall⟩ := hds.allDigits
  have hread : ∃ n : Int, Integer.read (minus ++ ds)
      = if Integer.digitLimit < ds.length then .error (.tooLong ds.length) else .ok n := by
    rcases sign with rfl | rfl
    · exact ⟨_, Integer.read_digits hne hall⟩
    · exact ⟨_, Integer.read_minus_digits hne hall⟩
  obtain ⟨n, hread⟩ := hread
  rw [hread]
  split
  · next hlong => simp [hlong, eq_comm]
  · next hshort => simp [hshort]

/-- Reading has stopped because it has come to an obstacle. -/
def Stuck (levels : Nat) (t : Text) (stage : Stage) (stop : Stop) : Prop :=
  ∃ o : Obstacle, stop = o.stop ∧ ComesTo o levels t stage

theorem exists_minus (t : Text) : ∃ minus body, t = minus ++ body ∧ Minus minus ∧
    (minus = [] → ∀ c ∈ body.head?, c ≠ minusSign) := by
  by_cases h : ∃ body, t = minusSign :: body
  · obtain ⟨body, rfl⟩ := h
    exact ⟨[minusSign], body, rfl, Or.inr rfl, nofun⟩
  · refine ⟨[], t, rfl, Or.inl rfl, fun _ c hc heq => h ?_⟩
    obtain ⟨body, rfl⟩ := List.head?_eq_some_iff.mp hc
    exact ⟨body, by rw [heq]⟩

/-- **A number that is read is written,** and one that is not is no number or too long. -/
theorem number_explained (levels : Nat) (t : Text) :
    Explained (fun v rest => ∃ w, t = w ++ rest ∧ Scalar w v) (Stuck levels t .value)
      (number t) := by
  obtain ⟨minus, body, rfl, sign, hbody⟩ := exists_minus t
  rw [number_eq sign hbody]
  split
  · trivial
  · next ds afterWhole hwhole =>
    obtain ⟨hds, rfl, hafter⟩ := wholePart?_sound hwhole
    obtain ⟨hfraction, hrest⟩ := fractionPart_sound afterWhole
    obtain ⟨hexponent, hrest'⟩ := exponentPart_sound (fractionPart afterWhole).2
    rw [ofParts]
    split
    · next hnone =>
      simp only [Bool.and_eq_true, List.isEmpty_iff] at hnone
      rw [hnone.1, List.nil_append] at hrest
      rw [← hrest] at hrest' hnone ⊢
      rw [hnone.2, List.nil_append] at hrest'
      rw [← hrest']
      split
      · next n hread => exact ⟨minus ++ ds, by rw [List.append_assoc], .whole sign hds hread⟩
      · next misread hread =>
        obtain ⟨hlong, rfl⟩ := (read_eq_error_iff sign hds).mp hread
        have hmany : 1 < ds.length := Nat.lt_trans (by decide) hlong
        exact ⟨.integer ds.length, rfl,
          .integer rfl sign hds hlong rfl (numberEnds_iff.mpr ⟨hafter hmany, hnone⟩)⟩
    · next hsome =>
      rw [Bool.and_eq_true, List.isEmpty_iff, List.isEmpty_iff, not_and_or] at hsome
      refine ⟨minus ++ (ds ++ ((fractionPart afterWhole).1 ++
        (exponentPart (fractionPart afterWhole).2).1)), ?_, ?_⟩
      · simp only [List.append_assoc]
        rw [← hrest', ← hrest]
      · simp only [List.append_assoc]
        exact .real sign hds hfraction hexponent hsome

/-- An integer with too many digits is given up on. -/
theorem number_of_long {minus ds rest : Text} (sign : Minus minus) (hds : Whole ds)
    (hlong : Integer.digitLimit < ds.length) (hends : NumberEnds rest) :
    number (minus ++ (ds ++ rest)) = .error (.integer (.tooLong ds.length)) := by
  obtain ⟨hdigit, hfraction, hexponent⟩ := numberEnds_iff.mp hends
  have hrest := (fractionPart_sound rest).2
  rw [hfraction, List.nil_append] at hrest
  rw [number_eq sign fun _ => hds.head_ne_minusSign, wholePart?_append hds hdigit]
  simp only
  rw [← hrest, hfraction, hexponent, ofParts]
  simp only [List.isEmpty_nil, Bool.and_self, ↓reduceIte,
    (read_eq_error_iff sign hds).mpr ⟨hlong, rfl⟩]

/-! ## 4. Values -/

theorem word?_sound {t rest : Text} {v : Value} (h : word? t = some (v, rest)) :
    ∃ w, (w, v) ∈ words ∧ t = w ++ rest := by
  obtain ⟨⟨w, v'⟩, hmem, hdrop⟩ := List.exists_of_findSome?_eq_some h
  obtain ⟨after, hafter, heq⟩ := Option.map_eq_some_iff.mp hdrop
  cases heq
  exact ⟨w, hmem, Text.dropStart?_eq_some_iff.mp hafter⟩

/-- What the readers of values find when their calls nest no deeper than `depth`, on any number of
levels. -/
structure SoundAt (depth : Nat) : Prop where
  value : ∀ levels t,
    Explained (fun v rest => ∃ w, t = w ++ rest ∧ Written levels w (.value v))
      (Stuck levels t .value) (value depth levels t)
  elements : ∀ levels t,
    Explained (fun vs rest => ∃ w, t = w ++ listEndMark :: rest ∧ Written levels w (.elements vs))
      (Stuck levels t .elements) (elements depth levels t)
  members : ∀ levels before t,
    Explained (fun ms rest => ∃ w ps, t = w ++ closeMark :: rest ∧ Written levels w (.members ps) ∧
      ms = putAll ps before) (Stuck levels t .members) (members depth levels before t)

theorem SoundAt.zero : SoundAt 0 where
  value _ _ := trivial
  elements _ _ := trivial
  members _ _ _ := trivial

variable {depth : Nat}

/-- What is said of a container, from what is said of its inside one level below. -/
theorem Explained.enter {α : Type} {container : Container} {levels : Nat}
    {inside : Nat → Step α} {reads : α → Text → Prop} {stuck : Stop → Prop}
    (hnone : levels = 0 → stuck (.tooDeep container))
    (hinside : ∀ n, levels = n + 1 → Explained reads stuck (inside n)) :
    Explained reads stuck (enter container levels inside) := by
  cases levels with
  | zero => exact hnone rfl
  | succ n => exact hinside n rfl

theorem SoundAt.value_succ (h : SoundAt depth) (levels : Nat) (t : Text) :
    Explained (fun v rest => ∃ w, t = w ++ rest ∧ Written levels w (.value v))
      (Stuck levels t .value) (Json.value (depth + 1) levels t) := by
  cases t with
  | nil =>
    rw [value_nil]
    trivial
  | cons c t =>
    rw [Json.value]
    split
    · next hquote =>
      subst hquote
      refine (textBody_explained _ _ t).map _ (fun content rest => ?_) fun _ => False.elim
      rintro ⟨w, rfl, hw⟩
      exact ⟨_, by simp, .scalar (.text hw)⟩
    · split
      · next hopen =>
        subst hopen
        refine Explained.enter ?_ ?_
        · rintro rfl
          exact ⟨.tooDeep .object, rfl, .noObjectLevel rfl⟩
        · rintro n rfl
          split
          · next close after hskip =>
            obtain ⟨s, hs, rfl⟩ := exists_blank_of_skip hskip
            split
            · next hclose =>
              subst hclose
              exact ⟨openMark :: (s ++ [closeMark]), by simp, .ofObject (.emptyObject hs)⟩
            · refine (h.members n [] (close :: after)).map _ (fun ms rest => ?_) fun stop => ?_
              · rintro ⟨w, ps, heq, hw, rfl⟩
                rw [heq, putAll_nil]
                exact ⟨openMark :: (s ++ (w ++ [closeMark])), by simp, .ofObject (.object hs hw)⟩
              · rintro ⟨o, rfl, hinside⟩
                exact ⟨o, rfl, .object hs hinside⟩
          · trivial
      · split
        · next hlist =>
          subst hlist
          refine Explained.enter ?_ ?_
          · rintro rfl
            exact ⟨.tooDeep .array, rfl, .noListLevel rfl⟩
          · rintro n rfl
            split
            · next close after hskip =>
              obtain ⟨s, hs, rfl⟩ := exists_blank_of_skip hskip
              split
              · next hclose =>
                subst hclose
                exact ⟨listMark :: (s ++ [listEndMark]), by simp, .emptyList hs⟩
              · refine (h.elements n (close :: after)).map _ (fun vs rest => ?_) fun stop => ?_
                · rintro ⟨w, heq, hw⟩
                  rw [heq]
                  exact ⟨listMark :: (s ++ (w ++ [listEndMark])), by simp, .list hs hw⟩
                · rintro ⟨o, rfl, hinside⟩
                  exact ⟨o, rfl, .list hs hinside⟩
            · trivial
        · split
          · next found hword =>
            obtain ⟨w, hw, heq⟩ := word?_sound hword
            exact ⟨w, heq, .scalar (.word hw)⟩
          · refine (number_explained levels (c :: t)).mono fun v rest => ?_
            rintro ⟨w, heq, hw⟩
            exact ⟨w, heq, .scalar hw⟩

theorem SoundAt.elements_succ (h : SoundAt depth) (levels : Nat) (t : Text) :
    Explained (fun vs rest => ∃ w, t = w ++ listEndMark :: rest ∧ Written levels w (.elements vs))
      (Stuck levels t .elements) (Json.elements (depth + 1) levels t) := by
  have hfirst := h.value levels t
  rw [Json.elements]
  split
  · next stop hread =>
    rw [hread] at hfirst
    refine hfirst.error fun stop => ?_
    rintro ⟨o, rfl, hinside⟩
    exact ⟨o, rfl, .element hinside⟩
  · next v after hread =>
    rw [hread] at hfirst
    obtain ⟨w, rfl, hw⟩ := hfirst
    split
    · trivial
    · next c rest hskip =>
      obtain ⟨s, hs, rfl⟩ := exists_blank_of_skip hskip
      have helement : Written levels (w ++ s) (.element v) := .element hw hs
      split
      · next hend =>
        exact ⟨w ++ s, by rw [hend, List.append_assoc], .lastElement helement⟩
      · split
        · next hcomma =>
          obtain ⟨s', hs', hrest⟩ := exists_blank_skip rest
          have hinput : w ++ (s ++ c :: rest) = w ++ s ++ commaMark :: (s' ++ skip rest) := by
            rw [hcomma, ← hrest, List.append_assoc]
          refine (h.elements levels (skip rest)).map _ (fun vs left => ?_) fun stop => ?_
          · rintro ⟨ws, heq, hws⟩
            refine ⟨w ++ s ++ commaMark :: (s' ++ ws), ?_, .moreElements helement hs' hws⟩
            rw [hinput, heq]
            simp
          · rintro ⟨o, rfl, hlater⟩
            rw [hinput]
            exact ⟨o, rfl, .laterElement helement hs' hlater⟩
        · trivial

/-- A member is followed by the end of the object or by another one. -/
theorem SoundAt.afterMember (h : SoundAt depth) {b name s₁ s₂ : Text} (body : Body b name)
    (blank₁ : Blank s₁) (blank₂ : Blank s₂) (levels : Nat) (before : List (Text × Value))
    (t : Text) :
    Explained (fun ms rest => ∃ w ps,
      quoteMark :: (b ++ quoteMark :: (s₁ ++ colonMark :: (s₂ ++ t))) = w ++ closeMark :: rest ∧
        Written levels w (.members ps) ∧ ms = putAll ps before)
      (Stuck levels (quoteMark :: (b ++ quoteMark :: (s₁ ++ colonMark :: (s₂ ++ t)))) .members)
      (afterMember depth levels before name (Json.value depth levels t)) := by
  have hvalue := h.value levels t
  rw [Json.afterMember.eq_def]
  split
  · next stop hread =>
    rw [hread] at hvalue
    refine hvalue.error fun stop => ?_
    rintro ⟨o, rfl, hinside⟩
    exact ⟨o, rfl, .member body blank₁ blank₂ hinside⟩
  · next v after hread =>
    rw [hread] at hvalue
    obtain ⟨w, rfl, hw⟩ := hvalue
    split
    · trivial
    · next c rest hskip =>
      obtain ⟨s, hs, rfl⟩ := exists_blank_of_skip hskip
      have hmember := Written.member body blank₁ blank₂ (.element hw hs)
      split
      · next hend =>
        subst hend
        exact ⟨_, [(name, v)], by simp, .lastMember hmember, rfl⟩
      · split
        · next hcomma =>
          subst hcomma
          obtain ⟨s', hs', hrest⟩ := exists_blank_skip rest
          generalize skip rest = left at hrest
          subst hrest
          have hinput : quoteMark :: (b ++ quoteMark :: (s₁ ++ colonMark ::
                (s₂ ++ (w ++ (s ++ commaMark :: (s' ++ left))))))
              = quoteMark :: (b ++ quoteMark :: (s₁ ++ colonMark :: (s₂ ++ (w ++ s)))) ++
                commaMark :: (s' ++ left) := by
            simp only [List.cons_append, List.append_assoc]
          rw [hinput]
          generalize quoteMark :: (b ++ _) = m at hmember
          have hothers := h.members levels (Entries.put name v before) left
          cases hread : Json.members depth levels (Entries.put name v before) left with
          | error stop =>
            rw [hread] at hothers
            refine hothers.error fun stop => ?_
            rintro ⟨o, rfl, hlater⟩
            exact ⟨o, rfl, .laterMember hmember hs' hlater⟩
          | ok found =>
            rw [hread] at hothers
            obtain ⟨ws, ps, heq, hws, hputs⟩ := hothers
            refine ⟨m ++ commaMark :: (s' ++ ws), (name, v) :: ps, ?_,
              .moreMembers hmember hs' hws, hputs⟩
            rw [heq]
            simp only [List.cons_append, List.append_assoc]
        · trivial

theorem SoundAt.members_succ (h : SoundAt depth) (levels : Nat) (before : List (Text × Value))
    (t : Text) :
    Explained (fun ms rest => ∃ w ps, t = w ++ closeMark :: rest ∧ Written levels w (.members ps) ∧
      ms = putAll ps before) (Stuck levels t .members)
      (Json.members (depth + 1) levels before t) := by
  cases t with
  | nil => trivial
  | cons quote t =>
    have hname := textBody_explained (t.length + 1) (t.length + 1) t
    rw [← textAfterQuote] at hname
    rw [Json.members]
    split
    · trivial
    · next hquote =>
      obtain rfl := not_not.mp hquote
      split
      · next stop hread =>
        rw [hread] at hname
        exact hname.error fun _ => False.elim
      · next name afterName hread =>
        rw [hread] at hname
        obtain ⟨b, rfl, hb⟩ := hname
        split
        · trivial
        · next colon rest hskip =>
          obtain ⟨s₁, hs₁, rfl⟩ := exists_blank_of_skip hskip
          split
          · trivial
          · next hcolon =>
            obtain rfl := not_not.mp hcolon
            obtain ⟨s₂, hs₂, hrest⟩ := exists_blank_skip rest
            generalize skip rest = left at hrest
            subst hrest
            have hmember := h.afterMember hb hs₁ hs₂ levels before left
            rw [Json.afterMember.eq_def] at hmember
            exact hmember

/-- **Whatever is read is written as the grammar says.** -/
theorem soundAt (depth : Nat) : SoundAt depth := by
  induction depth with
  | zero => exact .zero
  | succ depth ih => exact ⟨ih.value_succ, ih.elements_succ, ih.members_succ⟩

/-! ## 5. Obstacles -/

variable {o : Obstacle} {levels : Nat}

/-- What a text begins with in which reading comes to an obstacle. -/
theorem ComesTo.head {t : Text} {stage : Stage} (h : ComesTo o levels t stage) :
    ∃ c rest, t = c :: rest ∧ IsHead c := by
  induction h with
  | integer _ sign whole =>
    obtain ⟨c, more, heq, hc, -⟩ := head_number sign whole _
    exact ⟨c, more, heq, isHead_number hc⟩
  | noListLevel => exact ⟨_, _, rfl, isHead_listMark⟩
  | noObjectLevel => exact ⟨_, _, rfl, isHead_openMark⟩
  | list => exact ⟨_, _, rfl, isHead_listMark⟩
  | object => exact ⟨_, _, rfl, isHead_openMark⟩
  | element _ ih => exact ih
  | laterElement before =>
    obtain ⟨c, rest, rfl, hc⟩ := before.head
    exact ⟨c, _, rfl, hc⟩
  | member => exact ⟨_, _, rfl, isHead_quoteMark⟩
  | laterMember before =>
    obtain ⟨c, rest, rfl, hc⟩ := before.head
    exact ⟨c, _, rfl, hc⟩

/-- Reading gives up at an obstacle.  Every mark that opens a list or an object costs two calls. -/
def GivesUp (o : Obstacle) (levels : Nat) (t : Text) : Stage → Prop
  | .value => ∀ depth, 2 * t.length ≤ depth → value depth levels t = .error o.stop
  | .elements => ∀ depth, 2 * t.length < depth → elements depth levels t = .error o.stop
  | .members => ∀ before depth, 2 * t.length < depth →
    members depth levels before t = .error o.stop

/-- **Where reading comes to an obstacle,** it gives up. -/
theorem ComesTo.givesUp {t : Text} {stage : Stage} (h : ComesTo o levels t stage) :
    GivesUp o levels t stage := by
  induction h with
  | @integer levels digits minus ds rest is_integer sign whole long count ends =>
    intro depth hdepth
    obtain ⟨c, more, rfl, -⟩ := whole.head
    simp only [List.length_append, List.length_cons] at hdepth
    obtain ⟨k, rfl⟩ : ∃ k, depth = k + 1 := ⟨depth - 1, by omega⟩
    subst count is_integer
    rw [value_number sign whole]
    exact number_of_long sign whole long ends
  | noListLevel is_array =>
    intro depth hdepth
    rw [List.length_cons] at hdepth
    obtain ⟨k, rfl⟩ : ∃ k, depth = k + 1 := ⟨depth - 1, by omega⟩
    rw [value_noListLevel, is_array, Obstacle.stop]
  | noObjectLevel is_object =>
    intro depth hdepth
    rw [List.length_cons] at hdepth
    obtain ⟨k, rfl⟩ : ∃ k, depth = k + 1 := ⟨depth - 1, by omega⟩
    rw [value_noObjectLevel, is_object, Obstacle.stop]
  | @list levels s t blank inside ih =>
    intro depth hdepth
    obtain ⟨c, more, rfl, hc⟩ := inside.head
    simp only [List.length_append, List.length_cons] at hdepth
    obtain ⟨k, rfl⟩ : ∃ k, depth = k + 1 := ⟨depth - 1, by omega⟩
    rw [value_list k levels blank hc, ih k (by rw [List.length_cons]; omega)]
    rfl
  | @object levels s t blank inside ih =>
    intro depth hdepth
    obtain ⟨c, more, rfl, hc⟩ := inside.head
    simp only [List.length_append, List.length_cons] at hdepth
    obtain ⟨k, rfl⟩ : ∃ k, depth = k + 1 := ⟨depth - 1, by omega⟩
    rw [value_object k levels blank hc, ih [] k (by rw [List.length_cons]; omega)]
    rfl
  | element inside ih =>
    intro depth hdepth
    obtain ⟨k, rfl⟩ : ∃ k, depth = k + 1 := ⟨depth - 1, by omega⟩
    rw [elements_eq, ih k (by omega)]
    rfl
  | @laterElement levels w s t v before blank later ih =>
    intro depth hdepth
    obtain ⟨c, more, rfl, hc⟩ := later.head
    simp only [List.length_append, List.length_cons] at hdepth
    obtain ⟨k, rfl⟩ : ∃ k, depth = k + 1 := ⟨depth - 1, by omega⟩
    obtain ⟨after, hread, hafter⟩ :=
      before.reads commaMark (s ++ c :: more) k (Or.inl rfl) (by omega)
    rw [elements_eq, hread, afterElement_comma k levels v hafter,
      skip_append_cons blank hc.not_isSpace, ih k (by rw [List.length_cons]; omega)]
    rfl
  | @member levels b name s₁ s₂ t body blank₁ blank₂ inside ih =>
    intro before depth hdepth
    obtain ⟨c, more, rfl, hc⟩ := inside.head
    simp only [List.length_append, List.length_cons] at hdepth
    obtain ⟨k, rfl⟩ : ∃ k, depth = k + 1 := ⟨depth - 1, by omega⟩
    rw [members_eq k levels body blank₁ blank₂ hc, ih k (by rw [List.length_cons]; omega)]
    rfl
  | @laterMember levels w s t p before blank later ih =>
    intro entries depth hdepth
    obtain ⟨c, more, rfl, hc⟩ := later.head
    simp only [List.length_append, List.length_cons] at hdepth
    obtain ⟨k, rfl⟩ : ∃ k, depth = k + 1 := ⟨depth - 1, by omega⟩
    rw [before.reads entries commaMark (s ++ c :: more) k (Or.inl rfl) (by omega),
      if_neg (by decide), skip_append_cons blank hc.not_isSpace,
      ih _ k (by rw [List.length_cons]; omega)]

/-! ## 6. Documents -/

/-- A document as a step of its own, before a failure is given its position. -/
def readStep (levels : Nat) (t : Text) : Step Value :=
  if t.head? = some (.ofNat 0xFEFF) then complain .byteOrderMark t
  else
    match value (2 * t.length + 2) levels (skip t) with
    | .error stop => .error stop
    | .ok (v, after) =>
      if (skip after).isEmpty then .ok (v, skip after) else complain .extraData (skip after)

theorem read_eq (t : Text) (levels : Nat) : read t levels = match readStep levels t with
    | .ok (v, _) => .ok v
    | .error (.integer misread) => .error (.integer misread)
    | .error (.tooDeep container) => .error (.tooDeep container)
    | .error (.malformed complaint left) =>
      .error (.malformed complaint t (t.length - left)) := rfl

/-- What is read is a document, and nothing but an obstacle is given up on. -/
theorem readStep_explained (levels : Nat) (t : Text) :
    Explained (fun v _ => Document levels t (.value v))
      (fun stop => ∃ o : Obstacle, stop = o.stop ∧ StopsAt o levels t) (readStep levels t) := by
  obtain ⟨s, hs, ht⟩ := exists_blank_skip t
  have hvalue := (soundAt (2 * t.length + 2)).value levels (skip t)
  rw [readStep]
  split
  · trivial
  · split
    · next stop hread =>
      rw [hread] at hvalue
      refine hvalue.error fun stop => ?_
      rintro ⟨o, rfl, hcomes⟩
      exact ⟨o, rfl, by rw [ht]; exact .intro hs hcomes⟩
    · next v after hread =>
      rw [hread] at hvalue
      obtain ⟨w, heq, hw⟩ := hvalue
      split
      · next hend =>
        obtain ⟨s', hs', hafter⟩ := exists_blank_skip after
        rw [List.isEmpty_iff.mp hend, List.append_nil] at hafter
        rw [heq, hafter] at ht
        rw [Explained, ht]
        exact .intro hs hw hs'
      · trivial

/-- **A text is read as what it denotes as a document** on so many levels, and as nothing else. -/
theorem read_eq_ok_iff {t : Text} {v : Value} :
    read t levels = .ok v ↔ Document levels t (.value v) := by
  refine ⟨fun h => ?_, read_of_document⟩
  have hstep := readStep_explained levels t
  rw [read_eq] at h
  split at h
  · next found _ hread =>
    rw [hread] at hstep
    rw [← Except.ok.inj h]
    exact hstep
  · cases h
  · cases h
  · cases h

/-- How reading a text ends that it stops in at an obstacle. -/
def Obstacle.misreading : Obstacle → Misreading
  | .integer digits => .integer (.tooLong digits)
  | .tooDeep container => .tooDeep container

/-- **Reading stops at an obstacle** that comes first in the text. -/
theorem read_of_stopsAt {t : Text} (h : StopsAt o levels t) :
    read t levels = .error o.misreading := by
  cases h with
  | @intro s t blank comes =>
    obtain ⟨c, more, rfl, hc⟩ := comes.head
    have hread := comes.givesUp (2 * (s ++ c :: more).length + 2)
      (by rw [List.length_append]; omega)
    rw [read, if_neg (head_ne_byteOrderMark blank hc more),
      skip_append_cons blank hc.not_isSpace, hread]
    cases o <;> rfl

/-- What reading says of a text that it gives up on is true. -/
theorem stopsAt_of_read {t : Text} {misreading : Misreading}
    (h : read t levels = .error misreading)
    (hgiven : ∀ complaint place, misreading ≠ .malformed complaint t place) :
    ∃ o : Obstacle, misreading = o.misreading ∧ StopsAt o levels t := by
  have hstep := readStep_explained levels t
  rw [read_eq] at h
  split at h
  · cases h
  · next misread hread =>
    rw [hread] at hstep
    obtain ⟨o, ho, hstops⟩ := hstep
    refine ⟨o, ?_, hstops⟩
    cases o with
    | integer digits =>
      cases ho
      exact (Except.error.inj h).symm
    | tooDeep container => cases ho
  · next container hread =>
    rw [hread] at hstep
    obtain ⟨o, ho, hstops⟩ := hstep
    refine ⟨o, ?_, hstops⟩
    cases o with
    | integer digits => cases ho
    | tooDeep container =>
      cases ho
      exact (Except.error.inj h).symm
  · exact absurd (Except.error.inj h).symm (hgiven _ _)

/-- **An integer is given up on** where the first thing that keeps the text from being read is an
integer that is too long. -/
theorem read_eq_integer_iff {t : Text} {misread : Integer.Misread} :
    read t levels = .error (.integer misread) ↔
      ∃ n, misread = .tooLong n ∧ StopsAt (.integer n) levels t := by
  constructor
  · intro h
    obtain ⟨o, ho, hstops⟩ := stopsAt_of_read h nofun
    cases o with
    | integer n => exact ⟨n, Misreading.integer.inj ho, hstops⟩
    | tooDeep container => cases ho
  · rintro ⟨n, rfl, h⟩
    exact read_of_stopsAt h

/-- **The levels do not reach** where the first thing that keeps the text from being read is a
container that stands inside too many others. -/
theorem read_eq_tooDeep_iff {t : Text} {container : Container} :
    read t levels = .error (.tooDeep container) ↔ StopsAt (.tooDeep container) levels t := by
  refine ⟨fun h => ?_, read_of_stopsAt⟩
  obtain ⟨o, ho, hstops⟩ := stopsAt_of_read h nofun
  cases o with
  | integer n => cases ho
  | tooDeep other =>
    cases ho
    exact hstops

/-- **An object is read** as what the names are last given, and in the order in which they first
stand in it. -/
theorem document_object_iff {t : Text} {entries : List (Text × Value)} :
    Document levels t (.value (.object entries)) ↔
      ∃ ps, Document levels t (.object ps) ∧ entries = (Dictionary.ofList ps).entries := by
  constructor
  · intro h
    cases h with
    | intro blank₁ written blank₂ =>
      cases written with
      | scalar scalar =>
        cases scalar with
        | word known =>
          simp [words] at known
      | ofObject object => exact ⟨_, .intro blank₁ object blank₂, rfl⟩
  · rintro ⟨ps, h, rfl⟩
    exact h.ofObject

end CloudAccess.Json
