/-
# Documents are read

Each piece of a document is read as what it denotes, whatever comes after it that may come there.
The lemmas go from the inside out, a text, a number, a value, the elements and members, and all of
them are about a piece with the rest of the document behind it.  Since values nest, those about
lists and objects are one theorem about all parts (`Written.reads`).

`read_of_document` is the whole: of members with one name, the first gives the place and the last
the value.
-/
import CloudAccess.Proofs.Dictionary
import CloudAccess.Proofs.Json.Document
import CloudAccess.Proofs.Text.Characters
import CloudAccess.Proofs.Text.Pieces

namespace CloudAccess.Json

/-! ## 1. White space -/

theorem skip_append_cons {s rest : Text} {c : CodePoint} (hs : Blank s) (hc : isSpace c = false) :
    skip (s ++ c :: rest) = c :: rest := by
  rw [skip, List.dropWhile_append_of_pos hs, List.dropWhile_cons_of_neg (by simp [hc])]

theorem skip_of_blank {s : Text} (hs : Blank s) : skip s = [] :=
  List.dropWhile_eq_nil_iff.mpr hs

/-! ## 2. Texts -/

theorem fourHex?_append {t left : Text} {n : Nat} (h : fourHex? t = some (n, left))
    (rest : Text) : fourHex? (t ++ rest) = some (n, left ++ rest) := by
  match t, h with
  | a :: b :: c :: d :: more, h =>
    simp only [fourHex?, Option.bind_eq_bind, Option.bind_eq_some_iff, Option.some.injEq,
      Prod.mk.injEq] at h
    obtain ⟨x, hx, y, hy, z, hz, u, hu, rfl, rfl⟩ := h
    simp only [List.cons_append, fourHex?, hx, hy, hz, hu, Option.bind_eq_bind, Option.bind_some]

theorem FourHex.exists_digits {h : Text} {n : Nat} (digits : FourHex h n) :
    ∃ a b c d, h = [a, b, c, d] ∧ ∀ digit ∈ h, ∃ v, digit.hexValue? = some v := by
  match h, digits with
  | a :: b :: c :: d :: more, digits =>
    simp only [FourHex, fourHex?, Option.bind_eq_bind, Option.bind_eq_some_iff, Option.some.injEq,
      Prod.mk.injEq] at digits
    obtain ⟨x, hx, y, hy, z, hz, u, hu, -, rfl⟩ := digits
    refine ⟨a, b, c, d, rfl, ?_⟩
    simp only [List.forall_mem_cons]
    exact ⟨⟨x, hx⟩, ⟨y, hy⟩, ⟨z, hz⟩, ⟨u, hu⟩, nofun⟩

theorem FourHex.length_eq {h : Text} {n : Nat} (digits : FourHex h n) : h.length = 4 := by
  obtain ⟨a, b, c, d, rfl, -⟩ := digits.exists_digits
  rfl

theorem escapeMark_ne_quoteMark : escapeMark ≠ quoteMark := by decide

theorem simpleEscape?_numberMark : simpleEscape? numberMark = none := by decide

/-- A first half that stands alone does so because no second half comes after it. -/
theorem Body.not_isLow {w t after rest : Text} (h : Body w t) (hs : ¬StartsLow w)
    (heq : w ++ quoteMark :: rest = escapeMark :: numberMark :: after) :
    ∃ low left, fourHex? after = some (low, left) ∧ ¬IsLow low := by
  cases h with
  | nil => exact absurd (List.cons.inj heq).1 (by decide)
  | plain not_quote not_escape visible body => exact absurd (List.cons.inj heq).1 not_escape
  | simple letter body =>
    obtain rfl := (List.cons.inj (List.cons.inj heq).2).1
    rw [simpleEscape?_numberMark] at letter
    cases letter
  | @unicode h w t n digits single body =>
    obtain rfl := (List.cons.inj (List.cons.inj heq).2).2
    refine ⟨n, w ++ quoteMark :: rest, ?_, fun hlow => hs ⟨h, n, w, digits, hlow, rfl⟩⟩
    show fourHex? (h ++ w ++ quoteMark :: rest) = _
    rw [List.append_assoc]
    exact fourHex?_append digits _
  | @pair h l w t high low first second isHigh isLow body =>
    obtain rfl := (List.cons.inj (List.cons.inj heq).2).2
    refine ⟨high, escapeMark :: numberMark :: (l ++ w) ++ quoteMark :: rest, ?_, fun hlow => ?_⟩
    · show fourHex? (h ++ escapeMark :: numberMark :: (l ++ w) ++ quoteMark :: rest) = _
      rw [List.append_assoc]
      exact fourHex?_append first _
    · have := hlow.1
      have := isHigh.2
      omega

theorem unicodeEscape_single {h tail : Text} {n : Nat} (digits : FourHex h n) (hne : tail ≠ [])
    (alone : IsHigh n → ∀ after, tail = escapeMark :: numberMark :: after →
      ∃ low left, fourHex? after = some (low, left) ∧ ¬IsLow low) :
    unicodeEscape (h ++ tail) = .ok (CodePoint.ofNat n, tail) := by
  obtain ⟨c, rest, rfl⟩ := List.exists_cons_of_ne_nil hne
  rw [unicodeEscape, fourHex?_append digits]
  simp only [List.nil_append]
  split
  · next hhigh =>
    cases rest with
    | nil => rfl
    | cons d after =>
      simp only
      split
      · next hescape =>
        obtain ⟨rfl, rfl, -⟩ := hescape
        obtain ⟨low, left, hlow, hnot⟩ := alone hhigh after rfl
        simp only [hlow]
        exact if_neg hnot
      · rfl
  · rfl

theorem unicodeEscape_pair {h l tail : Text} {high low : Nat} (first : FourHex h high)
    (second : FourHex l low) (isHigh : IsHigh high) (isLow : IsLow low) (hne : tail ≠ []) :
    unicodeEscape (h ++ escapeMark :: numberMark :: (l ++ tail))
      = .ok (CodePoint.ofNat (0x10000 + (high - 0xD800) * 0x400 + (low - 0xDC00)), tail) := by
  have hlong : 5 ≤ (l ++ tail).length := by
    have := List.length_pos_iff.mpr hne
    rw [List.length_append, second.length_eq]
    omega
  rw [unicodeEscape, fourHex?_append first]
  simp only [List.nil_append, hlong, and_self, ↓reduceIte, fourHex?_append second]
  refine (if_pos isHigh).trans ?_
  exact if_pos isLow

/-- **A text is read** up to its closing quote. -/
theorem textBody_append {w t : Text} (h : Body w t) (rest : Text) (opening : Nat) {rounds : Nat}
    (hrounds : w.length < rounds) :
    textBody opening rounds (w ++ quoteMark :: rest) = .ok (t, rest) := by
  have hnext : ∃ n, rounds = n + 1 := ⟨rounds - 1, by omega⟩
  induction h generalizing rounds with
  | nil =>
    obtain ⟨n, rfl⟩ := hnext
    rw [List.nil_append, textBody.eq_def]
    exact if_pos rfl
  | @plain c w t not_quote not_escape visible body ih =>
    obtain ⟨n, rfl⟩ := hnext
    have hcontrol : ¬c.val ≤ 0x1F := by omega
    rw [List.length_cons] at hrounds
    rw [List.cons_append, textBody.eq_def]
    simp only
    rw [if_neg not_quote, if_neg not_escape, if_neg hcontrol, ih (by omega) ⟨n - 1, by omega⟩]
    rfl
  | @simple e d w t letter body ih =>
    obtain ⟨n, rfl⟩ := hnext
    have hletter : e ≠ numberMark := by
      rintro rfl
      rw [simpleEscape?_numberMark] at letter
      cases letter
    rw [List.length_cons, List.length_cons] at hrounds
    rw [List.cons_append, List.cons_append, textBody.eq_def]
    simp only [escapeMark_ne_quoteMark, ↓reduceIte, letter]
    rw [if_neg hletter, ih (by omega) ⟨n - 1, by omega⟩]
    rfl
  | @unicode h w t number digits single body ih =>
    obtain ⟨n, rfl⟩ := hnext
    have halone : IsHigh number → ∀ after,
        w ++ quoteMark :: rest = escapeMark :: numberMark :: after →
        ∃ low left, fourHex? after = some (low, left) ∧ ¬IsLow low :=
      fun hhigh after => body.not_isLow fun hlow => single ⟨hhigh, hlow⟩
    rw [List.length_cons, List.length_cons, List.length_append] at hrounds
    rw [List.cons_append, List.cons_append, List.append_assoc, textBody.eq_def]
    simp only [escapeMark_ne_quoteMark, ↓reduceIte]
    rw [unicodeEscape_single digits (by simp) halone]
    simp only
    rw [ih (by omega) ⟨n - 1, by omega⟩]
    rfl
  | @pair h l w t high low first second isHigh isLow body ih =>
    obtain ⟨n, rfl⟩ := hnext
    rw [List.length_cons, List.length_cons, List.length_append, List.length_cons, List.length_cons,
      List.length_append] at hrounds
    rw [List.cons_append, List.cons_append, List.append_assoc, List.cons_append, List.cons_append,
      List.append_assoc, textBody.eq_def]
    simp only [escapeMark_ne_quoteMark, ↓reduceIte]
    rw [unicodeEscape_pair first second isHigh isLow (by simp)]
    simp only
    rw [ih (by omega) ⟨n - 1, by omega⟩]
    rfl

theorem textAfterQuote_append {w t : Text} (h : Body w t) (rest : Text) :
    textAfterQuote (w ++ quoteMark :: rest) = .ok (t, rest) := by
  refine textBody_append h rest _ ?_
  rw [List.length_append, List.length_cons]
  omega

/-! ## 3. Numbers -/

/-- What may come after a value: white space, a comma, the end of the list, of the object or of the
document. -/
def Ends (rest : Text) : Prop :=
  ∀ c ∈ rest.head?, isSpace c = true ∨ c = commaMark ∨ c = listEndMark ∨ c = closeMark

theorem val_of_isSpace {c : CodePoint} (h : isSpace c = true) :
    c.val = 0x20 ∨ c.val = 0x09 ∨ c.val = 0x0A ∨ c.val = 0x0D := by
  simpa only [isSpace, Bool.or_eq_true, beq_iff_eq, or_assoc] using h

/-- After a value, a number does not go on. -/
theorem Ends.val {rest : Text} (h : Ends rest) {c : CodePoint} (hc : c ∈ rest.head?) :
    c.val ≤ 0x20 ∨ c.val = 0x2C ∨ c.val = 0x5D ∨ c.val = 0x7D := by
  rcases h c hc with hspace | rfl | rfl | rfl
  · have := val_of_isSpace hspace
    omega
  · exact Or.inr (Or.inl rfl)
  · exact Or.inr (Or.inr (Or.inl rfl))
  · exact Or.inr (Or.inr (Or.inr rfl))

theorem Ends.not_digit {rest : Text} (h : Ends rest) {c : CodePoint} (hc : c ∈ rest.head?) :
    c.isAsciiDigit = false := by
  have := h.val hc
  rw [Bool.eq_false_iff, ne_eq, CodePoint.isAsciiDigit_iff]
  omega

theorem digits_append {ds rest : Text} (hds : Digits ds)
    (hrest : ∀ c ∈ rest.head?, c.isAsciiDigit = false) : digits (ds ++ rest) = (ds, rest) :=
  Text.span_append hds.2 hrest

theorem wholePart?_append {ds rest : Text} (hds : Whole ds)
    (hrest : ∀ c ∈ rest.head?, c.isAsciiDigit = false) :
    wholePart? (ds ++ rest) = some (ds, rest) := by
  cases hds with
  | zero => rfl
  | @digits c ds ne_zero all =>
    have hc := all.2 c List.mem_cons_self
    rw [List.cons_append, wholePart?, if_neg ne_zero, if_pos hc, ← List.cons_append,
      digits_append all hrest]

theorem fractionPart_append {fraction rest : Text} (h : Fraction fraction)
    (hrest : ∀ c ∈ rest.head?, c.isAsciiDigit = false ∧ c ≠ pointMark) :
    fractionPart (fraction ++ rest) = (fraction, rest) := by
  cases h with
  | absent =>
    rw [List.nil_append, fractionPart.eq_def]
    split
    · next point d more =>
      have hpoint := (hrest point rfl).2
      exact if_neg fun h => hpoint h.1
    · rfl
  | @present ds digits =>
    obtain ⟨d, more, rfl⟩ := List.exists_cons_of_ne_nil digits.1
    have hd := digits.2 d List.mem_cons_self
    rw [List.cons_append, List.cons_append, fractionPart]
    simp only [hd, and_self, ↓reduceIte]
    rw [← List.cons_append, digits_append digits fun c hc => (hrest c hc).1]

/-- The sign of an exponent, with the text after it. -/
def exponentSign : Text → Text × Text
  | [] => ([], [])
  | c :: rest => if c = '-' ∨ c = '+' then ([c], rest) else ([], c :: rest)

theorem exponentPart_cons {e : CodePoint} (letter : e = 'e' ∨ e = 'E') (rest : Text) :
    exponentPart (e :: rest)
      = if (digits (exponentSign rest).2).1.isEmpty then ([], e :: rest)
        else (e :: (exponentSign rest).1 ++ (digits (exponentSign rest).2).1,
          (digits (exponentSign rest).2).2) := by
  rw [exponentPart.eq_def]
  refine (if_pos letter).trans ?_
  cases rest <;> rfl

theorem exponentSign_append {sign ds : Text}
    (signed : sign = [] ∨ sign = [plusSign] ∨ sign = [minusSign]) (hds : Digits ds) (rest : Text) :
    exponentSign (sign ++ (ds ++ rest)) = (sign, ds ++ rest) := by
  rcases signed with rfl | rfl | rfl
  · obtain ⟨d, more, rfl⟩ := List.exists_cons_of_ne_nil hds.1
    refine if_neg ?_
    have := hds.2 d List.mem_cons_self
    rintro (rfl | rfl) <;> revert this <;> decide
  · rw [List.singleton_append, exponentSign, if_pos (Or.inr rfl)]
  · rw [List.singleton_append, exponentSign, if_pos (Or.inl rfl)]

theorem exponentPart_append {exponent rest : Text} (h : Exponent exponent) (hrest : Ends rest) :
    exponentPart (exponent ++ rest) = (exponent, rest) := by
  cases h with
  | absent =>
    cases rest with
    | nil => rfl
    | cons c more =>
      have hc := hrest.val (c := c) rfl
      have hletter : ¬(c = 'e' ∨ c = 'E') := by
        rintro (rfl | rfl) <;> revert hc <;> decide
      rw [List.nil_append, exponentPart.eq_def]
      exact if_neg hletter
  | @present e sign ds letter signed hds =>
    have hdigits := digits_append hds fun c hc => hrest.not_digit hc
    have hne : ds.isEmpty = false := by simp [hds.1]
    rw [List.cons_append, List.append_assoc, exponentPart_cons letter,
      exponentSign_append signed hds]
    simp only [hdigits, hne, Bool.false_eq_true, ↓reduceIte, List.cons_append]

theorem Whole.head {ds : Text} (h : Whole ds) :
    ∃ c rest, ds = c :: rest ∧ c.isAsciiDigit = true := by
  cases h with
  | zero => exact ⟨_, _, rfl, by decide⟩
  | digits ne_zero all => exact ⟨_, _, rfl, all.2 _ List.mem_cons_self⟩

theorem Whole.head_ne_minusSign {ds rest : Text} (h : Whole ds) :
    ∀ c ∈ (ds ++ rest).head?, c ≠ minusSign := by
  obtain ⟨c, more, rfl, hc⟩ := h.head
  rintro d hd rfl
  obtain rfl := Option.some.inj hd
  revert hc
  decide

/-- What comes after the digits of a whole part or a fraction does not go on with them. -/
theorem Exponent.head_append {exponent rest : Text} (h : Exponent exponent) (hrest : Ends rest) :
    ∀ c ∈ (exponent ++ rest).head?, c.isAsciiDigit = false ∧ c ≠ pointMark := by
  intro c hc
  cases h with
  | absent =>
    refine ⟨hrest.not_digit hc, ?_⟩
    rintro rfl
    exact absurd (hrest.val hc) (by decide)
  | present letter signed digits =>
    obtain rfl := Option.some.inj hc
    rcases letter with rfl | rfl <;> decide

theorem Fraction.head_append {fraction exponent rest : Text} (h : Fraction fraction)
    (power : Exponent exponent) (hrest : Ends rest) :
    ∀ c ∈ (fraction ++ (exponent ++ rest)).head?, c.isAsciiDigit = false := by
  intro c hc
  cases h with
  | absent => exact (power.head_append hrest c hc).1
  | present digits =>
    obtain rfl := Option.some.inj hc
    decide

/-- What a number denotes, by its parts. -/
def ofParts (minus ds fraction exponent rest : Text) : Step Value :=
  if fraction.isEmpty && exponent.isEmpty then
    match Integer.read (minus ++ ds) with
    | .ok n => .ok (.whole n, rest)
    | .error misread => .error (.integer misread)
  else .ok (.real (minus ++ ds ++ fraction ++ exponent), rest)

/-- The parts of a number are taken one after the other. -/
theorem number_eq {minus body : Text} (sign : Minus minus)
    (hbody : minus = [] → ∀ c ∈ body.head?, c ≠ minusSign) :
    number (minus ++ body) = match wholePart? body with
      | none => complain .expectingValue (minus ++ body)
      | some (ds, afterWhole) =>
        ofParts minus ds (fractionPart afterWhole).1 (exponentPart (fractionPart afterWhole).2).1
          (exponentPart (fractionPart afterWhole).2).2 := by
  rw [number.eq_def]
  rcases sign with rfl | rfl
  · cases body with
    | nil => rfl
    | cons c more =>
      simp only [List.nil_append, hbody rfl c rfl, ↓reduceIte]
      rfl
  · simp only [List.singleton_append, ↓reduceIte]
    rfl

/-- **A number is read** up to what may come after it. -/
theorem number_append {minus ds fraction exponent rest : Text} (sign : Minus minus)
    (digits : Whole ds) (afterPoint : Fraction fraction) (power : Exponent exponent)
    (hrest : Ends rest) :
    number (minus ++ (ds ++ (fraction ++ (exponent ++ rest))))
      = ofParts minus ds fraction exponent rest := by
  rw [number_eq sign fun _ => digits.head_ne_minusSign,
    wholePart?_append digits (afterPoint.head_append power hrest)]
  simp only [fractionPart_append afterPoint (power.head_append hrest),
    exponentPart_append power hrest]

/-! ## 4. Values -/

theorem word?_append {p : Text × Value} (h : p ∈ words) (rest : Text) :
    word? (p.1 ++ rest) = some (p.2, rest) := by
  have hall : ∀ p ∈ words, word? (p.1 ++ rest) = some (p.2, rest) := by
    simp only [words, List.forall_mem_cons]
    exact ⟨rfl, rfl, rfl, rfl, rfl, rfl, by simp⟩
  exact hall p h

/-- No word has a digit among its first two letters. -/
theorem isAsciiDigit_word :
    ∀ p ∈ words, 2 ≤ p.1.length ∧ ∀ c ∈ p.1.take 2, c.isAsciiDigit = false := by
  decide

/-- A word begins in a way of its own. -/
theorem head_word : ∀ p ∈ words, ∀ c ∈ p.1.head?,
    isSpace c = false ∧ c ≠ quoteMark ∧ c ≠ openMark ∧ c ≠ '[' := by
  decide

theorem exists_cons_of_word {p : Text × Value} (h : p ∈ words) : ∃ c more, p.1 = c :: more := by
  have hlength := (isAsciiDigit_word p h).1
  exact List.exists_cons_of_ne_nil fun hnil => by simp [hnil] at hlength

/-- A text with a digit there begins with no word. -/
theorem word?_eq_none {t : Text} (h : ∃ c ∈ t.take 2, c.isAsciiDigit = true) :
    word? t = none := by
  rw [word?, List.findSome?_eq_none_iff]
  rintro ⟨w, v⟩ hword
  rw [Option.map_eq_none_iff, Option.eq_none_iff_forall_ne_some]
  intro rest hrest
  obtain rfl := Text.dropStart?_eq_some_iff.mp hrest
  obtain ⟨hlength, hnot⟩ := isAsciiDigit_word _ hword
  obtain ⟨c, hc, hdigit⟩ := h
  rw [List.take_append_of_le_length hlength] at hc
  rw [hnot c hc] at hdigit
  cases hdigit

/-- What begins a number. -/
theorem head_number {minus ds : Text} (sign : Minus minus) (digits : Whole ds) (rest : Text) :
    ∃ c more, minus ++ (ds ++ rest) = c :: more ∧ (c = minusSign ∨ c.isAsciiDigit = true) ∧
      ∃ d ∈ (minus ++ (ds ++ rest)).take 2, d.isAsciiDigit = true := by
  obtain ⟨c, more, rfl, hc⟩ := digits.head
  rcases sign with rfl | rfl
  · exact ⟨c, more ++ rest, rfl, Or.inr hc, c, by simp, hc⟩
  · exact ⟨minusSign, c :: (more ++ rest), rfl, Or.inl rfl, c, by simp, hc⟩

/-- `c` may begin a part of a document: it is visible and closes nothing. -/
def IsHead (c : CodePoint) : Prop :=
  0x20 < c.val ∧ c.val < 0x7F ∧ c ≠ listEndMark ∧ c ≠ closeMark

theorem IsHead.not_isSpace {c : CodePoint} (h : IsHead c) : isSpace c = false := by
  rw [Bool.eq_false_iff]
  intro hspace
  have := val_of_isSpace hspace
  have := h.1
  omega

theorem isHead_word : ∀ p ∈ words, ∀ c ∈ p.1.head?, IsHead c := by
  unfold IsHead
  decide

theorem isHead_number {c : CodePoint} (h : c = minusSign ∨ c.isAsciiDigit = true) : IsHead c := by
  rcases h with rfl | h
  · unfold IsHead
    decide
  · rw [CodePoint.isAsciiDigit_iff] at h
    have hval : c.val ≠ 0x5D ∧ c.val ≠ 0x7D := by omega
    exact ⟨by omega, by omega, CodePoint.ne_of_val_ne hval.1, CodePoint.ne_of_val_ne hval.2⟩

theorem isHead_quoteMark : IsHead quoteMark := by
  unfold IsHead
  decide

theorem isHead_listMark : IsHead listMark := by
  unfold IsHead
  decide

theorem isHead_openMark : IsHead openMark := by
  unfold IsHead
  decide

/-- What a value begins with. -/
theorem Scalar.head {w : Text} {v : Value} (h : Scalar w v) :
    ∃ c rest, w = c :: rest ∧ IsHead c := by
  cases h with
  | word known =>
    obtain ⟨c, more, heq⟩ := exists_cons_of_word known
    exact ⟨c, more, heq, isHead_word _ known c (by rw [heq]; rfl)⟩
  | text body => exact ⟨_, _, rfl, isHead_quoteMark⟩
  | whole sign digits number =>
    obtain ⟨c, more, heq, hc, -⟩ := head_number sign digits []
    rw [List.append_nil] at heq
    exact ⟨c, more, heq, isHead_number hc⟩
  | real sign digits afterPoint power present =>
    obtain ⟨c, more, heq, hc, -⟩ := head_number sign digits _
    exact ⟨c, more, heq, isHead_number hc⟩

/-- What a part of a document begins with. -/
theorem Written.head {n : Nat} {w : Text} {part : Part} (h : Written n w part) :
    ∃ c rest, w = c :: rest ∧ IsHead c := by
  induction h with
  | scalar scalar => exact scalar.head
  | emptyList => exact ⟨_, _, rfl, isHead_listMark⟩
  | list => exact ⟨_, _, rfl, isHead_listMark⟩
  | emptyObject => exact ⟨_, _, rfl, isHead_openMark⟩
  | object => exact ⟨_, _, rfl, isHead_openMark⟩
  | ofObject _ ih => exact ih
  | element _ _ ih =>
    obtain ⟨c, rest, rfl, hc⟩ := ih
    exact ⟨c, _, rfl, hc⟩
  | lastElement _ ih => exact ih
  | moreElements _ _ _ ih _ =>
    obtain ⟨c, rest, rfl, hc⟩ := ih
    exact ⟨c, _, rfl, hc⟩
  | member => exact ⟨_, _, rfl, isHead_quoteMark⟩
  | lastMember _ ih => exact ih
  | moreMembers _ _ _ ih _ =>
    obtain ⟨c, rest, rfl, hc⟩ := ih
    exact ⟨c, _, rfl, hc⟩

theorem Written.head_append {n : Nat} {w : Text} {part : Part} (h : Written n w part)
    (rest : Text) :
    ∃ c more, w ++ rest = c :: more ∧ IsHead c := by
  obtain ⟨c, more, rfl, hc⟩ := h.head
  exact ⟨c, more ++ rest, rfl, hc⟩

theorem Written.skip_append {n : Nat} {s w : Text} {part : Part} (hs : Blank s)
    (h : Written n w part) (rest : Text) : skip (s ++ (w ++ rest)) = w ++ rest := by
  obtain ⟨c, more, rfl, hc⟩ := h.head
  exact skip_append_cons hs hc.not_isSpace

/-- What begins neither a text nor a list nor an object is a word, if it begins with one. -/
theorem value_word {c : CodePoint} (hquote : c ≠ quoteMark) (hobject : c ≠ openMark)
    (hlist : c ≠ '[') {rest : Text} {found : Value × Text} (h : word? (c :: rest) = some found)
    (depth levels : Nat) : value (depth + 1) levels (c :: rest) = .ok found := by
  rw [value, if_neg hquote, if_neg hobject, if_neg hlist, h]

/-- Otherwise it is a number. -/
theorem value_of_no_word {c : CodePoint} (hquote : c ≠ quoteMark) (hobject : c ≠ openMark)
    (hlist : c ≠ '[') {rest : Text} (h : word? (c :: rest) = none)
    (depth levels : Nat) : value (depth + 1) levels (c :: rest) = number (c :: rest) := by
  rw [value, if_neg hquote, if_neg hobject, if_neg hlist, h]

theorem value_number {minus ds rest : Text} (sign : Minus minus) (digits : Whole ds)
    (depth levels : Nat) :
    value (depth + 1) levels (minus ++ (ds ++ rest)) = number (minus ++ (ds ++ rest)) := by
  obtain ⟨c, more, heq, hc, hdigit⟩ := head_number sign digits rest
  have hword := word?_eq_none hdigit
  rw [heq] at hword ⊢
  refine value_of_no_word ?_ ?_ ?_ hword depth levels
  all_goals
    rintro rfl
    revert hc
    decide

/-- A value that is no list and no object is read up to what may come after it. -/
theorem value_scalar {w rest : Text} {v : Value} (h : Scalar w v) (hrest : Ends rest)
    (depth levels : Nat) : value (depth + 1) levels (w ++ rest) = .ok (v, rest) := by
  cases h with
  | word known =>
    have hword := word?_append known rest
    obtain ⟨c, more, heq⟩ := exists_cons_of_word known
    obtain ⟨-, hquote, hobject, hlist⟩ := head_word _ known c (by rw [heq]; rfl)
    obtain rfl : w = c :: more := heq
    rw [List.cons_append] at hword ⊢
    exact value_word hquote hobject hlist hword depth levels
  | @text w t body =>
    rw [List.cons_append, List.append_assoc, List.singleton_append, value, if_pos rfl,
      textAfterQuote_append body]
    rfl
  | @whole minus ds n sign digits number =>
    rw [List.append_assoc, value_number sign digits]
    have hnumber := number_append sign digits .absent .absent hrest
    rw [ofParts, number] at hnumber
    exact hnumber
  | @real minus ds fraction exponent sign digits afterPoint power present =>
    rw [List.append_assoc, List.append_assoc, List.append_assoc, value_number sign digits,
      number_append sign digits afterPoint power hrest, ofParts, if_neg]
    · simp only [List.append_assoc]
    · rw [Bool.and_eq_true, List.isEmpty_iff, List.isEmpty_iff]
      exact fun hnone => present.elim (fun h => h hnone.1) fun h => h hnone.2

/-! ## 5. Lists and objects -/

theorem ends_append_cons {s : Text} (hs : Blank s) {c : CodePoint}
    (hc : c = commaMark ∨ c = listEndMark ∨ c = closeMark) (rest : Text) :
    Ends (s ++ c :: rest) := by
  intro d hd
  cases s with
  | nil =>
    obtain rfl := Option.some.inj hd
    exact Or.inr hc
  | cons a s =>
    obtain rfl := Option.some.inj hd
    exact Or.inl (hs a List.mem_cons_self)

section Steps

variable {s t : Text} {c : CodePoint} (depth levels : Nat)

theorem value_emptyList (hs : Blank s) (rest : Text) :
    value (depth + 1) (levels + 1) (listMark :: (s ++ listEndMark :: rest))
      = .ok (.list [], rest) := by
  rw [value, if_neg (by decide), if_neg (by decide), if_pos rfl, enter,
    skip_append_cons hs (by decide)]
  exact if_pos rfl

theorem value_list (hs : Blank s) (hc : IsHead c) :
    value (depth + 1) (levels + 1) (listMark :: (s ++ c :: t))
      = (elements depth levels (c :: t)).map fun (vs, r) => (.list vs, r) := by
  rw [value, if_neg (by decide), if_neg (by decide), if_pos rfl, enter,
    skip_append_cons hs hc.not_isSpace]
  exact if_neg hc.2.2.1

theorem value_emptyObject (hs : Blank s) (rest : Text) :
    value (depth + 1) (levels + 1) (openMark :: (s ++ closeMark :: rest))
      = .ok (.object [], rest) := by
  rw [value, if_neg (by decide), if_pos rfl, enter, skip_append_cons hs (by decide)]
  exact if_pos rfl

theorem value_object (hs : Blank s) (hc : IsHead c) :
    value (depth + 1) (levels + 1) (openMark :: (s ++ c :: t))
      = (members depth levels [] (c :: t)).map fun (ms, r) => (.object ms, r) := by
  rw [value, if_neg (by decide), if_pos rfl, enter, skip_append_cons hs hc.not_isSpace]
  exact if_neg hc.2.2.2

/-- Without a level left, no list and no object is read. -/
theorem value_noListLevel (rest : Text) :
    value (depth + 1) 0 (listMark :: rest) = .error (.tooDeep .array) := by
  rw [value, if_neg (by decide), if_neg (by decide), if_pos rfl, enter]

theorem value_noObjectLevel (rest : Text) :
    value (depth + 1) 0 (openMark :: rest) = .error (.tooDeep .object) := by
  rw [value, if_neg (by decide), if_pos rfl, enter]

/-- What reading goes on with after an element. -/
def afterElement : Step Value → Step (List Value)
  | .error stop => .error stop
  | .ok (v, after) =>
    match skip after with
    | [] => complain .expectingComma []
    | c :: rest =>
      if c = ']' then .ok ([v], rest)
      else if c = ',' then (elements depth levels (skip rest)).map fun (vs, r) => (v :: vs, r)
      else complain .expectingComma (c :: rest)

theorem elements_eq (t : Text) :
    elements (depth + 1) levels t = afterElement depth levels (value depth levels t) := by
  rw [elements]
  cases value depth levels t <;> rfl

theorem afterElement_comma (v : Value) {after rest : Text} (h : skip after = commaMark :: rest) :
    afterElement depth levels (.ok (v, after))
      = (elements depth levels (skip rest)).map fun (vs, r) => (v :: vs, r) := by
  rw [afterElement, h]
  rfl

/-- What reading goes on with after the value of a member. -/
def afterMember (before : List (Text × Value)) (name : Text) :
    Step Value → Step (List (Text × Value))
  | .error stop => .error stop
  | .ok (v, after) =>
    match skip after with
    | [] => complain .expectingComma []
    | c :: more =>
      if c = '\x7d' then .ok (Entries.put name v before, more)
      else if c = ',' then members depth levels (Entries.put name v before) (skip more)
      else complain .expectingComma (c :: more)

/-- A member's value is read after its name. -/
theorem members_eq {b name s₁ s₂ : Text} (body : Body b name) (blank₁ : Blank s₁)
    (blank₂ : Blank s₂) (hc : IsHead c) (before : List (Text × Value)) :
    members (depth + 1) levels before
        (quoteMark :: (b ++ quoteMark :: (s₁ ++ colonMark :: (s₂ ++ c :: t))))
      = afterMember depth levels before name (value depth levels (c :: t)) := by
  rw [members, if_neg (by simp), textAfterQuote_append body]
  simp only
  rw [skip_append_cons blank₁ (by decide)]
  simp only [ne_eq, not_true_eq_false, ↓reduceIte]
  rw [skip_append_cons blank₂ hc.not_isSpace]
  cases value depth levels (c :: t) <;> rfl

end Steps

/-- Set members one after the other. -/
def putAll (ps before : List (Text × Value)) : List (Text × Value) :=
  ps.foldl (fun entries p => Entries.put p.1 p.2 entries) before

theorem putAll_nil (ps : List (Text × Value)) : putAll ps [] = (Dictionary.ofList ps).entries :=
  (Dictionary.entries_insertAll Dictionary.empty ps).symm

/-- What reading makes of a part of a document, whatever comes after it that may come there.  The
calls nest no deeper than the part is long. -/
def Reads (levels : Nat) (w : Text) : Part → Prop
  | .value v => ∀ rest depth, Ends rest → w.length ≤ depth →
    value depth levels (w ++ rest) = .ok (v, rest)
  | .object ps => ∀ rest depth, w.length ≤ depth →
    value depth levels (w ++ rest) = .ok (.object (putAll ps []), rest)
  | .element v => ∀ c rest depth, (c = commaMark ∨ c = listEndMark ∨ c = closeMark) →
    w.length ≤ depth →
      ∃ after, value depth levels (w ++ c :: rest) = .ok (v, after) ∧ skip after = c :: rest
  | .elements vs => ∀ rest depth, w.length < depth →
    elements depth levels (w ++ listEndMark :: rest) = .ok (vs, rest)
  | .member p => ∀ before c rest depth, (c = commaMark ∨ c = closeMark) → w.length ≤ depth →
    members (depth + 1) levels before (w ++ c :: rest)
      = if c = closeMark then .ok (Entries.put p.1 p.2 before, rest)
        else members depth levels (Entries.put p.1 p.2 before) (skip rest)
  | .members ps => ∀ before rest depth, w.length < depth →
    members depth levels before (w ++ closeMark :: rest) = .ok (putAll ps before, rest)

/-- **Every part of a document is read.** -/
theorem Written.reads {levels : Nat} {w : Text} {part : Part} (h : Written levels w part) :
    Reads levels w part := by
  induction h with
  | @scalar levels w v scalar =>
    intro rest depth hrest hdepth
    obtain ⟨c, more, rfl, -⟩ := scalar.head
    obtain ⟨n, rfl⟩ := Nat.exists_eq_add_of_le' (Nat.le_trans (Nat.le_add_left 1 _) hdepth)
    exact value_scalar scalar hrest n levels
  | @emptyList levels s blank =>
    intro rest depth _ hdepth
    obtain ⟨n, rfl⟩ := Nat.exists_eq_add_of_le' (Nat.le_trans (Nat.le_add_left 1 _) hdepth)
    rw [List.cons_append, List.append_assoc, List.singleton_append]
    exact value_emptyList n levels blank rest
  | @list levels s w vs blank elements ih =>
    intro rest depth _ hdepth
    obtain ⟨n, rfl⟩ := Nat.exists_eq_add_of_le' (Nat.le_trans (Nat.le_add_left 1 _) hdepth)
    obtain ⟨c, more, rfl, hc⟩ := elements.head
    simp only [List.length_cons, List.length_append] at hdepth
    have hread := ih rest n (by rw [List.length_cons]; omega)
    simp only [List.cons_append, List.append_assoc, List.nil_append] at hread ⊢
    rw [value_list n levels blank hc, hread]
    rfl
  | @emptyObject levels s blank =>
    intro rest depth hdepth
    obtain ⟨n, rfl⟩ := Nat.exists_eq_add_of_le' (Nat.le_trans (Nat.le_add_left 1 _) hdepth)
    rw [List.cons_append, List.append_assoc, List.singleton_append]
    exact value_emptyObject n levels blank rest
  | @object levels s w ps blank members ih =>
    intro rest depth hdepth
    obtain ⟨n, rfl⟩ := Nat.exists_eq_add_of_le' (Nat.le_trans (Nat.le_add_left 1 _) hdepth)
    obtain ⟨c, more, rfl, hc⟩ := members.head
    simp only [List.length_cons, List.length_append] at hdepth
    have hread := ih [] rest n (by rw [List.length_cons]; omega)
    simp only [List.cons_append, List.append_assoc, List.nil_append] at hread ⊢
    rw [value_object n levels blank hc, hread]
    rfl
  | @ofObject levels w ps object ih =>
    intro rest depth _ hdepth
    rw [ih rest depth hdepth, putAll_nil]
  | @element levels w s v value blank ih =>
    intro c rest depth hc hdepth
    rw [List.length_append] at hdepth
    have hspace : isSpace c = false := by
      rcases hc with rfl | rfl | rfl <;> decide
    refine ⟨s ++ c :: rest, ?_, skip_append_cons blank hspace⟩
    rw [List.append_assoc]
    exact ih _ depth (ends_append_cons blank hc rest) (by omega)
  | @lastElement levels w v element ih =>
    intro rest depth hdepth
    obtain ⟨n, rfl⟩ := Nat.exists_eq_add_of_le' (Nat.le_trans (Nat.le_add_left 1 _) hdepth)
    obtain ⟨after, hread, hafter⟩ := ih listEndMark rest n (by simp) (by omega)
    rw [elements_eq, hread, afterElement, hafter]
    exact if_pos rfl
  | @moreElements levels w s ws v vs element blank others ih ihs =>
    intro rest depth hdepth
    obtain ⟨n, rfl⟩ := Nat.exists_eq_add_of_le' (Nat.le_trans (Nat.le_add_left 1 _) hdepth)
    rw [List.length_append, List.length_cons, List.length_append] at hdepth
    obtain ⟨after, hread, hafter⟩ :=
      ih commaMark (s ++ (ws ++ listEndMark :: rest)) n (by simp) (by omega)
    have hothers := ihs rest n (by omega)
    rw [List.append_assoc, List.cons_append, List.append_assoc, elements_eq, hread,
      afterElement_comma n levels v hafter, others.skip_append blank, hothers]
    rfl
  | @member levels b name s₁ s₂ w v body blank₁ blank₂ element ih =>
    intro before c rest depth hc hdepth
    obtain ⟨first, more, rfl, hfirst⟩ := element.head
    simp only [List.length_cons, List.length_append] at hdepth
    obtain ⟨after, hread, hafter⟩ :=
      ih c rest depth (hc.imp_right Or.inr) (by rw [List.length_cons]; omega)
    simp only [List.cons_append, List.append_assoc] at hread ⊢
    rw [members_eq depth levels body blank₁ blank₂ hfirst, hread, afterMember, hafter]
    rcases hc with rfl | rfl <;> rfl
  | @lastMember levels w p member ih =>
    intro before rest depth hdepth
    obtain ⟨n, rfl⟩ := Nat.exists_eq_add_of_le' (Nat.le_trans (Nat.le_add_left 1 _) hdepth)
    rw [ih before closeMark rest n (Or.inr rfl) (by omega), if_pos rfl]
    rfl
  | @moreMembers levels w s ws p ps member blank others ih ihs =>
    intro before rest depth hdepth
    obtain ⟨n, rfl⟩ := Nat.exists_eq_add_of_le' (Nat.le_trans (Nat.le_add_left 1 _) hdepth)
    rw [List.length_append, List.length_cons, List.length_append] at hdepth
    have hothers := ihs (Entries.put p.1 p.2 before) rest n (by omega)
    rw [List.append_assoc, List.cons_append, List.append_assoc,
      ih before commaMark _ n (Or.inl rfl) (by omega), if_neg (by decide),
      others.skip_append blank, hothers]
    rfl

/-! ## 6. Documents -/

theorem ends_of_blank {s : Text} (hs : Blank s) : Ends s :=
  fun c hc => Or.inl (hs c (List.mem_of_mem_head? hc))

/-- An object is a value. -/
theorem Document.ofObject {n : Nat} {t : Text} {ps : List (Text × Value)}
    (h : Document n t (.object ps)) :
    Document n t (.value (.object (Dictionary.ofList ps).entries)) := by
  cases h with
  | intro blank₁ written blank₂ => exact .intro blank₁ (.ofObject written) blank₂

/-- What may stand at the beginning of a document is no byte order mark. -/
theorem head_ne_byteOrderMark {s : Text} {c : CodePoint} (hs : Blank s) (hc : IsHead c)
    (rest : Text) : (s ++ c :: rest).head? ≠ some (CodePoint.ofNat 0xFEFF) := by
  intro hhead
  cases s with
  | nil =>
    obtain rfl := Option.some.inj hhead
    exact absurd hc.2.1 (by decide)
  | cons a s =>
    obtain rfl := Option.some.inj hhead
    exact absurd (hs _ List.mem_cons_self) (by decide)

/-- **A document is read** as what it denotes. -/
theorem read_of_document {levels : Nat} {t : Text} {v : Value} (h : Document levels t (.value v)) :
    read t levels = .ok v := by
  cases h with
  | @intro s₁ w s₂ _ blank₁ written blank₂ =>
    have hread := written.reads s₂ (2 * (s₁ ++ (w ++ s₂)).length + 2) (ends_of_blank blank₂)
      (by simp only [List.length_append]; omega)
    have hmark : (s₁ ++ (w ++ s₂)).head? ≠ some (CodePoint.ofNat 0xFEFF) := by
      obtain ⟨c, more, heq, hc⟩ := written.head_append s₂
      rw [heq]
      exact head_ne_byteOrderMark blank₁ hc more
    rw [read, if_neg hmark, written.skip_append blank₁, hread]
    simp only [skip_of_blank blank₂, List.isEmpty_nil, ↓reduceIte]

end CloudAccess.Json
