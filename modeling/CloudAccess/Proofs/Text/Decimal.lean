/-
# Written integers are read back

`Integer.write` gives every integer one written form: its decimal digits, after a minus if it is
negative.  `Integer.read` accepts many more forms of the same integer, with blanks around it, a
plus, underscores, or digits of other scripts.  This file ties the two together.

* `read_digits`: a row of digits is read, unless there are too many of them.
* `read_write`: an integer that is short enough to be written is read back from its written form.
* `write_injective`: written forms tell all integers apart, long ones too.
* `isWritable_of_read`: whatever is read is short enough to be written.
* `isNumberBlank_of_read`: in a readable text, what comes before a line end is blank, unless what
  comes after it is.  This is all that reading has to say about line ends.
-/
import Mathlib.Algebra.Group.Nat.Defs
import Mathlib.Data.List.TakeWhile
import CloudAccess.Proofs.Text.Characters
import CloudAccess.Text.Integer

namespace CloudAccess.Integer

/-! ## 1. Digits -/

/-- A digit among the characters is one among the code points. -/
theorem isAsciiDigit_ofChar {c : Char} (h : c.isDigit = true) :
    (CodePoint.ofChar c).isAsciiDigit = true :=
  CodePoint.isAsciiDigit_iff.mpr (Char.isDigit_iff_toNat.mp h)

/-- An ASCII digit has the value that its place after the zero says. -/
theorem digitValue?_of_isAsciiDigit {c : CodePoint} (h : c.isAsciiDigit = true) :
    c.digitValue? = some (c.val - 0x30) := by
  have hascii : c.isAscii = true := by
    rw [CodePoint.isAsciiDigit_iff] at h
    exact CodePoint.isAscii_iff.mpr (by omega)
  rw [CodePoint.digitValue?, if_pos hascii, if_pos h]

/-- The values of a row of ASCII digits. -/
def digitValues (ds : Text) : List Nat := ds.map fun c => c.val - 0x30

/-- A row of digits is read to its end. -/
theorem digits?_of_digits {ds : Text} (h : ∀ c ∈ ds, c.isAsciiDigit = true) :
    digits? false ds = some (digitValues ds, []) := by
  induction ds with
  | nil => rfl
  | cons c rest ih =>
    rw [digits?, digitValue?_of_isAsciiDigit (h c List.mem_cons_self)]
    rw [ih fun d hd => h d (List.mem_cons_of_mem _ hd)]
    rfl

/-- Where a digit is needed, a row that is not empty has one. -/
theorem digits?_true_of_digits {ds : Text} (hne : ds ≠ [])
    (h : ∀ c ∈ ds, c.isAsciiDigit = true) : digits? true ds = some (digitValues ds, []) := by
  cases ds with
  | nil => exact absurd rfl hne
  | cons c rest =>
    rw [digits?, digitValue?_of_isAsciiDigit (h c List.mem_cons_self)]
    rw [digits?_of_digits fun d hd => h d (List.mem_cons_of_mem _ hd)]
    rfl

theorem isDigit_toDigits {n : Nat} : ∀ c ∈ Nat.toDigits 10 n, c.isDigit = true :=
  fun _ hc => Nat.isDigit_of_mem_toDigits (by decide) (by decide) hc

theorem isAsciiDigit_ofNat {n : Nat} {c : CodePoint} (h : c ∈ Text.ofNat n) :
    c.isAsciiDigit = true := by
  obtain ⟨d, hd, rfl⟩ := List.mem_map.mp h
  exact isAsciiDigit_ofChar (isDigit_toDigits d hd)

theorem ofNat_ne_nil (n : Nat) : Text.ofNat n ≠ [] := by
  rw [Text.ofNat, ne_eq, List.map_eq_nil_iff]
  exact Nat.toDigits_ne_nil

/-- The digits of a number write that number. -/
theorem ofDigits_ofNat (n : Nat) : ofDigits (digitValues (Text.ofNat n)) = n := by
  have h : ∀ (cs : List Char) (init : Nat),
      (digitValues (cs.map CodePoint.ofChar)).foldl (fun n d => 10 * n + d) init
        = Nat.ofDigitChars 10 cs init := by
    intro cs
    induction cs with
    | nil => intro init; rfl
    | cons c rest ih => intro init; exact ih _
  exact (h _ 0).trans Nat.ofDigitChars_ten_toDigits

/-! ## 2. The characters of a written integer -/

/-- `c` may stand in the written form of an integer. -/
def isWritten (c : CodePoint) : Bool := c.isAsciiDigit || c.val == 0x2D

/-- A written integer is digits and perhaps a minus. -/
theorem isWritten_of_mem_write {n : Int} {c : CodePoint} (h : c ∈ write n) :
    isWritten c = true := by
  cases n with
  | ofNat n => rw [isWritten, isAsciiDigit_ofNat h, Bool.true_or]
  | negSucc n =>
    rcases List.mem_cons.mp h with h | h
    · rw [h]; rfl
    · rw [isWritten, isAsciiDigit_ofNat h, Bool.true_or]

theorem write_ne_nil (n : Int) : write n ≠ [] := by
  cases n with
  | ofNat n => exact ofNat_ne_nil n
  | negSucc n => exact List.cons_ne_nil _ _

/-- No character of a written integer is a blank. -/
theorem not_isNumberBlank_of_isWritten {c : CodePoint} (h : isWritten c = true) :
    c.isNumberBlank = false := by
  rw [isWritten, Bool.or_eq_true, CodePoint.isAsciiDigit_iff, beq_iff_eq] at h
  simp only [CodePoint.isNumberBlank, CodePoint.isBlank, Bool.and_eq_false_iff,
    Bool.or_eq_false_iff, decide_eq_false_iff_not, beq_eq_false_iff_ne, Bool.not_eq_false']
  omega

/-! ## 3. Reading what was written -/

theorem dropWhile_isNumberBlank_of_isWritten {t : Text} (h : ∀ c ∈ t, isWritten c = true) :
    t.dropWhile CodePoint.isNumberBlank = t := by
  cases t with
  | nil => rfl
  | cons c rest =>
    rw [List.dropWhile_cons, not_isNumberBlank_of_isWritten (h c List.mem_cons_self)]
    rfl

theorem isWritable_iff {n : Int} : isWritable n = true ↔ n.natAbs < 10 ^ digitLimit := by
  rw [isWritable, decide_eq_true_eq, Nat.pow_eq]

theorem length_ofNat_le {n : Nat} (h : n < 10 ^ digitLimit) :
    (Text.ofNat n).length ≤ digitLimit := by
  rw [Text.ofNat, List.length_map]
  exact (Nat.length_toDigits_le_iff (by decide) (by decide)).mpr h

section Rows

variable {ds : Text} (hne : ds ≠ []) (hdigits : ∀ c ∈ ds, c.isAsciiDigit = true)
include hne hdigits

/-- The first character of a row of digits is no sign. -/
theorem sign_of_digits : sign ds = (false, ds) := by
  obtain ⟨c, rest, rfl⟩ := List.exists_cons_of_ne_nil hne
  have hc := CodePoint.isAsciiDigit_iff.mp (hdigits c List.mem_cons_self)
  have hminus : c ≠ '-' := CodePoint.ne_of_val_ne (show c.val ≠ 0x2D by omega)
  have hplus : c ≠ '+' := CodePoint.ne_of_val_ne (show c.val ≠ 0x2B by omega)
  rw [sign, if_neg hminus, if_neg hplus]

/-- **A row of digits is read,** unless there are too many of them. -/
theorem read_digits :
    read ds = if digitLimit < ds.length then .error (.tooLong ds.length)
      else .ok (ofDigits (digitValues ds) : Int) := by
  rw [read, dropWhile_isNumberBlank_of_isWritten fun c hc => by
    rw [isWritten, hdigits c hc, Bool.true_or]]
  simp only [sign_of_digits hne hdigits, digits?_true_of_digits hne hdigits, digitValues,
    List.length_map]
  rfl

/-- The same with a minus before it. -/
theorem read_minus_digits :
    read ('-' :: ds) = if digitLimit < ds.length then .error (.tooLong ds.length)
      else .ok (-(ofDigits (digitValues ds) : Int)) := by
  have hsign : sign ('-' :: ds) = (true, ds) := rfl
  rw [read, dropWhile_isNumberBlank_of_isWritten (List.forall_mem_cons.mpr
    ⟨by decide, fun c hc => by rw [isWritten, hdigits c hc, Bool.true_or]⟩)]
  simp only [hsign, digits?_true_of_digits hne hdigits, digitValues, List.length_map]
  rfl

end Rows

/-- **A written integer is read back**, if it is short enough to be written at all. -/
theorem read_write {n : Int} (h : isWritable n = true) : read (write n) = .ok n := by
  have hn : n.natAbs < 10 ^ digitLimit := isWritable_iff.mp h
  cases n with
  | ofNat n =>
    have hlen := length_ofNat_le (n := n) hn
    rw [write, read_digits (ofNat_ne_nil n) fun _ => isAsciiDigit_ofNat,
      if_neg (Nat.not_lt.mpr hlen), ofDigits_ofNat]
    rfl
  | negSucc n =>
    have hlen := length_ofNat_le (n := n + 1) hn
    rw [write, read_minus_digits (ofNat_ne_nil (n + 1)) fun _ => isAsciiDigit_ofNat,
      if_neg (Nat.not_lt.mpr hlen), ofDigits_ofNat]
    rfl

/-- **Written forms tell integers apart**, however long they are. -/
theorem write_injective : Function.Injective write := by
  have hnat : ∀ {m n : Nat}, Text.ofNat m = Text.ofNat n → m = n := by
    intro m n h
    rw [← ofDigits_ofNat m, h, ofDigits_ofNat]
  have hminus : ∀ {m n : Nat}, Text.ofNat m ≠ CodePoint.ofChar '-' :: Text.ofNat n := by
    intro m n h
    have hc : CodePoint.isAsciiDigit (CodePoint.ofChar '-') = true :=
      isAsciiDigit_ofNat (n := m) (by rw [h]; simp)
    exact absurd hc (by decide)
  intro m n h
  cases m with
  | ofNat m =>
    cases n with
    | ofNat n => rw [hnat h]
    | negSucc n => exact absurd h hminus
  | negSucc m =>
    cases n with
    | ofNat n => exact absurd h.symm hminus
    | negSucc n => rw [Nat.succ.inj (hnat (List.cons.inj h).2)]

/-! ## 4. What reading accepts -/

theorem lt_of_mem_digits? {needed : Bool} {t after : Text} {ds : List Nat}
    (h : digits? needed t = some (ds, after)) : ∀ d ∈ ds, d < 10 := by
  induction t generalizing needed ds with
  | nil =>
    rw [digits?] at h
    split at h
    · cases h
    · cases h; simp
  | cons c rest ih =>
    rw [digits?] at h
    split at h
    · next v hv =>
      obtain ⟨⟨ds', after'⟩, hrest, heq⟩ := Option.map_eq_some_iff.mp h
      cases heq
      intro d hd
      rcases List.mem_cons.mp hd with hd | hd
      · rw [hd]; exact CodePoint.digitValue?_lt hv
      · exact ih hrest d hd
    · split at h
      · cases h
      · split at h
        · exact ih h
        · cases h; simp

/-- A row of digits writes a number with at most as many digits. -/
theorem ofDigits_lt {ds : List Nat} (h : ∀ d ∈ ds, d < 10) : ofDigits ds < 10 ^ ds.length := by
  have hfold : ∀ (ds : List Nat) (init : Nat), (∀ d ∈ ds, d < 10) →
      ds.foldl (fun n d => 10 * n + d) init < (init + 1) * 10 ^ ds.length := by
    intro ds
    induction ds with
    | nil => intro init _; simp
    | cons d rest ih =>
      intro init hds
      have hd : d < 10 := hds d List.mem_cons_self
      have hrest := ih (10 * init + d) fun x hx => hds x (List.mem_cons_of_mem _ hx)
      rw [List.foldl_cons, List.length_cons, Nat.pow_succ]
      calc rest.foldl (fun n d => 10 * n + d) (10 * init + d)
          < (10 * init + d + 1) * 10 ^ rest.length := hrest
        _ ≤ ((init + 1) * 10) * 10 ^ rest.length := Nat.mul_le_mul_right _ (by omega)
        _ = (init + 1) * (10 ^ rest.length * 10) := by
          rw [Nat.mul_assoc, Nat.mul_comm 10 (10 ^ rest.length)]
  have h0 := hfold ds 0 h
  rwa [Nat.zero_add, Nat.one_mul] at h0

/-- **What is read can be written.** -/
theorem isWritable_of_read {t : Text} {n : Int} (h : read t = .ok n) : isWritable n = true := by
  rw [read] at h
  simp only at h
  split at h
  · cases h
  · next ds after hdigits =>
    split at h
    · cases h
    · next hlen =>
      split at h
      · have hlt : ofDigits ds < 10 ^ digitLimit :=
          Nat.lt_of_lt_of_le (ofDigits_lt (lt_of_mem_digits? hdigits))
            (Nat.pow_le_pow_right (by decide) (Nat.not_lt.mp hlen))
        rw [isWritable_iff]
        cases h
        split
        · rw [Int.natAbs_neg, Int.natAbs_natCast]; exact hlt
        · rw [Int.natAbs_natCast]; exact hlt
      · cases h

/-- Reading digits does not get past a line end. -/
theorem digits?_lineEnd {needed : Bool} {x e after : Text} {ds : List Nat}
    (h : digits? needed (x ++ (CodePoint.ofChar '\n') :: e) = some (ds, after)) :
    ∃ y : Text, after = y ++ (CodePoint.ofChar '\n') :: e := by
  induction x generalizing needed ds with
  | nil =>
    have hnone : (CodePoint.ofChar '\n').digitValue? = none := by decide
    have hne : CodePoint.ofChar '\n' ≠ '_' := by decide
    rw [List.nil_append, digits?, hnone] at h
    simp only [if_neg hne] at h
    split at h
    · cases h
    · cases h; exact ⟨[], rfl⟩
  | cons c rest ih =>
    rw [List.cons_append, digits?] at h
    split at h
    · obtain ⟨⟨ds', after'⟩, hrest, heq⟩ := Option.map_eq_some_iff.mp h
      cases heq
      exact ih hrest
    · split at h
      · cases h
      · split at h
        · exact ih h
        · cases h; exact ⟨c :: rest, rfl⟩

/-- A sign is taken from the part before a line end, if that part is not empty. -/
theorem sign_lineEnd (c : CodePoint) (x e : Text) :
    ∃ y : Text, (sign (c :: x ++ (CodePoint.ofChar '\n') :: e)).2
      = y ++ (CodePoint.ofChar '\n') :: e := by
  rw [List.cons_append, sign]
  split
  · exact ⟨x, rfl⟩
  · split
    · exact ⟨x, rfl⟩
    · exact ⟨c :: x, rfl⟩

/-- **What comes before a line end in a readable text is blank**, unless what comes after it is.
A line end that is not among the leading blanks is among the trailing ones. -/
theorem isNumberBlank_of_read {w e : Text} {n : Int}
    (h : read (w ++ (CodePoint.ofChar '\n') :: e) = .ok n)
    (he : ∃ c ∈ e, c.isNumberBlank = false) : ∀ c ∈ w, c.isNumberBlank = true := by
  by_contra hw
  have hdrop : ∃ c x, w.dropWhile CodePoint.isNumberBlank = c :: x := by
    cases hd : w.dropWhile CodePoint.isNumberBlank with
    | nil => exact absurd (List.dropWhile_eq_nil_iff.mp hd) hw
    | cons c x => exact ⟨c, x, rfl⟩
  obtain ⟨c, x, hcx⟩ := hdrop
  have hbody : (w ++ (CodePoint.ofChar '\n') :: e).dropWhile CodePoint.isNumberBlank
      = c :: x ++ (CodePoint.ofChar '\n') :: e := by
    rw [List.dropWhile_append, hcx]
    rfl
  obtain ⟨y, hy⟩ := sign_lineEnd c x e
  rw [read, hbody] at h
  simp only [hy] at h
  split at h
  · cases h
  · next ds after hdigits =>
    obtain ⟨z, hz⟩ := digits?_lineEnd hdigits
    obtain ⟨d, hd, hblank⟩ := he
    -- so the line end is in what follows the digits, and with it all of `e`
    have hall : after.all CodePoint.isNumberBlank = false := by
      rw [hz, List.all_eq_false]
      exact ⟨d, by simp [hd], by rw [hblank]; exact Bool.false_ne_true⟩
    rw [hall] at h
    split at h
    · cases h
    · cases h

end CloudAccess.Integer
