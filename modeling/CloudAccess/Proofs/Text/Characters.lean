/-
# Classes of characters as ranges of numbers

Each class of ASCII characters is a range of numbers, or a few of them.  The laws below say which,
so that what one class has to do with another is arithmetic.
-/
import CloudAccess.Text.Basic

namespace CloudAccess.CodePoint

/-- Characters with different numbers are different. -/
theorem ne_of_val_ne {c d : CodePoint} (h : c.val ≠ d.val) : c ≠ d := fun e => h (by rw [e])

theorem isAscii_iff {c : CodePoint} : c.isAscii = true ↔ c.val < 0x80 := by
  rw [isAscii, decide_eq_true_eq]

theorem isAsciiUpper_iff {c : CodePoint} :
    c.isAsciiUpper = true ↔ 0x41 ≤ c.val ∧ c.val ≤ 0x5A := by
  rw [isAsciiUpper, Bool.and_eq_true, decide_eq_true_eq, decide_eq_true_eq]

theorem isAsciiLower_iff {c : CodePoint} :
    c.isAsciiLower = true ↔ 0x61 ≤ c.val ∧ c.val ≤ 0x7A := by
  rw [isAsciiLower, Bool.and_eq_true, decide_eq_true_eq, decide_eq_true_eq]

theorem isAsciiDigit_iff {c : CodePoint} :
    c.isAsciiDigit = true ↔ 0x30 ≤ c.val ∧ c.val ≤ 0x39 := by
  rw [isAsciiDigit, Bool.and_eq_true, decide_eq_true_eq, decide_eq_true_eq]

theorem isAsciiLetter_iff {c : CodePoint} :
    c.isAsciiLetter = true ↔
      (0x41 ≤ c.val ∧ c.val ≤ 0x5A) ∨ (0x61 ≤ c.val ∧ c.val ≤ 0x7A) := by
  rw [isAsciiLetter, Bool.or_eq_true, isAsciiUpper_iff, isAsciiLower_iff]

theorem isAsciiAlphanumeric_iff {c : CodePoint} :
    c.isAsciiAlphanumeric = true ↔
      ((0x41 ≤ c.val ∧ c.val ≤ 0x5A) ∨ (0x61 ≤ c.val ∧ c.val ≤ 0x7A)) ∨
        (0x30 ≤ c.val ∧ c.val ≤ 0x39) := by
  rw [isAsciiAlphanumeric, Bool.or_eq_true, isAsciiLetter_iff, isAsciiDigit_iff]

theorem isSurrogate_iff {c : CodePoint} :
    c.isSurrogate = true ↔ 0xD800 ≤ c.val ∧ c.val ≤ 0xDFFF := by
  rw [isSurrogate, Bool.and_eq_true, decide_eq_true_eq, decide_eq_true_eq]

/-- A number in range is the number of its code point. -/
theorem val_ofNat {n : Nat} (h : n < 0x110000) : (ofNat n).val = n := by
  rw [ofNat, dif_pos h]

theorem ofNat_val (c : CodePoint) : ofNat c.val = c := by
  apply CodePoint.ext
  rw [val_ofNat c.isLt]

end CloudAccess.CodePoint
