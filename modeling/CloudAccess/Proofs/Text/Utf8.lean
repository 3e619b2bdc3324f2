/-
# Texts come back from their UTF-8 form

The encoder writes a character as a first byte and up to three tails.  The decoder is a machine
with a pending character in between, and the bounds on the byte after the first one keep it from
accepting a form that is too long or a surrogate.  So the argument goes byte by byte: the first
byte makes a character pending (`itemsFrom_lead`), a tail carries it on (`itemsFrom_more`), and
the last tail completes it (`itemsFrom_last`).  All that a first byte can be is `lead_cases`.

Hence `itemsFrom_encodeChar`, whatever bytes follow; `decodeLossy_flatMap_encodeChar`, for whole
texts; and `encode_injective`, that different texts have different bytes.

The other way round, whatever the bytes are, no surrogate comes out of them
(`not_isSurrogate_of_mem_decodeLossy`): the bounds of a pending character keep all that it can
still come to on one side of the surrogates (`Pending.Avoids`).  Nor are there two ways to write a
text: the bytes that have been taken of a pending character are the beginning of all characters
that it can come to (`Completes`), and so the strict reader takes exactly what writing gives
(`decode_eq_ok_iff`).
-/
import Mathlib.Algebra.Group.Nat.Defs
import CloudAccess.Proofs.Text.Characters
import CloudAccess.Text.Utf8

namespace CloudAccess.Utf8

/-! ## 1. One byte at a time -/

theorem toNat_toUInt8 {n : Nat} (h : n < 0x100) : n.toUInt8.toNat = n := by
  rw [Nat.toUInt8, UInt8.toNat_ofNat', Nat.mod_eq_of_lt h]

/-- A tail lies between the bounds of tails. -/
theorem tail_bounds {n : Nat} (h : n < 0x40) :
    (0x80 : UInt8) ≤ (0x80 + n).toUInt8 ∧ (0x80 + n).toUInt8 ≤ 0xBF := by
  rw [UInt8.le_iff_toNat_le, UInt8.le_iff_toNat_le, toNat_toUInt8 (by omega)]
  exact ⟨Nat.le_add_right _ _, show 0x80 + n ≤ 0xBF by omega⟩

variable {position : Nat} {rest : Bytes} {b : UInt8} {p : Pending}

/-- A first byte makes a character pending. -/
theorem itemsFrom_lead (h : lead b position = .inr p) :
    itemsFrom none position (b :: rest) = itemsFrom (some p) (position + 1) rest := by
  rw [itemsFrom]
  simp only [h, List.nil_append]

/-- A first byte that stands for itself. -/
theorem itemsFrom_whole {item : Item} (h : lead b position = .inl item) :
    itemsFrom none position (b :: rest) = item :: itemsFrom none (position + 1) rest := by
  rw [itemsFrom]
  simp only [h, List.nil_append]

/-- A byte out of bounds breaks a pending character off, and is read as a first byte. -/
theorem itemsFrom_broken (hb : ¬ (p.low ≤ b ∧ b ≤ p.high)) :
    itemsFrom (some p) position (b :: rest)
      = p.broken .badContinuation :: itemsFrom none position (b :: rest) := by
  rw [itemsFrom, itemsFrom]
  simp only [if_neg hb]
  cases lead b position with
  | inl item => rfl
  | inr q => rfl

/-- A tail carries a pending character on. -/
theorem itemsFrom_more (hb : p.low ≤ b ∧ b ≤ p.high) (hdue : p.due ≠ 1) :
    itemsFrom (some p) position (b :: rest)
      = itemsFrom (some ⟨p.first, p.start, p.taken + 1, p.due - 1, 0x80, 0xBF,
          p.value * 0x40 + (b.toNat - 0x80)⟩) (position + 1) rest := by
  rw [itemsFrom]
  simp only [if_pos hb, if_neg hdue]

/-- The last tail completes a pending character. -/
theorem itemsFrom_last (hb : p.low ≤ b ∧ b ≤ p.high) (hdue : p.due = 1) :
    itemsFrom (some p) position (b :: rest)
      = .scalar (.ofNat (p.value * 0x40 + (b.toNat - 0x80)))
          :: itemsFrom none (position + 1) rest := by
  rw [itemsFrom]
  simp only [if_pos hb, if_pos hdue]

/-! ## 2. What first bytes start -/

theorem lead_one {n : Nat} (h : n < 0x80) :
    lead n.toUInt8 position = .inl (.scalar (.ofNat n)) := by
  rw [lead]
  simp only [toNat_toUInt8 (show n < 0x100 by omega), if_pos h]

theorem lead_two {v : Nat} (h1 : 2 ≤ v) (h2 : v < 0x20) :
    lead (0xC0 + v).toUInt8 position
      = .inr ⟨(0xC0 + v).toUInt8, position, 1, 1, 0x80, 0xBF, v⟩ := by
  rw [lead]
  simp only [toNat_toUInt8 (show 0xC0 + v < 0x100 by omega)]
  rw [if_neg (by omega), if_neg (by omega), if_pos (by omega), Nat.add_sub_cancel_left]

/-- The first byte of three.  The next byte must not write a character of two bytes, and must not
write a surrogate. -/
theorem lead_three {v : Nat} (h : v < 0x10) :
    ∃ low high : UInt8, lead (0xE0 + v).toUInt8 position
        = .inr ⟨(0xE0 + v).toUInt8, position, 1, 2, low, high, v⟩ ∧
      low.toNat ≤ (if v = 0 then 0xA0 else 0x80) ∧
      (if v = 0xD then 0x9F else 0xBF) ≤ high.toNat := by
  rw [lead]
  simp only [toNat_toUInt8 (show 0xE0 + v < 0x100 by omega)]
  rw [if_neg (by omega), if_neg (by omega), if_neg (by omega)]
  by_cases h0 : v = 0
  · subst h0
    exact ⟨0xA0, 0xBF, by simp, by simp, by simp⟩
  · rw [if_neg (by omega : ¬ 0xE0 + v = 0xE0)]
    by_cases hd : v = 0xD
    · subst hd
      exact ⟨0x80, 0x9F, by simp, by simp, by simp⟩
    · rw [if_neg (by omega : ¬ 0xE0 + v = 0xED), if_pos (by omega), Nat.add_sub_cancel_left]
      exact ⟨0x80, 0xBF, rfl, by simp [h0], by simp [hd]⟩

/-- The first byte of four.  The next byte must not write a character of three bytes, nor one
beyond the last. -/
theorem lead_four {v : Nat} (h : v < 5) :
    ∃ low high : UInt8, lead (0xF0 + v).toUInt8 position
        = .inr ⟨(0xF0 + v).toUInt8, position, 1, 3, low, high, v⟩ ∧
      low.toNat ≤ (if v = 0 then 0x90 else 0x80) ∧
      (if v = 4 then 0x8F else 0xBF) ≤ high.toNat := by
  rw [lead]
  simp only [toNat_toUInt8 (show 0xF0 + v < 0x100 by omega)]
  rw [if_neg (by omega), if_neg (by omega), if_neg (by omega), if_neg (by omega),
    if_neg (by omega), if_neg (by omega)]
  by_cases h0 : v = 0
  · subst h0
    exact ⟨0x90, 0xBF, by simp, by simp, by simp⟩
  · rw [if_neg (by omega : ¬ 0xF0 + v = 0xF0)]
    by_cases h4 : v = 4
    · subst h4
      exact ⟨0x80, 0x8F, by simp, by simp, by simp⟩
    · rw [if_pos (by omega), Nat.add_sub_cancel_left]
      exact ⟨0x80, 0xBF, rfl, by simp [h0], by simp [h4]⟩

/-- All that a byte can be as a first byte: a character, the start of a character of two, three or
four bytes, or nothing.  The bounds of the next byte leave out what has a shorter form, the
surrogates, and what lies beyond the last character. -/
theorem lead_cases {r : Item ⊕ Pending} (h : lead b position = r) :
    (b.toNat < 0x80 ∧ r = .inl (.scalar (.ofNat b.toNat))) ∨
    (∃ v, 0xC0 + v = b.toNat ∧ (2 ≤ v ∧ v < 0x20) ∧
      r = .inr ⟨b, position, 1, 1, 0x80, 0xBF, v⟩) ∨
    (∃ low high : UInt8, ∃ v, 0xE0 + v = b.toNat ∧ v < 0x10 ∧
      (0x80 ≤ low.toNat ∧ (v = 0 → 0xA0 ≤ low.toNat)) ∧
      (high.toNat ≤ 0xBF ∧ (v = 0xD → high.toNat ≤ 0x9F)) ∧
      r = .inr ⟨b, position, 1, 2, low, high, v⟩) ∨
    (∃ low high : UInt8, ∃ v, 0xF0 + v = b.toNat ∧ v ≤ 4 ∧
      (0x80 ≤ low.toNat ∧ (v = 0 → 0x90 ≤ low.toNat)) ∧
      (high.toNat ≤ 0xBF ∧ (v = 4 → high.toNat ≤ 0x8F)) ∧
      r = .inr ⟨b, position, 1, 3, low, high, v⟩) ∨
    ∃ m, r = .inl (.broken m) := by
  rw [lead] at h
  split at h
  · next hn => exact .inl ⟨hn, h.symm⟩
  refine .inr ?_
  split at h
  · exact .inr (.inr (.inr ⟨_, h.symm⟩))
  split at h
  · exact .inl ⟨_, by omega, by omega, h.symm⟩
  refine .inr ?_
  -- three bytes: `E0`, `ED`, and the others
  split at h
  · exact .inl ⟨_, _, _, by omega, by omega, by decide, by decide, h.symm⟩
  split at h
  · exact .inl ⟨_, _, _, by omega, by omega, by decide, by decide, h.symm⟩
  split at h
  · exact .inl ⟨_, _, _, by omega, by omega, ⟨by decide, by omega⟩, ⟨by decide, by omega⟩, h.symm⟩
  refine .inr ?_
  -- four bytes: `F0`, those between, and `F4`
  split at h
  · exact .inl ⟨_, _, _, by omega, by omega, by decide, by decide, h.symm⟩
  split at h
  · exact .inl ⟨_, _, _, by omega, by omega, ⟨by decide, by omega⟩, ⟨by decide, by omega⟩, h.symm⟩
  split at h
  · exact .inl ⟨_, _, _, by omega, by omega, by decide, by decide, h.symm⟩
  · exact .inr ⟨_, h.symm⟩

/-- A first byte that is a character is one of the first 128. -/
theorem lead_eq_scalar {c : CodePoint} (h : lead b position = .inl (.scalar c)) :
    b.toNat < 0x80 ∧ c = .ofNat b.toNat := by
  rcases lead_cases h with ⟨hb, hc⟩ | ⟨v, -, -, hc⟩ | ⟨low, high, v, -, -, -, -, hc⟩ |
    ⟨low, high, v, -, -, -, -, hc⟩ | ⟨m, hc⟩
  · exact ⟨hb, Item.scalar.inj (Sum.inl.inj hc)⟩
  all_goals cases hc

/-! ## 3. Characters and texts -/

/-- **A character is read back from its bytes**, unless it is a surrogate. -/
theorem itemsFrom_encodeChar {c : CodePoint} (hc : c.isSurrogate = false) (position : Nat)
    (rest : Bytes) : itemsFrom none position (encodeChar c ++ rest)
      = .scalar c :: itemsFrom none (position + (encodeChar c).length) rest := by
  have hlt : c.val < 0x110000 := c.isLt
  have hsur : ¬ (0xD800 ≤ c.val ∧ c.val ≤ 0xDFFF) := by
    rw [← CodePoint.isSurrogate_iff, hc]
    exact Bool.false_ne_true
  have hlast : c.val % 0x40 < 0x40 := Nat.mod_lt _ (by decide)
  have hmid : c.val / 0x40 % 0x40 < 0x40 := Nat.mod_lt _ (by decide)
  have hval : (0x80 + c.val % 0x40).toUInt8.toNat = 0x80 + c.val % 0x40 :=
    toNat_toUInt8 (by omega)
  have hmidval : (0x80 + c.val / 0x40 % 0x40).toUInt8.toNat = 0x80 + c.val / 0x40 % 0x40 :=
    toNat_toUInt8 (by omega)
  rw [encodeChar]
  split
  · next h =>
    rw [List.singleton_append, itemsFrom]
    simp only [lead_one h, List.nil_append, CodePoint.ofNat_val, List.length_singleton]
  · split
    · -- two bytes
      have hv : c.val / 0x40 * 0x40 + c.val % 0x40 = c.val := by omega
      rw [List.cons_append, itemsFrom_lead (lead_two (by omega) (by omega)), List.singleton_append,
        itemsFrom_last (tail_bounds hlast) rfl]
      simp only [hval, Nat.add_sub_cancel_left, hv, CodePoint.ofNat_val]
      rfl
    · split
      · -- three bytes
        have hv : (c.val / 0x1000 * 0x40 + c.val / 0x40 % 0x40) * 0x40 + c.val % 0x40 = c.val := by
          omega
        obtain ⟨low, high, hlead, hlow, hhigh⟩ :=
          lead_three (v := c.val / 0x1000) (by omega)
        have hb : low ≤ (0x80 + c.val / 0x40 % 0x40).toUInt8 ∧
            (0x80 + c.val / 0x40 % 0x40).toUInt8 ≤ high := by
          rw [UInt8.le_iff_toNat_le, UInt8.le_iff_toNat_le, hmidval]
          constructor
          · refine Nat.le_trans hlow ?_
            split <;> omega
          · refine Nat.le_trans ?_ hhigh
            split <;> omega
        rw [List.cons_append, itemsFrom_lead hlead, List.cons_append,
          itemsFrom_more hb (by simp), List.singleton_append,
          itemsFrom_last (tail_bounds hlast) rfl]
        simp only [hval, hmidval, Nat.add_sub_cancel_left, hv, CodePoint.ofNat_val]
        rfl
      · -- four bytes
        have hhi : c.val / 0x1000 % 0x40 < 0x40 := Nat.mod_lt _ (by decide)
        have hhival : (0x80 + c.val / 0x1000 % 0x40).toUInt8.toNat
            = 0x80 + c.val / 0x1000 % 0x40 := toNat_toUInt8 (by omega)
        have hv : ((c.val / 0x40000 * 0x40 + c.val / 0x1000 % 0x40) * 0x40
            + c.val / 0x40 % 0x40) * 0x40 + c.val % 0x40 = c.val := by
          omega
        obtain ⟨low, high, hlead, hlow, hhigh⟩ :=
          lead_four (v := c.val / 0x40000) (by omega)
        have hb : low ≤ (0x80 + c.val / 0x1000 % 0x40).toUInt8 ∧
            (0x80 + c.val / 0x1000 % 0x40).toUInt8 ≤ high := by
          rw [UInt8.le_iff_toNat_le, UInt8.le_iff_toNat_le, hhival]
          constructor
          · refine Nat.le_trans hlow ?_
            split <;> omega
          · refine Nat.le_trans ?_ hhigh
            split <;> omega
        rw [List.cons_append, itemsFrom_lead hlead, List.cons_append,
          itemsFrom_more hb (by simp), List.cons_append,
          itemsFrom_more (tail_bounds hmid) (by simp), List.singleton_append,
          itemsFrom_last (tail_bounds hlast) rfl]
        simp only [hval, hmidval, hhival, Nat.add_sub_cancel_left, hv, CodePoint.ofNat_val]
        rfl

/-- The items of the bytes of a text are its characters. -/
theorem itemsFrom_flatMap_encodeChar {t : Text} (h : ∀ c ∈ t, c.isSurrogate = false)
    (position : Nat) : itemsFrom none position (t.flatMap encodeChar) = t.map Item.scalar := by
  induction t generalizing position with
  | nil => rfl
  | cons c rest ih =>
    rw [List.flatMap_cons, itemsFrom_encodeChar (h c List.mem_cons_self), List.map_cons]
    rw [ih fun d hd => h d (List.mem_cons_of_mem _ hd)]

/-- **The lenient reader gives a text back from its bytes.** -/
theorem decodeLossy_flatMap_encodeChar {t : Text} (h : ∀ c ∈ t, c.isSurrogate = false) :
    decodeLossy (t.flatMap encodeChar) = t := by
  rw [decodeLossy, items, itemsFrom_flatMap_encodeChar h, List.map_map]
  exact List.map_id _

theorem firstSurrogates?_eq_none_iff {t : Text} (start : Nat) :
    firstSurrogates? start t = none ↔ ∀ c ∈ t, c.isSurrogate = false := by
  induction t generalizing start with
  | nil => simp [firstSurrogates?]
  | cons c rest ih =>
    rw [firstSurrogates?]
    split
    · next hc => simp [hc]
    · next hc =>
      rw [ih, List.forall_mem_cons]
      simp [Bool.eq_false_iff.mpr hc]

/-- A text has a UTF-8 form if and only if it has no surrogates. -/
theorem encode_eq_ok_iff {t : Text} {message : Bytes} :
    encode t = .ok message ↔
      (∀ c ∈ t, c.isSurrogate = false) ∧ message = t.flatMap encodeChar := by
  rw [← firstSurrogates?_eq_none_iff 0, encode]
  cases firstSurrogates? 0 t with
  | none => simp [eq_comm]
  | some u => simp

theorem scalars_map_scalar (t : Text) : scalars (t.map Item.scalar) = .ok t := by
  induction t with
  | nil => rfl
  | cons c rest ih =>
    rw [List.map_cons, scalars, ih]
    rfl

/-- **The strict reader gives a text back from its bytes.** -/
theorem decode_of_encode {t : Text} {message : Bytes} (h : encode t = .ok message) :
    decode message = .ok t := by
  obtain ⟨hscalars, rfl⟩ := encode_eq_ok_iff.mp h
  rw [decode, items, itemsFrom_flatMap_encodeChar hscalars, scalars_map_scalar]

/-- **Different texts have different bytes.** -/
theorem encode_injective {s t : Text} {message : Bytes} (hs : encode s = .ok message)
    (ht : encode t = .ok message) : s = t := by
  obtain ⟨hs', hms⟩ := encode_eq_ok_iff.mp hs
  obtain ⟨ht', hmt⟩ := encode_eq_ok_iff.mp ht
  rw [← decodeLossy_flatMap_encodeChar hs', ← hms, hmt, decodeLossy_flatMap_encodeChar ht']

/-! ## 4. Decoding makes no surrogates -/

/-- Whatever tails follow, the pending character is not a surrogate: the numbers that it can still
come to lie all below the surrogates, or all above. -/
def Pending.Avoids (p : Pending) : Prop :=
  0 < p.due ∧ 0x80 ≤ p.low.toNat ∧ p.high.toNat ≤ 0xBF ∧
    ((p.value * 0x40 + (p.high.toNat - 0x80) + 1) * 0x40 ^ (p.due - 1) ≤ 0xD800 ∨
      0xE000 ≤ (p.value * 0x40 + (p.low.toNat - 0x80)) * 0x40 ^ (p.due - 1))

theorem not_isSurrogate_ofNat {n : Nat} (h : n < 0xD800 ∨ 0xE000 ≤ n) :
    (CodePoint.ofNat n).isSurrogate = false := by
  rw [Bool.eq_false_iff, ne_eq, CodePoint.isSurrogate_iff, CodePoint.ofNat]
  split
  · show ¬ (0xD800 ≤ n ∧ n ≤ 0xDFFF)
    omega
  · show ¬ (0xD800 ≤ 0xFFFD ∧ 0xFFFD ≤ 0xDFFF)
    omega

/-- A first byte starts nothing that could become a surrogate.  After `ED` only tails up to `9F`
may come. -/
theorem avoids_of_lead (h : lead b position = .inr p) : p.Avoids := by
  rcases lead_cases h with ⟨-, hp⟩ | ⟨v, -, hv, hp⟩ | ⟨low, high, v, -, hv, hlow, hhigh, hp⟩ |
    ⟨low, high, v, -, hv, hlow, hhigh, hp⟩ | ⟨m, hp⟩ <;> cases hp
  · refine ⟨Nat.one_pos, Nat.le_refl _, Nat.le_refl _, .inl ?_⟩
    simp only [UInt8.reduceToNat, Nat.reduceSub, Nat.reducePow]
    omega
  · refine ⟨Nat.two_pos, hlow.1, hhigh.1, ?_⟩
    simp only [Nat.reduceSub, Nat.reducePow]
    omega
  · refine ⟨Nat.succ_pos _, hlow.1, hhigh.1, .inr ?_⟩
    simp only [Nat.reduceSub, Nat.reducePow]
    omega

theorem not_isSurrogate_of_lead {c : CodePoint} (h : lead b position = .inl (.scalar c)) :
    c.isSurrogate = false := by
  obtain ⟨hb, rfl⟩ := lead_eq_scalar h
  exact not_isSurrogate_ofNat (.inl (by omega))

/-- The last tail makes a character that is no surrogate. -/
theorem Pending.Avoids.last (h : p.Avoids) (hb : p.low ≤ b ∧ b ≤ p.high) (hdue : p.due = 1) :
    (CodePoint.ofNat (p.value * 0x40 + (b.toNat - 0x80))).isSurrogate = false := by
  rw [UInt8.le_iff_toNat_le, UInt8.le_iff_toNat_le] at hb
  obtain ⟨-, -, -, hrange⟩ := h
  rw [hdue, Nat.sub_self, Nat.pow_zero, Nat.mul_one, Nat.mul_one] at hrange
  exact not_isSurrogate_ofNat (by omega)

/-- A tail narrows the numbers down. -/
theorem Pending.Avoids.more (h : p.Avoids) (hb : p.low ≤ b ∧ b ≤ p.high) (hdue : p.due ≠ 1) :
    Pending.Avoids ⟨p.first, p.start, p.taken + 1, p.due - 1, 0x80, 0xBF,
      p.value * 0x40 + (b.toNat - 0x80)⟩ := by
  rw [UInt8.le_iff_toNat_le, UInt8.le_iff_toNat_le] at hb
  obtain ⟨hpos, -, -, hrange⟩ := h
  have hpow : 0x40 ^ (p.due - 1) = 0x40 * 0x40 ^ (p.due - 1 - 1) := by
    rw [← Nat.pow_succ', Nat.succ_eq_add_one, Nat.sub_add_cancel (by omega)]
  rw [hpow, ← Nat.mul_assoc, ← Nat.mul_assoc] at hrange
  refine ⟨Nat.sub_pos_of_lt (by omega), by simp, by simp, ?_⟩
  simp only [UInt8.reduceToNat, Nat.reduceSub]
  refine hrange.imp (fun hbelow => Nat.le_trans ?_ hbelow) fun habove => Nat.le_trans habove ?_
  · exact Nat.mul_le_mul_right _ (by omega)
  · exact Nat.mul_le_mul_right _ (by omega)

/-- The decoder never completes a surrogate. -/
theorem not_isSurrogate_of_mem_itemsFrom {bytes : Bytes} {pending? : Option Pending}
    {position : Nat} (hpending : ∀ p, pending? = some p → p.Avoids) {c : CodePoint}
    (h : Item.scalar c ∈ itemsFrom pending? position bytes) : c.isSurrogate = false := by
  induction bytes generalizing pending? position with
  | nil =>
    cases pending? with
    | none => exact absurd h List.not_mem_nil
    | some p => cases List.mem_singleton.mp h
  | cons b rest ih =>
    -- the byte is read as a first byte, also where it breaks a pending character off
    have hfirst : Item.scalar c ∈ itemsFrom none position (b :: rest) → c.isSurrogate = false := by
      intro hmem
      cases hlead : lead b position with
      | inl item =>
        rw [itemsFrom_whole hlead] at hmem
        rcases List.mem_cons.mp hmem with hitem | hrest
        · exact not_isSurrogate_of_lead (hlead.trans (congrArg Sum.inl hitem.symm))
        · refine ih (fun p hp => ?_) hrest
          cases hp
      | inr p =>
        rw [itemsFrom_lead hlead] at hmem
        refine ih (fun q hq => ?_) hmem
        cases hq
        exact avoids_of_lead hlead
    cases pending? with
    | none => exact hfirst h
    | some p =>
      have hp := hpending p rfl
      by_cases hb : p.low ≤ b ∧ b ≤ p.high
      · by_cases hdue : p.due = 1
        · rw [itemsFrom_last hb hdue] at h
          rcases List.mem_cons.mp h with hitem | hrest
          · rw [Item.scalar.inj hitem]
            exact hp.last hb hdue
          · refine ih (fun q hq => ?_) hrest
            cases hq
        · rw [itemsFrom_more hb hdue] at h
          refine ih (fun q hq => ?_) h
          cases hq
          exact hp.more hb hdue
      · rw [itemsFrom_broken hb] at h
        rcases List.mem_cons.mp h with hitem | hmem
        · cases hitem
        · exact hfirst hmem

/-- **What the lenient reader gives has a UTF-8 form**, whatever the bytes. -/
theorem not_isSurrogate_of_mem_decodeLossy {bytes : Bytes} {c : CodePoint}
    (h : c ∈ decodeLossy bytes) : c.isSurrogate = false := by
  obtain ⟨item, hitem, hc⟩ := List.mem_map.mp h
  cases item with
  | scalar d =>
    cases hc
    refine not_isSurrogate_of_mem_itemsFrom (fun p hp => ?_) hitem
    cases hp
  | broken m =>
    cases hc
    rfl


/-! ## 5. Bytes come back from their text -/

/-- The bytes taken so far and those that may still come are the bytes of the character that they
come to.  The next byte lies between the bounds, and all after it are tails. -/
def Completes : (due : Nat) → (low high : UInt8) → (value : Nat) → (taken : Bytes) → Prop
  | 0, _, _, _, _ => False
  | 1, low, high, value, taken => ∀ b, low ≤ b → b ≤ high →
    encodeChar (.ofNat (value * 0x40 + (b.toNat - 0x80))) = taken ++ [b]
  | due + 2, low, high, value, taken => ∀ b, low ≤ b → b ≤ high →
    Completes (due + 1) 0x80 0xBF (value * 0x40 + (b.toNat - 0x80)) (taken ++ [b])

theorem toUInt8_eq {n : Nat} {b : UInt8} (h : n = b.toNat) : n.toUInt8 = b := by
  rw [h, Nat.toUInt8, UInt8.ofNat_toNat]

theorem encodeChar_two {n : Nat} {a b : UInt8} (hn : 0x80 ≤ n ∧ n < 0x800)
    (ha : 0xC0 + n / 0x40 = a.toNat) (hb : 0x80 + n % 0x40 = b.toNat) :
    encodeChar (.ofNat n) = [a, b] := by
  rw [encodeChar, CodePoint.val_ofNat (by omega)]
  simp only [if_neg (show ¬ n < 0x80 by omega), if_pos hn.2, toUInt8_eq ha, toUInt8_eq hb]

theorem encodeChar_three {n : Nat} {a b c : UInt8} (hn : 0x800 ≤ n ∧ n < 0x10000)
    (ha : 0xE0 + n / 0x1000 = a.toNat) (hb : 0x80 + n / 0x40 % 0x40 = b.toNat)
    (hc : 0x80 + n % 0x40 = c.toNat) : encodeChar (.ofNat n) = [a, b, c] := by
  rw [encodeChar, CodePoint.val_ofNat (by omega)]
  simp only [if_neg (show ¬ n < 0x80 by omega), if_neg (show ¬ n < 0x800 by omega), if_pos hn.2,
    toUInt8_eq ha, toUInt8_eq hb, toUInt8_eq hc]

theorem encodeChar_four {n : Nat} {a b c d : UInt8} (hn : 0x10000 ≤ n ∧ n < 0x110000)
    (ha : 0xF0 + n / 0x40000 = a.toNat) (hb : 0x80 + n / 0x1000 % 0x40 = b.toNat)
    (hc : 0x80 + n / 0x40 % 0x40 = c.toNat) (hd : 0x80 + n % 0x40 = d.toNat) :
    encodeChar (.ofNat n) = [a, b, c, d] := by
  rw [encodeChar, CodePoint.val_ofNat hn.2]
  simp only [if_neg (show ¬ n < 0x80 by omega), if_neg (show ¬ n < 0x800 by omega),
    if_neg (show ¬ n < 0x10000 by omega), toUInt8_eq ha, toUInt8_eq hb, toUInt8_eq hc,
    toUInt8_eq hd]

theorem completes_two {a : UInt8} {v : Nat} (ha : 0xC0 + v = a.toNat) (hv : 2 ≤ v ∧ v < 0x20) :
    Completes 1 0x80 0xBF v [a] := by
  intro b hlow hhigh
  simp only [UInt8.le_iff_toNat_le, UInt8.reduceToNat] at hlow hhigh
  exact encodeChar_two (by omega) (by omega) (by omega)

theorem completes_three {a low high : UInt8} {v : Nat} (ha : 0xE0 + v = a.toNat) (hv : v < 0x10)
    (hlow : 0x80 ≤ low.toNat ∧ (v = 0 → 0xA0 ≤ low.toNat)) (hhigh : high.toNat ≤ 0xBF) :
    Completes 2 low high v [a] := by
  intro b hb hb' c hc hc'
  simp only [UInt8.le_iff_toNat_le, UInt8.reduceToNat] at hb hb' hc hc'
  have hlong : v = 0 → 0x20 ≤ b.toNat - 0x80 := fun h => by have := hlow.2 h; omega
  exact encodeChar_three (by omega) (by omega) (by omega) (by omega)

theorem completes_four {a low high : UInt8} {v : Nat} (ha : 0xF0 + v = a.toNat) (hv : v ≤ 4)
    (hlow : 0x80 ≤ low.toNat ∧ (v = 0 → 0x90 ≤ low.toNat))
    (hhigh : high.toNat ≤ 0xBF ∧ (v = 4 → high.toNat ≤ 0x8F)) : Completes 3 low high v [a] := by
  intro b hb hb' c hc hc' d hd hd'
  simp only [UInt8.le_iff_toNat_le, UInt8.reduceToNat] at hb hb' hc hc' hd hd'
  have hlong : v = 0 → 0x10 ≤ b.toNat - 0x80 := fun h => by have := hlow.2 h; omega
  have hlast : v = 4 → b.toNat - 0x80 < 0x10 := fun h => by have := hhigh.2 h; omega
  exact encodeChar_four (by omega) (by omega) (by omega) (by omega) (by omega)

/-- A first byte is the beginning of all characters that it can come to. -/
theorem completes_of_lead (h : lead b position = .inr p) :
    Completes p.due p.low p.high p.value [b] := by
  rcases lead_cases h with ⟨-, hp⟩ | ⟨v, hb, hv, hp⟩ | ⟨low, high, v, hb, hv, hlow, hhigh, hp⟩ |
    ⟨low, high, v, hb, hv, hlow, hhigh, hp⟩ | ⟨m, hp⟩ <;> cases hp
  · exact completes_two hb hv
  · exact completes_three hb hv hlow hhigh.1
  · exact completes_four hb hv hlow hhigh

theorem encodeChar_of_lead {c : CodePoint} (h : lead b position = .inl (.scalar c)) :
    encodeChar c = [b] := by
  obtain ⟨hb, rfl⟩ := lead_eq_scalar h
  rw [encodeChar, CodePoint.val_ofNat (by omega)]
  simp only [if_pos hb, toUInt8_eq rfl]

/-- The bytes that have been taken of the pending character, if there is one. -/
def Taken : Option Pending → Bytes → Prop
  | none, taken => taken = []
  | some p, taken => Completes p.due p.low p.high p.value taken

/-- The last tail completes the character. -/
theorem Completes.last {due value : Nat} {low high : UInt8} {taken : Bytes}
    (h : Completes due low high value taken) (hdue : due = 1) (hb : low ≤ b ∧ b ≤ high) :
    encodeChar (.ofNat (value * 0x40 + (b.toNat - 0x80))) = taken ++ [b] := by
  subst hdue
  exact h b hb.1 hb.2

/-- A tail before the last is taken. -/
theorem Completes.more {due value : Nat} {low high : UInt8} {taken : Bytes}
    (h : Completes due low high value taken) (hdue : due ≠ 1) (hb : low ≤ b ∧ b ≤ high) :
    Completes (due - 1) 0x80 0xBF (value * 0x40 + (b.toNat - 0x80)) (taken ++ [b]) := by
  match due, h with
  | 1, _ => exact absurd rfl hdue
  | due + 2, h => exact h b hb.1 hb.2

/-- Bytes without an ill-formed piece are the bytes of their characters. -/
theorem flatMap_encodeChar_of_items {bytes taken : Bytes} {pending? : Option Pending}
    {position : Nat} {t : Text} (htaken : Taken pending? taken)
    (h : itemsFrom pending? position bytes = t.map Item.scalar) :
    taken ++ bytes = t.flatMap encodeChar := by
  induction bytes generalizing pending? position taken t with
  | nil =>
    cases pending? with
    | none =>
      rw [itemsFrom, eq_comm, List.map_eq_nil_iff] at h
      obtain rfl : taken = [] := htaken
      rw [h]
      rfl
    | some p => cases t <;> cases h
  | cons b rest ih =>
    cases pending? with
    | none =>
      obtain rfl : taken = [] := htaken
      cases hlead : lead b position with
      | inl item =>
        rw [itemsFrom_whole hlead] at h
        cases t with
        | nil => cases h
        | cons c more =>
          rw [List.map_cons, List.cons.injEq] at h
          obtain ⟨rfl, hrest⟩ := h
          rw [List.flatMap_cons, encodeChar_of_lead hlead, ← ih (show Taken none [] from rfl) hrest]
          rfl
      | inr p =>
        rw [itemsFrom_lead hlead] at h
        exact ih (show Taken (some p) [b] from completes_of_lead hlead) h
    | some p =>
      have hp : Completes p.due p.low p.high p.value taken := htaken
      by_cases hb : p.low ≤ b ∧ b ≤ p.high
      · by_cases hdue : p.due = 1
        · rw [itemsFrom_last hb hdue] at h
          cases t with
          | nil => cases h
          | cons c more =>
            rw [List.map_cons, List.cons.injEq] at h
            obtain ⟨hc, hrest⟩ := h
            rw [List.flatMap_cons, ← Item.scalar.inj hc, hp.last hdue hb,
              ← ih (show Taken none [] from rfl) hrest, List.append_assoc]
            rfl
        · rw [itemsFrom_more hb hdue] at h
          have hmore : Taken (some ⟨p.first, p.start, p.taken + 1, p.due - 1, 0x80, 0xBF,
              p.value * 0x40 + (b.toNat - 0x80)⟩) (taken ++ [b]) := hp.more hdue hb
          rw [← ih hmore h, List.append_assoc, List.singleton_append]
      · rw [itemsFrom_broken hb] at h
        cases t <;> cases h

theorem scalars_eq_ok {row : List Item} {t : Text} (h : scalars row = .ok t) :
    row = t.map Item.scalar := by
  induction row generalizing t with
  | nil =>
    cases h
    rfl
  | cons item rest ih =>
    cases item with
    | broken m => cases h
    | scalar c =>
      rw [scalars] at h
      cases hrest : scalars rest with
      | error m =>
        rw [hrest] at h
        cases h
      | ok more =>
        rw [hrest] at h
        cases h
        rw [List.map_cons, ih hrest]

/-- **Bytes come back from the text that the strict reader gives.** -/
theorem encode_of_decode {bytes : Bytes} {t : Text} (h : decode bytes = .ok t) :
    encode t = .ok bytes := by
  have hitems : itemsFrom none 0 bytes = t.map Item.scalar := scalars_eq_ok h
  refine encode_eq_ok_iff.mpr ⟨fun c hc => ?_,
    flatMap_encodeChar_of_items (show Taken none [] from rfl) hitems⟩
  have hmem : Item.scalar c ∈ itemsFrom none 0 bytes := by
    rw [hitems]
    exact List.mem_map_of_mem hc
  exact not_isSurrogate_of_mem_itemsFrom (fun p hp => by cases hp) hmem

/-- The strict reader takes exactly what writing gives. -/
theorem decode_eq_ok_iff {bytes : Bytes} {t : Text} :
    decode bytes = .ok t ↔ encode t = .ok bytes :=
  ⟨encode_of_decode, decode_of_encode⟩

end CloudAccess.Utf8
