/-
# Base64 is read back

`decode_encode` says that the base64 form of a byte sequence denotes that sequence again.  A
signature is such a form, so equal signatures come from equal codes (`encode_injective`).  The other
way round not every text is read, but a text that is read has bytes, unless it is empty
(`decode_ne_nil`).

The proof follows the groups of four characters.  In a complete group the decoder collects three
values and puts the bytes out with the fourth; at the end of the text padding marks stand for the
values that are missing.
-/
import CloudAccess.Base64
import CloudAccess.Proofs.Text.Characters

namespace CloudAccess.Base64

/-! ## 1. The alphabet -/

/-- The character of a six-bit value stands for that value. -/
theorem value?_character : ∀ v < 64, value? (character v) = some v := by decide

theorem character_ne_padding : ∀ v < 64, character v ≠ padding := by decide

theorem isAscii_character : ∀ v < 64, (character v).isAscii = true := by decide

/-- A byte is what is left of its number after the multiples of 256. -/
theorem toUInt8_eq {n : Nat} {b : UInt8} (h : n % 256 = b.toNat) : n.toUInt8 = b := by
  rw [← UInt8.toNat_inj]
  exact h

/-! ## 2. The groups of an encoded text -/

/-- A value that does not complete its group is held back. -/
theorem decodeFrom_held {groups : Nat} {held : List Nat} {v : Nat} (hv : v < 64)
    (hlength : held.length < 3) (rest : Text) :
    decodeFrom groups held 0 false (character v :: rest)
      = decodeFrom groups (held ++ [v]) 0 false rest := by
  rw [decodeFrom, if_neg (character_ne_padding v hv), value?_character v hv]
  simp only [Bool.false_eq_true, if_false, if_pos hlength]

/-- The fourth value completes its group. -/
theorem decodeFrom_complete {groups : Nat} {held : List Nat} {v : Nat} (hv : v < 64)
    (hlength : held.length = 3) (rest : Text) :
    decodeFrom groups held 0 false (character v :: rest)
      = (decodeFrom (groups + 1) [] 0 false rest).map (groupBytes (held ++ [v]) ++ ·) := by
  have hnot : ¬ held.length < 3 := by omega
  rw [decodeFrom, if_neg (character_ne_padding v hv), value?_character v hv]
  simp only [Bool.false_eq_true, if_false, if_neg hnot]

theorem groupBytes_four (a b c : UInt8) :
    let n := a.toNat * 0x10000 + b.toNat * 0x100 + c.toNat
    groupBytes [n / 0x40000, n / 0x1000 % 64, n / 0x40 % 64, n % 64] = [a, b, c] := by
  intro n
  have ha := a.toNat_lt
  have hb := b.toNat_lt
  have hc := c.toNat_lt
  rw [groupBytes, toUInt8_eq (b := a) (by omega), toUInt8_eq (b := b) (by omega),
    toUInt8_eq (b := c) (by omega)]

theorem groupBytes_three (a b : UInt8) :
    let n := a.toNat * 0x100 + b.toNat
    groupBytes [n / 0x400, n / 0x10 % 64, n % 0x10 * 4] = [a, b] := by
  intro n
  have ha := a.toNat_lt
  have hb := b.toNat_lt
  rw [groupBytes, toUInt8_eq (b := a) (by omega), toUInt8_eq (b := b) (by omega)]

theorem groupBytes_two (a : UInt8) :
    groupBytes [a.toNat / 4, a.toNat % 4 * 16] = [a] := by
  have ha := a.toNat_lt
  rw [groupBytes, toUInt8_eq (b := a) (by omega)]

/-- After any number of complete groups, an encoded text gives its bytes. -/
theorem decodeFrom_encode (bytes : Bytes) (groups : Nat) :
    decodeFrom groups [] 0 false (encode bytes) = .ok bytes := by
  fun_induction encode bytes generalizing groups with
  | case1 => rfl
  | case2 a =>
    have ha := a.toNat_lt
    rw [decodeFrom_held (by omega) (by simp), decodeFrom_held (by omega) (by simp)]
    exact congrArg Except.ok (groupBytes_two a)
  | case3 a b n =>
    have ha := a.toNat_lt
    have hb := b.toNat_lt
    have hn : n < 0x10000 := by omega
    rw [decodeFrom_held (by omega) (by simp), decodeFrom_held (by omega) (by simp),
      decodeFrom_held (by omega) (by simp)]
    exact congrArg Except.ok (groupBytes_three a b)
  | case4 a b c rest n ih =>
    have ha := a.toNat_lt
    have hb := b.toNat_lt
    have hc := c.toNat_lt
    have hn : n < 0x1000000 := by omega
    simp only [List.cons_append, List.nil_append]
    rw [decodeFrom_held (by omega) (by simp), decodeFrom_held (by omega) (by simp),
      decodeFrom_held (by omega) (by simp), decodeFrom_complete (by omega) rfl, ih]
    exact congrArg (fun group => Except.ok (group ++ rest)) (groupBytes_four a b c)

/-! ## 3. The whole text -/

/-- What is written is the alphabet and the padding mark. -/
theorem mem_encode {bytes : Bytes} {c : CodePoint} (h : c ∈ encode bytes) :
    c = padding ∨ ∃ v < 64, c = character v := by
  fun_induction encode bytes with
  | case1 => exact absurd h List.not_mem_nil
  | case2 a n =>
    have ha := a.toNat_lt
    simp only [List.mem_cons, List.not_mem_nil, or_false] at h
    rcases h with h | h | h | h
    · exact Or.inr ⟨_, by omega, h⟩
    · exact Or.inr ⟨_, by omega, h⟩
    · exact Or.inl h
    · exact Or.inl h
  | case3 a b n =>
    have ha := a.toNat_lt
    have hb := b.toNat_lt
    simp only [List.mem_cons, List.not_mem_nil, or_false] at h
    rcases h with h | h | h | h
    · exact Or.inr ⟨_, by omega, h⟩
    · exact Or.inr ⟨_, by omega, h⟩
    · exact Or.inr ⟨_, by omega, h⟩
    · exact Or.inl h
  | case4 a b c rest n ih =>
    have ha := a.toNat_lt
    have hb := b.toNat_lt
    have hc := c.toNat_lt
    simp only [List.mem_append, List.mem_cons, List.not_mem_nil, or_false] at h
    rcases h with (h | h | h | h) | h
    · exact Or.inr ⟨_, by omega, h⟩
    · exact Or.inr ⟨_, by omega, h⟩
    · exact Or.inr ⟨_, by omega, h⟩
    · exact Or.inr ⟨_, by omega, h⟩
    · exact ih h

/-- Every three bytes take four characters, and so does what is left of them. -/
theorem length_encode (bytes : Bytes) : (encode bytes).length = 4 * ((bytes.length + 2) / 3) := by
  fun_induction encode bytes with
  | case1 => rfl
  | case2 => simp
  | case3 => simp
  | case4 a b c rest n ih =>
    rw [List.length_append, ih]
    simp only [List.length_cons, List.length_nil]
    omega

theorem head?_encode (bytes : Bytes) : (encode bytes).head? ≠ some padding := by
  intro h
  cases bytes with
  | nil => cases h
  | cons a rest =>
    have ha := a.toNat_lt
    have hfirst : ∃ v < 64, (encode (a :: rest)).head? = some (character v) := by
      match rest with
      | [] => exact ⟨_, by omega, rfl⟩
      | [b] =>
        have hb := b.toNat_lt
        exact ⟨(a.toNat * 0x100 + b.toNat) / 0x400, by omega, rfl⟩
      | b :: c :: more =>
        have hb := b.toNat_lt
        have hc := c.toNat_lt
        exact ⟨(a.toNat * 0x10000 + b.toNat * 0x100 + c.toNat) / 0x40000, by omega, rfl⟩
    obtain ⟨v, hv, hhead⟩ := hfirst
    rw [hhead, Option.some_inj] at h
    exact character_ne_padding v hv h

/-- **The base64 form of a byte sequence is read back.** -/
theorem decode_encode (bytes : Bytes) : decode (encode bytes) = .ok bytes := by
  have hascii : (encode bytes).all CodePoint.isAscii = true := by
    rw [List.all_eq_true]
    intro c hc
    rcases mem_encode hc with rfl | ⟨v, hv, rfl⟩
    · decide
    · exact isAscii_character v hv
  rw [decode, hascii, if_neg (by decide), if_neg (head?_encode bytes), decodeFrom_encode]

theorem encode_injective : Function.Injective encode := by
  intro a b h
  have ha := decode_encode a
  rw [h, decode_encode b] at ha
  exact (Except.ok.inj ha).symm

/-! ## 4. A text that is not empty has bytes -/

theorem groupBytes_ne_nil {held : List Nat} (hlow : 2 ≤ held.length) (hhigh : held.length ≤ 4) :
    groupBytes held ≠ [] := by
  match held with
  | [] => exact absurd hlow (Nat.not_succ_le_zero 1)
  | [_] => exact absurd hlow (Nat.not_succ_le_self 1)
  | [_, _] | [_, _, _] | [_, _, _, _] => exact List.cons_ne_nil _ _
  | _ :: _ :: _ :: _ :: _ :: rest =>
    simp only [List.length_cons] at hhigh
    omega

/-- **A group that has been begun comes to bytes,** or to nothing at all: the text must not end
before there are two values, and whatever ends a group by then puts out the bytes of it. -/
theorem ne_nil_of_decodeFrom {groups : Nat} {held : List Nat} {pads : Nat} {padded : Bool}
    {t : Text} {bytes : Bytes} (hheld : held ≠ []) (hlength : held.length ≤ 3)
    (h : decodeFrom groups held pads padded t = .ok bytes) : bytes ≠ [] := by
  induction t generalizing groups held pads padded bytes with
  | nil =>
    rw [decodeFrom, List.isEmpty_eq_false_iff.mpr hheld, if_neg Bool.false_ne_true] at h
    split at h
    · cases h
    · cases h
  | cons c rest ih =>
    rw [decodeFrom] at h
    split at h
    · -- a padding mark leaves the values of the group as they are
      split at h
      · exact ih hheld hlength h
      · next hmany =>
        split at h
        · exact ih hheld hlength h
        · split at h
          · cases h
            exact groupBytes_ne_nil (Nat.not_lt.mp hmany) (Nat.le_succ_of_le hlength)
          · cases h
    · split at h
      · cases h
      · next v hv =>
        split at h
        · cases h
        · split at h
          · next hfew =>
            refine ih (List.append_ne_nil_of_right_ne_nil _ (List.cons_ne_nil v [])) ?_ h
            rw [List.length_append]
            exact hfew
          · next hfull =>
            have hfour : (held ++ [v]).length = 4 := by
              rw [List.length_append, List.length_singleton]
              omega
            have hgroup : groupBytes (held ++ [v]) ≠ [] :=
              groupBytes_ne_nil (by rw [hfour]; decide) (Nat.le_of_eq hfour)
            cases hmore : decodeFrom (groups + 1) [] pads padded rest with
            | error defect =>
              rw [hmore] at h
              cases h
            | ok more =>
              rw [hmore] at h
              cases h
              exact List.append_ne_nil_of_left_ne_nil hgroup more

/-- **A text that is not empty denotes at least one byte,** if it denotes any bytes. -/
theorem decode_ne_nil {t : Text} {bytes : Bytes} (ht : t ≠ []) (h : decode t = .ok bytes) :
    bytes ≠ [] := by
  rw [decode] at h
  split at h
  · cases h
  · split at h
    · cases h
    · next hhead =>
      cases t with
      | nil => exact absurd rfl ht
      | cons c rest =>
        have hc : c ≠ padding := fun heq => hhead (congrArg some heq)
        rw [decodeFrom, if_neg hc] at h
        split at h
        · cases h
        · next v hv =>
          -- the first character begins a group
          exact ne_nil_of_decodeFrom (List.cons_ne_nil v []) (Nat.succ_le_succ (Nat.zero_le 2)) h

end CloudAccess.Base64
