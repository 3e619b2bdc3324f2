/-
# Form-encoded pairs are read back

A field is escaped, and its spaces become plus signs afterwards; a reader turns plus signs into
spaces first and then reads the escapes.  That order is what makes the round trip work: a plus
sign of the field itself is an escape by the time spaces become plus signs (`decodeField_encode`).

No encoded field holds an equals sign or an ampersand, so neither of the two separators can be
mistaken, and the pairs come back one by one (`decode_encode`).
-/
import Mathlib.Algebra.GroupWithZero.Nat
import Mathlib.Data.List.Forall2
import CloudAccess.Proofs.Url.Escape
import CloudAccess.Url.Form

namespace CloudAccess.Url.Form

/-! ## 1. Fields -/

/-- The characters that are not escaped in a field.  The space is one of them for the moment. -/
def keepsInField (c : CodePoint) : Bool := isUnreserved c || c.val == 0x20

/-- A space becomes a plus sign. -/
def spaceToPlus (c : CodePoint) : CodePoint := if c.val = 0x20 then .ofNat 0x2B else c

/-- A plus sign becomes a space. -/
def plusToSpace (c : CodePoint) : CodePoint := if c.val = 0x2B then .ofNat 0x20 else c

/-- `c` may stand in an encoded field. -/
def isFieldChar (c : CodePoint) : Bool := isUnreserved c || c.val == 0x2B || c.val == 0x25

theorem encodeField_eq (t : Text) :
    encodeField t = (escape keepsInField t).map (List.map spaceToPlus) := rfl

theorem not_isSurrogate_of_keepsInField {c : CodePoint} (h : keepsInField c = true) :
    c.isSurrogate = false := by
  rw [keepsInField, Bool.or_eq_true, isUnreserved_iff, CodePoint.isAsciiAlphanumeric_iff,
    beq_iff_eq] at h
  rw [Bool.eq_false_iff, ne_eq, CodePoint.isSurrogate_iff]
  omega

/-- An escaped field holds no plus sign, so turning spaces into plus signs can be undone. -/
theorem plusToSpace_spaceToPlus {t e : Text} (h : escape keepsInField t = .ok e) :
    (e.map spaceToPlus).map plusToSpace = e := by
  rw [List.map_map]
  refine (List.map_congr_left (g := id) fun c hc => ?_).trans (List.map_id e)
  have hplus : c.val ≠ 0x2B := by
    rcases mem_of_mem_escape h hc with hk | he
    · rw [keepsInField, Bool.or_eq_true, isUnreserved_iff, CodePoint.isAsciiAlphanumeric_iff,
        beq_iff_eq] at hk
      omega
    · rw [isEscapeChar_iff, CodePoint.isAsciiAlphanumeric_iff] at he
      omega
  show plusToSpace (spaceToPlus c) = c
  by_cases hspace : c.val = 0x20
  · have hto : spaceToPlus c = .ofNat 0x2B := if_pos hspace
    rw [hto]
    exact CodePoint.ext hspace.symm
  · have hto : spaceToPlus c = c := if_neg hspace
    rw [hto]
    exact if_neg hplus

/-- **A field is read back.** -/
theorem decodeField_encode {t e : Text} (h : encodeField t = .ok e) : decodeField e = t := by
  rw [encodeField_eq] at h
  cases hesc : escape keepsInField t with
  | error u => rw [hesc] at h; cases h
  | ok written =>
    rw [hesc] at h
    cases h
    show unescape ((written.map spaceToPlus).map plusToSpace) = t
    rw [plusToSpace_spaceToPlus hesc]
    exact unescape_escape rfl (fun _ => not_isSurrogate_of_keepsInField) hesc

theorem isFieldChar_of_mem_encodeField {t e : Text} (h : encodeField t = .ok e) :
    ∀ c ∈ e, isFieldChar c = true := by
  rw [encodeField_eq] at h
  cases hesc : escape keepsInField t with
  | error u => rw [hesc] at h; cases h
  | ok written =>
    rw [hesc] at h
    cases h
    intro c hc
    obtain ⟨d, hd, rfl⟩ := List.mem_map.mp hc
    rw [spaceToPlus]
    split
    · rfl
    · next hspace =>
      rw [isFieldChar, Bool.or_eq_true, Bool.or_eq_true, beq_iff_eq, beq_iff_eq]
      rcases mem_of_mem_escape hesc hd with hk | he
      · rw [keepsInField, Bool.or_eq_true, beq_iff_eq] at hk
        exact Or.inl (Or.inl (hk.resolve_right hspace))
      · rcases isEscapeChar_iff.mp he with hp | ha
        · exact Or.inr hp
        · exact Or.inl (Or.inl (isUnreserved_iff.mpr (Or.inl ha)))

theorem ne_of_isFieldChar {c : CodePoint} (h : isFieldChar c = true) : c ≠ '&' ∧ c ≠ '=' := by
  rw [isFieldChar, Bool.or_eq_true, Bool.or_eq_true, beq_iff_eq, beq_iff_eq, isUnreserved_iff,
    CodePoint.isAsciiAlphanumeric_iff] at h
  exact ⟨CodePoint.ne_of_val_ne (show c.val ≠ 0x26 by omega),
    CodePoint.ne_of_val_ne (show c.val ≠ 0x3D by omega)⟩

/-! ## 2. Pairs -/

theorem encodePair_eq_ok {name value piece : Text} (h : encodePair name value = .ok piece) :
    ∃ n v : Text, encodeField name = .ok n ∧ encodeField value = .ok v ∧
      piece = n ++ CodePoint.ofChar '=' :: v := by
  rw [encodePair] at h
  split at h
  · cases h
  · next n hn =>
    split at h
    · cases h
    · next v hv =>
      cases h
      exact ⟨n, v, hn, hv, List.append_assoc n _ v⟩

/-- **A pair is read back.** -/
theorem decodePair_encodePair {name value piece : Text}
    (h : encodePair name value = .ok piece) : decodePair piece = (name, value) := by
  obtain ⟨n, v, hn, hv, rfl⟩ := encodePair_eq_ok h
  have hnot : CodePoint.ofChar '=' ∉ n := fun hmem =>
    (ne_of_isFieldChar (isFieldChar_of_mem_encodeField hn _ hmem)).2 rfl
  rw [decodePair, Text.cut?_append_cons v hnot]
  simp only [decodeField_encode hn, decodeField_encode hv]

/-- An encoded pair is characters of fields and an equals sign. -/
theorem mem_encodePair {name value piece : Text} (h : encodePair name value = .ok piece) :
    ∀ c ∈ piece, c = '=' ∨ isFieldChar c = true := by
  obtain ⟨n, v, hn, hv, rfl⟩ := encodePair_eq_ok h
  intro c hc
  rcases List.mem_append.mp hc with hc | hc
  · exact Or.inr (isFieldChar_of_mem_encodeField hn c hc)
  · rcases List.mem_cons.mp hc with hc | hc
    · exact Or.inl hc
    · exact Or.inr (isFieldChar_of_mem_encodeField hv c hc)

/-! ## 3. Lists of pairs -/

/-- The pieces that a list of pairs is encoded as, one for each pair. -/
theorem encode_eq_ok {pairs : List (Text × Text)} {query : Text} (h : encode pairs = .ok query) :
    ∃ pieces : List Text, query = Text.join ['&'] pieces ∧
      List.Forall₂ (fun pair piece => encodePair pair.1 pair.2 = .ok piece) pairs pieces := by
  have hmap : ∀ {pairs : List (Text × Text)} {pieces : List Text},
      (pairs.mapM fun pair => encodePair pair.1 pair.2) = .ok pieces →
      List.Forall₂ (fun pair piece => encodePair pair.1 pair.2 = .ok piece) pairs pieces := by
    intro pairs
    induction pairs with
    | nil =>
      intro pieces hp
      cases hp
      exact List.Forall₂.nil
    | cons pair rest ih =>
      intro pieces hp
      simp only [List.mapM_cons] at hp
      cases hpair : encodePair pair.1 pair.2 with
      | error u => rw [hpair] at hp; cases hp
      | ok piece =>
        cases hrest : rest.mapM fun pair => encodePair pair.1 pair.2 with
        | error u => rw [hpair, hrest] at hp; cases hp
        | ok more =>
          rw [hpair, hrest] at hp
          cases hp
          exact List.Forall₂.cons hpair (ih hrest)
  have hencode : encode pairs
      = (pairs.mapM fun pair => encodePair pair.1 pair.2).map (Text.join ['&']) := rfl
  rw [hencode] at h
  cases hp : pairs.mapM fun pair => encodePair pair.1 pair.2 with
  | error u => rw [hp] at h; cases h
  | ok pieces =>
    rw [hp] at h
    cases h
    exact ⟨pieces, rfl, hmap hp⟩

theorem exists_encodeField {t : Text} (h : ∀ c ∈ t, c.isSurrogate = false) :
    ∃ e, encodeField t = .ok e := by
  rw [encodeField_eq, escape_eq_ok_iff.mpr ⟨fun c hc _ => h c hc, rfl⟩]
  exact ⟨_, rfl⟩

/-- **Pairs without surrogates can be encoded.** -/
theorem exists_encode {pairs : List (Text × Text)}
    (h : ∀ pair ∈ pairs, (∀ c ∈ pair.1, c.isSurrogate = false) ∧
      ∀ c ∈ pair.2, c.isSurrogate = false) : ∃ query, encode pairs = .ok query := by
  have hmap : ∃ pieces, (pairs.mapM fun pair => encodePair pair.1 pair.2) = .ok pieces := by
    induction pairs with
    | nil => exact ⟨[], rfl⟩
    | cons pair rest ih =>
      obtain ⟨⟨hname, hvalue⟩, hrest⟩ := List.forall_mem_cons.mp h
      obtain ⟨name, hn⟩ := exists_encodeField hname
      obtain ⟨value, hv⟩ := exists_encodeField hvalue
      obtain ⟨pieces, hpieces⟩ := ih hrest
      have hpair : encodePair pair.1 pair.2 = .ok (name ++ ("=" : Text) ++ value) := by
        rw [encodePair]
        simp only [hn, hv]
      rw [List.mapM_cons, hpair, hpieces]
      exact ⟨_, rfl⟩
  obtain ⟨pieces, hpieces⟩ := hmap
  have hencode : encode pairs
      = (pairs.mapM fun pair => encodePair pair.1 pair.2).map (Text.join ['&']) := rfl
  rw [hencode, hpieces]
  exact ⟨_, rfl⟩

/-- Every piece is the form of one of the pairs. -/
theorem exists_pair_of_mem {pairs : List (Text × Text)} {pieces : List Text}
    (h : List.Forall₂ (fun pair piece => encodePair pair.1 pair.2 = .ok piece) pairs pieces) :
    ∀ piece ∈ pieces, ∃ name value : Text, encodePair name value = .ok piece := by
  induction h with
  | nil => exact fun _ hp => absurd hp List.not_mem_nil
  | @cons pair first pairs pieces hpair _ ih =>
    intro piece hp
    rcases List.mem_cons.mp hp with hp | hp
    · rw [hp]; exact ⟨pair.1, pair.2, hpair⟩
    · exact ih piece hp

/-- The encoded form of pairs is characters of fields and the two separators. -/
theorem mem_encode {pairs : List (Text × Text)} {query : Text} (h : encode pairs = .ok query) :
    ∀ c ∈ query, c = '&' ∨ c = '=' ∨ isFieldChar c = true := by
  obtain ⟨pieces, rfl, hall⟩ := encode_eq_ok h
  intro c hc
  rcases Text.mem_join hc with hc | ⟨piece, hpiece, hc⟩
  · exact Or.inl hc
  · obtain ⟨name, value, hpair⟩ := exists_pair_of_mem hall piece hpiece
    exact Or.inr (mem_encodePair hpair c hc)

theorem length_encodeField_le {t e : Text} (h : encodeField t = .ok e) :
    e.length ≤ 12 * t.length := by
  rw [encodeField_eq] at h
  cases hesc : escape keepsInField t with
  | error u => rw [hesc] at h; cases h
  | ok written =>
    rw [hesc] at h
    cases h
    rw [List.length_map]
    exact length_escape_le hesc

/-- How long the encoded form of pairs can be. -/
theorem length_encode_le {pairs : List (Text × Text)} {query : Text}
    (h : encode pairs = .ok query) :
    query.length ≤ (pairs.map fun pair => 12 * (pair.1.length + pair.2.length) + 2).sum := by
  obtain ⟨pieces, rfl, hall⟩ := encode_eq_ok h
  clear h
  induction hall with
  | nil => exact Nat.le_refl 0
  | @cons pair piece pairs pieces hpair _ ih =>
    obtain ⟨n, v, hn, hv, rfl⟩ := encodePair_eq_ok hpair
    have hname := length_encodeField_le hn
    have hvalue := length_encodeField_le hv
    rw [List.map_cons, List.sum_cons]
    cases pieces with
    | nil =>
      rw [Text.join_singleton, List.length_append, List.length_cons]
      omega
    | cons next rest =>
      rw [Text.join_cons_cons, List.length_append, List.length_append, List.length_cons,
        List.length_cons]
      omega

/-- **Pairs are read back from their encoded form**, in order. -/
theorem decode_encode {pairs : List (Text × Text)} {query : Text} (h : encode pairs = .ok query) :
    decode query = pairs := by
  obtain ⟨pieces, rfl, hall⟩ := encode_eq_ok h
  have hread : ∀ {pairs : List (Text × Text)} {pieces : List Text},
      List.Forall₂ (fun pair piece => encodePair pair.1 pair.2 = .ok piece) pairs pieces →
      (pieces.filter (!·.isEmpty)).map decodePair = pairs := by
    intro pairs pieces hall
    induction hall with
    | nil => rfl
    | @cons pair piece pairs pieces hpair _ ih =>
      have hne : (!piece.isEmpty) = true := by
        obtain ⟨n, v, -, -, rfl⟩ := encodePair_eq_ok hpair
        simp
      rw [List.filter_cons, if_pos hne, List.map_cons, ih, decodePair_encodePair hpair]
  cases pieces with
  | nil =>
    cases hall
    rfl
  | cons piece more =>
    have hfree : ∀ q ∈ piece :: more, CodePoint.ofChar '&' ∉ q := by
      intro q hq hmem
      obtain ⟨name, value, hpair⟩ := exists_pair_of_mem hall q hq
      rcases mem_encodePair hpair _ hmem with he | hf
      · exact absurd he (by decide)
      · exact (ne_of_isFieldChar hf).1 rfl
    rw [decode, Text.splitOn_join (List.cons_ne_nil _ _) hfree]
    exact hread hall

end CloudAccess.Url.Form
