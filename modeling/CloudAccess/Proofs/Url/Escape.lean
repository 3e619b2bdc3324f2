/-
# Escapes are read back

`escape` writes a text with percent escapes for the characters that do not stand for themselves;
`unescape` reads any such text.  Which characters stand for themselves differs from place to
place, and the laws here hold for every such set.

* `unescape_escape`: reading undoes writing, if the percent sign does not stand for itself.  Where
  it does, as inside an address that is already escaped, writing changes nothing instead
  (`escape_of_keeps`).
* `keeps_of_mem_escape`: what has been written needs no escape when it is written again.
* `splitOn_flatMap_escapeChar`: a separator that stands for itself parts the written text at the
  places where it parts the text, and nowhere else.
-/
import Mathlib.Data.List.Basic
import CloudAccess.Proofs.Text.Pieces
import CloudAccess.Proofs.Text.Utf8
import CloudAccess.Url.Escape

namespace CloudAccess.Url

/-! ## 1. The characters of escapes -/

/-- `c` may stand in an escape: the percent sign, or a letter or digit. -/
def isEscapeChar (c : CodePoint) : Bool := c.val == 0x25 || c.isAsciiAlphanumeric

theorem isUnreserved_iff {c : CodePoint} :
    isUnreserved c = true ↔ c.isAsciiAlphanumeric = true ∨ c.val = 0x2D ∨ c.val = 0x2E ∨
      c.val = 0x5F ∨ c.val = 0x7E := by
  simp only [isUnreserved, Bool.or_eq_true, beq_iff_eq, or_assoc]

theorem isEscapeChar_iff {c : CodePoint} :
    isEscapeChar c = true ↔ c.val = 0x25 ∨ c.isAsciiAlphanumeric = true := by
  rw [isEscapeChar, Bool.or_eq_true, beq_iff_eq]

theorem hexValue?_upperHexDigit :
    ∀ n < 16, (CodePoint.upperHexDigit n).hexValue? = some n := by decide

theorem isAsciiAlphanumeric_upperHexDigit :
    ∀ n < 16, (CodePoint.upperHexDigit n).isAsciiAlphanumeric = true := by decide

theorem isEscapeChar_of_mem_escapeByte {b : UInt8} {c : CodePoint} (h : c ∈ escapeByte b) :
    isEscapeChar c = true := by
  have hb : b.toNat < 256 := b.toNat_lt
  simp only [escapeByte, List.mem_cons, List.not_mem_nil, or_false] at h
  rcases h with h | h | h
  · rw [h]; rfl
  · rw [h, isEscapeChar, isAsciiAlphanumeric_upperHexDigit _ (by omega), Bool.or_true]
  · rw [h, isEscapeChar, isAsciiAlphanumeric_upperHexDigit _ (by omega), Bool.or_true]

/-- A written character is the character itself, where it is kept, or an escape. -/
theorem mem_escapeChar {keeps : CodePoint → Bool} {c d : CodePoint}
    (h : d ∈ escapeChar keeps c) : (d = c ∧ keeps c = true) ∨ isEscapeChar d = true := by
  rw [escapeChar] at h
  split at h
  · next hk => exact Or.inl ⟨List.mem_singleton.mp h, hk⟩
  · obtain ⟨b, -, hb⟩ := List.mem_flatMap.mp h
    exact Or.inr (isEscapeChar_of_mem_escapeByte hb)

/-! ## 2. Writing -/

section Writing

variable {keeps : CodePoint → Bool} {t e : Text}

/-- A text can be written if no surrogate in it needs an escape. -/
theorem escape_eq_ok_iff :
    escape keeps t = .ok e ↔
      (∀ c ∈ t, keeps c = false → c.isSurrogate = false) ∧ e = t.flatMap (escapeChar keeps) := by
  rw [escape]
  cases hfind : t.find? fun c => !keeps c && c.isSurrogate with
  | some c =>
    have hmem : c ∈ t := List.mem_of_find?_eq_some hfind
    have hc := List.find?_some hfind
    simp only [Bool.and_eq_true, Bool.not_eq_true'] at hc
    refine ⟨(nomatch ·), fun h => ?_⟩
    have hfalse : c.isSurrogate = false := h.1 c hmem hc.1
    rw [hfalse] at hc
    exact absurd hc.2 Bool.false_ne_true
  | none =>
    rw [List.find?_eq_none] at hfind
    simp only [Bool.and_eq_true, Bool.not_eq_true', not_and, Bool.not_eq_true] at hfind
    constructor
    · intro h
      cases h
      exact ⟨hfind, rfl⟩
    · rintro ⟨-, rfl⟩
      rfl

/-- **A text in which every character stands for itself is written as it is.** -/
theorem escape_of_keeps (h : ∀ c ∈ t, keeps c = true) : escape keeps t = .ok t := by
  refine escape_eq_ok_iff.mpr ⟨fun c hc hk => ?_, ?_⟩
  · rw [h c hc] at hk
    exact absurd hk Bool.true_eq_false.mp
  · have hone : ∀ c ∈ t, escapeChar keeps c = [c] := fun c hc => if_pos (h c hc)
    rw [List.flatMap_congr hone, List.flatMap_singleton']

/-- A text is escaped piece by piece. -/
theorem escape_append_eq_ok_iff {s : Text} :
    escape keeps (s ++ t) = .ok e ↔
      ∃ first second, escape keeps s = .ok first ∧ escape keeps t = .ok second ∧
        e = first ++ second := by
  simp only [escape_eq_ok_iff, List.forall_mem_append, List.flatMap_append]
  constructor
  · rintro ⟨⟨hs, ht⟩, he⟩
    exact ⟨_, _, ⟨hs, rfl⟩, ⟨ht, rfl⟩, he⟩
  · rintro ⟨first, second, ⟨hs, rfl⟩, ⟨ht, rfl⟩, he⟩
    exact ⟨⟨hs, ht⟩, he⟩

/-- An escape takes three characters for each byte, and a character has four bytes at most. -/
theorem length_escapeChar_le (c : CodePoint) : (escapeChar keeps c).length ≤ 12 := by
  have hbytes : (Utf8.encodeChar c).length ≤ 4 := by
    rw [Utf8.encodeChar]
    split
    · exact Nat.le_add_left 1 3
    · split
      · exact Nat.le_add_left 2 2
      · split
        · exact Nat.le_add_left 3 1
        · exact Nat.le_refl 4
  rw [escapeChar]
  split
  · exact Nat.le_add_left 1 11
  · rw [List.length_flatMap, List.map_congr_left fun b _ => show (escapeByte b).length = 3 from rfl,
      List.map_const', List.sum_replicate_nat]
    omega

theorem length_escape_le (h : escape keeps t = .ok e) : e.length ≤ 12 * t.length := by
  rw [(escape_eq_ok_iff.mp h).2]
  clear h
  induction t with
  | nil => exact Nat.le_refl 0
  | cons c rest ih =>
    have hc : (escapeChar keeps c).length ≤ 12 := length_escapeChar_le c
    rw [List.flatMap_cons, List.length_append, List.length_cons]
    omega

theorem mem_of_mem_escape {d : CodePoint} (h : escape keeps t = .ok e) (hd : d ∈ e) :
    keeps d = true ∨ isEscapeChar d = true := by
  rw [(escape_eq_ok_iff.mp h).2] at hd
  obtain ⟨c, -, hc⟩ := List.mem_flatMap.mp hd
  rcases mem_escapeChar hc with ⟨rfl, hk⟩ | hesc
  · exact Or.inl hk
  · exact Or.inr hesc

/-- **What has been written needs no escape again**, where escapes stand for themselves. -/
theorem keeps_of_mem_escape (hesc : ∀ c, isEscapeChar c = true → keeps c = true)
    (h : escape keeps t = .ok e) : ∀ c ∈ e, keeps c = true := by
  intro c hc
  rcases mem_of_mem_escape h hc with hk | he
  · exact hk
  · exact hesc c he

end Writing

/-- A text of characters of a class and of escapes: every percent sign is followed by two
hexadecimal digits. -/
inductive Escaped (keeps : CodePoint → Bool) : Text → Prop where
  | nil : Escaped keeps []
  | kept {c : CodePoint} {rest : Text} (hc : keeps c = true) (hrest : Escaped keeps rest) :
      Escaped keeps (c :: rest)
  | escape {high low : CodePoint} {rest : Text} (hhigh : high.hexValue?.isSome = true)
      (hlow : low.hexValue?.isSome = true) (hrest : Escaped keeps rest) :
      Escaped keeps (CodePoint.ofChar '%' :: high :: low :: rest)

theorem escaped_escapeByte_append {keeps : CodePoint → Bool} (b : UInt8) {rest : Text}
    (h : Escaped keeps rest) : Escaped keeps (escapeByte b ++ rest) := by
  have hb : b.toNat < 256 := b.toNat_lt
  have hhigh := hexValue?_upperHexDigit (b.toNat / 16) (by omega)
  have hlow := hexValue?_upperHexDigit (b.toNat % 16) (by omega)
  exact .escape (by rw [hhigh]; rfl) (by rw [hlow]; rfl) h

/-- **A written text is characters that stand for themselves and escapes.** -/
theorem escaped_of_escape {keeps : CodePoint → Bool} {t e : Text} (h : escape keeps t = .ok e) :
    Escaped keeps e := by
  obtain ⟨-, rfl⟩ := escape_eq_ok_iff.mp h
  have hbytes : ∀ (bytes : Bytes) (rest : Text), Escaped keeps rest →
      Escaped keeps (bytes.flatMap escapeByte ++ rest) := by
    intro bytes
    induction bytes with
    | nil => exact fun rest hrest => hrest
    | cons b more ih =>
      intro rest hrest
      rw [List.flatMap_cons, List.append_assoc]
      exact escaped_escapeByte_append b (ih rest hrest)
  clear h
  induction t with
  | nil => exact .nil
  | cons c rest ih =>
    rw [List.flatMap_cons, escapeChar]
    split
    · next hc => exact .kept hc ih
    · exact hbytes _ _ ih

/-! ## 3. Reading -/

/-- An escape is read as its byte. -/
theorem unescapeBytes_escapeByte (b : UInt8) (rest : Text) :
    unescapeBytes (escapeByte b ++ rest) = b :: unescapeBytes rest := by
  have hb : b.toNat < 256 := b.toNat_lt
  have hhigh := hexValue?_upperHexDigit (b.toNat / 16) (by omega)
  have hlow := hexValue?_upperHexDigit (b.toNat % 16) (by omega)
  have hsum : b.toNat / 16 * 16 + b.toNat % 16 = b.toNat := by omega
  rw [escapeByte, List.cons_append, List.cons_append, List.cons_append, List.nil_append,
    unescapeBytes, if_pos rfl]
  simp only [hhigh, hlow, hsum]
  rw [Nat.toUInt8, UInt8.ofNat_toNat]

theorem unescapeBytes_flatMap_escapeByte (bytes : Bytes) (rest : Text) :
    unescapeBytes (bytes.flatMap escapeByte ++ rest) = bytes ++ unescapeBytes rest := by
  induction bytes with
  | nil => rfl
  | cons b more ih =>
    rw [List.flatMap_cons, List.append_assoc, unescapeBytes_escapeByte, ih, List.cons_append]

/-- Any other character is read as its own bytes. -/
theorem unescapeBytes_cons_of_ne {c : CodePoint} (h : c ≠ '%') (rest : Text) :
    unescapeBytes (c :: rest) = Utf8.encodeChar c ++ unescapeBytes rest := by
  rw [unescapeBytes.eq_def]
  exact if_neg h

section Reading

variable {keeps : CodePoint → Bool}

theorem unescapeBytes_escapeChar (hpercent : keeps '%' = false) (c : CodePoint) (rest : Text) :
    unescapeBytes (escapeChar keeps c ++ rest) = Utf8.encodeChar c ++ unescapeBytes rest := by
  rw [escapeChar]
  split
  · next hk =>
    have hne : c ≠ '%' := fun e => by
      rw [e, hpercent] at hk
      exact Bool.false_ne_true hk
    exact unescapeBytes_cons_of_ne hne rest
  · exact unescapeBytes_flatMap_escapeByte _ rest

/-- The bytes that a written text denotes are the bytes of the text. -/
theorem unescapeBytes_flatMap_escapeChar (hpercent : keeps '%' = false) (t : Text) :
    unescapeBytes (t.flatMap (escapeChar keeps)) = t.flatMap Utf8.encodeChar := by
  induction t with
  | nil => rfl
  | cons c rest ih =>
    rw [List.flatMap_cons, unescapeBytes_escapeChar hpercent, ih, List.flatMap_cons]

/-- **Reading undoes writing.**  The percent sign must not stand for itself, and neither may a
surrogate, which would get past the check that `escape` makes. -/
theorem unescape_escape {t e : Text} (hpercent : keeps '%' = false)
    (hsurrogate : ∀ c, keeps c = true → c.isSurrogate = false) (h : escape keeps t = .ok e) :
    unescape e = t := by
  obtain ⟨hs, rfl⟩ := escape_eq_ok_iff.mp h
  have hall : ∀ c ∈ t, c.isSurrogate = false := by
    intro c hc
    cases hk : keeps c with
    | true => exact hsurrogate c hk
    | false => exact hs c hc hk
  rw [unescape, unescapeBytes_flatMap_escapeChar hpercent,
    Utf8.decodeLossy_flatMap_encodeChar hall]

end Reading

/-! ## 4. Separators that stand for themselves -/

/-- Writing a text joined from pieces writes the pieces, if the separator stands for itself. -/
theorem flatMap_join {f : CodePoint → Text} {separator : CodePoint}
    (hf : f separator = [separator]) (pieces : List Text) :
    (Text.join [separator] pieces).flatMap f
      = Text.join [separator] (pieces.map fun piece => piece.flatMap f) := by
  induction pieces with
  | nil => rfl
  | cons piece more ih =>
    cases more with
    | nil => simp [Text.join, List.intercalate]
    | cons next rest =>
      simp only [Text.join, List.intercalate, List.intersperse_cons_cons, List.flatten_cons,
        List.flatMap_append, List.map_cons, List.flatMap_singleton, hf] at ih ⊢
      rw [ih]

/-- **Writing keeps the pieces apart**, and makes no new ones. -/
theorem splitOn_flatMap_escapeChar {keeps : CodePoint → Bool} {separator : CodePoint}
    (hkeeps : keeps separator = true) (hesc : isEscapeChar separator = false) (t : Text) :
    Text.splitOn separator (t.flatMap (escapeChar keeps))
      = (Text.splitOn separator t).map fun piece => piece.flatMap (escapeChar keeps) := by
  have hone : escapeChar keeps separator = [separator] := if_pos hkeeps
  have hfree : ∀ piece ∈ (Text.splitOn separator t).map fun p => p.flatMap (escapeChar keeps),
      separator ∉ piece := by
    intro piece hpiece hmem
    obtain ⟨p, hp, rfl⟩ := List.mem_map.mp hpiece
    obtain ⟨c, hc, hsep⟩ := List.mem_flatMap.mp hmem
    rcases mem_escapeChar hsep with ⟨rfl, -⟩ | h
    · exact Text.notMem_of_mem_splitOn hp hc
    · rw [hesc] at h; exact Bool.false_ne_true h
  have hne : ((Text.splitOn separator t).map fun p => p.flatMap (escapeChar keeps)) ≠ [] := by
    rw [ne_eq, List.map_eq_nil_iff]
    exact Text.splitOn_ne_nil separator t
  calc Text.splitOn separator (t.flatMap (escapeChar keeps))
      = Text.splitOn separator
          ((Text.join [separator] (Text.splitOn separator t)).flatMap (escapeChar keeps)) := by
        rw [Text.join_splitOn]
    _ = Text.splitOn separator (Text.join [separator]
          ((Text.splitOn separator t).map fun p => p.flatMap (escapeChar keeps))) := by
        rw [flatMap_join hone]
    _ = _ := Text.splitOn_join hne hfree

end CloudAccess.Url
