/-
# The ASCII form of a name holds letters, digits, hyphens and full stops

A host name beyond ASCII is replaced by its ASCII form, and that form takes its place between the
delimiters of an address.  It must not hold any of them, and it must not need an escape.  The
conditions on labels see to that: an ASCII character of a label is a lower-case letter, a digit
or a hyphen (`isUnreserved_of_isLabel`), punycode adds letters and digits (`mem_encode`), and an
ASCII label that claims to be punycode is decoded first, so that its plain characters are
characters of a label as well (`mem_of_decode`).
-/
import CloudAccess.Proofs.Url.Escape
import CloudAccess.Url.Idna

namespace CloudAccess

/-! ## 1. Punycode -/

namespace Punycode

theorem isAsciiAlphanumeric_digit : ∀ v < 36, (digit v).isAsciiAlphanumeric = true := by decide

theorem isAsciiAlphanumeric_of_value? {c : CodePoint} {v : Nat} (h : value? c = some v) :
    c.isAsciiAlphanumeric = true := by
  rw [CodePoint.isAsciiAlphanumeric, CodePoint.isAsciiLetter]
  rw [value?] at h
  split at h
  · next hl => rw [hl, Bool.or_true, Bool.true_or]
  · split at h
    · next hu => rw [hu, Bool.true_or, Bool.true_or]
    · split at h
      · next hd => rw [hd, Bool.or_true]
      · cases h

/-- A distance is written in letters and digits. -/
theorem isAsciiAlphanumeric_encodeNumber (k n bias : Nat) :
    ∀ c ∈ encodeNumber k n bias, c.isAsciiAlphanumeric = true := by
  induction n using Nat.strong_induction_on generalizing k with
  | _ n ih =>
    have h1 : 1 ≤ threshold k bias := one_le_threshold k bias
    have h26 : threshold k bias ≤ 26 := threshold_le k bias
    rw [encodeNumber]
    split
    · intro c hc
      rw [List.mem_singleton.mp hc]
      exact isAsciiAlphanumeric_digit n (by omega)
    · next hn =>
      have hmod := Nat.mod_lt (n - threshold k bias) (show 36 - threshold k bias > 0 by omega)
      have hless : (n - threshold k bias) / (36 - threshold k bias) < n :=
        Nat.lt_of_le_of_lt (Nat.div_le_self _ _) (by omega)
      intro c hc
      rcases List.mem_cons.mp hc with hc | hc
      · rw [hc]
        exact isAsciiAlphanumeric_digit _ (by omega)
      · exact ih _ hless (k + 1) c hc

/-- Passing a character keeps the output in letters and digits. -/
theorem Encoder.pass_output {m basic : Nat} {s : Encoder} {c : CodePoint}
    (h : ∀ d ∈ s.output, d.isAsciiAlphanumeric = true) :
    ∀ d ∈ (Encoder.pass m basic s c).output, d.isAsciiAlphanumeric = true := by
  rw [Encoder.pass]
  split
  · exact h
  · split
    · intro d hd
      rcases List.mem_append.mp hd with hd | hd
      · exact h d hd
      · exact isAsciiAlphanumeric_encodeNumber _ _ _ d hd
    · exact h

/-- So does a whole pass over a text. -/
theorem Encoder.foldl_pass_output {m basic : Nat} (t : Text) {s : Encoder}
    (h : ∀ d ∈ s.output, d.isAsciiAlphanumeric = true) :
    ∀ d ∈ (t.foldl (Encoder.pass m basic) s).output, d.isAsciiAlphanumeric = true := by
  induction t generalizing s with
  | nil => exact h
  | cons c rest ih => exact ih (Encoder.pass_output h)

theorem placeAll_output {t : Text} {basic : Nat} (points : List Nat) {next : Nat} {s : Encoder}
    (h : ∀ d ∈ s.output, d.isAsciiAlphanumeric = true) :
    ∀ d ∈ (placeAll t basic next s points).output, d.isAsciiAlphanumeric = true := by
  induction points generalizing next s with
  | nil => exact h
  | cons m more ih =>
    rw [placeAll]
    refine ih ?_
    refine Encoder.foldl_pass_output t ?_
    exact h

/-- **Punycode is the ASCII characters of the text, and letters, digits and a hyphen.** -/
theorem mem_encode {t : Text} {c : CodePoint} (h : c ∈ encode t) :
    (c ∈ t ∧ c.isAscii = true) ∨ c = '-' ∨ c.isAsciiAlphanumeric = true := by
  rw [encode] at h
  simp only [List.mem_append] at h
  rcases h with h | h
  · split at h
    · exact absurd h List.not_mem_nil
    · rcases List.mem_append.mp h with h | h
      · exact Or.inl (List.mem_filter.mp h)
      · exact Or.inr (Or.inl (List.mem_singleton.mp h))
  · exact Or.inr (Or.inr (placeAll_output _ (fun d hd => absurd hd List.not_mem_nil) c h))

/-- Reading distances keeps the characters in place and takes letters and digits only. -/
theorem Decoder.mem_of_run {digits : Text} {s : Decoder} {text : Text}
    (h : s.run digits = some text) :
    (∀ c ∈ s.text, c ∈ text) ∧ ∀ c ∈ digits, c.isAsciiAlphanumeric = true := by
  induction digits generalizing s with
  | nil =>
    rw [Decoder.run] at h
    split at h
    · cases h
      exact ⟨fun _ hc => hc, fun _ hc => absurd hc List.not_mem_nil⟩
    · cases h
  | cons d rest ih =>
    rw [Decoder.run] at h
    split at h
    · cases h
    · next v hv =>
      have hd : d.isAsciiAlphanumeric = true := isAsciiAlphanumeric_of_value? hv
      have hcons : (∀ c ∈ rest, c.isAsciiAlphanumeric = true) →
          ∀ c ∈ d :: rest, c.isAsciiAlphanumeric = true := by
        intro hrest c hc
        rcases List.mem_cons.mp hc with hc | hc
        · rw [hc]; exact hd
        · exact hrest c hc
      simp only at h
      split at h
      · split at h
        · obtain ⟨htext, hrest⟩ := ih h
          refine ⟨fun c hc => htext c ?_, hcons hrest⟩
          -- the new character goes between two parts of the text so far
          rw [← List.take_append_drop ((s.place + (s.value + v * s.weight)) % (s.text.length + 1))
            s.text, List.mem_append] at hc
          rcases hc with hc | hc
          · exact List.mem_append_left _ hc
          · exact List.mem_append_right _ (List.mem_cons_of_mem _ hc)
        · cases h
      · obtain ⟨htext, hrest⟩ := ih h
        exact ⟨htext, hcons hrest⟩

/-- **What is decoded holds every plain character of its punycode form.** -/
theorem mem_of_decode {encoded text : Text} (h : decode encoded = some text) :
    ∀ c ∈ encoded, c ∈ text ∨ c = '-' ∨ c.isAsciiAlphanumeric = true := by
  rw [decode] at h
  cases hcut : Text.cutLast? '-' encoded with
  | none =>
    rw [hcut] at h
    obtain ⟨-, hdigits⟩ := Decoder.mem_of_run h
    exact fun c hc => Or.inr (Or.inr (hdigits c hc))
  | some parts =>
    obtain ⟨basic, digits⟩ := parts
    rw [hcut] at h
    obtain ⟨htext, hdigits⟩ := Decoder.mem_of_run h
    obtain ⟨rfl, -⟩ := Text.cutLast?_eq_some hcut
    intro c hc
    rcases List.mem_append.mp hc with hc | hc
    · exact Or.inl (htext c hc)
    · rcases List.mem_cons.mp hc with hc | hc
      · exact Or.inr (Or.inl hc)
      · exact Or.inr (Or.inr (hdigits c hc))

end Punycode

/-! ## 2. Labels -/

namespace Idna

/-- A contextual rule is about characters beyond ASCII. -/
theorem not_fitsContext_of_isAscii {label before after : Text} {c : CodePoint}
    (h : c.isAscii = true) : fitsContext label before c after = false := by
  rw [CodePoint.isAscii_iff] at h
  rw [fitsContext]
  simp only
  rw [if_neg (by omega), if_neg (by omega), if_neg (by omega), if_neg (by omega),
    if_neg (by omega), if_neg (by omega), if_neg (by omega), if_neg (by omega)]

/-- So an ASCII character has to be valid wherever it stands. -/
theorem isValid_of_allowsFrom {label before t : Text} (h : allowsFrom label before t = true) :
    ∀ c ∈ t, c.isAscii = true → isValid c = true := by
  induction t generalizing before with
  | nil => exact fun _ hc => absurd hc List.not_mem_nil
  | cons d rest ih =>
    rw [allowsFrom, Bool.and_eq_true, Bool.or_eq_true] at h
    intro c hc hascii
    rcases List.mem_cons.mp hc with hc | hc
    · rw [hc]
      rw [hc] at hascii
      rcases h.1 with hv | hf
      · exact hv
      · rw [not_fitsContext_of_isAscii hascii] at hf
        exact absurd hf Bool.false_ne_true
    · exact ih h.2 c hc hascii

/-- **An ASCII character of a label stands for itself in an address.** -/
theorem isUnreserved_of_isLabel {label : Text} (h : isLabel label = true) :
    ∀ c ∈ label, c.isAscii = true → Url.isUnreserved c = true := by
  simp only [isLabel, Bool.and_eq_true] at h
  intro c hc hascii
  have hv : isValid c = true := isValid_of_allowsFrom h.1.1.2 c hc hascii
  rw [isValid, if_pos hascii, Bool.or_eq_true, Bool.or_eq_true, CodePoint.isAsciiLower_iff,
    CodePoint.isAsciiDigit_iff, beq_iff_eq] at hv
  rw [Url.isUnreserved_iff, CodePoint.isAsciiAlphanumeric_iff]
  omega

theorem isUnreserved_hyphen : Url.isUnreserved '-' = true := by decide

theorem isUnreserved_asciiMark : ∀ c ∈ asciiMark, Url.isUnreserved c = true := by decide

theorem isUnreserved_of_isAsciiAlphanumeric {c : CodePoint} (h : c.isAsciiAlphanumeric = true) :
    Url.isUnreserved c = true := Url.isUnreserved_iff.mpr (Or.inl h)

/-- An ASCII label stands for itself in an address, a decoded one too. -/
theorem isUnreserved_of_isAsciiLabel {label : Text} (h : isAsciiLabel label = true)
    (hascii : ∀ c ∈ label, c.isAscii = true) : ∀ c ∈ label, Url.isUnreserved c = true := by
  rw [isAsciiLabel] at h
  cases hdrop : Text.dropStart? asciiMark label with
  | none =>
    rw [hdrop] at h
    exact fun c hc => isUnreserved_of_isLabel h c hc (hascii c hc)
  | some encoded =>
    rw [hdrop] at h
    simp only [Bool.and_eq_true, Option.any_eq_true] at h
    obtain ⟨text, hdecode, hlabel⟩ := h.2
    have hlabel_eq := Text.dropStart?_eq_some_iff.mp hdrop
    intro c hc
    have hca : c.isAscii = true := hascii c hc
    rw [hlabel_eq] at hc
    rcases List.mem_append.mp hc with hc | hc
    · exact isUnreserved_asciiMark c hc
    · rcases Punycode.mem_of_decode hdecode c hc with ht | rfl | ha
      · exact isUnreserved_of_isLabel hlabel c ht hca
      · exact isUnreserved_hyphen
      · exact isUnreserved_of_isAsciiAlphanumeric ha

theorem isUnreserved_of_asciiLabel? {label form : Text} (h : asciiLabel? label = some form) :
    ∀ c ∈ form, Url.isUnreserved c = true := by
  rw [asciiLabel?] at h
  simp only [Option.filter_eq_some_iff] at h
  obtain ⟨h, -⟩ := h
  split at h
  · next hall =>
    split at h
    · next hlabel =>
      cases h
      exact isUnreserved_of_isAsciiLabel hlabel (List.all_eq_true.mp hall)
    · cases h
  · split at h
    · next hlabel =>
      cases h
      intro c hc
      rcases List.mem_append.mp hc with hc | hc
      · exact isUnreserved_asciiMark c hc
      · rcases Punycode.mem_encode hc with ⟨ht, hca⟩ | rfl | ha
        · exact isUnreserved_of_isLabel hlabel c ht hca
        · exact isUnreserved_hyphen
        · exact isUnreserved_of_isAsciiAlphanumeric ha
    · cases h

/-! ## 3. Names -/

/-- Each form is the form of one of the labels. -/
theorem exists_label_of_mem {labels forms : List Text} (h : labels.mapM asciiLabel? = some forms) :
    ∀ form ∈ forms, ∃ label, asciiLabel? label = some form := by
  induction labels generalizing forms with
  | nil =>
    cases h
    exact fun _ hf => absurd hf List.not_mem_nil
  | cons label rest ih =>
    rw [List.mapM_cons] at h
    obtain ⟨first, hlabel, h⟩ := Option.bind_eq_some_iff.mp h
    obtain ⟨more, hrest, h⟩ := Option.bind_eq_some_iff.mp h
    cases h
    intro form hf
    rcases List.mem_cons.mp hf with hf | hf
    · rw [hf]; exact ⟨label, hlabel⟩
    · exact ih hrest form hf

/-- **The ASCII form of a name stands for itself in an address.** -/
theorem isUnreserved_of_encode? {name form : Text} (h : encode? name = some form) :
    ∀ c ∈ form, Url.isUnreserved c = true := by
  rw [encode?] at h
  simp only at h
  split at h
  · cases h
  · next forms hforms =>
    obtain ⟨-, h⟩ := Option.ite_none_right_eq_some.mp h
    cases h
    intro c hc
    rcases Text.mem_join hc with rfl | ⟨piece, hpiece, hc⟩
    · decide
    · have hmem : piece ∈ forms ∨ piece = [] := by
        split at hpiece
        · rcases List.mem_append.mp hpiece with hp | hp
          · exact Or.inl hp
          · exact Or.inr (List.mem_singleton.mp hp)
        · exact Or.inl hpiece
      rcases hmem with hp | rfl
      · obtain ⟨label, hlabel⟩ := exists_label_of_mem hforms piece hp
        exact isUnreserved_of_asciiLabel? hlabel c hc
      · exact absurd hc List.not_mem_nil

end Idna

end CloudAccess
