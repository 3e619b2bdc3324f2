/-
# Hosts keep their written form

Bringing a host into its written form may be refused, and the outcome is not quite stable: the
escape `%5B` that one pass writes is `%5b` after the next, and an escape can make a name look like
a numeric address that it did not look like before.  So one pass more may still refuse what the
first one let through.  After two passes nothing is refused any more.

* `HostForm` says what one pass leaves: a name of characters that stand for themselves, or the
  inside of a bracketed address (`hostForm_of_normalizeHost`).
* `normalizeHost_of_keeps` and `normalizeHost_bracketed` say what a pass does to such a host.
* `normalizeHost_again`: a host that has come through another pass comes through every further
  one.
-/
import CloudAccess.Proofs.Text.Case
import CloudAccess.Proofs.Url.Idna
import CloudAccess.Url.Basic

namespace CloudAccess.Url

/-! ## 1. Characters of hosts -/

/-- `c` is no ASCII character without a visible form. -/
def isVisible (c : CodePoint) : Bool := 0x20 ≤ c.val && c.val != 0x7F

theorem isVisible_iff {c : CodePoint} : isVisible c = true ↔ 0x20 ≤ c.val ∧ c.val ≠ 0x7F := by
  rw [isVisible, Bool.and_eq_true, decide_eq_true_eq, bne_iff_ne]

/-- Only visible characters get past the first check of an address. -/
theorem unprintable?_eq_none_iff {t : Text} :
    unprintable? t = none ↔ ∀ c ∈ t, isVisible c = true := by
  have hone : ∀ c : CodePoint, (c.isAscii && !c.isPrintable) = false ↔ isVisible c = true := by
    intro c
    rw [isVisible_iff]
    cases ha : c.isAscii with
    | true =>
      rw [CodePoint.isAscii_iff] at ha
      rw [CodePoint.isPrintable, if_pos (CodePoint.isAscii_iff.mpr ha)]
      simp only [Bool.true_and, Bool.not_eq_false', Bool.and_eq_true, decide_eq_true_eq]
      omega
    | false =>
      have hn : ¬ c.val < 0x80 := by
        rw [← CodePoint.isAscii_iff, ha]
        exact Bool.false_ne_true
      simp only [Bool.false_and, true_iff]
      omega
  rw [unprintable?, List.find?_eq_none]
  constructor
  · intro h c hc
    obtain ⟨i, hi, hget⟩ := List.mem_iff_getElem.mp hc
    have hmem : (c, i) ∈ t.zipIdx := by
      rw [List.mem_zipIdx_iff_getElem?, List.getElem?_eq_getElem hi, hget]
    exact (hone c).mp (Bool.eq_false_iff.mpr (h (c, i) hmem))
  · rintro h ⟨c, i⟩ hmem
    have hc : c ∈ t := List.fst_mem_of_mem_zipIdx hmem
    exact Bool.eq_false_iff.mp ((hone c).mpr (h c hc))

/-- A character that stands for itself in a host is visible and no delimiter. -/
theorem bounds_of_keepsInHost {c : CodePoint} (h : keepsInHost c = true) :
    0x20 < c.val ∧ c.val < 0x7F ∧ c.val ≠ 0x23 ∧ c.val ≠ 0x2F ∧ c.val ≠ 0x3A ∧ c.val ≠ 0x3F ∧
      c.val ≠ 0x40 ∧ c.val ≠ 0x5B ∧ c.val ≠ 0x5D := by
  rw [keepsInHost, Bool.or_eq_true, decide_eq_true_eq] at h
  rcases h with h | h
  · rw [isUnreserved_iff, CodePoint.isAsciiAlphanumeric_iff] at h
    omega
  · have hall : ∀ d ∈ ("!$&'()*+,;=\"`\x7b\x7d%|\\" : Text), 0x20 < d.val ∧ d.val < 0x7F ∧
        d.val ≠ 0x23 ∧ d.val ≠ 0x2F ∧ d.val ≠ 0x3A ∧ d.val ≠ 0x3F ∧ d.val ≠ 0x40 ∧
        d.val ≠ 0x5B ∧ d.val ≠ 0x5D := by
      decide
    exact hall c h

theorem keepsInHost_of_isUnreserved {c : CodePoint} (h : isUnreserved c = true) :
    keepsInHost c = true := by
  rw [keepsInHost, h, Bool.true_or]

theorem keepsInHost_of_isEscapeChar {c : CodePoint} (h : isEscapeChar c = true) :
    keepsInHost c = true := by
  rcases isEscapeChar_iff.mp h with hp | ha
  · have hc : c = '%' := CodePoint.ext hp
    rw [hc]
    decide
  · exact keepsInHost_of_isUnreserved (isUnreserved_iff.mpr (Or.inl ha))

theorem isAscii_of_keepsInHost {c : CodePoint} (h : keepsInHost c = true) : c.isAscii = true := by
  have hb := bounds_of_keepsInHost h
  rw [CodePoint.isAscii_iff]
  omega

/-- Lower case does not take a character out of the set. -/
theorem keepsInHost_toLower {c : CodePoint} (h : keepsInHost c = true) :
    keepsInHost c.toLower = true := by
  rcases CodePoint.toLower_of_isAscii (isAscii_of_keepsInHost h) with ⟨hu, hv⟩ | ⟨-, he⟩
  · rw [CodePoint.isAsciiUpper_iff] at hu
    refine keepsInHost_of_isUnreserved ?_
    rw [isUnreserved_iff, CodePoint.isAsciiAlphanumeric_iff, hv]
    omega
  · rw [he]; exact h

/-! ## 2. Numeric addresses -/

/-- A search for digit runs sees nothing of a character but whether it is a digit. -/
theorem dottedStep_congr {c d : CodePoint} (h : c.isAsciiDigit = d.isAsciiDigit)
    (states : List Nat) : dottedStep states c = dottedStep states d := by
  rw [dottedStep, dottedStep, h]

/-- Lower case does not change whether a host looks numeric. -/
theorem looksLikeIpv4_map_toLower {t : Text} (h : ∀ c ∈ t, c.isAscii = true) :
    looksLikeIpv4 (t.map CodePoint.toLower) = looksLikeIpv4 t := by
  have hfold : ∀ (t : Text) (states : List Nat), (∀ c ∈ t, c.isAscii = true) →
      (t.map CodePoint.toLower).foldl dottedStep states = t.foldl dottedStep states := by
    intro t
    induction t with
    | nil => intro states _; rfl
    | cons c rest ih =>
      intro states ht
      rw [List.map_cons, List.foldl_cons, List.foldl_cons,
        dottedStep_congr (CodePoint.isAsciiDigit_toLower (ht c List.mem_cons_self)),
        ih _ fun d hd => ht d (List.mem_cons_of_mem _ hd)]
  rw [looksLikeIpv4, looksLikeIpv4, hfold t [0] h]

/-- A host in brackets does not begin with a digit, so it does not look numeric. -/
theorem looksLikeIpv4_bracket (t : Text) :
    looksLikeIpv4 (CodePoint.ofChar '[' :: t) = false := by
  have hempty : ∀ t : Text, t.foldl dottedStep [] = [] := by
    intro t
    induction t with
    | nil => rfl
    | cons c rest ih =>
      have hstep : dottedStep [] c = [] := by
        rw [dottedStep, List.filter_eq_nil_iff]
        intro s _
        simp
      rw [List.foldl_cons, hstep, ih]
  have hfirst : dottedStep [0] (CodePoint.ofChar '[') = [] := by decide
  rw [looksLikeIpv4, List.foldl_cons, hfirst, hempty]
  rfl

/-- The characters of a version 4 address stand for themselves. -/
theorem keepsInHost_of_isIpv4 {t : Text} (h : isIpv4 t = true) :
    ∀ c ∈ t, keepsInHost c = true := by
  simp only [isIpv4, Bool.and_eq_true] at h
  intro c hc
  rw [← Text.join_splitOn '.' t] at hc
  rcases Text.mem_join hc with rfl | ⟨piece, hpiece, hc⟩
  · decide
  · have hoctet : isOctet piece = true := List.all_eq_true.mp h.2 piece hpiece
    simp only [isOctet, Bool.and_eq_true] at hoctet
    have hdigit : c.isAsciiDigit = true := List.all_eq_true.mp hoctet.1.1.1.1 c hc
    refine keepsInHost_of_isUnreserved (isUnreserved_iff.mpr (Or.inl ?_))
    rw [CodePoint.isAsciiAlphanumeric, hdigit, Bool.or_true]

theorem colon_mem_of_groups? {t : Text} {groups : List Text} (h : groups? t = some groups) :
    (CodePoint.ofChar ':') ∈ t := by
  by_contra hnot
  rw [groups?, Text.splitOn_of_notMem hnot] at h
  simp at h

/-- A version 6 address holds a colon, by which it is told from a name. -/
theorem colon_mem_of_isIpv6 {t : Text} (h : isIpv6 t = true) : (CodePoint.ofChar ':') ∈ t := by
  rw [isIpv6] at h
  cases hcut : Text.cut? '%' t with
  | none =>
    simp only [hcut, Bool.and_eq_true, Option.any_eq_true] at h
    obtain ⟨-, groups, hgroups, -⟩ := h
    exact colon_mem_of_groups? hgroups
  | some parts =>
    obtain ⟨address, zone⟩ := parts
    simp only [hcut, Bool.and_eq_true, Option.any_eq_true] at h
    obtain ⟨-, groups, hgroups, -⟩ := h
    rw [(Text.cut?_eq_some hcut).1]
    exact List.mem_append_left _ (colon_mem_of_groups? hgroups)

/-! ## 3. What one pass leaves -/

/-- `c` may stand in the host of an address as it was cut out. -/
def isHostChar (c : CodePoint) : Bool := isVisible c && isAuthorityChar c && c.val != 0x40

/-- A host as an address holds it. -/
inductive HostForm : Text → Prop where
  /-- A name, or a version 4 address, of characters that stand for themselves. -/
  | plain {host : Text} (keeps : ∀ c ∈ host, keepsInHost c = true) : HostForm host
  /-- What stood between brackets.  A zone is not restricted any further. -/
  | bracketed {host : Text} (ipv6 : isIpv6 host = true)
      (chars : ∀ c ∈ host, isHostChar c = true) : HostForm host

/-- A host as it stands in an address, with brackets where it needs them. -/
def writtenHost (host : Text) : Text :=
  if (CodePoint.ofChar ':') ∈ host then "[" ++ host ++ "]" else host

theorem writtenHost_of_keeps {host : Text} (h : ∀ c ∈ host, keepsInHost c = true) :
    writtenHost host = host :=
  if_neg fun hmem => (bounds_of_keepsInHost (h _ hmem)).2.2.2.2.1 rfl

theorem writtenHost_of_isIpv6 {host : Text} (h : isIpv6 host = true) :
    writtenHost host = CodePoint.ofChar '[' :: (host ++ [CodePoint.ofChar ']']) :=
  if_pos (colon_mem_of_isIpv6 h)

/-- **One pass leaves a written host.** -/
theorem hostForm_of_normalizeHost {host written : Text}
    (hchars : ∀ c ∈ host, isHostChar c = true) (h : normalizeHost host = .ok written) :
    HostForm written := by
  rw [normalizeHost] at h
  split at h
  · cases h
    exact .plain fun _ hc => absurd hc List.not_mem_nil
  · split at h
    · split at h
      · next hv4 =>
        cases h
        exact .plain (keepsInHost_of_isIpv4 hv4)
      · cases h
    · split at h
      · simp only at h
        split at h
        · next hv6 =>
          cases h
          refine .bracketed hv6 fun c hc => ?_
          exact hchars c (List.mem_of_mem_drop ((List.dropLast_sublist _).subset hc))
        · cases h
      · split at h
        · rw [escapePart] at h
          cases hesc : escape keepsInHost (Text.lower host) with
          | error u => rw [hesc] at h; cases h
          | ok e =>
            rw [hesc] at h
            cases h
            exact .plain (keeps_of_mem_escape (fun _ => keepsInHost_of_isEscapeChar) hesc)
        · split at h
          · next name hname =>
            cases h
            exact .plain fun c hc =>
              keepsInHost_of_isUnreserved (Idna.isUnreserved_of_encode? hname c hc)
          · cases h

/-! ## 4. What further passes do -/

/-- A pass over characters that stand for themselves turns them into lower case, or finds a
version 4 address. -/
theorem normalizeHost_of_keeps {host : Text} (h : ∀ c ∈ host, keepsInHost c = true) :
    normalizeHost host =
      if host.isEmpty then .ok []
      else if looksLikeIpv4 host then
        if isIpv4 host then .ok host else .error (.invalidIpv4 host)
      else .ok (Text.lower host) := by
  have hascii : ∀ c ∈ host, c.isAscii = true := fun c hc => isAscii_of_keepsInHost (h c hc)
  have hall : host.all CodePoint.isAscii = true := List.all_eq_true.mpr hascii
  have hbracket : isBracketed host = false := by
    rw [isBracketed, Bool.and_eq_false_iff]
    refine Or.inl (decide_eq_false fun hhead => ?_)
    exact (bounds_of_keepsInHost (h _ (List.mem_of_mem_head? hhead))).2.2.2.2.2.2.2.1 rfl
  have hlower : escape keepsInHost (Text.lower host) = .ok (Text.lower host) := by
    refine escape_of_keeps fun c hc => ?_
    rw [Text.lower_of_isAscii hascii] at hc
    obtain ⟨d, hd, rfl⟩ := List.mem_map.mp hc
    exact keepsInHost_toLower (h d hd)
  rw [normalizeHost, hbracket, hall, escapePart, hlower]
  rfl

/-- A pass over a bracketed address takes the brackets away. -/
theorem normalizeHost_bracketed {host : Text} (h : isIpv6 host = true) :
    normalizeHost (CodePoint.ofChar '[' :: (host ++ [CodePoint.ofChar ']'])) = .ok host := by
  have hbracket :
      isBracketed (CodePoint.ofChar '[' :: (host ++ [CodePoint.ofChar ']'])) = true := by
    rw [isBracketed, List.head?_cons, ← List.cons_append, List.getLast?_concat]
    rfl
  have hinside :
      ((CodePoint.ofChar '[' :: (host ++ [CodePoint.ofChar ']'])).drop 1).dropLast = host := by
    rw [List.drop_one, List.tail_cons, List.dropLast_concat]
  rw [normalizeHost, looksLikeIpv4_bracket, hbracket]
  simp only [hinside, h, if_true]
  rfl

theorem keepsInHost_lower {host : Text} (h : ∀ c ∈ host, keepsInHost c = true) :
    ∀ c ∈ Text.lower host, keepsInHost c = true := by
  intro c hc
  rw [Text.lower_of_isAscii fun d hd => isAscii_of_keepsInHost (h d hd)] at hc
  obtain ⟨d, hd, rfl⟩ := List.mem_map.mp hc
  exact keepsInHost_toLower (h d hd)

/-- **A host that has come through another pass comes through every further one.**  It is the same
up to letter case. -/
theorem normalizeHost_again {host written : Text} (hform : HostForm host)
    (h : normalizeHost (writtenHost host) = .ok written) :
    HostForm written ∧ (written = host ∨ written = Text.lower host) ∧
      ∃ again, normalizeHost (writtenHost written) = .ok again := by
  cases hform with
  | bracketed hv6 hchars =>
    rw [writtenHost_of_isIpv6 hv6, normalizeHost_bracketed hv6] at h
    cases h
    refine ⟨.bracketed hv6 hchars, Or.inl rfl, host, ?_⟩
    rw [writtenHost_of_isIpv6 hv6, normalizeHost_bracketed hv6]
  | plain hkeeps =>
    have hlower := keepsInHost_lower hkeeps
    rw [writtenHost_of_keeps hkeeps, normalizeHost_of_keeps hkeeps] at h
    by_cases hempty : host.isEmpty = true
    · rw [if_pos hempty] at h
      cases h
      refine ⟨.plain fun _ hc => absurd hc List.not_mem_nil, Or.inl ?_, [], rfl⟩
      exact (List.isEmpty_iff.mp hempty).symm
    · rw [if_neg hempty] at h
      by_cases hlooks : looksLikeIpv4 host = true
      · rw [if_pos hlooks] at h
        by_cases hv4 : isIpv4 host = true
        · rw [if_pos hv4] at h
          cases h
          refine ⟨.plain hkeeps, Or.inl rfl, host, ?_⟩
          rw [writtenHost_of_keeps hkeeps, normalizeHost_of_keeps hkeeps, if_neg hempty,
            if_pos hlooks, if_pos hv4]
        · rw [if_neg hv4] at h
          cases h
      · -- the lower-case form looks no more numeric than the host did
        rw [if_neg hlooks] at h
        cases h
        have hsame : looksLikeIpv4 (Text.lower host) = looksLikeIpv4 host := by
          rw [Text.lower_of_isAscii fun c hc => isAscii_of_keepsInHost (hkeeps c hc)]
          exact looksLikeIpv4_map_toLower fun c hc => isAscii_of_keepsInHost (hkeeps c hc)
        refine ⟨.plain hlower, Or.inr rfl, ?_⟩
        rw [writtenHost_of_keeps hlower, normalizeHost_of_keeps hlower, hsame, if_neg hlooks]
        split
        · exact ⟨[], rfl⟩
        · exact ⟨_, rfl⟩

end CloudAccess.Url
