/-
# Another path in an address

The path of an address stands between its authority and its query, and `withPath` puts another one
there.  On a written address this is the same as changing the field (`withPath_toText`), so what is
known about reading written addresses applies to the changed text too (`parse_withPath`).

An endpoint for which one target has worked takes every other target as well.  Only the lengths can
be in the way, and of the two the path is looked at first (`withTarget_other`).

Not every endpoint has a scheme and a host.  Without them the path may be taken for something else
when the address is read, but the query stays where it is (`query?_toText`).
-/
import CloudAccess.Proofs.Url.Written

namespace CloudAccess.Url

/-! ## 1. Changing the text -/

/-- The text of an address in parts. -/
def Parts.toText (p : Parts) : Text :=
  (if p.scheme.isEmpty then [] else p.scheme ++ (":" : Text)) ++
    (if p.authority.isEmpty then [] else ("//" : Text) ++ p.authority) ++
    p.path ++ queryText p.query? ++ fragmentText p.fragment?

theorem toText_parts (u : Url) : u.parts.toText = u.toText := by
  obtain ⟨scheme, userinfo, host, port?, path, query?, fragment?⟩ := u
  cases query? <;> cases fragment? <;> rfl

/-- An address, given as a text, with another path. -/
def withPath (address path : Text) : Text :=
  ({ Parts.ofText address with path := path } : Parts).toText

/-- **The path of a written address is where it is looked for.** -/
theorem withPath_toText {u : Url} (h : Written u) (hscheme : u.scheme ≠ []) (hhost : u.host ≠ [])
    (hrooted : isRooted u.rawPath = true) (path : Text) :
    withPath u.toText path = ({ u with rawPath := path } : Url).toText := by
  rw [withPath, Parts.ofText_toText h hscheme hhost hrooted, ← toText_parts]
  rfl

theorem Written.withPath {u : Url} (h : Written u) {path : Text}
    (hpath : ∀ c ∈ path, keepsInPath c = true) : Written { u with rawPath := path } :=
  { h with path := hpath }

/-- A written address is read back with another path. -/
theorem parse_withPath {u : Url} (h : Written u) (hscheme : u.scheme ≠ []) (hhost : u.host ≠ [])
    (hagain : ∃ again, normalizeHost (writtenHost u.host) = .ok again) {path : Text}
    (hpath : ∀ c ∈ path, keepsInPath c = true) (hrooted : isRooted path = true)
    (hdots : isDotFree path)
    (hlength : ({ u with rawPath := path } : Url).toText.length ≤ maxLength) :
    ∃ v, parse ({ u with rawPath := path } : Url).toText = .ok v ∧ v.rawPath = path ∧
      v.rawQuery? = u.rawQuery? := by
  obtain ⟨v, hv, hvpath, hvquery, -⟩ :=
    parse_toText (h.withPath hpath) hscheme hhost hrooted hdots hagain hlength
  exact ⟨v, hv, hvpath, hvquery⟩

/-- The text grows and shrinks with its path. -/
theorem length_rawPath {u : Url} (hscheme : u.scheme ≠ []) (hhost : u.host ≠ []) (path : Text) :
    ({ u with rawPath := path } : Url).toText.length + u.rawPath.length
      = u.toText.length + path.length := by
  have hchanged : ({ u with rawPath := path } : Url).toText
      = u.scheme ++ CodePoint.ofChar ':' :: (("//" : Text) ++ (u.authority ++
        (path ++ queryText u.rawQuery? ++ fragmentText u.rawFragment?))) :=
    toText_eq hscheme hhost
  rw [hchanged, toText_eq hscheme hhost]
  simp only [List.length_append, List.length_cons]
  omega

/-! ## 2. Changing the target -/

/-- Where the parts of an address are short enough, only another target can be too long. -/
theorem Parts.tooLong?_of_target {p : Parts} (h : p.tooLong? = none) (path query : Text) :
    ({ p with path := path, query? := some query } : Parts).tooLong? =
      if maxLength < path.length then some .path
      else if maxLength < query.length then some .query
      else none := by
  rw [tooLong?] at h ⊢
  split at h
  · cases h
  · next hscheme =>
    split at h
    · cases h
    · next hauthority =>
      split at h
      · cases h
      · split at h
        · cases h
        · split at h
          · cases h
          · next hfragment =>
            simp only [if_neg hscheme, if_neg hauthority, if_neg hfragment, Option.any_some,
              decide_eq_true_eq]

theorem length_of_withTarget {u v : Url} {path query : Text}
    (h : u.withTarget path query = .ok v) :
    path.length ≤ maxLength ∧ query.length ≤ maxLength := by
  rw [withTarget] at h
  simp only at h
  split at h
  · cases h
  · next hshort =>
    have hagain := Parts.tooLong?_of_target hshort path query
    rw [hshort] at hagain
    split at hagain
    · cases hagain
    · next hpath =>
      split at hagain
      · cases hagain
      · next hquery => exact ⟨Nat.not_lt.mp hpath, Nat.not_lt.mp hquery⟩

/-- A rooted path stays rooted whatever follows its first piece. -/
theorem isRooted_append {front path other : Text} (hfront : front ≠ [])
    (h : isRooted (front ++ path) = true) : isRooted (front ++ other) = true := by
  cases front with
  | nil => exact absurd rfl hfront
  | cons c rest =>
    rcases isRooted_iff.mp h with hnil | ⟨tail, htail⟩
    · cases hnil
    · rw [List.cons_append, List.cons.injEq] at htail
      exact isRooted_iff.mpr (Or.inr ⟨rest ++ other, by rw [List.cons_append, htail.1]⟩)

/-- A target that needs no further escape stays as it is. -/
theorem Parts.normalize_target {p : Parts} {v : Url} (h : p.normalize = .ok v)
    (hscheme : v.scheme ≠ []) {path query : Text} (hpath : ∀ c ∈ path, keepsInPath c = true)
    (hrooted : isRooted path = true) (hdots : isDotFree path)
    (hquery : ∀ c ∈ query, keepsInQuery c = true) :
    ({ p with path := path, query? := some query } : Parts).normalize
      = .ok { v with rawPath := path, rawQuery? := some query } := by
  obtain ⟨hlower, huserinfo, hhost, hport, -, -, -, hfragment⟩ := normalize_eq_ok_iff.mp h
  have hsome : (!v.scheme.isEmpty) = true := by
    rw [List.isEmpty_eq_false_iff.mpr hscheme]
    rfl
  refine normalize_eq_ok_iff.mpr ⟨hlower, huserinfo, hhost, hport, ?_, ?_, ?_, hfragment⟩
  · rw [hsome]
    exact checkPath_of_isRooted _ hrooted
  · rw [hsome, Bool.true_or, if_pos rfl, normalizePath_of_isDotFree hdots]
    exact escapePart_of_keeps hpath
  · exact escapePart?_of_keeps fun q hq c hc => hquery c (Option.some_inj.mp hq ▸ hc)

/-- **One target is as good as another,** as long as it is not too long. -/
theorem withTarget_other {u v : Url} {path query other otherQuery : Text} (h : Written u)
    (hscheme : u.scheme ≠ []) (hv : u.withTarget path query = .ok v)
    (hpath : ∀ c ∈ other, keepsInPath c = true) (hrooted : isRooted other = true)
    (hdots : isDotFree other) (hquery : ∀ c ∈ otherQuery, keepsInQuery c = true) :
    u.withTarget other otherQuery =
      if maxLength < other.length then .error (.componentTooLong .path)
      else if maxLength < otherQuery.length then .error (.componentTooLong .query)
      else .ok { v with rawPath := other, rawQuery? := some otherQuery } := by
  have hvscheme : v.scheme ≠ [] := by
    rw [(sameSite_withTarget h hv).scheme]
    exact fun hnil => hscheme (Text.lower_eq_nil_iff.mp hnil)
  rw [withTarget] at hv ⊢
  simp only at hv ⊢
  split at hv
  · cases hv
  · next hshort =>
    have hnormal := Parts.normalize_target hv hvscheme hpath hrooted hdots hquery
    have htooLong := Parts.tooLong?_of_target hshort other otherQuery
    by_cases hlong : maxLength < other.length
    · rw [if_pos hlong] at htooLong ⊢
      rw [htooLong]
    · rw [if_neg hlong] at htooLong ⊢
      by_cases hlongQuery : maxLength < otherQuery.length
      · rw [if_pos hlongQuery] at htooLong ⊢
        rw [htooLong]
      · rw [if_neg hlongQuery] at htooLong ⊢
        rw [htooLong]
        exact hnormal

/-! ## 3. The query of any address -/

/-- The target that an address is given is written, and its query is the one that was given. -/
theorem query_withTarget {u v : Url} {path query : Text} (h : Written u)
    (hquery : ∀ c ∈ query, keepsInQuery c = true) (hv : u.withTarget path query = .ok v) :
    Written v ∧ v.rawQuery? = some query := by
  rw [withTarget] at hv
  simp only at hv
  split at hv
  · cases hv
  · have hcut : ({ u.parts with path := path, query? := some query } : Parts).Cut :=
      ⟨h.cut_parts.scheme, h.cut_parts.schemeHead, h.cut_parts.authority⟩
    obtain ⟨-, -, -, -, -, -, hq, -⟩ := Parts.normalize_eq_ok_iff.mp hv
    rw [escapePart?, escapePart_of_keeps hquery] at hq
    exact ⟨written_of_normalize hcut hv, (Except.ok.inj hq).symm⟩

/-- `c` begins neither a query nor a fragment. -/
def isFrontChar (c : CodePoint) : Bool := c.val != 0x3F && c.val != 0x23

theorem isFrontChar_iff {c : CodePoint} :
    isFrontChar c = true ↔ c.val ≠ 0x3F ∧ c.val ≠ 0x23 := by
  rw [isFrontChar, Bool.and_eq_true, bne_iff_ne, bne_iff_ne]

theorem isFrontChar_of_isSchemeChar {c : CodePoint} (h : isSchemeChar c = true) :
    isFrontChar c = true := by
  rw [isSchemeChar_iff, CodePoint.isAsciiAlphanumeric_iff] at h
  rw [isFrontChar_iff]
  omega

theorem isFrontChar_of_isAuthorityChar {c : CodePoint} (h : isAuthorityChar c = true) :
    isFrontChar c = true := by
  rw [isAuthorityChar_iff] at h
  exact isFrontChar_iff.mpr ⟨h.2.1, h.2.2⟩

/-- What is cut off before the query leaves the query and the fragment in place. -/
theorem exists_front {cut rest front : Text} {query? fragment? : Option Text}
    (hcut : ∀ c ∈ cut, isFrontChar c = true)
    (h : cut ++ rest = front ++ (queryText query? ++ fragmentText fragment?)) :
    ∃ left, rest = left ++ (queryText query? ++ fragmentText fragment?) ∧ left ⊆ front := by
  rcases List.append_eq_append_iff.mp h with ⟨left, hfront, hrest⟩ | ⟨excess, hcut_eq, htail⟩
  · refine ⟨left, hrest, ?_⟩
    rw [hfront]
    exact List.subset_append_right cut left
  · -- what is cut off cannot go into the query or the fragment
    cases excess with
    | nil => exact ⟨[], htail.symm, List.nil_subset front⟩
    | cons c more =>
      have hc := hcut c (hcut_eq ▸ List.mem_append_right front List.mem_cons_self)
      cases query? with
      | some query =>
        obtain ⟨rfl, -⟩ := List.cons.inj htail
        exact absurd hc (by decide)
      | none =>
        cases fragment? with
        | some fragment =>
          obtain ⟨rfl, -⟩ := List.cons.inj htail
          exact absurd hc (by decide)
        | none => cases htail

theorem cutScheme_append_eq (t : Text) :
    ∃ cut, t = cut ++ (cutScheme t).2 ∧ ∀ c ∈ cut, isFrontChar c = true := by
  have hnone : ∃ cut, t = cut ++ t ∧ ∀ c ∈ cut, isFrontChar c = true :=
    ⟨[], rfl, fun _ hc => absurd hc List.not_mem_nil⟩
  rw [cutScheme]
  split
  · next colon rest hdrop =>
    split
    · next h =>
      refine ⟨t.takeWhile isSchemeChar ++ [colon], ?_, fun c hc => ?_⟩
      · rw [List.append_assoc, List.singleton_append, ← hdrop, List.takeWhile_append_dropWhile]
      · rcases List.mem_append.mp hc with hc | hc
        · exact isFrontChar_of_isSchemeChar (List.mem_takeWhile_imp hc)
        · rw [List.mem_singleton.mp hc, h.2]
          decide
    · exact hnone
  · exact hnone

theorem cutAuthority_append_eq (t : Text) :
    ∃ cut, t = cut ++ (cutAuthority t).2 ∧ ∀ c ∈ cut, isFrontChar c = true := by
  rw [cutAuthority]
  split
  · next rest hrest =>
    rw [Text.dropStart?_eq_some_iff] at hrest
    refine ⟨("//" : Text) ++ rest.takeWhile isAuthorityChar, ?_, fun c hc => ?_⟩
    · rw [List.span_eq_takeWhile_dropWhile, List.append_assoc, List.takeWhile_append_dropWhile]
      exact hrest
    · rcases List.mem_append.mp hc with hc | hc
      · have hslashes : ∀ d ∈ ("//" : Text), isFrontChar d = true := by decide
        exact hslashes c hc
      · exact isFrontChar_of_isAuthorityChar (List.mem_takeWhile_imp hc)
  · exact ⟨[], rfl, fun _ hc => absurd hc List.not_mem_nil⟩

/-- **A query is found** after whatever has no question mark and no number sign. -/
theorem query?_ofText {front : Text} {query? fragment? : Option Text}
    (hfront : ∀ c ∈ front, isFrontChar c = true)
    (hquery : ∀ query ∈ query?, CodePoint.ofChar '#' ∉ query) :
    (Parts.ofText (front ++ (queryText query? ++ fragmentText fragment?))).query? = query? := by
  obtain ⟨scheme, hscheme, hschemeChars⟩ :=
    cutScheme_append_eq (front ++ (queryText query? ++ fragmentText fragment?))
  obtain ⟨afterScheme, hafterScheme, hsubset⟩ := exists_front hschemeChars hscheme.symm
  obtain ⟨authority, hauthority, hauthorityChars⟩ :=
    cutAuthority_append_eq (afterScheme ++ (queryText query? ++ fragmentText fragment?))
  obtain ⟨path, hpath, hpathSubset⟩ := exists_front hauthorityChars hauthority.symm
  have hchars : ∀ c ∈ path, isFrontChar c = true := fun c hc =>
    hfront c (hsubset (hpathSubset hc))
  have hquestion : CodePoint.ofChar '?' ∉ path := fun hmem =>
    absurd (hchars _ hmem) (by decide)
  have hnumber : CodePoint.ofChar '#' ∉ path ++ queryText query? := by
    intro hmem
    rcases List.mem_append.mp hmem with hmem | hmem
    · exact absurd (hchars _ hmem) (by decide)
    · cases query? with
      | none => exact List.not_mem_nil hmem
      | some query =>
        rcases List.mem_cons.mp hmem with hmem | hmem
        · exact absurd hmem (by decide)
        · exact hquery query rfl hmem
  rw [Parts.ofText]
  simp only [hafterScheme, hpath]
  rw [← List.append_assoc, cut?_fragment hnumber]
  have hcut := cut?_query hquestion query?
  cases fragment? with
  | none =>
    simp only [Option.map_none, fragmentText, List.append_nil, hcut]
    cases query? with
    | none => rfl
    | some query => rfl
  | some fragment =>
    simp only [Option.map_some, hcut]
    cases query? with
    | none => rfl
    | some query => rfl

/-- **The query of a written address is found,** whatever comes before it. -/
theorem query?_toText {u : Url} (h : Written u) : (Parts.ofText u.toText).query? = u.rawQuery? := by
  have hpath : ∀ c ∈ u.rawPath, isFrontChar c = true := by
    intro c hc
    have hkept := h.path c hc
    refine isFrontChar_iff.mpr ⟨fun e => ?_, fun e => ?_⟩
    · exact ne_of_keepsAllBut hkept (d := '?') (by decide) (by decide) (CodePoint.ext e)
    · exact ne_of_keepsAllBut hkept (d := '#') (by decide) (by decide) (CodePoint.ext e)
  have hcolon : ∀ c ∈ (":" : Text), isFrontChar c = true := by decide
  have hslashes : ∀ c ∈ ("//" : Text), isFrontChar c = true := by decide
  rw [← toText_parts, Parts.toText, List.append_assoc]
  refine query?_ofText (fun c hc => ?_) fun query hq =>
    notMem_of_keepsAllBut (h.query query hq) (by decide) (by decide)
  rcases List.mem_append.mp hc with hc | hc
  · rcases List.mem_append.mp hc with hc | hc
    · split at hc
      · exact absurd hc List.not_mem_nil
      · exact (List.mem_append.mp hc).elim
          (fun hc => isFrontChar_of_isSchemeChar (h.scheme c hc)) (hcolon c)
    · split at hc
      · exact absurd hc List.not_mem_nil
      · exact (List.mem_append.mp hc).elim (hslashes c)
          fun hc => isFrontChar_of_isAuthorityChar (h.cut_parts.authority c hc).2
  · exact hpath c hc

end CloudAccess.Url
