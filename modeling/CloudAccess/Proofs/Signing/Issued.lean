/-
# What is in a signed address

Signing passes through the clock, the code and the writing of the address, and each of them can
fail.  `sign_eq_ok_iff` says what an issued address is once all of them have succeeded; the
theorems about issued addresses start from there and do not open `sign` again.

The address itself is the endpoint with another target.  Its path was escaped before it got
there, and escaping makes no dot segments and no characters that a path escapes, so the second
normalisation has nothing left to do: `issued_address` gives the parts of the issued address in
the form in which they were handed in.
-/
import CloudAccess.Proofs.Url.Form
import CloudAccess.Proofs.Url.Written
import CloudAccess.Signing.Signer

namespace CloudAccess.Signer

/-! ## 1. What signing answers -/

/-- An address that a signer has issued at a time for a path. -/
structure Issued (s : Signer) (now : Number) (path : Text) (u : SignedUrl) : Prop where
  dotFree : hasDotSegment path = false
  identity : s.identity = some u.identity
  expiry : s.expiry now = .ok u.expires
  resource : u.resource = namespacePath ++ path
  signature : s.signature
    (some (signedLines u.identity u.resource (Integer.write u.expires))) = .ok u.signature
  address : ∃ url, s.address u.resource u.identity (Integer.write u.expires) u.signature = .ok url ∧
    u.url = url.toText

/-- **Signing succeeds if each of its steps does.** -/
theorem sign_eq_ok_iff {s : Signer} {logger : Text} {now : Number} {path? : Option Text}
    {u : SignedUrl} :
    (s.sign logger now path?).outcome = .ok u ↔
      ∃ path, path? = some path ∧ Issued s now path u := by
  constructor
  · intro h
    cases path? with
    | none => cases h
    | some path =>
      refine ⟨path, rfl, ?_⟩
      simp only [sign] at h
      cases hdot : hasDotSegment path with
      | true => simp [hdot] at h
      | false =>
        simp only [hdot, Bool.false_eq_true, if_false] at h
        split at h
        · cases h
        · next expires hexpires =>
          split at h
          · cases h
          · next identity hidentity =>
            split at h
            · cases h
            · next signature hsignature =>
              split at h
              · cases h
              · next url hurl =>
                cases h
                exact ⟨hdot, hidentity, hexpires, rfl, hsignature, url, hurl, rfl⟩
  · rintro ⟨path, rfl, h⟩
    obtain ⟨url, hurl, htext⟩ := h.address
    have hsignature := h.signature
    rw [h.resource] at hsignature hurl
    simp only [sign, h.dotFree, Bool.false_eq_true, if_false, h.expiry, h.identity, hsignature,
      hurl]
    rw [← htext, ← h.resource]

theorem sign_path_eq_ok_iff {s : Signer} {logger : Text} {now : Number} {path : Text}
    {u : SignedUrl} :
    (s.sign logger now (some path)).outcome = .ok u ↔ Issued s now path u := by
  rw [sign_eq_ok_iff]
  constructor
  · rintro ⟨_, ⟨⟩, h⟩
    exact h
  · exact fun h => ⟨path, rfl, h⟩

/-- An expiry is short enough to be written. -/
theorem isWritable_of_expiry {s : Signer} {now : Number} {expires : Int}
    (h : s.expiry now = .ok expires) : Integer.isWritable expires = true := by
  rw [expiry] at h
  split at h
  · cases h
  · split at h
    · cases h
    · split at h
      · next hw =>
        cases h
        exact hw
      · cases h

/-- A path is signed if none of its segments is a dot segment. -/
theorem hasDotSegment_eq_false_iff {path : Text} :
    hasDotSegment path = false ↔ Url.isDotFree path := by
  rw [hasDotSegment, List.any_eq_false, Url.isDotFree]
  constructor
  · intro h segment hsegment
    have hs := h segment hsegment
    rw [Bool.or_eq_true, decide_eq_true_eq, decide_eq_true_eq, not_or] at hs
    exact hs
  · intro h segment hsegment
    rw [Bool.or_eq_true, decide_eq_true_eq, decide_eq_true_eq, not_or]
    exact h segment hsegment

/-! ## 2. The path of a signed address -/

/-- What stands for itself in a signed path stands for itself in any path. -/
theorem keepsInPath_of_keepsInTarget {c : CodePoint} (h : keepsInTarget c = true) :
    Url.keepsInPath c = true := by
  rw [keepsInTarget, Bool.or_eq_true, beq_iff_eq] at h
  rcases h with h | h
  · exact Url.keepsAllBut_iff.mpr (Or.inl h)
  · have hc : c = '/' := CodePoint.ext h
    rw [hc]
    decide

theorem not_isSurrogate_of_keepsInTarget {c : CodePoint} (h : keepsInTarget c = true) :
    c.isSurrogate = false := by
  rw [keepsInTarget, Bool.or_eq_true, beq_iff_eq, Url.isUnreserved_iff,
    CodePoint.isAsciiAlphanumeric_iff] at h
  rw [Bool.eq_false_iff, ne_eq, CodePoint.isSurrogate_iff]
  omega

theorem unescape_of_escape {t e : Text} (h : Url.escape keepsInTarget t = .ok e) :
    Url.unescape e = t :=
  Url.unescape_escape (by decide) (fun _ => not_isSurrogate_of_keepsInTarget) h

theorem keepsInPath_of_escape {t e : Text} (h : Url.escape keepsInTarget t = .ok e) :
    ∀ c ∈ e, Url.keepsInPath c = true := by
  intro c hc
  rcases Url.mem_of_mem_escape h hc with hk | he
  · exact keepsInPath_of_keepsInTarget hk
  · exact Url.keepsAllBut_of_isEscapeChar (by decide) he

/-- **Escaping makes no dot segment.**  The full stop is never escaped and never made by an
escape. -/
theorem isDotFree_of_escape {t e : Text} (h : Url.escape keepsInTarget t = .ok e)
    (ht : Url.isDotFree t) : Url.isDotFree e := by
  obtain ⟨hsurrogate, he⟩ := Url.escape_eq_ok_iff.mp h
  intro segment hsegment
  rw [he, Url.splitOn_flatMap_escapeChar (by decide) (by decide)] at hsegment
  obtain ⟨piece, hpiece, rfl⟩ := List.mem_map.mp hsegment
  have hread : Url.unescape (piece.flatMap (Url.escapeChar keepsInTarget)) = piece :=
    unescape_of_escape (Url.escape_eq_ok_iff.mpr
      ⟨fun c hc => hsurrogate c (Text.mem_of_mem_splitOn hpiece hc), rfl⟩)
  obtain ⟨hone, htwo⟩ := ht piece hpiece
  constructor
  · intro hdot
    rw [hdot] at hread
    exact hone hread.symm
  · intro hdot
    rw [hdot] at hread
    exact htwo hread.symm

theorem isDotFree_basePath {s : Signer} (h : Url.isDotFree s.endpoint.path) :
    Url.isDotFree s.basePath := by
  intro segment hsegment
  have hslash : ∀ c : CodePoint, (c.val == 0x2F) = true → c = '/' := fun c hc =>
    CodePoint.ext (beq_iff_eq.mp hc)
  exact h segment (Text.splitOn_trimEnd_subset hslash _ hsegment)

theorem namespacePath_append (path : Text) :
    namespacePath ++ path = CodePoint.ofChar '/' :: ("rest" ++ CodePoint.ofChar '/' ::
      ("namespace" ++ CodePoint.ofChar '/' :: path)) := rfl

/-- The path of a signed address has no dot segments if the one signed and the one of the
endpoint have none. -/
theorem isDotFree_target {s : Signer} {path : Text} (hs : Url.isDotFree s.endpoint.path)
    (hpath : Url.isDotFree path) : Url.isDotFree (s.basePath ++ (namespacePath ++ path)) := by
  have hrest : Url.isDotFree "rest" := hasDotSegment_eq_false_iff.mp (by decide)
  have hnamespace : Url.isDotFree "namespace" := hasDotSegment_eq_false_iff.mp (by decide)
  rw [namespacePath_append]
  exact Url.isDotFree_append (isDotFree_basePath hs)
    (Url.isDotFree_append hrest (Url.isDotFree_append hnamespace hpath))

/-! ## 3. Reading a signed address -/

/-- The pairs in the query of a signed address. -/
def signedParams (identity expires signature : Text) : List (Text × Text) :=
  [("uid", identity), ("expires", expires), ("signature", signature)]

theorem address_eq_ok {s : Signer} {resource identity expires signature : Text} {url : Url}
    (h : s.address resource identity expires signature = .ok url) :
    ∃ path query, Url.escape keepsInTarget (s.basePath ++ resource) = .ok path ∧
      Url.Form.encode (signedParams identity expires signature) = .ok query ∧
      s.endpoint.withTarget path query = .ok url := by
  rw [address] at h
  split at h
  · cases h
  · next path hpath =>
    split at h
    · cases h
    · next query hquery =>
      refine ⟨path, query, hpath, hquery, ?_⟩
      cases htarget : s.endpoint.withTarget path query with
      | error rejection => rw [htarget] at h; cases h
      | ok v => rw [htarget] at h; cases h; rfl

/-- What an encoded query holds stands for itself in a query. -/
theorem keepsInQuery_of_encode {pairs : List (Text × Text)} {query : Text}
    (h : Url.Form.encode pairs = .ok query) : ∀ c ∈ query, Url.keepsInQuery c = true := by
  intro c hc
  rcases Url.Form.mem_encode h c hc with rfl | rfl | hfield
  · decide
  · decide
  · rw [Url.Form.isFieldChar, Bool.or_eq_true, Bool.or_eq_true, beq_iff_eq, beq_iff_eq] at hfield
    rcases hfield with (hu | hp) | hp
    · exact Url.keepsAllBut_iff.mpr (Or.inl hu)
    · have hc' : c = '+' := CodePoint.ext hp
      rw [hc']
      decide
    · have hc' : c = '%' := CodePoint.ext hp
      rw [hc']
      decide

/-- What an address says whose path has been escaped. -/
theorem path_of_escape {read : Url} {t : Text} (ht : t ≠ [])
    (h : Url.escape keepsInTarget t = .ok read.rawPath) : read.path = t := by
  have hunescape : Url.unescape read.rawPath = t := unescape_of_escape h
  have hne : read.rawPath.isEmpty = false := by
    rw [List.isEmpty_eq_false_iff]
    intro hempty
    rw [hempty] at hunescape
    exact ht hunescape.symm
  rw [Url.path, hne, if_neg Bool.false_ne_true, hunescape]

/-- **A signed address is read back.**  Its path is the one of the endpoint and the resource, and
its query the identity, the expiry and the signature. -/
theorem parse_address {s : Signer} {resource identity expires signature : Text} {url : Url}
    (hs : Url.Written s.endpoint) (hscheme : s.endpoint.scheme ≠ []) (hhost : s.endpoint.host ≠ [])
    (hdots : Url.isDotFree (s.basePath ++ resource)) (hresource : resource ≠ [])
    (h : s.address resource identity expires signature = .ok url)
    (hlength : url.toText.length ≤ Url.maxLength) :
    ∃ read, Url.parse url.toText = .ok read ∧ read.path = s.basePath ++ resource ∧
      read.params = signedParams identity expires signature := by
  obtain ⟨path, query, hpath, hquery, htarget⟩ := address_eq_ok h
  obtain ⟨read, hread, hreadPath, hreadQuery⟩ := Url.parse_withTarget hs hscheme hhost
    (keepsInPath_of_escape hpath) (isDotFree_of_escape hpath hdots) (keepsInQuery_of_encode hquery)
    htarget hlength
  refine ⟨read, hread, path_of_escape ?_ (hreadPath ▸ hpath), ?_⟩
  · exact fun hempty => hresource (List.append_eq_nil_iff.mp hempty).2
  · rw [Url.params, hreadQuery, Option.getD_some, Url.Form.decode_encode hquery]

end CloudAccess.Signer
