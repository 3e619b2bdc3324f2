/-
# Paths in another letter case

What is signed of a path is its lower-case form, so paths that agree in lower case share their
signatures, and an issued address is as good with any of them in place of its own
(`interchangeable_of_lower`).

Lower case is no map over characters: a sigma looks at its neighbours, and a letter may become two.
What carries over nevertheless is that the path is lowered apart from what stands before it
(`lower_resource`), that it keeps its segments (`isDotFree_lower`), and that surrogates are neither
lost nor made.

The lengths do not carry over.  A letter and its lower-case form may take escapes of different
lengths, and then one of two addresses can be short enough to be read and the other too long
(`kelvins_tooLong`).
-/
import CloudAccess.Proofs.Signing.Refused
import CloudAccess.Proofs.Signing.RoundTrip
import CloudAccess.Proofs.Url.Target

namespace CloudAccess

/-! ## 1. Texts that agree in lower case -/

/-- A path has dot segments if its lower-case form has. -/
theorem Url.isDotFree_lower {path : Text} : isDotFree (Text.lower path) ↔ isDotFree path := by
  have hone : ∀ d ∈ (".": Text), d = '.' := by decide
  have htwo : ∀ d ∈ ("..": Text), d = '.' := by decide
  rw [isDotFree, isDotFree, Text.splitOn_lower, List.forall_mem_map]
  refine forall₂_congr fun segment _ => ?_
  rw [ne_eq, ne_eq, Text.lower_eq_dots_iff hone, Text.lower_eq_dots_iff htwo]

/-- Surrogates are neither lost nor made. -/
theorem Text.not_isSurrogate_of_lower_eq {s t : Text} (h : lower s = lower t)
    (ht : ∀ c ∈ t, c.isSurrogate = false) : ∀ c ∈ s, c.isSurrogate = false := by
  intro c hc
  by_contra hsurrogate
  rw [Bool.not_eq_false] at hsurrogate
  have hmem : c ∈ lower t := h ▸ mem_lower_of_isSurrogate hsurrogate hc
  rw [not_isSurrogate_of_mem_lower ht c hmem] at hsurrogate
  cases hsurrogate

namespace Signer

/-- A slash stands before the path, so the path is lowered by itself. -/
theorem lower_resource (path : Text) :
    Text.lower (namespacePath ++ path)
      = Text.lower "/rest/namespace" ++ CodePoint.ofChar '/' :: Text.lower path := by
  have hcut : namespacePath = "/rest/namespace" ++ [CodePoint.ofChar '/'] := by decide
  rw [hcut, List.append_assoc, List.singleton_append, Text.lower, Text.lowerFrom_append_slash]
  rfl

/-- **One text is signed for all paths that agree in lower case.** -/
theorem signedLines_of_lower {path other : Text} (h : Text.lower other = Text.lower path)
    (identity expires : Text) :
    signedLines identity (namespacePath ++ other) expires
      = signedLines identity (namespacePath ++ path) expires := by
  rw [signedLines, signedLines, lower_resource, lower_resource, h]

/-! ## 2. The parts of an issued address -/

/-- An issued address is the endpoint with another target, and can be read once more. -/
structure Sited (s : Signer) (u : SignedUrl) (url : Url) (target query : Text) : Prop where
  text : u.url = url.toText
  escaped : Url.escape keepsInTarget (s.basePath ++ u.resource) = .ok target
  encoded : Url.Form.encode (signedParams u.identity (Integer.write u.expires) u.signature)
    = .ok query
  retargeted : s.endpoint.withTarget target query = .ok url
  written : Url.Written url
  scheme : url.scheme ≠ []
  host : url.host ≠ []
  rawPath : url.rawPath = target
  rawQuery : url.rawQuery? = some query
  rooted : Url.isRooted target = true
  again : ∃ again, Url.normalizeHost (Url.writtenHost url.host) = .ok again

theorem exists_sited {s : Signer} {now : Number} {path : Text} {u : SignedUrl}
    (hs : Url.Written s.endpoint) (hscheme : s.endpoint.scheme ≠ []) (hhost : s.endpoint.host ≠ [])
    (hdots : Url.isDotFree s.endpoint.path) (h : Issued s now path u) :
    ∃ url target query, Sited s u url target query := by
  obtain ⟨url, hurl, htext⟩ := h.address
  obtain ⟨target, query, htarget, hquery, hwith⟩ := address_eq_ok hurl
  have hfree : Url.isDotFree (s.basePath ++ u.resource) := by
    rw [h.resource]
    exact isDotFree_target hdots (hasDotSegment_eq_false_iff.mp h.dotFree)
  obtain ⟨hwritten, hurlScheme, hurlHost, hrawPath, hrawQuery, hrooted, hagain⟩ :=
    Url.withTarget_eq_ok hs hscheme hhost (keepsInPath_of_escape htarget)
      (isDotFree_of_escape htarget hfree) (keepsInQuery_of_encode hquery) hwith
  exact ⟨url, target, query, htext, htarget, hquery, hwith, hwritten, hurlScheme, hurlHost,
    hrawPath, hrawQuery, hrooted, hagain⟩

/-- Another path below the namespace begins like the one of an issued address. -/
theorem Sited.isRooted {s : Signer} {u : SignedUrl} {url : Url} {target query path other : Text}
    {otherTarget : Text} (h : Sited s u url target query)
    (hresource : u.resource = namespacePath ++ path)
    (hother : Url.escape keepsInTarget (s.basePath ++ (namespacePath ++ other))
      = .ok otherTarget) : Url.isRooted otherTarget = true := by
  have htarget := h.escaped
  rw [hresource, ← List.append_assoc, Url.escape_append_eq_ok_iff] at htarget
  rw [← List.append_assoc, Url.escape_append_eq_ok_iff] at hother
  obtain ⟨front, back, hfront, -, hcut⟩ := htarget
  obtain ⟨again, otherBack, hagain, -, hotherCut⟩ := hother
  rw [hfront, Except.ok.injEq] at hagain
  have hne : front ≠ [] := by
    rintro rfl
    have hempty := unescape_of_escape hfront
    exact absurd (List.append_eq_nil_iff.mp hempty.symm).2 (by decide)
  rw [hotherCut, ← hagain]
  exact Url.isRooted_append hne (hcut ▸ h.rooted)

theorem Sited.withPath {s : Signer} {u : SignedUrl} {url : Url} {target query : Text}
    (h : Sited s u url target query) (path : Text) :
    Url.withPath u.url path = ({ url with rawPath := path } : Url).toText := by
  rw [h.text]
  exact Url.withPath_toText h.written h.scheme h.host (by rw [h.rawPath]; exact h.rooted) path

theorem Sited.length_withPath {s : Signer} {u : SignedUrl} {url : Url} {target query : Text}
    (h : Sited s u url target query) (path : Text) :
    (Url.withPath u.url path).length + target.length = u.url.length + path.length := by
  rw [h.withPath, ← h.rawPath, h.text]
  exact Url.length_rawPath h.scheme h.host path

/-- **Another resource has the same address with another path,** if this is not too long. -/
theorem Sited.address {s : Signer} {u : SignedUrl} {url : Url} {target query : Text}
    (h : Sited s u url target query) (hs : Url.Written s.endpoint)
    (hscheme : s.endpoint.scheme ≠ []) {resource otherTarget : Text}
    (hescape : Url.escape keepsInTarget (s.basePath ++ resource) = .ok otherTarget)
    (hdots : Url.isDotFree (s.basePath ++ resource))
    (hrooted : Url.isRooted otherTarget = true) :
    s.address resource u.identity (Integer.write u.expires) u.signature =
      if Url.maxLength < otherTarget.length then .error (.address (.componentTooLong .path))
      else .ok { url with rawPath := otherTarget } := by
  have hquery := h.encoded
  rw [signedParams] at hquery
  have hwith := Url.withTarget_other hs hscheme h.retargeted (keepsInPath_of_escape hescape)
    hrooted (isDotFree_of_escape hescape hdots) (keepsInQuery_of_encode h.encoded)
  rw [if_neg (Nat.not_lt.mpr (Url.length_of_withTarget h.retargeted).2), ← h.rawQuery] at hwith
  simp only [Signer.address, hescape, hquery, hwith]
  split <;> rfl

/-- **It is read back as that resource,** with the fields of the issued address. -/
theorem Sited.parse {s : Signer} {u : SignedUrl} {url : Url} {target query : Text}
    (h : Sited s u url target query) {resource otherTarget : Text} (hresource : resource ≠ [])
    (hescape : Url.escape keepsInTarget (s.basePath ++ resource) = .ok otherTarget)
    (hdots : Url.isDotFree (s.basePath ++ resource))
    (hrooted : Url.isRooted otherTarget = true)
    (hlength : (Url.withPath u.url otherTarget).length ≤ Url.maxLength) :
    ∃ read, Url.parse (Url.withPath u.url otherTarget) = .ok read ∧
      read.path = s.basePath ++ resource ∧
      read.params = signedParams u.identity (Integer.write u.expires) u.signature := by
  rw [h.withPath] at hlength ⊢
  obtain ⟨read, hread, hpath, hquery⟩ := Url.parse_withPath h.written h.scheme h.host h.again
    (keepsInPath_of_escape hescape) hrooted (isDotFree_of_escape hescape hdots) hlength
  refine ⟨read, hread, path_of_escape ?_ (hpath ▸ hescape), ?_⟩
  · exact fun hempty => hresource (List.append_eq_nil_iff.mp hempty).2
  · rw [Url.params, hquery, h.rawQuery, Option.getD_some, Url.Form.decode_encode h.encoded]

/-! ## 3. Paths in each other's place -/

/-- The path `other` is as good as the one that an address was issued for; `target` is its escaped
form below the endpoint. -/
structure Interchangeable (s : Signer) (u : SignedUrl) (other target : Text) : Prop where
  /-- For the same expiry it is signed with the same signature, unless it is too long. -/
  signed : ∀ (logger : Text) (now : Number), s.expiry now = .ok u.expires →
    (s.sign logger now (some other)).outcome =
      if Url.maxLength < target.length then .error (.ofFault (.address (.componentTooLong .path)))
      else .ok { u with url := Url.withPath u.url target, resource := namespacePath ++ other }
  /-- In the issued address it is accepted until this expires. -/
  accepted : (Url.withPath u.url target).length ≤ Url.maxLength → ∀ now : Number,
    s.verifyAt now (Url.withPath u.url target) = .ok (!now.exceeds u.expires)

theorem interchangeable_of_lower {s : Signer} {now : Number} {path other target : Text}
    {u : SignedUrl} (hs : Url.Written s.endpoint) (hscheme : s.endpoint.scheme ≠ [])
    (hhost : s.endpoint.host ≠ []) (hdots : Url.isDotFree s.endpoint.path)
    (h : Issued s now path u) (hlower : Text.lower other = Text.lower path)
    (hescape : Url.escape keepsInTarget (s.basePath ++ (namespacePath ++ other)) = .ok target) :
    Interchangeable s u other target := by
  obtain ⟨url, issuedTarget, query, hsited⟩ := exists_sited hs hscheme hhost hdots h
  have hfree : Url.isDotFree other := by
    rw [← Url.isDotFree_lower, hlower, Url.isDotFree_lower]
    exact hasDotSegment_eq_false_iff.mp h.dotFree
  have htargetFree := isDotFree_target hdots hfree
  have hrooted := hsited.isRooted h.resource hescape
  have hsignature : s.signature
      (some (signedLines u.identity (namespacePath ++ other) (Integer.write u.expires)))
        = .ok u.signature := by
    rw [signedLines_of_lower hlower, ← h.resource]
    exact h.signature
  constructor
  · intro logger again hexpiry
    have hdot := hasDotSegment_eq_false_iff.mpr hfree
    have haddress := hsited.address hs hscheme hescape htargetFree hrooted
    split
    · next hlong =>
      rw [if_pos hlong] at haddress
      exact sign_eq_error_iff.mpr (.address ⟨hdot, hexpiry, h.identity⟩ hsignature haddress)
    · next hshort =>
      rw [if_neg hshort] at haddress
      exact sign_path_eq_ok_iff.mpr ⟨hdot, h.identity, hexpiry, rfl, hsignature, _, haddress,
        hsited.withPath target⟩
  · intro hlength again
    have hresource : namespacePath ++ other ≠ [] := by
      rw [namespacePath_append]
      exact List.cons_ne_nil _ _
    obtain ⟨read, hread, hpath, hparams⟩ :=
      hsited.parse hresource hescape htargetFree hrooted hlength
    have hrequested : s.requestedResource read.path = namespacePath ++ other := by
      rw [hpath, namespacePath_append]
      exact requestedResource_append s _
    rw [verifyAt_eq hread hparams h.identity (Integer.read_write (isWritable_of_expiry h.expiry)),
      hrequested, hsignature]
    cases again.exceeds u.expires with
    | true => rfl
    | false => simp [Except.map]

/-- **Letter case does not matter in a path.**  An issued address holds the escaped path behind the
escaped front, and may hold every other path there that agrees with it in lower case, its own
lower-case form among them. -/
theorem paths_interchangeable {identity : Option Text} {key : Option Bytes} {endpoint : Text}
    {clock : Clock} {codeOf : CodeMaker} {s : Signer} {logger : Text} {now : Number} {path : Text}
    {u : SignedUrl} (hs : create? identity key endpoint clock codeOf = .ok s)
    (hscheme : s.endpoint.scheme ≠ []) (hhost : s.endpoint.host ≠ [])
    (hdots : hasDotSegment s.endpoint.path = false)
    (hu : (s.sign logger now (some path)).outcome = .ok u) :
    Text.lower (Text.lower path) = Text.lower path ∧
      ∃ front own, Url.escape keepsInTarget (s.basePath ++ namespacePath) = .ok front ∧
        Url.escape keepsInTarget path = .ok own ∧ Url.withPath u.url (front ++ own) = u.url ∧
        (u.url.length ≤ Url.maxLength → ∀ later : Number,
          s.verifyAt later u.url = .ok (!later.exceeds u.expires)) ∧
        ∀ other, Text.lower other = Text.lower path →
          ∃ target, Url.escape keepsInTarget other = .ok target ∧
            Interchangeable s u other (front ++ target) := by
  have h := sign_path_eq_ok_iff.mp hu
  have hwritten := Url.written_of_parse (parse_of_create? hs)
  have hfree := hasDotSegment_eq_false_iff.mp hdots
  obtain ⟨url, target, query, hsited⟩ := exists_sited hwritten hscheme hhost hfree h
  have hescaped := hsited.escaped
  rw [h.resource, ← List.append_assoc, Url.escape_append_eq_ok_iff] at hescaped
  obtain ⟨front, own, hfront, hown, rfl⟩ := hescaped
  have hsame : Url.withPath u.url (front ++ own) = u.url := by
    rw [hsited.withPath, ← hsited.rawPath, hsited.text]
  have hinterchangeable : ∀ other, Text.lower other = Text.lower path →
      ∃ target, Url.escape keepsInTarget other = .ok target ∧
        Interchangeable s u other (front ++ target) := by
    intro other hlower
    have hpath : ∀ c ∈ path, c.isSurrogate = false := by
      have hresource := (not_isSurrogate_of_signature h.signature).1
      rw [h.resource] at hresource
      exact fun c hc => hresource c (List.mem_append_right _ hc)
    have hother := Text.not_isSurrogate_of_lower_eq hlower hpath
    have hescape : Url.escape keepsInTarget other
        = .ok (other.flatMap (Url.escapeChar keepsInTarget)) :=
      Url.escape_eq_ok_iff.mpr ⟨fun c hc _ => hother c hc, rfl⟩
    refine ⟨_, hescape, interchangeable_of_lower hwritten hscheme hhost hfree h hlower ?_⟩
    rw [← List.append_assoc]
    exact Url.escape_append_eq_ok_iff.mpr ⟨_, _, hfront, hescape, rfl⟩
  refine ⟨Text.lower_lower path, front, own, hfront, hown, hsame, ?_, hinterchangeable⟩
  intro hlength later
  obtain ⟨target, htarget, hself⟩ := hinterchangeable path rfl
  rw [hown, Except.ok.injEq] at htarget
  have haccepted := hself.accepted
  rw [← htarget, hsame] at haccepted
  exact haccepted hlength later

/-- What a signer issues for a path with a final sigma, a Kelvin sign and a dotted capital I. -/
def sigmaUrl : SignedUrl where
  url := "https://h/rest/namespace/A%CE%A3/%E2%84%AA%C4%B0" ++
    "?uid=u&expires=2000&signature=PdNxmRyulWNQKOWp54dvuM6iYEg%3D"
  identity := "u"
  expires := 2000
  signature := "PdNxmRyulWNQKOWp54dvuM6iYEg="
  resource := "/rest/namespace/AΣ/\u212aİ"

theorem sign_sigmaPath :
    (bareSigner.sign "log" (.whole 0) (some "AΣ/\u212aİ")).outcome = .ok sigmaUrl := by
  decide +kernel

/-- The lower-case form has one character more, and its address is accepted as long. -/
theorem paths_interchangeable_sigma :
    (bareSigner.sign "log" (.whole 0) (some "AΣ/\u212aİ")).outcome = .ok sigmaUrl ∧
      Text.lower "AΣ/\u212aİ" = "aς/ki\u0307" ∧
      Interchangeable bareSigner sigmaUrl "aς/ki\u0307"
        "/rest/namespace/a%CF%82/ki%CC%87" ∧
      bareSigner.verifyAt (.whole 2000) sigmaUrl.url = .ok true ∧
      bareSigner.verifyAt (.whole 2001) sigmaUrl.url = .ok false := by
  obtain ⟨-, front, own, hfront, -, -, haccepted, hinterchangeable⟩ := paths_interchangeable
    create?_bareSigner (by decide) (by decide) (by decide +kernel) sign_sigmaPath
  have hlength : sigmaUrl.url.length ≤ Url.maxLength := by decide +kernel
  obtain ⟨target, htarget, hother⟩ := hinterchangeable "aς/ki\u0307" (by decide +kernel)
  have hsite : Url.escape keepsInTarget (bareSigner.basePath ++ namespacePath)
      = .ok "/rest/namespace/" := by decide +kernel
  have hpath : Url.escape keepsInTarget "aς/ki\u0307"
      = .ok "a%CF%82/ki%CC%87" := by decide +kernel
  rw [hsite, Except.ok.injEq] at hfront
  rw [hpath, Except.ok.injEq] at htarget
  rw [← hfront, ← htarget] at hother
  exact ⟨sign_sigmaPath, by decide +kernel, hother, haccepted hlength (.whole 2000),
    haccepted hlength (.whole 2001)⟩

/-! ## 4. Addresses that are too long to be read -/

/-- Kelvin signs, each of which takes nine characters in an address. -/
def kelvins : Text := List.replicate 7280 (.ofNat 0x212A)

/-- Their lower-case form, of letters that stand for themselves. -/
def kays : Text := List.replicate 7280 'k'

theorem lower_kelvins : Text.lower kelvins = kays :=
  Text.lower_replicate (by decide +kernel) 7280

theorem lower_kays : Text.lower kays = kays := by
  rw [← lower_kelvins, Text.lower_lower]

theorem not_isSurrogate_of_mem_kelvins {c : CodePoint} (h : c ∈ kelvins) :
    c.isSurrogate = false := by
  rw [List.eq_of_mem_replicate h]
  decide

/-- A path of one long segment is no dot segment. -/
theorem hasDotSegment_of_long {path : Text} (hslash : CodePoint.ofChar '/' ∉ path)
    (hlength : 2 < path.length) : hasDotSegment path = false := by
  rw [hasDotSegment_eq_false_iff, Url.isDotFree, Text.splitOn_of_notMem hslash]
  intro segment hsegment
  rw [List.mem_singleton.mp hsegment]
  constructor
  · rintro rfl
    exact absurd hlength (by decide)
  · rintro rfl
    exact absurd hlength (by decide)

theorem hasDotSegment_kelvins : hasDotSegment kelvins = false := by
  refine hasDotSegment_of_long (fun hmem => ?_) ?_
  · exact absurd (List.eq_of_mem_replicate hmem) (by decide)
  · rw [kelvins, List.length_replicate]
    decide

theorem length_namespacePath : namespacePath.length = 16 := by decide

theorem keepsInTarget_of_mem_namespacePath :
    ∀ c ∈ namespacePath, keepsInTarget c = true := by decide

theorem escape_namespacePath : Url.escape keepsInTarget namespacePath = .ok namespacePath :=
  Url.escape_of_keeps keepsInTarget_of_mem_namespacePath

theorem written_bareSigner : Url.Written bareSigner.endpoint :=
  Url.written_of_parse (parse_of_create? create?_bareSigner)

theorem isDotFree_bareSigner : Url.isDotFree bareSigner.endpoint.path :=
  hasDotSegment_eq_false_iff.mp (by decide)

theorem basePath_bareSigner : bareSigner.basePath = [] := by decide

theorem expiry_bareSigner : bareSigner.expiry (.whole 0) = .ok 2000 := by
  have hshort : (2000 : Int).natAbs < 10 ^ Integer.digitLimit :=
    Nat.lt_of_lt_of_le (by decide : 2000 < 10 ^ 4)
      (Nat.pow_le_pow_right (by decide) (by decide : 4 ≤ Integer.digitLimit))
  have hclock : bareSigner.clock (.whole 0) = .ok (.number (.whole 2000)) := rfl
  rw [expiry, hclock]
  simp only [Reading.toInt, Number.whole?, Integer.isWritable_iff.mpr hshort, if_true]

/-- The form of the addresses that the signer of one letter issues. -/
def bareUrl (path query : Text) : Url := ⟨"https", [], "h", none, path, some query, none⟩

theorem length_bareUrl (path query : Text) :
    (bareUrl path query).toText.length = path.length + query.length + 10 := by
  have hwritten : (bareUrl path query).toText
      = ("https://h" : Text) ++ path ++ (("?" : Text) ++ query) ++ [] := rfl
  have hsite : (Text.ofString "https://h").length = 9 := by decide
  have hmark : (Text.ofString "?").length = 1 := by decide
  simp only [hwritten, List.length_append, hsite, hmark, List.length_nil]
  omega

theorem length_query_le {message : Bytes} {query : Text}
    (h : Url.Form.encode (signedParams "u" "2000" (Base64.encode (Hmac.sha1 [0x6B] message)))
      = .ok query) : query.length ≤ 1000 := by
  have hlength := Url.Form.length_encode_le h
  have hcode : (Base64.encode (Hmac.sha1 [0x6B] message)).length = 28 := by
    rw [Base64.length_encode, Hmac.length_sha1]
  have hnames : (Text.ofString "uid").length = 3 ∧ (Text.ofString "u").length = 1 ∧
      (Text.ofString "expires").length = 7 ∧ (Text.ofString "2000").length = 4 ∧
      (Text.ofString "signature").length = 9 := by decide
  simp only [signedParams, List.map_cons, List.map_nil, List.sum_cons, List.sum_nil, hcode,
    hnames] at hlength
  omega

/-- It signs every path whose address is not too long for an address at all. -/
theorem exists_issued {path target : Text} (hdot : hasDotSegment path = false)
    (hpath : ∀ c ∈ path, c.isSurrogate = false)
    (hescape : Url.escape keepsInTarget (namespacePath ++ path) = .ok target)
    (hlength : target.length ≤ Url.maxLength) :
    ∃ u query, Issued bareSigner (.whole 0) path u ∧ query.length ≤ 1000 ∧
      u.url = (bareUrl target query).toText := by
  have hresource : ∀ c ∈ namespacePath ++ path, c.isSurrogate = false := by
    have hnamespace : ∀ c ∈ namespacePath, c.isSurrogate = false := by decide
    exact fun c hc => (List.mem_append.mp hc).elim (hnamespace c) (hpath c)
  have hexpires : Integer.write 2000 = "2000" := by decide
  have hmac : bareSigner.code = .ok (Hmac.sha1 [0x6B]) := rfl
  obtain ⟨signature, hsignature⟩ := exists_signature hmac hresource
    (by decide : ∀ c ∈ Text.ofString "u", c.isSurrogate = false)
    (by decide : ∀ c ∈ Text.ofString "2000", c.isSurrogate = false)
  obtain ⟨query, hquery⟩ := exists_query hsignature
  have hqueryLength : query.length ≤ 1000 := by
    obtain ⟨code, message, hcode, -, hencode⟩ := signature_eq_ok_iff.mp hsignature
    rw [hmac, Except.ok.injEq] at hcode
    rw [hencode, ← hcode] at hquery
    exact length_query_le hquery
  have hrooted : Url.isRooted target = true := by
    obtain ⟨front, back, hfront, -, hcut⟩ := Url.escape_append_eq_ok_iff.mp hescape
    rw [escape_namespacePath, Except.ok.injEq] at hfront
    rw [hcut, ← hfront, namespacePath_append]
    exact Url.isRooted_iff.mpr (Or.inr ⟨_, rfl⟩)
  have hdots : Url.isDotFree (namespacePath ++ path) := by
    have hfree := isDotFree_target isDotFree_bareSigner (hasDotSegment_eq_false_iff.mp hdot)
    rwa [basePath_bareSigner] at hfree
  have hsite : bareSigner.endpoint.withTarget "/" [] = .ok (bareUrl "/" []) := rfl
  have hwith := Url.withTarget_other written_bareSigner (by decide) hsite
    (keepsInPath_of_escape hescape) hrooted (isDotFree_of_escape hescape hdots)
    (keepsInQuery_of_encode hquery)
  rw [if_neg (Nat.not_lt.mpr hlength),
    if_neg (Nat.not_lt.mpr (Nat.le_trans hqueryLength (by decide)))] at hwith
  refine ⟨⟨(bareUrl target query).toText, "u", 2000, signature, namespacePath ++ path⟩, query,
    ⟨hdot, rfl, expiry_bareSigner, rfl, ?_, bareUrl target query, ?_, rfl⟩, hqueryLength, rfl⟩
  · show bareSigner.signature (some (signedLines _ _ (Integer.write 2000))) = _
    rw [hexpires]
    exact hsignature
  · rw [signedParams] at hquery
    simp only [address, basePath_bareSigner, List.nil_append, hescape, hexpires, hquery, hwith]
    rfl

theorem escape_kelvins : ∃ target,
    Url.escape keepsInTarget (namespacePath ++ kelvins) = .ok target ∧
      target.length = Url.maxLength := by
  have hone : (Url.escapeChar keepsInTarget (.ofNat 0x212A)).length = 9 := by decide
  have hkelvins : Url.escape keepsInTarget kelvins
      = .ok (kelvins.flatMap (Url.escapeChar keepsInTarget)) := by
    refine Url.escape_eq_ok_iff.mpr ⟨fun c hc _ => ?_, rfl⟩
    rw [List.eq_of_mem_replicate hc]
    decide
  refine ⟨_, Url.escape_append_eq_ok_iff.mpr ⟨_, _, escape_namespacePath, hkelvins, rfl⟩, ?_⟩
  rw [List.length_append, length_namespacePath, kelvins, List.flatMap_replicate,
    List.length_flatten, List.map_replicate, List.sum_replicate_nat, hone]
  rfl

theorem escape_kays :
    Url.escape keepsInTarget (namespacePath ++ kays) = .ok (namespacePath ++ kays) := by
  refine Url.escape_of_keeps fun c hc =>
    (List.mem_append.mp hc).elim (keepsInTarget_of_mem_namespacePath c) fun hk => ?_
  rw [List.eq_of_mem_replicate hk]
  decide

/-- The address of the Kelvin signs is too long by what is around its path, and the one of the
letters is short. -/
theorem length_kelvins {u : SignedUrl} {query target : Text}
    (hissued : Issued bareSigner (.whole 0) kelvins u)
    (htarget : Url.escape keepsInTarget (namespacePath ++ kelvins) = .ok target)
    (hlength : target.length = Url.maxLength) (hquery : query.length ≤ 1000)
    (hurl : u.url = (bareUrl target query).toText) :
    Url.maxLength < u.url.length ∧
      (Url.withPath u.url (namespacePath ++ kays)).length ≤ Url.maxLength := by
  have hissuedLength : u.url.length = Url.maxLength + query.length + 10 := by
    rw [hurl, length_bareUrl, hlength]
  obtain ⟨url, again, _, hsited⟩ :=
    exists_sited written_bareSigner (by decide) (by decide) isDotFree_bareSigner hissued
  have hagain := hsited.escaped
  rw [basePath_bareSigner, List.nil_append, hissued.resource, htarget, Except.ok.injEq] at hagain
  have hbalance := hsited.length_withPath (namespacePath ++ kays)
  rw [← hagain, hlength, hissuedLength, List.length_append, length_namespacePath, kays,
    List.length_replicate] at hbalance
  have hmaxLength : Url.maxLength = 65536 := rfl
  refine ⟨by omega, ?_⟩
  rw [kays]
  omega

/-- **An address may be too long to be read when the one for another letter case is not.**  Then the
two are not accepted at the same times: the one is refused, and the other accepted. -/
theorem kelvins_tooLong : ¬ ∀ (path other target : Text) (u : SignedUrl),
    (bareSigner.sign "log" (.whole 0) (some path)).outcome = .ok u →
    Text.lower other = Text.lower path →
    Url.escape keepsInTarget (namespacePath ++ other) = .ok target →
    (Url.withPath u.url target).length ≤ Url.maxLength →
    ∀ now : Number, bareSigner.verifyAt now (Url.withPath u.url target) = .ok true ↔
      bareSigner.verifyAt now u.url = .ok true := by
  intro hclaim
  obtain ⟨target, htarget, hlength⟩ := escape_kelvins
  obtain ⟨u, query, hissued, hquery, hurl⟩ := exists_issued hasDotSegment_kelvins
    (fun _ hc => not_isSurrogate_of_mem_kelvins hc) htarget (Nat.le_of_eq hlength)
  obtain ⟨hlong, hshort⟩ := length_kelvins hissued htarget hlength hquery hurl
  have hlower : Text.lower kays = Text.lower kelvins := lower_kays.trans lower_kelvins.symm
  have hother : Url.escape keepsInTarget (bareSigner.basePath ++ (namespacePath ++ kays))
      = .ok (namespacePath ++ kays) := by
    rw [basePath_bareSigner]
    exact escape_kays
  have hexpires : (2000 : Int) = u.expires :=
    Except.ok.inj (expiry_bareSigner.symm.trans hissued.expiry)
  -- the address of the letters is accepted before it expires
  have haccepted := (interchangeable_of_lower written_bareSigner (by decide) (by decide)
    isDotFree_bareSigner hissued hlower hother).accepted hshort (.whole 1000)
  rw [← hexpires] at haccepted
  -- so the one that was issued would be, too, but it cannot be read
  have hsame := (hclaim kelvins kays _ u (sign_path_eq_ok_iff.mpr hissued) hlower escape_kays
    hshort (.whole 1000)).mp haccepted
  have hrefused : Url.parse u.url = .error .tooLong := by
    rw [Url.parse, if_pos hlong]
  rw [verifyAt] at hsame
  simp only [hrefused] at hsame
  cases hsame

end Signer

end CloudAccess
