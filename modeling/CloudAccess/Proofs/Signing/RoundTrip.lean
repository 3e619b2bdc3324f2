/-
# A signer accepts the addresses it has issued

A signed address goes through two encodings when it is written, path escapes and form encoding,
and comes back through their two decodings, the removal of the endpoint's path and the reading of
the expiry.  `verifyAt_issued` says that nothing is lost on the way: whatever characters the
identity, the path and the endpoint hold, the address is accepted until it expires and refused
from then on.

The endpoint has to have a scheme and a host, or there is no place where its path begins, and its
path must have no dot segments: those would be resolved away, together with segments before them.
-/
import CloudAccess.Proofs.Signing.Issued

namespace CloudAccess.Signer

/-! ## 1. The resource of a signed path -/

/-- The endpoint of a signer was read from a text. -/
theorem parse_of_create? {identity : Option Text} {key : Option Bytes} {endpoint : Text}
    {clock : Clock} {codeOf : CodeMaker} {s : Signer}
    (h : create? identity key endpoint clock codeOf = .ok s) :
    Url.parse endpoint = .ok s.endpoint := by
  rw [create?.eq_def] at h
  split at h
  · cases h
  · cases h
  · split at h
    · cases h
    · next url hurl =>
      cases h
      exact hurl

/-- **The path of the endpoint is taken off again.** -/
theorem requestedResource_append (s : Signer) (rest : Text) :
    s.requestedResource (s.basePath ++ CodePoint.ofChar '/' :: rest)
      = CodePoint.ofChar '/' :: rest := by
  rw [requestedResource]
  cases hbase : s.basePath with
  | nil => rfl
  | cons c base =>
    have hdrop : Text.dropStart? (c :: base ++ ("/" : Text))
        (c :: base ++ CodePoint.ofChar '/' :: rest) = some rest := by
      rw [Text.dropStart?_eq_some_iff, List.append_assoc]
      rfl
    rw [hdrop]
    rfl

/-- A whole number lies above an integer where it is greater. -/
theorem exceeds_whole (n i : Int) : (Number.whole n).exceeds i = decide (i < n) := rfl

/-! ## 2. Verifying what was signed -/

/-- What is left of verifying once the address has been read. -/
theorem verifyAt_eq {s : Signer} {now : Number} {presented identity expires signature : Text}
    {read : Url} {expiry : Int} (hread : Url.parse presented = .ok read)
    (hparams : read.params = signedParams identity expires signature)
    (hidentity : s.identity = some identity) (hexpires : Integer.read expires = .ok expiry) :
    s.verifyAt now presented =
      if now.exceeds expiry then .ok false
      else
        (s.signature
          (some (signedLines identity (s.requestedResource read.path) expires))).map
            fun expected => decide (expected = signature) := by
  have huid : Url.Form.first? "uid" read.params = some identity := by rw [hparams]; rfl
  have hexp : Url.Form.first? "expires" read.params = some expires := by rw [hparams]; rfl
  have hsig : Url.Form.first? "signature" read.params = some signature := by rw [hparams]; rfl
  simp only [verifyAt, hread, huid, hexp, hsig, hidentity, hexpires, ne_eq, not_true_eq_false,
    if_false, stringToSign]

/-- **What a signer has issued, it accepts until it expires.**  Verifying never fails on such an
address, and the answer depends on nothing but the time. -/
theorem verifyAt_issued {identity : Option Text} {key : Option Bytes} {endpoint : Text}
    {clock : Clock} {codeOf : CodeMaker} {s : Signer} {logger : Text} {now : Number}
    {path? : Option Text} {u : SignedUrl}
    (hs : create? identity key endpoint clock codeOf = .ok s)
    (hscheme : s.endpoint.scheme ≠ []) (hhost : s.endpoint.host ≠ [])
    (hdots : hasDotSegment s.endpoint.path = false)
    (hu : (s.sign logger now path?).outcome = .ok u) (hlength : u.url.length ≤ Url.maxLength)
    (later : Int) :
    s.verifyAt (.whole later) u.url = .ok (decide (later ≤ u.expires)) := by
  obtain ⟨path, -, h⟩ := sign_eq_ok_iff.mp hu
  obtain ⟨url, hurl, htext⟩ := h.address
  have hwritten : Url.Written s.endpoint := Url.written_of_parse (parse_of_create? hs)
  have htarget : Url.isDotFree (s.basePath ++ u.resource) := by
    rw [h.resource]
    exact isDotFree_target (hasDotSegment_eq_false_iff.mp hdots)
      (hasDotSegment_eq_false_iff.mp h.dotFree)
  have hresource : u.resource ≠ [] := by
    rw [h.resource, namespacePath_append]
    exact List.cons_ne_nil _ _
  rw [htext] at hlength ⊢
  obtain ⟨read, hread, hpath, hparams⟩ :=
    parse_address hwritten hscheme hhost htarget hresource hurl hlength
  have hexpires : Integer.read (Integer.write u.expires) = .ok u.expires :=
    Integer.read_write (isWritable_of_expiry h.expiry)
  have hrequested : s.requestedResource read.path = u.resource := by
    rw [hpath, h.resource, namespacePath_append]
    exact requestedResource_append s _
  rw [verifyAt_eq hread hparams h.identity hexpires, hrequested, h.signature, exceeds_whole]
  by_cases hlate : u.expires < later
  · rw [if_pos (decide_eq_true hlate), decide_eq_false (Int.not_le.mpr hlate)]
  · rw [if_neg (by rw [decide_eq_true_eq]; exact hlate), decide_eq_true (Int.not_lt.mp hlate)]
    simp [Except.map]

/-- A signer whose identity and endpoint hold what an address has to escape. -/
def reservedSigner : Signer :=
  ⟨some "a\nb&c=d+e%66é",
    ⟨"https", [], "example.com", some 8443, "/A%3Fb%20c/%C3%A9", none, some "top"⟩,
    fun _ => .ok (.number (.whole 2000)), hmac [0x6B]⟩

/-- What it issues for a path of such characters. -/
def reservedUrl : SignedUrl where
  url := "https://example.com:8443/A%3Fb%20c/%C3%A9" ++
    "/rest/namespace/x%3Fy%23z%252F%26%2B%3D%0A%C3%A9" ++ "?uid=a%0Ab%26c%3Dd%2Be%2566%C3%A9" ++
    "&expires=2000" ++ "&signature=c%2F%2BBkx7En%2BanaJEjoGHaThdsgK0%3D" ++ "#top"
  identity := "a\nb&c=d+e%66é"
  expires := 2000
  signature := "c/+Bkx7En+anaJEjoGHaThdsgK0="
  resource := "/rest/namespace/x?y#z%2F&+=\né"

theorem parse_reservedSigner :
    Url.parse "https://Example.com:8443/A%3Fb%20c/%C3%A9#top" = .ok reservedSigner.endpoint := by
  decide +kernel

theorem sign_reservedSigner : (reservedSigner.sign "log" (.whole 0) (some "x?y#z%2F&+=\né")).outcome
    = .ok reservedUrl := by decide +kernel

/-- The address is accepted in its last second and refused in the next. -/
theorem verifyAt_issued_reserved :
    create? (some "a\nb&c=d+e%66é") (some [0x6B]) "https://Example.com:8443/A%3Fb%20c/%C3%A9#top"
        reservedSigner.clock hmac = .ok reservedSigner ∧
      (reservedSigner.sign "log" (.whole 0) (some "x?y#z%2F&+=\né")).outcome = .ok reservedUrl ∧
      reservedSigner.verifyAt (.whole 2000) reservedUrl.url = .ok true ∧
      reservedSigner.verifyAt (.whole 2001) reservedUrl.url = .ok false := by
  have hcreate : create? (some "a\nb&c=d+e%66é") (some [0x6B])
      "https://Example.com:8443/A%3Fb%20c/%C3%A9#top" reservedSigner.clock hmac
        = .ok reservedSigner := by
    simp only [create?, parse_reservedSigner]
    rfl
  have haccepted := verifyAt_issued hcreate (by decide) (by decide) (by decide +kernel)
    sign_reservedSigner (by decide +kernel)
  exact ⟨hcreate, sign_reservedSigner, haccepted 2000, haccepted 2001⟩

end CloudAccess.Signer
