/-
# What a signed address says

A signed address is a text, and whoever gets it takes it apart again: a scheme, an authority, a
path, a query and a fragment.  `parts_of_signed` says what is found in each of them.  The scheme,
the user information, the host, the port and the fragment are those of the endpoint, the path is
the one of the endpoint followed by the resource, and the query holds three pairs.  So whatever
characters a path and an identity are made of, they stay in the place that is meant for them.

Nothing is assumed about the length of the address, since cutting a text at its delimiters works
for texts of every length; only reading it as an address again has a limit.
-/
import CloudAccess.Proofs.Signing.RoundTrip

namespace CloudAccess.Signer

open Url

/-- The port of an address in the form in which it is cut out of one. -/
def portDigits (port? : Option Int) : Text := (port?.map Integer.write).getD []

/-- What the parts of an address say that a signer has issued for a path.  Letters of the host may
have turned into lower case, and the port may be left out if the scheme implies it. -/
structure Conveys (s : Signer) (path : Text) (u : SignedUrl) (p : Parts) : Prop where
  scheme : p.scheme = s.endpoint.scheme
  userinfo : (Authority.ofText p.authority).userinfo = s.endpoint.userinfo
  host : ∃ host, (host = s.endpoint.host ∨ host = Text.lower s.endpoint.host) ∧
    (Authority.ofText p.authority).host = writtenHost host
  port : (Authority.ofText p.authority).port = portDigits s.endpoint.port? ∨
    (Authority.ofText p.authority).port = [] ∧
      s.endpoint.port? = defaultPort? s.endpoint.scheme
  fragment : p.fragment? = s.endpoint.rawFragment?
  pathForm : Escaped keepsInTarget p.path
  path : unescape p.path = s.basePath ++ (namespacePath ++ path)
  query : ∃ query identity, p.query? = some query ∧ s.identity = some identity ∧
    Form.decode query = signedParams identity (Integer.write u.expires) u.signature

/-- What is cut out of the text of an address on the same site as another one. -/
theorem authority_of_sameSite {u v : Url} (hv : Written v) (h : SameSite u v) :
    (Authority.ofText v.authority).userinfo = u.userinfo ∧
      (∃ host, (host = u.host ∨ host = Text.lower u.host) ∧
        (Authority.ofText v.authority).host = writtenHost host) ∧
      ((Authority.ofText v.authority).port = portDigits u.port? ∨
        (Authority.ofText v.authority).port = [] ∧ u.port? = defaultPort? u.scheme) := by
  rw [Authority.ofText_authority hv]
  refine ⟨h.userinfo, ⟨v.host, h.host, rfl⟩, ?_⟩
  rcases h.port with hsame | ⟨hnone, hdefault⟩
  · exact Or.inl (by rw [hsame]; rfl)
  · exact Or.inr ⟨by rw [hnone]; rfl, hdefault⟩

/-- **What a signed address says.**  The endpoint has to have a scheme and a host, and no dot
segments in its path. -/
theorem parts_of_signed {identity : Option Text} {key : Option Bytes} {endpoint : Text}
    {clock : Clock} {codeOf : CodeMaker} {s : Signer} {logger : Text} {now : Number} {path : Text}
    {u : SignedUrl} (hs : create? identity key endpoint clock codeOf = .ok s)
    (hscheme : s.endpoint.scheme ≠ []) (hhost : s.endpoint.host ≠ [])
    (hdots : hasDotSegment s.endpoint.path = false)
    (hu : (s.sign logger now (some path)).outcome = .ok u) :
    Conveys s path u (Parts.ofText u.url) := by
  have h := sign_path_eq_ok_iff.mp hu
  obtain ⟨url, hurl, htext⟩ := h.address
  obtain ⟨target, query, htarget, hquery, hwith⟩ := address_eq_ok hurl
  have hparse := parse_of_create? hs
  have hwritten : Written s.endpoint := written_of_parse hparse
  have hfree : isDotFree (s.basePath ++ u.resource) := by
    rw [h.resource]
    exact isDotFree_target (hasDotSegment_eq_false_iff.mp hdots)
      (hasDotSegment_eq_false_iff.mp h.dotFree)
  obtain ⟨hurlWritten, hurlScheme, hurlHost, hrawPath, hrawQuery, hrooted, -⟩ :=
    withTarget_eq_ok hwritten hscheme hhost (keepsInPath_of_escape htarget)
      (isDotFree_of_escape htarget hfree) (keepsInQuery_of_encode hquery) hwith
  have hsite : SameSite s.endpoint url := sameSite_withTarget hwritten hwith
  have hparts : Parts.ofText u.url = url.parts := by
    rw [htext]
    exact Parts.ofText_toText hurlWritten hurlScheme hurlHost (by rw [hrawPath]; exact hrooted)
  obtain ⟨huserinfo, hhostText, hport⟩ := authority_of_sameSite hurlWritten hsite
  rw [hparts]
  exact {
    scheme := hsite.scheme.trans (lower_scheme_of_parse hparse)
    userinfo := huserinfo
    host := hhostText
    port := hport
    fragment := hsite.fragment
    pathForm := by
      show Escaped keepsInTarget url.rawPath
      rw [hrawPath]
      exact escaped_of_escape htarget
    path := by
      show unescape url.rawPath = _
      rw [hrawPath, unescape_of_escape htarget, h.resource]
    query := ⟨query, u.identity, hrawQuery, h.identity, Form.decode_encode hquery⟩ }

/-- The endpoint of a signer, with the port that its scheme implies, a bracket in its host, a query
and a fragment. -/
def crowdedEndpoint : Text := "HTTPS://jo:x@Ex[ample.com:443/A%3Fb//?q=1#top"

/-- A signer for this endpoint. -/
def crowdedSigner : Signer :=
  ⟨some "a&uid=b#c\n", ⟨"https", "jo:x", "ex%5Bample.com", some 443, "/A%3Fb//", some "q=1",
    some "top"⟩, fun _ => .ok (.number (.whole 2000)), hmac [0x6B]⟩

/-- What it issues for a path that looks like the end of an address. -/
def crowdedUrl : SignedUrl where
  url := "https://jo:x@ex%5bample.com/A%3Fb" ++
    "/rest/namespace/%40h//x%3Fexpires%3D1%23%252F" ++ "?uid=a%26uid%3Db%23c%0A" ++
    "&expires=2000" ++ "&signature=KQhKMExXZECI3YJdBP5UfI6XTI0%3D" ++ "#top"
  identity := "a&uid=b#c\n"
  expires := 2000
  signature := "KQhKMExXZECI3YJdBP5UfI6XTI0="
  resource := "/rest/namespace/@h//x?expires=1#%2F"

theorem parse_crowdedEndpoint : Url.parse crowdedEndpoint = .ok crowdedSigner.endpoint := by
  decide +kernel

theorem sign_crowdedSigner :
    (crowdedSigner.sign "log" (.whole 0) (some "@h//x?expires=1#%2F")).outcome
      = .ok crowdedUrl := by
  decide +kernel

/-- The bracket of the host is escaped in lower case, the port is left out, and neither the path
nor the identity gets into another part. -/
theorem parts_of_signed_crowded :
    (crowdedSigner.sign "log" (.whole 0) (some "@h//x?expires=1#%2F")).outcome = .ok crowdedUrl ∧
      Conveys crowdedSigner "@h//x?expires=1#%2F" crowdedUrl (Parts.ofText crowdedUrl.url) ∧
      Authority.ofText (Parts.ofText crowdedUrl.url).authority = ⟨"jo:x", "ex%5bample.com", []⟩ ∧
      (Parts.ofText crowdedUrl.url).fragment? = some "top" := by
  have hcreate : create? (some "a&uid=b#c\n") (some [0x6B]) crowdedEndpoint crowdedSigner.clock
      hmac = .ok crowdedSigner := by
    simp only [create?, parse_crowdedEndpoint]
    rfl
  have hconveys := parts_of_signed hcreate (by decide) (by decide) (by decide +kernel)
    sign_crowdedSigner
  exact ⟨sign_crowdedSigner, hconveys, by decide +kernel, hconveys.fragment⟩

end CloudAccess.Signer
