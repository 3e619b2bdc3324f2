/-
# Why signing is refused

Signing goes through the path, the clock, the identity, the code and the writing of the address,
and the first of them that fails decides what the failure is.  `Refused` has one case for each, and
`sign_eq_error_iff` says that there are no others.

The text to sign has to have a UTF-8 form, and a surrogate in the path or in the identity ends
there, in a failure of signing.  So none is left when the address is written: the path of the
endpoint has no surrogates, since it was decoded from bytes, and the rest has been signed.  Only the
address as a whole can then be rejected (`rejected_of_address`).
-/
import CloudAccess.Proofs.Signing.Grant
import CloudAccess.Proofs.Text.Case
import CloudAccess.Signing.Spec

namespace CloudAccess

namespace Signer

/-! ## 1. The steps of signing -/

/-- All is there that a text to sign is made of. -/
structure Prepared (s : Signer) (now : Number) (path identity : Text) (expires : Int) : Prop where
  dotFree : hasDotSegment path = false
  expiry : s.expiry now = .ok expires
  identity : s.identity = some identity

/-- The text to sign for a path. -/
def lines (path identity : Text) (expires : Int) : Text :=
  signedLines identity (namespacePath ++ path) (Integer.write expires)

/-- How signing a path fails. -/
inductive Refused (s : Signer) (now : Number) : Option Text → Failure → Prop where
  | pathMissing : Refused s now none (.ofFault .notText)
  | dotSegment {path : Text} (hdot : hasDotSegment path = true) :
    Refused s now (some path) (.ofFault (.dotSegment path))
  | expiry {path : Text} {fault : Fault} (hdot : hasDotSegment path = false)
      (hexpiry : s.expiry now = .error fault) : Refused s now (some path) (.ofFault fault)
  | identityMissing {path : Text} {expires : Int} (hdot : hasDotSegment path = false)
      (hexpiry : s.expiry now = .ok expires) (hidentity : s.identity = none) :
    Refused s now (some path) (.ofFault .textMissing)
  | signature {path identity : Text} {expires : Int} {failure : Failure}
      (h : Prepared s now path identity expires)
      (hsignature : s.signature (some (lines path identity expires)) = .error failure) :
    Refused s now (some path) failure
  | address {path identity signature : Text} {expires : Int} {fault : Fault}
      (h : Prepared s now path identity expires)
      (hsignature : s.signature (some (lines path identity expires)) = .ok signature)
      (haddress : s.address (namespacePath ++ path) identity (Integer.write expires) signature
        = .error fault) : Refused s now (some path) (.ofFault fault)

/-- **Signing fails if one of its steps does,** and with the failure of the first. -/
theorem sign_eq_error_iff {s : Signer} {logger : Text} {now : Number} {path? : Option Text}
    {failure : Failure} :
    (s.sign logger now path?).outcome = .error failure ↔ Refused s now path? failure := by
  constructor
  · intro h
    cases path? with
    | none =>
      cases h
      exact .pathMissing
    | some path =>
      simp only [sign] at h
      cases hdot : hasDotSegment path with
      | true =>
        rw [hdot, if_pos rfl] at h
        cases h
        exact .dotSegment hdot
      | false =>
        rw [hdot, if_neg Bool.false_ne_true] at h
        split at h
        · next fault hexpiry =>
          cases h
          exact .expiry hdot hexpiry
        · next expires hexpires =>
          split at h
          · next hidentity =>
            cases h
            exact .identityMissing hdot hexpires hidentity
          · next identity hidentity =>
            have hprepared : Prepared s now path identity expires := ⟨hdot, hexpires, hidentity⟩
            split at h
            · next hsignature =>
              cases h
              exact .signature hprepared hsignature
            · next signature hsignature =>
              split at h
              · next fault haddress =>
                cases h
                exact .address hprepared hsignature haddress
              · cases h
  · intro h
    cases h with
    | pathMissing => rfl
    | dotSegment hdot => simp only [sign, hdot, if_true]
    | expiry hdot hexpiry => simp only [sign, hdot, Bool.false_eq_true, if_false, hexpiry]
    | identityMissing hdot hexpiry hidentity =>
      simp only [sign, hdot, Bool.false_eq_true, if_false, hexpiry, hidentity]
    | signature h hsignature =>
      rw [lines] at hsignature
      simp only [sign, h.dotFree, Bool.false_eq_true, if_false, h.expiry, h.identity, hsignature]
    | address h hsignature haddress =>
      rw [lines] at hsignature
      simp only [sign, h.dotFree, Bool.false_eq_true, if_false, h.expiry, h.identity, hsignature,
        haddress]

/-! ## 2. Surrogates -/

/-- A text that a signature cannot be made of has no UTF-8 form, which is a failure of signing. -/
theorem unsignable_of_signature {s : Signer} {code : Bytes → Bytes} (hcode : s.code = .ok code)
    {t : Text} {failure : Failure} (h : s.signature (some t) = .error failure) :
    ∃ u : Utf8.Unencodable,
      failure = .wrap (.unsignable u.message) (.ofFault (.unencodable u)) := by
  rw [signature, hcode] at h
  cases hencode : Utf8.encode t with
  | ok message =>
    simp only [hencode] at h
    cases h
  | error u =>
    simp only [hencode] at h
    cases h
    exact ⟨u, rfl⟩

/-- What has been signed has no surrogates. -/
theorem not_isSurrogate_of_signature {s : Signer} {identity resource expires signature : Text}
    (h : s.signature (some (signedLines identity resource expires)) = .ok signature) :
    (∀ c ∈ resource, c.isSurrogate = false) ∧ (∀ c ∈ identity, c.isSurrogate = false) ∧
      ∀ c ∈ expires, c.isSurrogate = false := by
  obtain ⟨code, message, -, hencode, -⟩ := signature_eq_ok_iff.mp h
  have hnone := (Utf8.encode_eq_ok_iff.mp hencode).1
  rw [signedLines_eq] at hnone
  refine ⟨fun c hc => ?_, fun c hc => hnone c ?_, fun c hc => hnone c ?_⟩
  · by_contra hsurrogate
    rw [Bool.not_eq_false] at hsurrogate
    have hlower := Text.mem_lower_of_isSurrogate hsurrogate hc
    rw [hnone c (by simp [hlower])] at hsurrogate
    cases hsurrogate
  · simp [hc]
  · simp [hc]

/-- **What has no surrogates is signed,** once there is a code. -/
theorem exists_signature {s : Signer} {code : Bytes → Bytes} (hcode : s.code = .ok code)
    {identity resource expires : Text} (hresource : ∀ c ∈ resource, c.isSurrogate = false)
    (hidentity : ∀ c ∈ identity, c.isSurrogate = false)
    (hexpires : ∀ c ∈ expires, c.isSurrogate = false) :
    ∃ signature, s.signature (some (signedLines identity resource expires)) = .ok signature := by
  have hmethod : ∀ c ∈ Text.ofString "GET", c.isSurrogate = false := by decide
  have hnone : ∀ c ∈ signedLines identity resource expires, c.isSurrogate = false := by
    rw [signedLines_eq]
    simp only [List.mem_append, List.mem_cons]
    rintro c (hc | rfl | (hc | rfl | hc) | rfl | hc)
    · exact hmethod c hc
    · decide
    · exact Text.not_isSurrogate_of_mem_lower hresource c hc
    · decide
    · exact hidentity c hc
    · decide
    · exact hexpires c hc
  exact ⟨_, signature_eq_ok_iff.mpr ⟨code, _, hcode, Utf8.encode_eq_ok_iff.mpr ⟨hnone, rfl⟩, rfl⟩⟩

theorem not_isSurrogate_of_mem_encode {bytes : Bytes} {c : CodePoint}
    (h : c ∈ Base64.encode bytes) : c.isSurrogate = false := by
  rcases Base64.mem_encode h with rfl | ⟨v, hv, rfl⟩
  · rfl
  · have hascii := CodePoint.isAscii_iff.mp (Base64.isAscii_character v hv)
    rw [Bool.eq_false_iff, ne_eq, CodePoint.isSurrogate_iff]
    omega

/-- The path of the endpoint is decoded from bytes. -/
theorem not_isSurrogate_of_mem_basePath {s : Signer} {c : CodePoint} (h : c ∈ s.basePath) :
    c.isSurrogate = false := by
  obtain ⟨tail, hpath, -⟩ := Text.trimEnd_append (fun c => c.val == 0x2F) s.endpoint.path
  have hmem : c ∈ s.endpoint.path := hpath ▸ List.mem_append_left tail h
  exact Utf8.not_isSurrogate_of_mem_decodeLossy hmem

/-- The pairs of a signed address can be encoded. -/
theorem exists_query {s : Signer} {identity resource expires signature : Text}
    (h : s.signature (some (signedLines identity resource expires)) = .ok signature) :
    ∃ query, Url.Form.encode (signedParams identity expires signature) = .ok query := by
  obtain ⟨-, hidentity, hexpires⟩ := not_isSurrogate_of_signature h
  have hsigned : ∀ c ∈ signature, c.isSurrogate = false := by
    obtain ⟨code, message, -, -, rfl⟩ := signature_eq_ok_iff.mp h
    exact fun c hc => not_isSurrogate_of_mem_encode hc
  have hnames : ∀ name ∈ ["uid", "expires", "signature"],
      ∀ c ∈ Text.ofString name, c.isSurrogate = false := by decide
  refine Url.Form.exists_encode ?_
  simp only [signedParams, List.forall_mem_cons]
  exact ⟨⟨hnames "uid" (by simp), hidentity⟩, ⟨hnames "expires" (by simp), hexpires⟩,
    ⟨hnames "signature" (by simp), hsigned⟩, fun _ h => absurd h List.not_mem_nil⟩

/-- **What has been signed can be written,** so that an address can fail only as a whole. -/
theorem rejected_of_address {s : Signer} {identity resource expires signature : Text}
    (hsignature : s.signature (some (signedLines identity resource expires)) = .ok signature)
    {fault : Fault} (h : s.address resource identity expires signature = .error fault) :
    ∃ rejection, fault = .address rejection := by
  have hresource := (not_isSurrogate_of_signature hsignature).1
  have hpath : Url.escape keepsInTarget (s.basePath ++ resource)
      = .ok ((s.basePath ++ resource).flatMap (Url.escapeChar keepsInTarget)) :=
    Url.escape_eq_ok_iff.mpr ⟨fun c hc _ => (List.mem_append.mp hc).elim
      not_isSurrogate_of_mem_basePath (hresource c), rfl⟩
  obtain ⟨query, hquery⟩ := exists_query hsignature
  rw [signedParams] at hquery
  rw [address] at h
  simp only [hpath, hquery] at h
  cases htarget : s.endpoint.withTarget
      ((s.basePath ++ resource).flatMap (Url.escapeChar keepsInTarget)) query with
  | error rejection =>
    rw [htarget] at h
    cases h
    exact ⟨rejection, rfl⟩
  | ok url =>
    rw [htarget] at h
    cases h

/-! ## 3. Signers that cannot be made -/

theorem isReported_of_decode {credential : EncodedKey} {failure : Failure}
    (h : credential.decode = .error failure) : failure.fault.category.isReported = true := by
  cases credential with
  | other kind =>
    cases h
    rw [Failure.fault_wrap]
    rfl
  | text t =>
    rw [EncodedKey.decode] at h
    split at h
    · cases h
    · cases h
      rw [Failure.fault_wrap]
      rfl

theorem create?_cons (identity : Option Text) (b : UInt8) (rest : Bytes) (endpoint : Text)
    (clock : Clock) (codeOf : CodeMaker) :
    create? identity (some (b :: rest)) endpoint clock codeOf =
      match Url.parse endpoint with
      | .error rejection => .error (.address rejection)
      | .ok url => .ok ⟨identity, url, clock, codeOf (b :: rest)⟩ := rfl

/-- A signer with a key that is there is not made if the key is empty or the endpoint is not an
address. -/
theorem create?_eq_error_iff {identity : Option Text} {key : Bytes} {endpoint : Text}
    {clock : Clock} {codeOf : CodeMaker} {fault : Fault} :
    create? identity (some key) endpoint clock codeOf = .error fault ↔
      (key = [] ∧ fault = .keyEmpty) ∨
        (key ≠ [] ∧ ∃ rejection, Url.parse endpoint = .error rejection ∧
          fault = .address rejection) := by
  cases key with
  | nil => simp [create?, eq_comm]
  | cons b rest =>
    rw [create?_cons]
    cases Url.parse endpoint with
    | error rejection => simp [eq_comm]
    | ok url => simp

theorem create?_eq_ok {identity : Option Text} {key : Bytes} {endpoint : Text} {clock : Clock}
    {codeOf : CodeMaker} {s : Signer}
    (h : create? identity (some key) endpoint clock codeOf = .ok s) :
    s.identity = identity ∧ s.clock = clock ∧ s.code = codeOf key := by
  cases key with
  | nil => cases h
  | cons b rest =>
    rw [create?_cons] at h
    split at h
    · cases h
    · cases h
      exact ⟨rfl, rfl, rfl⟩

/-- A signer for a site of one letter. -/
def bareSigner : Signer :=
  ⟨some "u", ⟨"https", [], "h", none, [], none, none⟩, fun _ => .ok (.number (.whole 2000)),
    hmac [0x6B]⟩

theorem create?_bareSigner :
    create? (some "u") (some [0x6B]) "https://h" bareSigner.clock hmac = .ok bareSigner := by
  have hparse : Url.parse "https://h" = .ok bareSigner.endpoint := by decide +kernel
  simp only [create?, hparse]
  rfl

end Signer

namespace Spec

/-- The spec has all that is needed for signing, with a key that is not empty, and an endpoint that
is no address. -/
def Misdirected (s : Spec) (rejection : Url.Rejection) : Prop :=
  s.missingForSigning.isEmpty = true ∧
    (∃ key, (EncodedKey.text (s.credential.getD [])).decode = .ok key ∧ key ≠ []) ∧
    Url.parse (s.endpoint.getD []) = .error rejection

/-- **A spec without a signer is reported,** unless it is for an endpoint that is no address. -/
theorem signer?_eq_error {s : Spec} {lifetime skew : Number} {failure : Failure}
    (h : s.signer? lifetime skew = .error failure) :
    failure.fault.category.isReported = true ∨
      ∃ rejection, s.Misdirected rejection ∧ failure = .ofFault (.address rejection) := by
  rw [signer?] at h
  split at h
  · next hmissing =>
    rw [Signer.ofCredential?] at h
    cases hkey : (EncodedKey.text (s.credential.getD [])).decode with
    | error inner =>
      simp only [hkey] at h
      cases h
      exact .inl (Signer.isReported_of_decode hkey)
    | ok key =>
      simp only [hkey] at h
      cases hmade : Signer.create? s.identity (some key) (s.endpoint.getD [])
          (Clock.expiring lifetime skew) Signer.hmac with
      | ok signer =>
        rw [hmade] at h
        cases h
      | error fault =>
        rw [hmade] at h
        cases h
        rcases Signer.create?_eq_error_iff.mp hmade with ⟨-, rfl⟩ | ⟨hne, rejection, hparse, rfl⟩
        · exact .inl rfl
        · exact .inr ⟨rejection, ⟨hmissing, ⟨key, hkey, hne⟩, hparse⟩, rfl⟩
  · cases h
    exact .inl rfl

theorem Misdirected.signer? {s : Spec} {rejection : Url.Rejection} (h : s.Misdirected rejection)
    (lifetime skew : Number) :
    s.signer? lifetime skew = .error (.ofFault (.address rejection)) := by
  obtain ⟨hmissing, ⟨key, hkey, hne⟩, hparse⟩ := h
  rw [Spec.signer?, if_pos hmissing, Signer.ofCredential?]
  simp only [hkey]
  rw [Signer.create?_eq_error_iff.mpr (.inr ⟨hne, rejection, hparse, rfl⟩)]
  rfl

end Spec

end CloudAccess
