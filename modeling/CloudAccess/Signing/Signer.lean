/-
# Signed addresses

A signer hands out addresses of resources that are good for a limited time.  What is signed is
four lines,

    GET
    the resource, in lower case
    the identity of the signer
    the time of expiry

and the signature is the base64 form of a message authentication code of that text.  The address
carries the identity, the expiry and the signature as its query, so that whoever knows the key
can compute the signature again (`verify`).

The code is a parameter of the signer, like its clock: `create?` takes a way to make a code from
a key, which may fail, and `hmac` is the usual one.
-/
import CloudAccess.Digest.Hmac
import CloudAccess.Failure
import CloudAccess.Log
import CloudAccess.Signing.Clock

namespace CloudAccess

/-! ## 1. Keys -/

/-- A credential as it is given: a text, or a value of some other kind. -/
inductive EncodedKey where
  | text (t : Text)
  | other (kind : Text)
deriving DecidableEq

/-- The bytes of a credential, with the fault of the base64 form behind the one reported. -/
def EncodedKey.decode (credential : EncodedKey) (handled? : Option Failure := none) :
    Except Failure Bytes :=
  let malformed (reason : Fault) : Failure :=
    .wrap (.keyMalformed reason.message) (.arising handled? reason)
  match credential with
  | .other kind => .error (malformed (.notEncodedText kind))
  | .text t =>
    match Base64.decode t with
    | .ok key => .ok key
    | .error defect => .error (malformed (.base64 defect))

/-- What is being handled has no part in which bytes are meant. -/
theorem EncodedKey.decode_eq_ok {credential : EncodedKey} {handled? : Option Failure} {key : Bytes}
    (h : credential.decode handled? = .ok key) : credential.decode = .ok key := by
  cases credential with
  | other kind => cases h
  | text t =>
    rw [decode] at h ⊢
    cases hread : Base64.decode t with
    | ok bytes =>
      rw [hread] at h
      exact h
    | error defect =>
      rw [hread] at h
      cases h

/-! ## 2. Signers -/

/-- From a key to its authentication code, which maps messages to codes. -/
abbrev CodeMaker := Bytes → Except Fault (Bytes → Bytes)

/-- Signs addresses below an endpoint on behalf of an identity, with the code of its key. -/
structure Signer where
  identity : Option Text
  endpoint : Url
  clock : Clock
  code : Except Fault (Bytes → Bytes)

/-- An address with a signature, and what was signed. -/
structure SignedUrl where
  url : Text
  identity : Text
  expires : Int
  signature : Text
  resource : Text
deriving DecidableEq

namespace Signer

/-- The path below which all resources lie. -/
def namespacePath : Text := "/rest/namespace/"

/-- HMAC-SHA1. -/
def hmac : CodeMaker := fun key => .ok (Hmac.sha1 key)

/-- A signer with a key that is not empty, for an endpoint that is an address.  The key is
looked at first. -/
def create? (identity : Option Text) (key : Option Bytes) (endpoint : Text) (clock : Clock)
    (codeOf : CodeMaker) : Except Fault Signer :=
  match key with
  | none | some [] => .error .keyEmpty
  | some key =>
    match Url.parse endpoint with
    | .error rejection => .error (.address rejection)
    | .ok url => .ok ⟨identity, url, clock, codeOf key⟩

/-- A signer whose key is a credential in base64. -/
def ofCredential? (identity : Option Text) (credential : EncodedKey) (endpoint : Text)
    (clock : Clock) (codeOf : CodeMaker) : Except Failure Signer :=
  match credential.decode with
  | .error failure => .error failure
  | .ok key => (create? identity (some key) endpoint clock codeOf).mapError .ofFault

/-- The signer in one line, without its key. -/
def summary (s : Signer) : Text :=
  "PresignedUrlSigner(uid=" ++ Text.quoted? s.identity ++ ", endpoint=" ++
    Text.quoted s.endpoint.toText ++ ")"

/-! ## 3. The text to sign and its signature -/

/-- The four lines that are signed. -/
def signedLines (identity resource expires : Text) : Text :=
  Text.join "\n" ["GET", Text.lower resource, identity, expires]

/-- The text to sign for a resource and an expiry. -/
def stringToSign (s : Signer) (resource expires : Option Text) : Except Fault Text :=
  match resource with
  | none => .error .notText
  | some resource =>
    match s.identity, expires with
    | some identity, some expires => .ok (signedLines identity resource expires)
    | _, _ => .error .textMissing

/-- A fault that signing reports as its own: one about values, kinds or encodings. -/
def isSigningTrouble (fault : Fault) : Bool :=
  match fault.category with
  | .value | .type | .encoding => true
  | _ => false

/-- The fault that a failed code computation ends in. -/
def signingFailure (reason : Fault) : Failure :=
  if isSigningTrouble reason then .wrap (.unsignable reason.message) (.ofFault reason)
  else .ofFault reason

/-- The signature of a text, in base64.  The code is made ready before the text is looked at. -/
def signature (s : Signer) (toSign : Option Text) : Except Failure Text :=
  match s.code with
  | .error fault => .error (signingFailure fault)
  | .ok code =>
    match toSign with
    | none => .error (.ofFault .notText)
    | some t =>
      match Utf8.encode t with
      | .error u => .error (signingFailure (.unencodable u))
      | .ok message => .ok (Base64.encode (code message))

/-! ## 4. Signing -/

/-- The path has a segment that would lead elsewhere. -/
def hasDotSegment (path : Text) : Bool :=
  (Text.splitOn '/' path).any fun segment => segment = "." || segment = ".."

/-- The characters that stand for themselves in the path of a signed address. -/
def keepsInTarget (c : CodePoint) : Bool := Url.isUnreserved c || c.val == 0x2F

/-- The path of the endpoint without slashes at its end. -/
def basePath (s : Signer) : Text := Text.trimEnd (fun c => c.val == 0x2F) s.endpoint.path

/-- The address of a resource with its query. -/
def address (s : Signer) (resource identity expires signature : Text) : Except Fault Url :=
  match Url.escape keepsInTarget (s.basePath ++ resource) with
  | .error u => .error (.unencodable u)
  | .ok path =>
    match Url.Form.encode
        [("uid", identity), ("expires", expires), ("signature", signature)] with
    | .error u => .error (.unencodable u)
    | .ok query => (s.endpoint.withTarget path query).mapError .address

/-- The logger of texts about to be signed. -/
def signatureLogger : Text := "cloudcontext.signature"

/-- The record of a text about to be signed. -/
def signingRecord (toSign : Text) : Log.Record :=
  ⟨signatureLogger, .debug, "string to sign:\n" ++ toSign⟩

/-- The record of a signed address; `logger` is whoever asked for it. -/
def signedRecord (logger resource identity expires : Text) : Log.Record :=
  ⟨logger, .debug,
    "Signed " ++ resource ++ " for uid " ++ identity ++ ", expires " ++ expires⟩

/-- What a call for a signed address leaves behind: the records written on the way, and the
address. -/
structure Signing where
  log : List Log.Record
  outcome : Except Failure SignedUrl

/-- The expiry that the clock tells, which has to be short enough to be written. -/
def expiry (s : Signer) (now : Number) : Except Fault Int :=
  match s.clock now with
  | .error fault => .error fault
  | .ok reading =>
    match reading.toInt with
    | .error fault => .error fault
    | .ok n => if Integer.isWritable n then .ok n else .error (.misreadInteger .unwritable)

/-- Sign the address of a path below the namespace, on behalf of whoever writes to `logger`. -/
def sign (s : Signer) (logger : Text) (now : Number) (path : Option Text) : Signing :=
  let failed (fault : Fault) : Signing := ⟨[], .error (.ofFault fault)⟩
  match path with
  | none => failed .notText
  | some path =>
    if hasDotSegment path then failed (.dotSegment path)
    else
      let resource := namespacePath ++ path
      match s.expiry now with
      | .error fault => failed fault
      | .ok expiry =>
        match s.identity with
        | none => failed .textMissing
        | some identity =>
          let expires := Integer.write expiry
          let toSign := signedLines identity resource expires
          let before := signingRecord toSign
          match s.signature (some toSign) with
          | .error failure => ⟨[before], .error failure⟩
          | .ok signature =>
            match s.address resource identity expires signature with
            | .error fault => ⟨[before], .error (.ofFault fault)⟩
            | .ok url =>
              ⟨[before, signedRecord logger resource identity expires],
                .ok ⟨url.toText, identity, expiry, signature, resource⟩⟩

/-! ## 5. Verifying -/

/-- The resource that a decoded path names: the path without the endpoint's own, where it begins
with it. -/
def requestedResource (s : Signer) (path : Text) : Text :=
  if s.basePath.isEmpty then path
  else
    match Text.dropStart? (s.basePath ++ ("/" : Text)) path with
    | some rest => "/" ++ rest
    | none => path

/-- Check a presented address: it has to carry the identity of the signer, must not have expired
by `now`, and its signature has to be the one computed again from its path. -/
def verifyAt (s : Signer) (now : Number) (presented : Text) : Except Failure Bool :=
  match Url.parse presented with
  | .error rejection => .error (.ofFault (.address rejection))
  | .ok url =>
    let params := url.params
    if Url.Form.first? "uid" params ≠ s.identity then .ok false
    else
      match Url.Form.first? "expires" params, Url.Form.first? "signature" params with
      | some expires, some signature =>
        match Integer.read expires with
        | .error _ => .ok false
        | .ok expiry =>
          if now.exceeds expiry then .ok false
          else
            match s.stringToSign (some (s.requestedResource url.path)) (some expires) with
            | .error fault => .error (.ofFault fault)
            | .ok toSign => (s.signature (some toSign)).map fun expected => expected = signature
      | _, _ => .ok false

/-- Check a presented address at the present time. -/
def verify (s : Signer) (now : Number) (presented : Text) : Except Failure Bool :=
  s.verifyAt (.whole (Clock.system now)) presented

end Signer

end CloudAccess
