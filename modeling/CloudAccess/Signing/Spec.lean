/-
# The signer of a spec

A spec with an endpoint, an identity and a credential can sign addresses.
-/
import CloudAccess.Signing.Signer
import CloudAccess.Spec

namespace CloudAccess.Spec

/-- The text is missing or empty. -/
def isUnset : Option Text → Bool
  | none | some [] => true
  | _ => false

/-- What a spec lacks for signing, by name. -/
def missingForSigning (s : Spec) : List Text :=
  ([("endpoint", s.endpoint), ("identity", s.identity), ("credential", s.credential)].filter
    fun (_, value) => isUnset value).map fun (name, _) => Text.ofString name

/-- The signer of a spec; what it signs stays valid for a lifetime, corrected by a skew. -/
def signer? (s : Spec) (lifetime skew : Number) : Except Failure Signer :=
  if s.missingForSigning.isEmpty then
    Signer.ofCredential? s.identity (.text (s.credential.getD [])) (s.endpoint.getD [])
      (Clock.expiring lifetime skew) Signer.hmac
  else .error (.ofFault (.specIncomplete s.provider s.missingForSigning))

end CloudAccess.Spec
