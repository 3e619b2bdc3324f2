/-
# Atmos

Share addresses for the objects of an Atmos namespace.  Properties are accepted in two steps: at
first the identity, the secret, the presence of an endpoint and the lifetime (`accept`), later,
when the client is made, the endpoint as an address (`signer?`).
-/
import CloudAccess.Properties
import CloudAccess.Signing.Signer

namespace CloudAccess.Atmos

/-- What is read off accepted properties: the key and the lifetime of what it signs. -/
structure Accepted where
  key : Bytes
  lifetime : Int
deriving DecidableEq

/-- The lifetime that properties set: one hour where they are silent. -/
def lifetime? (p : Properties) : Except Fault Int :=
  match p.get? Properties.shareLifetimeKey with
  | none => .ok Clock.defaultLifetime
  | some none => .error (.notInteger "NoneType")
  | some (some t) => (Integer.read t).mapError .misreadInteger

/-- Accept properties, or reject them: credentials first, then the endpoint, then the lifetime.  A
rejection arises in the context of what is being handled. -/
def accept (p : Properties) (handled? : Option Failure := none) : Except Failure Accepted :=
  match Properties.filled? p Properties.identityKey,
      Properties.filled? p Properties.credentialKey with
  | some _, some secret =>
    match (EncodedKey.text secret).decode handled? with
    | .error failure => .error (.wrap .atmosSecretRejected failure)
    | .ok key =>
      if (Properties.filled? p Properties.endpointKey).isNone then
        .error (.arising handled? .endpointMissing)
      else
        match lifetime? p with
        | .ok lifetime => .ok ⟨key, lifetime⟩
        | .error (.misreadInteger misread) =>
          .error (.wrap (.lifetimeMalformed misread) (.arising handled? (.misreadInteger misread)))
        | .error fault => .error (.arising handled? fault)
  | _, _ => .error (.arising handled? .atmosCredentialsMissing)

/-- What is being handled has no part in what is accepted. -/
theorem accept_eq_ok {p : Properties} {handled? : Option Failure} {accepted : Accepted}
    (h : accept p handled? = .ok accepted) : accept p = .ok accepted := by
  rw [accept] at h ⊢
  split at h
  · split at h
    · cases h
    · next key hkey =>
      rw [EncodedKey.decode_eq_ok hkey]
      split at h
      · cases h
      · next hendpoint =>
        split at h
        · next lifetime hlifetime =>
          cases h
          simp only [hendpoint, Bool.false_eq_true, ↓reduceIte]
        · cases h
        · cases h
  · cases h

/-- The signer for accepted properties. -/
def signer? (p : Properties) (a : Accepted) : Except Fault Signer :=
  Signer.create? (Properties.getD p Properties.identityKey none) (some a.key)
    ((Properties.getD p Properties.endpointKey none).getD []) (Clock.lasting a.lifetime)
    Signer.hmac

end CloudAccess.Atmos
