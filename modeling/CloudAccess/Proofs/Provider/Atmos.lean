/-
# The signer of an Atmos client

There are two ways from a spec to a signer.  A spec can be asked for one directly, and then the
fields that it needs are looked at together.  Or a context is built from it: then the fields become
properties, the properties are accepted, with a lifetime that is written as a text, and the client
is made later, each with checks of its own.

Both ways lead to the same signer, and where one ends in a failure, so does the other
(`client_iff_signer`).  What is said of them is `Spec.signer?_eq_ok_iff` on one side, and
`accept_eq_ok_iff` on the other.
-/
import CloudAccess.Proofs.Context.Build
import CloudAccess.Proofs.Factory.Properties
import CloudAccess.Proofs.Text.Decimal
import CloudAccess.Signing.Spec

namespace CloudAccess

/-! ## 1. The signer of a spec -/

namespace Spec

theorem isUnset_eq_false_iff {o : Option Text} : isUnset o = false ↔ ∃ t, o = some t ∧ t ≠ [] := by
  rcases o with _ | _ | ⟨c, rest⟩ <;> simp [isUnset]

/-- Nothing is missing for signing. -/
theorem isEmpty_missingForSigning_iff {s : Spec} :
    s.missingForSigning.isEmpty = true ↔
      isUnset s.endpoint = false ∧ isUnset s.identity = false ∧ isUnset s.credential = false := by
  rw [List.isEmpty_iff, missingForSigning, List.map_eq_nil_iff, List.filter_eq_nil_iff]
  simp only [List.forall_mem_cons, Bool.not_eq_true]
  simp

/-- **When a spec has a signer:** nothing of what it needs is missing or empty, the credential is
the base64 form of a key, and a signer can be made with the key. -/
theorem signer?_eq_ok_iff {s : Spec} {lifetime skew : Number} {signer : Signer} :
    s.signer? lifetime skew = .ok signer ↔
      ∃ identity credential endpoint key, s.identity = some identity ∧ identity ≠ [] ∧
        s.credential = some credential ∧ credential ≠ [] ∧
        s.endpoint = some endpoint ∧ endpoint ≠ [] ∧
        (EncodedKey.text credential).decode = .ok key ∧
        Signer.create? (some identity) (some key) endpoint (Clock.expiring lifetime skew)
          Signer.hmac = .ok signer := by
  rw [signer?]
  constructor
  · intro h
    split at h
    · next hmissing =>
      obtain ⟨hendpoint, hidentity, hcredential⟩ := isEmpty_missingForSigning_iff.mp hmissing
      obtain ⟨endpoint, hendpoint, hendpoint_ne⟩ := isUnset_eq_false_iff.mp hendpoint
      obtain ⟨identity, hidentity, hidentity_ne⟩ := isUnset_eq_false_iff.mp hidentity
      obtain ⟨credential, hcredential, hcredential_ne⟩ := isUnset_eq_false_iff.mp hcredential
      rw [hendpoint, hidentity, hcredential, Signer.ofCredential?] at h
      simp only [Option.getD_some] at h
      split at h
      · cases h
      · next key hkey =>
        refine ⟨identity, credential, endpoint, key, hidentity, hidentity_ne, hcredential,
          hcredential_ne, hendpoint, hendpoint_ne, hkey, ?_⟩
        cases hmade : Signer.create? (some identity) (some key) endpoint
            (Clock.expiring lifetime skew) Signer.hmac with
        | error fault =>
          rw [hmade] at h
          cases h
        | ok made =>
          rw [hmade] at h
          cases h
          rfl
    · cases h
  · rintro ⟨identity, credential, endpoint, key, hidentity, hidentity_ne, hcredential,
      hcredential_ne, hendpoint, hendpoint_ne, hkey, hmade⟩
    have hmissing := isEmpty_missingForSigning_iff.mpr
      ⟨isUnset_eq_false_iff.mpr ⟨endpoint, hendpoint, hendpoint_ne⟩,
        isUnset_eq_false_iff.mpr ⟨identity, hidentity, hidentity_ne⟩,
        isUnset_eq_false_iff.mpr ⟨credential, hcredential, hcredential_ne⟩⟩
    rw [if_pos hmissing, hidentity, hcredential, hendpoint, Signer.ofCredential?]
    simp only [Option.getD_some, hkey, hmade]
    rfl

end Spec

/-! ## 2. Accepted properties -/

namespace Properties

theorem filled?_eq_some_iff {p : Properties} {key t : Text} :
    p.filled? key = some t ↔ p.get? key = some (some t) ∧ t ≠ [] := by
  rw [filled?]
  rcases p.get? key with _ | _ | _ | ⟨c, rest⟩ <;> simp
  rintro rfl
  simp

end Properties

namespace Atmos

open Properties

/-- **What is accepted:** an identity, a credential and an endpoint that are there and not empty,
where the credential is the base64 form of the key and the lifetime an integer. -/
theorem accept_eq_ok_iff {p : Properties} {handled? : Option Failure} {accepted : Accepted} :
    accept p handled? = .ok accepted ↔
      ∃ identity credential endpoint, p.filled? identityKey = some identity ∧
        p.filled? credentialKey = some credential ∧ p.filled? endpointKey = some endpoint ∧
        (EncodedKey.text credential).decode handled? = .ok accepted.key ∧
        lifetime? p = .ok accepted.lifetime := by
  constructor
  · intro h
    rw [accept] at h
    split at h
    · next identity credential hidentity hcredential =>
      split at h
      · cases h
      · next key hkey =>
        split at h
        · cases h
        · next hendpoint =>
          rw [Option.isNone_iff_eq_none] at hendpoint
          obtain ⟨endpoint, hendpoint⟩ := Option.ne_none_iff_exists'.mp hendpoint
          split at h
          · next lifetime hlifetime =>
            cases h
            exact ⟨identity, credential, endpoint, hidentity, hcredential, hendpoint, hkey,
              hlifetime⟩
          · cases h
          · cases h
    · cases h
  · rintro ⟨identity, credential, endpoint, hidentity, hcredential, hendpoint, hkey, hlifetime⟩
    rw [accept, hidentity, hcredential]
    simp only [hkey, hendpoint, hlifetime, Option.isNone_some, Bool.false_eq_true, ↓reduceIte]

/-! ## 3. Both ways -/

/-- The properties of a spec that is given a lifetime: what the spec knows, under the keys of the
properties, and the lifetime as a text. -/
structure Mirrors (s : Spec) (lifetime : Int) (p : Properties) : Prop where
  identity : p.get? identityKey = s.identity.map some
  credential : ∀ identity, s.identity = some identity →
    p.get? credentialKey = s.credential.map some
  endpoint : p.get? endpointKey = s.endpoint.map some
  lifetime : p.get? shareLifetimeKey = some (some (Integer.write lifetime))

theorem filled?_of_map {p : Properties} {key : Text} {o : Option Text}
    (h : p.get? key = o.map some) {t : Text} : p.filled? key = some t ↔ o = some t ∧ t ≠ [] := by
  rw [filled?_eq_some_iff, h]
  cases o with
  | none => simp
  | some u => simp

/-- **Both ways lead to the same signer.** -/
theorem client_iff_signer {s : Spec} {lifetime : Int} {p : Properties}
    (h : Mirrors s lifetime p) (hwritable : Integer.isWritable lifetime = true)
    {signer : Signer} :
    (∃ accepted, accept p = .ok accepted ∧ signer? p accepted = .ok signer) ↔
      s.signer? (.whole lifetime) (.whole 0) = .ok signer := by
  have hlifetime : lifetime? p = .ok lifetime := by
    rw [lifetime?, h.lifetime]
    simp only [Integer.read_write hwritable]
    rfl
  simp only [accept_eq_ok_iff, Spec.signer?_eq_ok_iff, filled?_of_map h.identity,
    filled?_of_map h.endpoint]
  constructor
  · rintro ⟨accepted, ⟨identity, credential, endpoint, ⟨hidentity, hidentity_ne⟩, hcredential,
      ⟨hendpoint, hendpoint_ne⟩, hkey, hread⟩, hmade⟩
    rw [filled?_of_map (h.credential identity hidentity)] at hcredential
    obtain ⟨hcredential, hcredential_ne⟩ := hcredential
    refine ⟨identity, credential, endpoint, accepted.key, hidentity, hidentity_ne, hcredential,
      hcredential_ne, hendpoint, hendpoint_ne, hkey, ?_⟩
    have hsame : accepted.lifetime = lifetime := by
      rw [hlifetime] at hread
      cases hread
      rfl
    rw [signer?, getD, getD, h.identity, h.endpoint, hidentity, hendpoint, hsame] at hmade
    exact hmade
  · rintro ⟨identity, credential, endpoint, key, hidentity, hidentity_ne, hcredential,
      hcredential_ne, hendpoint, hendpoint_ne, hkey, hmade⟩
    refine ⟨⟨key, lifetime⟩, ⟨identity, credential, endpoint, ⟨hidentity, hidentity_ne⟩,
      (filled?_of_map (h.credential identity hidentity)).mpr ⟨hcredential, hcredential_ne⟩,
      ⟨hendpoint, hendpoint_ne⟩, hkey, hlifetime⟩, ?_⟩
    rw [signer?, getD, getD, h.identity, h.endpoint, hidentity, hendpoint]
    exact hmade

end Atmos

end CloudAccess
