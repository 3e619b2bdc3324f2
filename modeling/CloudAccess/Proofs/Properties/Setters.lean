/-
# Setters, key by key

A setter speaks of the keys that it sets or takes away, and leaves the others alone (`says?`,
`get?_apply`).  After any number of setters a key holds what the last one that speaks of it says,
and what it held before where none does (`get?_foldl_apply`).
-/
import CloudAccess.Proofs.Dictionary
import CloudAccess.Properties

namespace CloudAccess.Properties.Setter

/-- What a setter says about a key: nothing, or what is found there from then on, if anything
is. -/
def says? (setter : Setter) (key : Text) : Option (Option (Option Text)) :=
  match setter with
  | .provider name => if key = providerKey then some (some name) else none
  | .apiVersion version => if key = apiVersionKey then some (some version) else none
  | .credentials identity credential =>
    if key = identityKey then some (some identity)
    else if key = credentialKey then some (credential.map some)
    else none
  | .endpoint uri => if key = endpointKey then some (some uri) else none

theorem keys_nodup :
    [providerKey, apiVersionKey, endpointKey, identityKey, credentialKey].Nodup := by
  decide +kernel

/-- The keys that setters speak of are different ones. -/
theorem keys_ne :
    (providerKey ≠ apiVersionKey ∧ providerKey ≠ endpointKey ∧ providerKey ≠ identityKey ∧
        providerKey ≠ credentialKey) ∧
      (apiVersionKey ≠ endpointKey ∧ apiVersionKey ≠ identityKey ∧
        apiVersionKey ≠ credentialKey) ∧
      (endpointKey ≠ identityKey ∧ endpointKey ≠ credentialKey) ∧
      identityKey ≠ credentialKey := by
  simpa only [List.nodup_cons, List.mem_cons, List.not_mem_nil, or_false, not_or, not_false_eq_true,
    List.nodup_nil, and_true] using keys_nodup

theorem identityKey_ne_credentialKey : identityKey ≠ credentialKey := keys_ne.2.2.2

theorem get?_insert_eq_getD (p : Properties) (set key : Text) (value : Option Text) :
    (p.insert set value).get? key
      = (if key = set then some (some value) else none).getD (p.get? key) := by
  rw [Dictionary.get?_insert]
  by_cases h : key = set
  · rw [if_pos h.symm, if_pos h, Option.getD_some]
  · rw [if_neg (Ne.symm h), if_neg h, Option.getD_none]

/-- **A setter changes what it speaks of and nothing else.** -/
theorem get?_apply (p : Properties) (setter : Setter) (key : Text) :
    (setter.apply p).get? key = (setter.says? key).getD (p.get? key) := by
  cases setter with
  | provider name => exact get?_insert_eq_getD p providerKey key name
  | apiVersion version => exact get?_insert_eq_getD p apiVersionKey key version
  | endpoint uri => exact get?_insert_eq_getD p endpointKey key uri
  | credentials identity credential =>
    -- the credential is set, or taken away, after the identity
    have hlast : (apply p (.credentials identity credential)).get? key
        = if credentialKey = key then credential.map some
          else (p.insert identityKey identity).get? key := by
      cases credential with
      | none => exact Dictionary.get?_erase (p.insert identityKey identity) credentialKey key
      | some c =>
        exact Dictionary.get?_insert (p.insert identityKey identity) credentialKey key (some c)
    rw [hlast, Dictionary.get?_insert, says?]
    by_cases hidentity : key = identityKey
    · have hcredential : credentialKey ≠ key :=
        fun h => identityKey_ne_credentialKey (hidentity.symm.trans h.symm)
      rw [if_neg hcredential, if_pos hidentity.symm, if_pos hidentity, Option.getD_some]
    · rw [if_neg (Ne.symm hidentity), if_neg hidentity]
      by_cases hcredential : key = credentialKey
      · rw [if_pos hcredential.symm, if_pos hcredential, Option.getD_some]
      · rw [if_neg (Ne.symm hcredential), if_neg hcredential, Option.getD_none]

/-- **The last setter that speaks of a key counts.** -/
theorem get?_foldl_apply (setters : List Setter) (p : Properties) (key : Text) :
    (setters.foldl apply p).get? key
      = (setters.reverse.findSome? (·.says? key)).getD (p.get? key) := by
  induction setters generalizing p with
  | nil => rfl
  | cons setter rest ih =>
    rw [List.foldl_cons, ih, get?_apply, List.reverse_cons, List.findSome?_append]
    cases rest.reverse.findSome? (·.says? key) with
    | some said => rfl
    | none =>
      rw [Option.getD_none, Option.none_or, List.findSome?_singleton]

/-- Properties start from the overrides, and from the defaults where those are silent. -/
theorem get?_seed (defaults : Properties) (overrides : Option Settings) (key : Text) :
    (seed defaults overrides).get? key
      = (overrides.bind (·.get? key)).or (defaults.get? key) := by
  cases overrides with
  | none => rfl
  | some o => exact Dictionary.get?_merge defaults o key

end CloudAccess.Properties.Setter
