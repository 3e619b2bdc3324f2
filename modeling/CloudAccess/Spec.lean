/-
# Specs

The resolved configuration of one provider: all that is needed to build its context.  Only the
provider's name is required.  A spec can be shown, and then a credential is replaced by stars.
-/
import CloudAccess.Component

namespace CloudAccess

/-- The resolved configuration of a provider.  What is missing is left to the builders. -/
structure Spec where
  provider : Text
  provider_ne : provider ≠ []
  endpoint : Option Text := none
  apiVersion : Option Text := none
  identity : Option Text := none
  credential : Option Text := none
  sync : Option Component := none
  async : Option Component := none
  propertiesBuilder : Option Component := none
  contextBuilder : Option Component := none
deriving DecidableEq

namespace Spec

/-- A provider's name as a spec needs it. -/
def provider? (provider : Option Text) : Except Fault { name : Text // name ≠ [] } :=
  match provider with
  | none | some [] => .error .providerMissing
  | some (c :: rest) => .ok ⟨c :: rest, by simp⟩

/-- What is shown in place of a credential. -/
def masked (credential : Option Text) : Option Text := credential.map fun _ => "***"

/-- The spec in one line. -/
def summary (s : Spec) : Text :=
  "ContextSpec(provider=" ++ Text.quoted s.provider ++
    ", endpoint=" ++ Text.quoted? s.endpoint ++
    ", api_version=" ++ Text.quoted? s.apiVersion ++
    ", identity=" ++ Text.quoted? s.identity ++
    ", credential=" ++ Text.quoted? (masked s.credential) ++
    ", sync_type=" ++ Component.shown? s.sync ++
    ", async_type=" ++ Component.shown? s.async ++ ")"

end Spec

end CloudAccess
