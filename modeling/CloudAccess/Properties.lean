/-
# Context properties

The properties of a context are settings under well-known keys, together with whatever a
provider's defaults and the caller's overrides bring along.  A properties builder starts from
those (`seed`) and then applies setters, one after the other; what is built at any time is what
has been collected so far.
-/
import CloudAccess.Component

namespace CloudAccess

/-- The properties of a context, by key. -/
abbrev Properties := Settings

namespace Properties

/-! ## 1. Keys -/

def providerKey : Text := "cloudcontext.provider"
def apiVersionKey : Text := "cloudcontext.api-version"
def identityKey : Text := "cloudcontext.identity"
def credentialKey : Text := "cloudcontext.credential"
def endpointKey : Text := "cloudcontext.endpoint"
def regionKey : Text := "cloudcontext.s3.region"
def addressingStyleKey : Text := "cloudcontext.s3.addressing-style"
def signatureVersionKey : Text := "cloudcontext.s3.signature-version"
def shareLifetimeKey : Text := "cloudcontext.atmos.share-ttl"

/-- The properties that a bundled builder starts from. -/
def defaults : Flavour → Properties
  | .generic => Dictionary.empty
  | .s3 =>
    Dictionary.ofList [(regionKey, some "us-east-1"), (addressingStyleKey, some "path"),
      (signatureVersionKey, some "s3v4")]
  | .atmos => Dictionary.ofList [(shareLifetimeKey, some "3600")]

/-! ## 2. Setters -/

/-- Something to be set while properties are collected. -/
inductive Setter where
  | provider (name : Option Text)
  | apiVersion (version : Option Text)
  | credentials (identity credential : Option Text)
  | endpoint (uri : Option Text)
deriving DecidableEq

/-- The properties after a setter.  Setting an identity without a credential takes away any
credential that is there. -/
def Setter.apply (p : Properties) : Setter → Properties
  | .provider name => p.insert providerKey name
  | .apiVersion version => p.insert apiVersionKey version
  | .credentials identity credential =>
    let p := p.insert identityKey identity
    match credential with
    | none => p.erase credentialKey
    | some c => p.insert credentialKey (some c)
  | .endpoint uri => p.insert endpointKey uri

/-- The stage of a builder's life that a setter is. -/
def Setter.stage : Setter → Stage
  | .provider _ => .provider
  | .apiVersion _ => .apiVersion
  | .credentials .. => .credentials
  | .endpoint _ => .endpoint

/-- What a setter is called with. -/
def Setter.arguments : Setter → List (Option Text)
  | .provider name => [name]
  | .apiVersion version => [version]
  | .credentials identity credential => [identity, credential]
  | .endpoint uri => [uri]

/-- The properties to start from: overrides win over defaults. -/
def seed (defaults : Properties) (overrides : Option Settings) : Properties :=
  match overrides with
  | none => defaults
  | some o => defaults.merge o

/-! ## 3. A builder at work -/

/-- A call that a properties builder answers. -/
inductive Request where
  | set (setter : Setter)
  | build
deriving DecidableEq

/-- The properties collected after a call; a build takes nothing away. -/
def Request.perform (p : Properties) : Request → Properties
  | .set setter => setter.apply p
  | .build => p

/-- The properties collected after a row of calls. -/
def collect (p : Properties) (calls : List Request) : Properties := calls.foldl Request.perform p

/-- What the builds in a row of calls return: each the properties collected until then. -/
def builds (p : Properties) : List Request → List Properties
  | [] => []
  | .set setter :: rest => builds (setter.apply p) rest
  | .build :: rest => p :: builds p rest

/-! ## 4. Reading properties -/

/-- A property that is there and not empty. -/
def filled? (p : Properties) (key : Text) : Option Text :=
  match p.get? key with
  | some (some (c :: rest)) => some (c :: rest)
  | _ => none

/-- A property, or a value to fall back to where the key is not there. -/
def getD (p : Properties) (key : Text) (fallback : Option Text) : Option Text :=
  (p.get? key).getD fallback

end Properties

end CloudAccess
