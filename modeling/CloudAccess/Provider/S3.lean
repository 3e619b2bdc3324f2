/-
# S3

The client of an S3 service, as far as it is made here: the settings it is called with.  It is made
by a library of its own, which may refuse settings for reasons that are not known here.
-/
import CloudAccess.Properties

namespace CloudAccess.S3

/-- What a client of S3 is made with. -/
structure Client where
  endpoint : Option Text
  accessKeyId : Option Text
  secretAccessKey : Option Text
  region : Option Text
  signatureVersion : Option Text
  addressingStyle : Option Text
deriving DecidableEq

/-- The credentials of S3 are complete. -/
def checkCredentials (p : Properties) : Except Fault Unit :=
  if (Properties.filled? p Properties.identityKey).isSome &&
      (Properties.filled? p Properties.credentialKey).isSome then
    .ok ()
  else .error .s3CredentialsMissing

/-- The ways of addressing buckets. -/
def addressingStyles : List Text := ["virtual", "auto", "path"]

/-- What the service's own library finds wrong with a client that it is asked to make. -/
abbrev Refusals := Client → Option Fault

/-- The client that properties describe.  The addressing style has to be a known one, or left open;
after that the service's own library may refuse the client. -/
def Client.ofProperties (p : Properties) (refused : Refusals := fun _ => none) :
    Except Fault Client :=
  let get (key : Text) : Option Text := Properties.getD p key none
  let client : Client :=
    { endpoint := get Properties.endpointKey
      accessKeyId := get Properties.identityKey
      secretAccessKey := get Properties.credentialKey
      region := get Properties.regionKey
      signatureVersion := Properties.getD p Properties.signatureVersionKey (some "s3v4")
      addressingStyle := Properties.getD p Properties.addressingStyleKey (some "path") }
  match client.addressingStyle.filter (· ∉ addressingStyles), refused client with
  | some style, _ => .error (.addressingStyle style)
  | none, some fault => .error fault
  | none, none => .ok client

end CloudAccess.S3
