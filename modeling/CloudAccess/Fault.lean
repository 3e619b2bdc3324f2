/-
# Faults

Everything that can go wrong, as one type of causes.  A `Fault` says what happened in terms of
the objects involved; its `category` groups it with others that are handled alike, and its
`message` is the wording that reaches a user or a log.

Extensions may raise faults of their own, with a category and a wording that they choose
(`raised`), and such a fault may count as false (`hollow`).
-/
import CloudAccess.Base64
import CloudAccess.Console.Markup
import CloudAccess.Json.Reader
import CloudAccess.Storage
import CloudAccess.Url.Basic

namespace CloudAccess

namespace Fault

/-! ## 1. Categories -/

/-- What kind of fault it is, by who is to blame or what kind of value was wrong. -/
inductive Category where
  /-- A fault of this library that belongs to no narrower category. -/
  | general
  /-- Required input is missing or unreadable. -/
  | configuration
  /-- A name is not registered. -/
  | resolution
  /-- A builder could not be constructed. -/
  | instantiation
  /-- Credentials were rejected. -/
  | authorization
  /-- A narrower kind of rejected credentials, with a name of its own. -/
  | authorizationVariant (name : Text)
  /-- A signature could not be computed. -/
  | signing
  /-- A value is out of its domain. -/
  | value
  /-- A text has no form in an encoding. -/
  | encoding
  /-- Bytes are not in an encoding. -/
  | decoding
  /-- A key is not there. -/
  | key
  /-- A value is of the wrong kind for an operation. -/
  | type
  /-- A value lacks an operation. -/
  | attribute
  /-- A number is too large for a computation. -/
  | overflow
  /-- A file cannot be read. -/
  | storage (problem : Storage.Problem)
  /-- A text is not an address. -/
  | address
  /-- An addressing style is unknown. -/
  | addressingStyle
  /-- A marked-up text has a closing tag without an opening one. -/
  | markup
  /-- Too many things stand inside each other. -/
  | recursion
  /-- Any other failure while running. -/
  | runtime
deriving DecidableEq

/-- Rejected credentials, of any kind. -/
def Category.isAuthorization : Category → Bool
  | .authorization | .authorizationVariant _ => true
  | _ => false

/-- The fault belongs to this library and is reported to the user of the command line. -/
def Category.isReported : Category → Bool
  | .general | .configuration | .resolution | .instantiation | .authorization
  | .authorizationVariant _ | .signing => true
  | _ => false

/-- The name under which a reported fault is shown. -/
def Category.title : Category → Text
  | .general => "CloudContextError"
  | .configuration => "ConfigurationError"
  | .resolution => "ResolutionError"
  | .instantiation => "InstantiationError"
  | .authorization => "AuthorizationError"
  | .authorizationVariant name => name
  | .signing => "SigningError"
  | _ => []

end Fault

/-! ## 2. Causes -/

/-- What went wrong. -/
inductive Fault where
  /-- No provider was named. -/
  | providerMissing
  | fileMissing (path : Text)
  | fileMalformed (misreading : Json.Misreading)
  | defaultsMissing (resource : Text)
  | defaultsMalformed (misreading : Json.Misreading)
  /-- The settings of a source are not an object. -/
  | settingsNotObject (source : Text)
  /-- The value of a key in a source is of the given kind and not a text. -/
  | settingNotText (source key kind : Text)
  /-- A provider's spec lacks what signing needs. -/
  | specIncomplete (provider : Text) (missing : List Text)
  | endpointMissing
  | lifetimeMalformed (misread : Integer.Misread)
  /-- No component of the kind is registered under the name. -/
  | unregistered (kind name : Text) (provider? key? : Option Text)
  /-- A configured name is blank. -/
  | blankName (provider key name : Text)
  /-- A builder in the given role could not be constructed, with the reason. -/
  | notConstructed (role builder reason : Text)
  | s3CredentialsMissing
  | atmosCredentialsMissing
  | atmosSecretRejected
  /-- A credential is not base64, with the reason. -/
  | keyMalformed (reason : Text)
  | keyEmpty
  /-- A text could not be signed, with the reason. -/
  | unsignable (reason : Text)
  | dotSegment (path : Text)
  /-- There is no kind of components of this name. -/
  | unknownKind (kind : Text)
  /-- A name of a kind is taken by another component. -/
  | alreadyRegistered (kind name component : Text)
  | keyMissing (key : Text)
  | misreadInteger (misread : Integer.Misread)
  | base64 (defect : Base64.Defect)
  | unencodable (u : Utf8.Unencodable)
  | undecodable (m : Utf8.Malformed)
  | unreadable (problem : Storage.Problem)
  /-- A container of a document stands inside too many others. -/
  | tooDeep (container : Json.Container)
  | address (rejection : Url.Rejection)
  | addressingStyle (style : Text)
  /-- A text to be shown is not well marked up. -/
  | markup (problem : Console.Markup.Problem)
  /-- A value of the given kind is not an integer, and cannot be read as one. -/
  | notInteger (kind : Text)
  /-- A value of the given kind is not a text, and cannot be decoded as one. -/
  | notEncodedText (kind : Text)
  /-- A value of the given kind cannot be run through. -/
  | notIterable (kind : Text)
  /-- An object of the given kind cannot be called. -/
  | notCallable (kind : Text)
  /-- A text is missing where one is joined to others. -/
  | textMissing
  /-- An operation on texts was asked of something else. -/
  | notText
  | numberTooLarge
  | numberInfinite
  | numberUndefined
  /-- A fault raised by an extension. -/
  | raised (category : Fault.Category) (message : Text)
  /-- A fault raised by an extension that counts as false. -/
  | hollow (category : Fault.Category) (message : Text)
deriving DecidableEq

namespace Fault

/-- The category of a fault. -/
def category : Fault → Category
  | .providerMissing | .fileMissing _ | .fileMalformed _ | .defaultsMissing _
  | .defaultsMalformed _ | .settingsNotObject _ | .settingNotText .. | .specIncomplete ..
  | .endpointMissing | .lifetimeMalformed _ => .configuration
  | .unregistered .. | .blankName .. => .resolution
  | .notConstructed .. => .instantiation
  | .s3CredentialsMissing | .atmosCredentialsMissing | .atmosSecretRejected => .authorization
  | .keyMalformed _ | .keyEmpty | .unsignable _ | .dotSegment _ => .signing
  | .unknownKind _ | .alreadyRegistered .. | .misreadInteger _ | .base64 _
  | .numberUndefined => .value
  | .keyMissing _ => .key
  | .unencodable _ => .encoding
  | .undecodable _ => .decoding
  | .unreadable problem => .storage problem
  | .tooDeep _ => .recursion
  | .address (.unencodable _) => .encoding
  | .address _ => .address
  | .addressingStyle _ => .addressingStyle
  | .markup (.component _) => .value
  | .markup _ => .markup
  | .notInteger _ | .notEncodedText _ | .notIterable _ | .notCallable _ | .textMissing => .type
  | .notText => .attribute
  | .numberTooLarge | .numberInfinite => .overflow
  | .raised category _ | .hollow category _ => category

/-- The fault counts as true where a choice asks for what does. -/
def isTruthy : Fault → Bool
  | .hollow .. => false
  | _ => true

/-- A key as a message shows it. -/
def shownKey : Option Text → Text
  | none => "None"
  | some t => t

/-- The wording of a fault. -/
def message : Fault → Text
  | .providerMissing => "provider name is required"
  | .fileMissing path => "Config file not found: " ++ path
  | .fileMalformed misreading => "Invalid JSON in config file: " ++ misreading.message
  | .defaultsMissing resource => "Bundled defaults not found: " ++ resource
  | .defaultsMalformed misreading => "Invalid JSON in bundled defaults: " ++ misreading.message
  | .settingsNotObject source =>
    "Invalid configuration in " ++ source ++ ": top level must be a JSON object"
  | .settingNotText source key kind =>
    "Invalid configuration in " ++ source ++ ": value for '" ++ key ++
      "' must be a string, got " ++ kind
  | .specIncomplete provider missing =>
    "Cannot sign for provider '" ++ provider ++ "': missing " ++ Text.join ", " missing
  | .endpointMissing => "Atmos requires an endpoint"
  | .lifetimeMalformed misread => "Invalid cloudcontext.atmos.share-ttl: " ++ misread.message
  | .unregistered kind name provider? key? =>
    "No " ++ kind ++ " registered as '" ++ name ++ "' (provider '" ++ shownKey provider? ++
      "', key '" ++ shownKey key? ++ "')"
  | .blankName provider key _ =>
    "Empty type name for '" ++ key ++ "' (provider '" ++ provider ++ "')"
  | .notConstructed role builder reason =>
    "Could not construct " ++ role ++ " " ++ builder ++ ": " ++ reason
  | .s3CredentialsMissing =>
    "S3 requires both an access key id (identity) and a secret key (credential)"
  | .atmosCredentialsMissing =>
    "Atmos requires a uid (identity) and shared secret (credential)"
  | .atmosSecretRejected => "Atmos shared secret was rejected"
  | .keyMalformed reason => "Secret key is not valid base64: " ++ reason
  | .keyEmpty => "Secret key must be non-empty bytes"
  | .unsignable reason => "Could not sign request: " ++ reason
  | .dotSegment path => "Dot segments are not allowed in resource path: " ++ path
  | .unknownKind kind => "Unknown registry kind: " ++ kind
  | .alreadyRegistered kind name component =>
    kind ++ " '" ++ name ++ "' is already registered to " ++ component
  | .keyMissing key => Text.quoted key
  | .misreadInteger misread => misread.message
  | .base64 defect => defect.message
  | .unencodable u => u.message
  | .undecodable m => m.message
  | .unreadable problem => problem.message
  | .tooDeep container => container.tooDeep
  | .address rejection => rejection.message
  | .addressingStyle style =>
    "S3 addressing style " ++ style ++
      " is invalid. Valid options are: 'auto', 'virtual', and 'path'"
  | .markup problem => problem.message
  | .notInteger kind =>
    "int() argument must be a string, a bytes-like object or a real number, not '" ++ kind ++ "'"
  | .notEncodedText kind =>
    "argument should be a bytes-like object or ASCII string, not '" ++ kind ++ "'"
  | .notIterable kind => "'" ++ kind ++ "' object is not iterable"
  | .notCallable kind => "'" ++ kind ++ "' object is not callable"
  | .textMissing => "sequence item 2: expected str instance, NoneType found"
  | .notText => "'NoneType' object has no attribute 'lower'"
  | .numberTooLarge => "int too large to convert to float"
  | .numberInfinite => "cannot convert float infinity to integer"
  | .numberUndefined => "cannot convert float NaN to integer"
  | .raised .key message | .hollow .key message => Text.quoted message
  | .raised _ message | .hollow _ message => message

end Fault

end CloudAccess
