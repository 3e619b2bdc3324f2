/-
# Bundled defaults

The settings that come with the library, as a document among its resources and as a value.  The
two agree (`ofBytes_defaultsDocument`).
-/
import CloudAccess.Configuration.File

namespace CloudAccess.Configuration

/-- The name of the resource that holds the defaults. -/
def defaultsResource : Text := "defaults.json"

/-- The settings of the bundled defaults. -/
def defaultEntries : List (Text × Text) := [
  ("s3.endpoint", "https://s3.amazonaws.com"),
  ("s3.apiversion", "2006-03-01"),
  ("s3.sync", "s3.client"),
  ("s3.propertiesbuilder", "s3"),
  ("s3.contextbuilder", "s3"),
  ("atmos.endpoint", "https://accesspoint.atmosonline.com"),
  ("atmos.apiversion", "1.3.0"),
  ("atmos.sync", "atmos.shareurl"),
  ("atmos.propertiesbuilder", "atmos"),
  ("atmos.contextbuilder", "atmos")]

/-- The bundled defaults. -/
def defaults : Settings := Dictionary.ofList (defaultEntries.map fun (k, v) => (k, some v))

/-- The document that holds the bundled defaults: one member a line. -/
def defaultsDocument : Text :=
  let member (entry : Text × Text) : Text :=
    "  \"" ++ entry.1 ++ "\": \"" ++ entry.2 ++ "\""
  "\x7b\n" ++ Text.join ",\n" (defaultEntries.map member) ++ "\n\x7d\n"

/-- The document holds the bundled defaults. -/
theorem ofBytes_defaultsDocument :
    (ofBytes defaultsResource .defaultsMalformed
      (defaultsDocument.flatMap Utf8.encodeChar)).toOption = some defaults := by
  decide +kernel

/-- The settings in a resource of the library. -/
def ofResource (storage : Storage) (resource : Text) (levels : Nat := Json.usualLevels) :
    Except Fault Settings :=
  match storage resource with
  | .missing => .error (.defaultsMissing resource)
  | .unreadable problem => .error (.unreadable problem)
  | .file content => ofBytes resource .defaultsMalformed content levels

end CloudAccess.Configuration
