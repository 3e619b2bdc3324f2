/-
# Settings from a file

A file of settings holds one JSON object in UTF-8 whose members are texts.  A member without a
value is passed over, so it hides nothing.  Line ends of every kind count as one line feed, also
where a fault tells its place.
-/
import CloudAccess.Configuration.Layers

namespace CloudAccess.Configuration

/-- The text with every carriage return, with the line feed after it if there is one, as a line
feed. -/
def unifyLineEnds : Text → Text
  | [] => []
  | c :: rest =>
    if c.val = 0x0D then
      match rest with
      | d :: more =>
        if d.val = 0x0A then .ofNat 0x0A :: unifyLineEnds more
        else .ofNat 0x0A :: unifyLineEnds (d :: more)
      | [] => [.ofNat 0x0A]
    else c :: unifyLineEnds rest

/-- The settings that the members of an object give. -/
def ofMembers (source : Text) : List (Text × Json.Value) → Except Fault (List (Text × Text))
  | [] => .ok []
  | (name, value) :: rest =>
    match value with
    | .null => ofMembers source rest
    | .text t => (ofMembers source rest).map ((name, t) :: ·)
    | other => .error (.settingNotText source name other.kindName)

/-- The settings that a JSON value gives; `source` is named in faults. -/
def ofValue (source : Text) : Json.Value → Except Fault Settings
  | .object members =>
    (ofMembers source members).map fun pairs =>
      Dictionary.ofList (pairs.map fun (k, v) => (k, some v))
  | _ => .error (.settingsNotObject source)

/-- The settings in the bytes of a file; `malformed` is the fault of a document that is not
JSON. -/
def ofBytes (source : Text) (malformed : Json.Misreading → Fault) (content : Bytes)
    (levels : Nat := Json.usualLevels) : Except Fault Settings :=
  match Utf8.decode content with
  | .error m => .error (.undecodable m)
  | .ok t =>
    match Json.read (unifyLineEnds t) levels with
    | .error (.integer misread) => .error (.misreadInteger misread)
    | .error (.tooDeep container) => .error (.tooDeep container)
    | .error misreading => .error (malformed misreading)
    | .ok value => ofValue source value

/-- The settings in the file at a path. -/
def ofFile (storage : Storage) (path : Text) (levels : Nat := Json.usualLevels) :
    Except Fault Settings :=
  match storage path with
  | .missing => .error (.fileMissing path)
  | .unreadable problem => .error (.unreadable problem)
  | .file content => ofBytes path .fileMalformed content levels

end CloudAccess.Configuration
