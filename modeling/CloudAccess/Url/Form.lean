/-
# Form-encoded pairs

The query of an address as a list of named values: `name=value` pairs between ampersands, with
a plus sign for a space and percent escapes for whatever could be mistaken.
-/
import CloudAccess.Url.Escape

namespace CloudAccess.Url.Form

/-- One name or value in its encoded form. -/
def encodeField (t : Text) : Except Utf8.Unencodable Text :=
  (escape (fun c => isUnreserved c || c.val == 0x20) t).map fun e =>
    e.map fun c => if c.val = 0x20 then .ofNat 0x2B else c

/-- A pair in its encoded form. -/
def encodePair (name value : Text) : Except Utf8.Unencodable Text :=
  match encodeField name with
  | .error u => .error u
  | .ok n =>
    match encodeField value with
    | .error u => .error u
    | .ok v => .ok (n ++ ("=" : Text) ++ v)

/-- The pairs in their encoded form. -/
def encode (pairs : List (Text × Text)) : Except Utf8.Unencodable Text :=
  (pairs.mapM fun (name, value) => encodePair name value).map (Text.join ['&'])

/-- The text of an encoded name or value. -/
def decodeField (t : Text) : Text :=
  unescape (t.map fun c => if c.val = 0x2B then .ofNat 0x20 else c)

/-- The pair that a piece between two ampersands denotes.  Without an equals sign the value is
empty. -/
def decodePair (t : Text) : Text × Text :=
  match Text.cut? '=' t with
  | some (name, value) => (decodeField name, decodeField value)
  | none => (decodeField t, [])

/-- The pairs of an encoded text, in order.  Empty pieces are passed over. -/
def decode (t : Text) : List (Text × Text) :=
  ((Text.splitOn '&' t).filter (!·.isEmpty)).map decodePair

/-- The value of the first pair with the given name. -/
def first? (name : Text) (pairs : List (Text × Text)) : Option Text := pairs.lookup name

end CloudAccess.Url.Form
