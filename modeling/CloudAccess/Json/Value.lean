/-
# JSON values

What a JSON document denotes.  Integers are exact.  A number with a fraction or an exponent
keeps its written form, since nothing here computes with it.  The members of an object have
distinct names, in the order in which the names first occurred.
-/
import CloudAccess.Dictionary
import CloudAccess.Text.Integer

namespace CloudAccess.Json

/-- A JSON value. -/
inductive Value where
  | null
  | flag (b : Bool)
  | whole (n : Int)
  | real (written : Text)
  | text (t : Text)
  | list (items : List Value)
  | object (members : List (Text × Value))

namespace Value

instance : Inhabited Value := ⟨.null⟩

/-- The name of a value's kind. -/
def kindName : Value → Text
  | .null => "NoneType"
  | .flag _ => "bool"
  | .whole _ => "int"
  | .real _ => "float"
  | .text _ => "str"
  | .list _ => "list"
  | .object _ => "dict"

end Value

end CloudAccess.Json
