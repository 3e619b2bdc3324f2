/-
# The sheet of a spec

What is shown of a resolved spec: a row for each field, a hyphen where a field is missing or empty,
and stars in place of a credential.
-/
import CloudAccess.Console.Sheet
import CloudAccess.Spec

namespace CloudAccess.Spec

/-- What is shown in place of nothing. -/
def absent : Text := "-"

/-- A field as it is shown. -/
def shownField : Option Text → Text
  | none | some [] => absent
  | some t => t

/-- A credential as it is shown: whether it is there is all that can be seen. -/
def shownCredential : Option Text → Text
  | none | some [] => absent
  | some _ => "***"

/-- The type of a component as it is shown. -/
def shownType (component : Option Component) : Text :=
  (component.map Component.typeName).getD absent

/-- The rows that show a spec. -/
def rows (s : Spec) : List (Text × Text) := [
  ("provider", s.provider),
  ("endpoint", shownField s.endpoint),
  ("api version", shownField s.apiVersion),
  ("identity", shownField s.identity),
  ("credential", shownCredential s.credential),
  ("sync type", shownType s.sync),
  ("async type", shownType s.async),
  ("properties builder", shownType s.propertiesBuilder),
  ("context builder", shownType s.contextBuilder)]

/-- The sheet that shows a spec. -/
def sheet (s : Spec) : Console.Sheet where
  title := "Context spec: " ++ s.provider
  headings := ("Field", "Value")
  rows := s.rows

/-- The spec as text on a screen of the given width. -/
def render (s : Spec) (width : Nat) (judge : Console.Markup.Judge := Console.Markup.lenient) :
    Except Fault Text :=
  (s.sheet.render width judge).mapError .markup

end CloudAccess.Spec
