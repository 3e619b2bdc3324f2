/-
# Marked-up texts

Text for the screen may hold tags in square brackets: `[bold]` opens a style, `[/bold]` closes it,
and `[/]` closes the one opened last.  A tag begins with a small letter, a number sign, an at sign
or a slash; anything else in brackets stands for itself.  A backslash takes the meaning from a tag,
and two backslashes before a tag stand for one.

What is kept of a marked-up text is what it shows (`shown`), with emoji in place of their codes and
without control characters.  Styles only matter in so far as every closing tag has to find one.

A tag may have parameters after an equals sign.  Those of a handler, a style that begins with an at
sign, are literals in a notation of their own, and are read when it is closed.  Who reads them is a
parameter here: a `Judge` tells what is wrong with them.
-/
import CloudAccess.Console.Emoji
import CloudAccess.Console.Style

namespace CloudAccess.Console

namespace Markup

/-! ## 1. What can be wrong -/

/-- Why a marked-up text is refused. -/
inductive Problem where
  /-- A closing tag names a style that is not open. -/
  | notOpen (tag : Text) (position : Nat)
  /-- There is nothing to close. -/
  | nothingOpen (position : Nat)
  /-- A component of a colour is no number. -/
  | component (misread : Integer.Misread)
  /-- The parameters of a handler cannot be read. -/
  | parameters (complaint : Text)
deriving DecidableEq

/-- The wording of a problem. -/
def Problem.message : Problem → Text
  | .notOpen tag position =>
    "closing tag '" ++ tag ++ "' at position " ++ Text.ofNat position ++
      " doesn't match any open tag"
  | .nothingOpen position =>
    "closing tag '[/]' at position " ++ Text.ofNat position ++ " has nothing to close"
  | .component misread => misread.message
  | .parameters complaint => complaint

/-- The complaint about the parameters of a handler, if there is one. -/
abbrev Judge := Text → Option Text

/-- A judge that never complains. -/
def lenient : Judge := fun _ => none

/-! ## 2. Pieces -/

/-- A piece of a marked-up text: text to show, or what stands between the brackets of a tag. -/
inductive Piece where
  | plain (t : Text)
  | tag (body : Text) (position : Nat)
deriving DecidableEq

/-- `c` may begin a tag. -/
def beginsTag (c : CodePoint) : Bool :=
  c.isAsciiLower || c = '#' || c = '/' || c = '@'

/-- What stands between an opening bracket and the closing one, if that is a tag.  The text begins
after the opening bracket. -/
def tagBody? : Text → Option Text
  | [] => none
  | c :: rest =>
    if beginsTag c then
      let body := rest.takeWhile fun d => d ≠ CodePoint.ofChar ']' && d ≠ CodePoint.ofChar '['
      if (rest.drop body.length).head? = some (.ofChar ']') then some (c :: body) else none
    else none

/-- A backslash for each of `n`. -/
def backslashes (n : Nat) : Text := List.replicate n '\\'

/-- A piece of text to show, unless it is empty. -/
def plain (t : Text) : List Piece := if t.isEmpty then [] else [.plain t]

/-- The pieces of what is left of a text, at a position.  The first `skipped` characters belong to a
tag already found, `slashes` counts the backslashes just before, and `pending` is the text before
those that is still to be shown, the last character first. -/
def piecesFrom (position skipped slashes : Nat) (pending : Text) : Text → List Piece
  | [] => plain (pending.reverse ++ backslashes slashes)
  | c :: rest =>
    match skipped with
    | n + 1 => piecesFrom (position + 1) n 0 pending rest
    | 0 =>
      if c = '\\' then piecesFrom (position + 1) 0 (slashes + 1) pending rest
      else
        match if c = '[' then tagBody? rest else none with
        | none => piecesFrom (position + 1) 0 0 (c :: (backslashes slashes ++ pending)) rest
        | some body =>
          plain pending.reverse ++ plain (backslashes (slashes / 2)) ++
            (if slashes % 2 = 1 then .plain (CodePoint.ofChar '[' :: (body ++ "]"))
              else .tag body position) ::
            piecesFrom (position + 1) (body.length + 1) 0 [] rest

/-- The pieces of a marked-up text. -/
def pieces (t : Text) : List Piece := piecesFrom 0 0 0 [] t

/-! ## 3. Opening and closing -/

/-- A style that is opened, with the parameters that stand after it, if any. -/
structure Opened where
  style : Text
  parameters : Text
deriving DecidableEq

/-- What a tag asks for. -/
inductive Tag where
  | opening (opened : Opened)
  | closing (style : Text)
  | closingLast
deriving DecidableEq

/-- The meaning of what stands between the brackets of a tag. -/
def Tag.ofBody (body : Text) : Except Integer.Misread Tag :=
  let (name, parameters) := (Text.cut? '=' body).getD (body, [])
  match name with
  | [] => (Style.normalForm []).map fun style => .opening ⟨style, parameters⟩
  | c :: rest =>
    if c = '/' then
      let style := Text.strip rest
      if style.isEmpty then .ok .closingLast else (Style.normalForm style).map .closing
    else (Style.normalForm (c :: rest)).map fun style => .opening ⟨style, parameters⟩

/-- What is left open when a style is closed: the parameters of a handler have to be readable
then. -/
def Opened.close (judge : Judge) (opened : Opened) (left : List Opened) :
    Except Problem (List Opened) :=
  if opened.style.head? = some (.ofChar '@') && !opened.parameters.isEmpty then
    match judge opened.parameters with
    | some complaint => .error (.parameters complaint)
    | none => .ok left
  else .ok left

/-- The styles that are open after a tag, the one opened last first. -/
def Tag.apply (judge : Judge) (tag : Tag) (body : Text) (position : Nat) (opened : List Opened) :
    Except Problem (List Opened) :=
  match tag with
  | .opening one => .ok (one :: opened)
  | .closing style =>
    match opened.find? (·.style = style) with
    | some one => one.close judge (opened.eraseP (·.style = style))
    | none => .error (.notOpen (CodePoint.ofChar '[' :: (body ++ "]")) position)
  | .closingLast =>
    match opened with
    | [] => .error (.nothingOpen position)
    | one :: rest => one.close judge rest

/-! ## 4. What is shown -/

/-- `c` is a control character that is not shown: the bell, a backspace, a vertical tab, a form feed
or a carriage return. -/
def isDropped (c : CodePoint) : Bool := c.val == 7 || c.val == 8 || (11 ≤ c.val && c.val ≤ 13)

/-- What a piece of text shows: an escaped bracket without its backslash, and emoji. -/
def shownPlain (t : Text) : Text :=
  (Emoji.replace (Text.replaceAll "\\[" "[" t)).filter fun c => !isDropped c

/-- What pieces show where some styles are open already. -/
def shownFrom (judge : Judge) (opened : List Opened) : List Piece → Except Problem Text
  | [] => .ok []
  | .plain t :: rest => (shownFrom judge opened rest).map (shownPlain t ++ ·)
  | .tag body position :: rest =>
    match Tag.ofBody body with
    | .error misread => .error (.component misread)
    | .ok tag =>
      match tag.apply judge body position opened with
      | .error problem => .error problem
      | .ok now => shownFrom judge now rest

/-- What a marked-up text shows. -/
def shown (judge : Judge) (t : Text) : Except Problem Text := shownFrom judge [] (pieces t)

end Markup

end CloudAccess.Console
