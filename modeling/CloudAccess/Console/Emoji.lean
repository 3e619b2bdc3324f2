/-
# Emoji by name

A name between colons, as in `:smile:`, stands for an emoji.  The name may be of either case and may
end in `-emoji` or `-text`, which asks for that form.  A name that is not known stands for itself,
and its second colon begins no other name.
-/
import CloudAccess.Console.Emoji.Table
import CloudAccess.Text.Blank
import CloudAccess.Text.Case

namespace CloudAccess.Console

/-- The form in which an emoji is shown. -/
inductive EmojiForm where
  | text
  | emoji
deriving DecidableEq

/-- The selector of a form. -/
def EmojiForm.selector : EmojiForm → CodePoint
  | .text => .ofNat 0xFE0E
  | .emoji => .ofNat 0xFE0F

namespace Emoji

/-- The number that hexadecimal digits write. -/
def hexNumber (t : Text) : Nat := t.foldl (fun n c => 16 * n + c.hexValue?.getD 0) 0

/-- Names and what they stand for. -/
def entries : List (Text × Text) :=
  emojiEntries.flatMap fun (line : String) =>
    (Text.words line).filterMap fun entry =>
      (Text.cut? '=' entry).map fun (name, codes) =>
        (name, (Text.splitOn '+' codes).map fun code => CodePoint.ofNat (hexNumber code))

/-- What a name stands for.  It is not unfolded in proofs, which would run into the whole table. -/
@[irreducible] def ofName? (name : Text) : Option Text := entries.lookup (Text.lower name)

/-- What stands between two colons, and the number of characters up to the second one. -/
structure Code where
  name : Text
  form? : Option EmojiForm
  length : Nat

/-- The code that begins after a colon; `name` is what has been read of it, the last character
first.  A blank ends the search. -/
def codeFrom (name : Text) : Text → Option Code
  | [] => none
  | c :: rest =>
    let ended (form? : Option EmojiForm) (length : Nat) : Option Code :=
      some ⟨name.reverse, form?, name.length + length⟩
    if Text.startsWith (c :: rest) "-emoji:" then ended (some .emoji) 7
    else if Text.startsWith (c :: rest) "-text:" then ended (some .text) 6
    else if c = ':' then ended none 1
    else if c.isBlank then none
    else codeFrom (c :: name) rest

/-- What the text of a code is replaced by. -/
def Code.replacement? (code : Code) : Option Text :=
  (ofName? code.name).map fun emoji => emoji ++ (code.form?.map EmojiForm.selector).toList

/-- Replace the codes in what is left of a text.  The first `copied` characters stand for themselves
and the first `skipped` ones are already replaced. -/
def replaceFrom (copied skipped : Nat) : Text → Text
  | [] => []
  | c :: rest =>
    match skipped, copied with
    | n + 1, _ => replaceFrom copied n rest
    | 0, n + 1 => c :: replaceFrom n 0 rest
    | 0, 0 =>
      if c = ':' then
        match codeFrom [] rest with
        | none => c :: replaceFrom 0 0 rest
        | some code =>
          match code.replacement? with
          | none => c :: replaceFrom code.length 0 rest
          | some emoji => emoji ++ replaceFrom 0 code.length rest
      else c :: replaceFrom 0 0 rest

/-- The text with every known emoji in place of its code. -/
def replace (t : Text) : Text := replaceFrom 0 0 t

end Emoji

end CloudAccess.Console
