/-
# Reading JSON

A reader for JSON documents (`read`) that says what is wrong with a text and where.  It takes
the standard grammar and four liberties: the numbers `NaN`, `Infinity` and `-Infinity` are read,
an escaped surrogate may stand alone, of members with one name the last one counts, and an
integer with too many digits is a failure of its own.  So is a list or an object that stands
inside too many others: the reader has a number of levels to go down, and each one takes one of
them for as long as it is being read.

Every function returns the text that is left, and a failure says how much was left where it
arose; `read` turns that into a position.  Values nest, so `value`, `elements` and `members`
call each other; `depth` bounds the calls, and `read` gives them more than a text of that length
can use.
-/
import CloudAccess.Json.Value

namespace CloudAccess.Json

/-! ## 1. Failures -/

/-- What is wrong at a place of a document. -/
inductive Complaint where
  | expectingValue
  | expectingName
  | expectingColon
  | expectingComma
  | extraData
  | byteOrderMark
  | unterminatedText
  | controlCharacter
  | badEscape
  | badUnicodeEscape
deriving DecidableEq

/-- The wording of a complaint, without the place. -/
def Complaint.wording : Complaint → Text
  | .expectingValue => "Expecting value"
  | .expectingName => "Expecting property name enclosed in double quotes"
  | .expectingColon => "Expecting ':' delimiter"
  | .expectingComma => "Expecting ',' delimiter"
  | .extraData => "Extra data"
  | .byteOrderMark => "Unexpected UTF-8 BOM (decode using utf-8-sig)"
  | .unterminatedText => "Unterminated string starting at"
  | .controlCharacter => "Invalid control character at"
  | .badEscape => "Invalid \\escape"
  | .badUnicodeEscape => "Invalid \\uXXXX escape"

/-- What can stand inside itself. -/
inductive Container where
  | object
  | array
deriving DecidableEq

/-- The wording of a failure to go down one more level. -/
def Container.tooDeep : Container → Text
  | .object => "maximum recursion depth exceeded while decoding a JSON object from a unicode string"
  | .array => "maximum recursion depth exceeded while decoding a JSON array from a unicode string"

/-- Why reading stopped: a complaint, with the number of characters that were left, an integer that
is too long, or a container for which there was no level left. -/
inductive Stop where
  | malformed (complaint : Complaint) (left : Nat)
  | integer (misread : Integer.Misread)
  | tooDeep (container : Container)
deriving DecidableEq

/-- The result of reading a piece: the piece and the text after it. -/
abbrev Step (α : Type) := Except Stop (α × Text)

/-- A complaint about the place where `rest` begins. -/
def complain {α : Type} (complaint : Complaint) (rest : Text) : Step α :=
  .error (.malformed complaint rest.length)

/-! ## 2. Blanks, texts and numbers -/

/-- `c` is white space of JSON. -/
def isSpace (c : CodePoint) : Bool :=
  c.val == 0x20 || c.val == 0x09 || c.val == 0x0A || c.val == 0x0D

/-- The text after leading white space. -/
def skip (t : Text) : Text := t.dropWhile isSpace

/-- The character that a one-letter escape stands for. -/
def simpleEscape? (c : CodePoint) : Option CodePoint :=
  if c = '\x22' ∨ c = '\\' ∨ c = '/' then some c
  else if c = 'b' then some (.ofNat 0x08)
  else if c = 'f' then some (.ofNat 0x0C)
  else if c = 'n' then some (.ofNat 0x0A)
  else if c = 'r' then some (.ofNat 0x0D)
  else if c = 't' then some (.ofNat 0x09)
  else none

/-- The number written by four hexadecimal digits, with the text after them. -/
def fourHex? : Text → Option (Nat × Text)
  | a :: b :: c :: d :: rest => do
    let a ← a.hexValue?
    let b ← b.hexValue?
    let c ← c.hexValue?
    let d ← d.hexValue?
    some (((a * 16 + b) * 16 + c) * 16 + d, rest)
  | _ => none

/-- What the text after `\u` denotes: a code point, or the two halves of a surrogate pair.  A
document has to go on after the digits.  The failure carries the text from the `u` on that is
wrong. -/
def unicodeEscape (t : Text) : Except Text (CodePoint × Text) :=
  match fourHex? t with
  | none => .error ('u' :: t)
  | some (_, []) => .error ('u' :: t)
  | some (high, rest) =>
    let single := (CodePoint.ofNat high, rest)
    if 0xD800 ≤ high ∧ high ≤ 0xDBFF then
      match rest with
      | backslash :: u :: after =>
        if backslash = '\\' ∧ u = 'u' ∧ 5 ≤ after.length then
          match fourHex? after with
          | none => .error (u :: after)
          | some (low, left) =>
            if 0xDC00 ≤ low ∧ low ≤ 0xDFFF then
              .ok (.ofNat (0x10000 + (high - 0xD800) * 0x400 + (low - 0xDC00)), left)
            else .ok single
        else .ok single
      | _ => .ok single
    else .ok single

/-- The rest of a text whose opening quote has been read.  `opening` is how much of the
document was left at that quote.  Each round takes at least one character, so the length of
the document bounds the rounds. -/
def textBody (opening : Nat) : (rounds : Nat) → Text → Step Text
  | 0, _ => .error (.malformed .unterminatedText opening)
  | _ + 1, [] => .error (.malformed .unterminatedText opening)
  | rounds + 1, c :: rest =>
    if c = '\x22' then .ok ([], rest)
    else if c = '\\' then
      match rest with
      | [] => .error (.malformed .unterminatedText opening)
      | e :: after =>
        if e = 'u' then
          match unicodeEscape after with
          | .error bad => complain .badUnicodeEscape bad
          | .ok (d, left) => (textBody opening rounds left).map fun (t, r) => (d :: t, r)
        else
          match simpleEscape? e with
          | none => complain .badEscape (c :: rest)
          | some d => (textBody opening rounds after).map fun (t, r) => (d :: t, r)
    else if c.val ≤ 0x1F then complain .controlCharacter (c :: rest)
    else (textBody opening rounds rest).map fun (t, r) => (c :: t, r)

/-- A text, after its opening quote. -/
def textAfterQuote (t : Text) : Step Text := textBody (t.length + 1) (t.length + 1) t

/-- The leading digits and the text after them. -/
def digits (t : Text) : Text × Text := t.span CodePoint.isAsciiDigit

/-- The digits before the point: one zero, or digits that do not begin with one. -/
def wholePart? (t : Text) : Option (Text × Text) :=
  match t with
  | [] => none
  | c :: rest =>
    if c = '0' then some ([c], rest)
    else if c.isAsciiDigit then some (digits t)
    else none

/-- A decimal point with the digits after it, or nothing where no digit comes. -/
def fractionPart (t : Text) : Text × Text :=
  match t with
  | point :: d :: rest =>
    if point = '.' ∧ d.isAsciiDigit then
      let (ds, after) := digits (d :: rest)
      (point :: ds, after)
    else ([], t)
  | _ => ([], t)

/-- An exponent, or nothing where no digit comes. -/
def exponentPart (t : Text) : Text × Text :=
  match t with
  | [] => ([], t)
  | e :: rest =>
    if e = 'e' ∨ e = 'E' then
      let (signed, body) : Text × Text :=
        match rest with
        | s :: more => if s = '-' ∨ s = '+' then ([s], more) else ([], rest)
        | [] => ([], [])
      let (ds, after) := digits body
      if ds.isEmpty then ([], t) else (e :: signed ++ ds, after)
    else ([], t)

/-- A number. -/
def number (t : Text) : Step Value :=
  let (minus, body) : Text × Text :=
    match t with
    | c :: rest => if c = '-' then ([c], rest) else ([], t)
    | [] => ([], [])
  match wholePart? body with
  | none => complain .expectingValue t
  | some (ds, afterWhole) =>
    let (fraction, afterFraction) := fractionPart afterWhole
    let (exponent, rest) := exponentPart afterFraction
    if fraction.isEmpty && exponent.isEmpty then
      match Integer.read (minus ++ ds) with
      | .ok n => .ok (.whole n, rest)
      | .error misread => .error (.integer misread)
    else .ok (.real (minus ++ ds ++ fraction ++ exponent), rest)

/-- The values that are written as a word. -/
def words : List (Text × Value) :=
  [("null", .null), ("true", .flag true), ("false", .flag false), ("NaN", .real "NaN"),
    ("Infinity", .real "Infinity"), ("-Infinity", .real "-Infinity")]

/-- The value of a word at the beginning of a text, with the text after it. -/
def word? (t : Text) : Option (Value × Text) :=
  words.findSome? fun (w, v) => (Text.dropStart? w t).map (v, ·)

/-! ## 3. Values -/

/-- Go down one level into a container, if there is one. -/
def enter {α : Type} (container : Container) (levels : Nat) (inside : Nat → Step α) : Step α :=
  match levels with
  | 0 => .error (.tooDeep container)
  | levels + 1 => inside levels

mutual

/-- A value. -/
def value : (depth levels : Nat) → Text → Step Value
  | 0, _, t => complain .expectingValue t
  | _ + 1, _, [] => complain .expectingValue []
  | depth + 1, levels, c :: rest =>
    if c = '\x22' then (textAfterQuote rest).map fun (t, r) => (.text t, r)
    else if c = '\x7b' then
      enter .object levels fun levels =>
        match skip rest with
        | close :: after =>
          if close = '\x7d' then .ok (.object [], after)
          else (members depth levels [] (close :: after)).map fun (ms, r) => (.object ms, r)
        | [] => complain .expectingName []
    else if c = '[' then
      enter .array levels fun levels =>
        match skip rest with
        | close :: after =>
          if close = ']' then .ok (.list [], after)
          else (elements depth levels (close :: after)).map fun (vs, r) => (.list vs, r)
        | [] => complain .expectingValue []
    else
      match word? (c :: rest) with
      | some found => .ok found
      | none => number (c :: rest)

/-- The elements of a list that has at least one more, up to the closing bracket. -/
def elements : (depth levels : Nat) → Text → Step (List Value)
  | 0, _, t => complain .expectingValue t
  | depth + 1, levels, t =>
    match value depth levels t with
    | .error stop => .error stop
    | .ok (v, after) =>
      match skip after with
      | [] => complain .expectingComma []
      | c :: rest =>
        if c = ']' then .ok ([v], rest)
        else if c = ',' then (elements depth levels (skip rest)).map fun (vs, r) => (v :: vs, r)
        else complain .expectingComma (c :: rest)

/-- The members of an object that has at least one more, up to the closing brace, added to
those before. -/
def members :
    (depth levels : Nat) → List (Text × Value) → Text → Step (List (Text × Value))
  | 0, _, _, t => complain .expectingName t
  | _ + 1, _, _, [] => complain .expectingName []
  | depth + 1, levels, before, quote :: t =>
    if quote ≠ '\x22' then complain .expectingName (quote :: t)
    else
      match textAfterQuote t with
      | .error stop => .error stop
      | .ok (name, afterName) =>
        match skip afterName with
        | [] => complain .expectingColon []
        | colon :: rest =>
          if colon ≠ ':' then complain .expectingColon (colon :: rest)
          else
            match value depth levels (skip rest) with
            | .error stop => .error stop
            | .ok (v, afterValue) =>
              let now := Entries.put name v before
              match skip afterValue with
              | [] => complain .expectingComma []
              | c :: more =>
                if c = '\x7d' then .ok (now, more)
                else if c = ',' then members depth levels now (skip more)
                else complain .expectingComma (c :: more)

end

/-- Nothing is no value. -/
theorem value_nil (depth levels : Nat) :
    value depth levels [] = complain .expectingValue [] := by
  cases depth with
  | zero => rw [value]
  | succ depth => rw [value]

/-! ## 4. Documents -/

/-- Why a text is not read as a JSON document. -/
inductive Misreading where
  /-- A complaint about the place with this many characters before it. -/
  | malformed (complaint : Complaint) (document : Text) (position : Nat)
  | integer (misread : Integer.Misread)
  | tooDeep (container : Container)
deriving DecidableEq

/-- A place in a text, as line, column and offset. -/
def place (document : Text) (position : Nat) : Text :=
  let before := document.take position
  let line := before.count (CodePoint.ofNat 0x0A) + 1
  let column := (before.reverse.takeWhile (· ≠ CodePoint.ofNat 0x0A)).length + 1
  "line " ++ Text.ofNat line ++ " column " ++ Text.ofNat column ++ " (char " ++
    Text.ofNat position ++ ")"

/-- The wording of a failure to read. -/
def Misreading.message : Misreading → Text
  | .malformed complaint document position =>
    complaint.wording ++ ": " ++ place document position
  | .integer misread => misread.message
  | .tooDeep container => container.tooDeep

/-- The levels that the reader can go down when a program calls it that has just been started. -/
def usualLevels : Nat := 991

/-- The value that a document denotes. -/
def read (document : Text) (levels : Nat := usualLevels) : Except Misreading Value :=
  let step : Step Value :=
    if document.head? = some (.ofNat 0xFEFF) then complain .byteOrderMark document
    else
      match value (2 * document.length + 2) levels (skip document) with
      | .error stop => .error stop
      | .ok (v, after) =>
        let rest := skip after
        if rest.isEmpty then .ok (v, rest) else complain .extraData rest
  match step with
  | .ok (v, _) => .ok v
  | .error (.integer misread) => .error (.integer misread)
  | .error (.tooDeep container) => .error (.tooDeep container)
  | .error (.malformed complaint left) =>
    .error (.malformed complaint document (document.length - left))

end CloudAccess.Json
