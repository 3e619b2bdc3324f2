/-
# Command lines

A command line is a list of words, some of which are switches: they begin with a hyphen, and the
switch may take a value.  The other words fill places, in order.  A `Grammar` says which switches
and places there are and what each does to a state; `Grammar.parse` runs a command line through
it.

Words are sorted first (`Grammar.classify`), all of them before any takes effect.  A long switch
may be cut short as long as it stays unambiguous, short switches may be run together, and a
value may be joined to its switch.  A word that begins with a hyphen and is no switch is kept
aside, unless it is a negative number or holds a space.  After the mark `--` every word fills a
place.
-/
import CloudAccess.Text.Digit
import CloudAccess.Text.Quoted

namespace CloudAccess.CommandLine

/-! ## 1. Grammars -/

/-- Why a command line was not carried out: help was asked for, or a complaint about it. -/
structure Stop where
  program : Text
  complaint? : Option Text
deriving DecidableEq

/-- The status that the program ends with. -/
def Stop.status (s : Stop) : Nat := if s.complaint?.isSome then 2 else 0

/-- The last line that the program writes about it. -/
def Stop.line (s : Stop) : Text :=
  match s.complaint? with
  | none => []
  | some complaint => s.program ++ ": error: " ++ complaint

/-- What a switch does. -/
inductive Action (σ : Type) where
  | flag (set : σ → σ)
  /-- The value may be refused with a complaint. -/
  | value (set : Text → σ → Except Text σ)
  | help

/-- The switch takes a value. -/
def Action.takesValue {σ : Type} : Action σ → Bool
  | .value _ => true
  | _ => false

/-- A switch with the names it goes by. -/
structure Switch (σ : Type) where
  names : List Text
  action : Action σ

/-- A place to be filled.  `one` takes a single word, which is missing where the word was itself
the mark; `rest` takes a word and all that follows it, switches included. -/
inductive Place (σ : Type) where
  | one (name : Text) (set : Option Text → σ → σ)
  | rest (name : Text) (set : List Text → σ → Except Stop σ)

/-- The name of a place. -/
def Place.name {σ : Type} : Place σ → Text
  | .one name _ => name
  | .rest name _ => name

/-- The switches and places of a program. -/
structure Grammar (σ : Type) where
  program : Text
  switches : List (Switch σ)
  places : List (Place σ)

/-! ## 2. Sorting the words -/

/-- A value joined to a switch, and whether an equals sign stands between them. -/
structure Joined where
  hasSign : Bool
  value : Text
deriving DecidableEq

/-- What a word is. -/
inductive Token (σ : Type) where
  | word
  | mark
  | unknown
  | switch (s : Switch σ) (name : Text) (joined? : Option Joined)

/-- The token is a switch, known or not. -/
def Token.isSwitch {σ : Type} : Token σ → Bool
  | .unknown | .switch .. => true
  | _ => false

/-- A word with its token. -/
abbrev Item (σ : Type) := Text × Token σ

namespace Grammar

variable {σ : Type}

/-- A complaint about a command line. -/
def stop {α : Type} (g : Grammar σ) (complaint : Text) : Except Stop α :=
  .error ⟨g.program, some complaint⟩

/-- A complaint about a switch. -/
def stopAt {α : Type} (g : Grammar σ) (s : Switch σ) (complaint : Text) : Except Stop α :=
  g.stop ("argument " ++ Text.join "/" s.names ++ ": " ++ complaint)

/-- Every name of every switch. -/
def named (g : Grammar σ) : List (Text × Switch σ) :=
  g.switches.flatMap fun s => s.names.map (·, s)

/-- The switch of a name. -/
def switch? (g : Grammar σ) (name : Text) : Option (Switch σ) := g.named.lookup name

/-- A hyphen. -/
def hyphen : CodePoint := '-'

/-- The word is a negative number in decimal, perhaps with a fraction; a line feed may follow. -/
def isNegativeNumber (word : Text) : Bool :=
  let isDigit (c : CodePoint) : Bool := c.digitValue?.isSome
  match word with
  | [] => false
  | c :: body =>
    let body := if body.getLast? = some (.ofNat 0x0A) then body.dropLast else body
    c = hyphen &&
      ((!body.isEmpty && body.all isDigit) ||
        (match Text.cut? '.' body with
          | none => false
          | some (whole, fraction) =>
            whole.all isDigit && !fraction.isEmpty && fraction.all isDigit))

/-- The switches that a word may be an abbreviation of or joined to, with their names. -/
def candidates (g : Grammar σ) (word : Text) : List (Switch σ × Text × Option Joined) :=
  if Text.startsWith word "--" then
    let (start, joined?) : Text × Option Joined :=
      match Text.cut? '=' word with
      | some (start, value) => (start, some ⟨true, value⟩)
      | none => (word, none)
    g.named.filterMap fun (name, s) =>
      if Text.startsWith name start then some (s, name, joined?) else none
  else
    g.named.filterMap fun (name, s) =>
      if name = word.take 2 then some (s, name, some ⟨false, word.drop 2⟩)
      else if Text.startsWith name word then some (s, name, none)
      else none

/-- What a word before the mark is. -/
def classify (g : Grammar σ) (word : Text) : Except Stop (Token σ) :=
  if word.head? ≠ some hyphen then .ok .word
  else
    match g.switch? word with
    | some s => .ok (.switch s word none)
    | none =>
      if word.length = 1 then .ok .word
      else
        let withSign? : Option (Token σ) :=
          match Text.cut? '=' word with
          | none => none
          | some (name, value) =>
            (g.switch? name).map fun s => .switch s name (some ⟨true, value⟩)
        match withSign? with
        | some token => .ok token
        | none =>
          match g.candidates word with
          | [(s, name, joined?)] => .ok (.switch s name joined?)
          | [] =>
            if isNegativeNumber word || (CodePoint.ofChar ' ') ∈ word then .ok .word
            else .ok .unknown
          | many =>
            g.stop ("ambiguous option: " ++ word ++ " could match " ++
              Text.join ", " (many.map fun (_, name, _) => name))

/-- The words of a command line with their tokens. -/
def items (g : Grammar σ) : List Text → Except Stop (List (Item σ))
  | [] => .ok []
  | word :: rest =>
    if word = "--" then .ok ((word, .mark) :: rest.map (·, .word))
    else
      match g.classify word with
      | .error stop => .error stop
      | .ok token => (g.items rest).map ((word, token) :: ·)

/-! ## 3. Switches -/

/-- What a word that is a switch asks for: switches with values that are known, an unknown
remainder, and perhaps a last switch whose value has to follow. -/
structure Cluster (σ : Type) where
  known : List (Switch σ × Option Text)
  unknown : List Text
  open? : Option (Switch σ)

/-- Refuse a value joined to a switch that takes none. -/
def refuseJoined (g : Grammar σ) (s : Switch σ) (value : Text) : Except Stop (Cluster σ) :=
  g.stopAt s ("ignored explicit argument " ++ Text.quoted value)

/-- A joined value can be read as more short switches. -/
def isCluster (name : Text) (hasSign : Bool) (first : CodePoint) : Bool :=
  (name.drop 1).head? ≠ some hyphen && !hasSign && first ≠ hyphen

/-- The switches that a joined value stands for: the value itself where the switch takes one, and
more short switches otherwise.  An equals sign after a short switch joins what follows to it. -/
def cluster (g : Grammar σ) (s : Switch σ) (name : Text) (hasSign : Bool) :
    Text → Except Stop (Cluster σ)
  | [] => if s.action.takesValue then .ok ⟨[(s, some [])], [], none⟩ else g.refuseJoined s []
  | c :: rest =>
    if s.action.takesValue then .ok ⟨[(s, some (c :: rest))], [], none⟩
    else if !isCluster name hasSign c then g.refuseJoined s (c :: rest)
    else
      let short : Text := [hyphen, c]
      match g.switch? short with
      | none => .ok ⟨[(s, none)], [hyphen :: c :: rest], none⟩
      | some next =>
        let more : Except Stop (Cluster σ) :=
          match rest with
          | [] => .ok ⟨[], [], some next⟩
          | d :: after =>
            if d = '=' then g.cluster next short true after
            else g.cluster next short false (d :: after)
        more.map fun found => { found with known := (s, none) :: found.known }

/-- Let a switch take effect. -/
def act (g : Grammar σ) (s : Switch σ) (value? : Option Text) (state : σ) : Except Stop σ :=
  match s.action, value? with
  | .help, _ => .error ⟨g.program, none⟩
  | .flag set, _ => .ok (set state)
  | .value set, some value =>
    match set value state with
    | .ok after => .ok after
    | .error complaint => g.stopAt s complaint
  | .value _, none => g.stopAt s "expected one argument"

/-- Let switches take effect, one after the other. -/
def actAll (g : Grammar σ) (state : σ) :
    List (Switch σ × Option Text) → Except Stop σ
  | [] => .ok state
  | (s, value?) :: rest =>
    match g.act s value? state with
    | .error stop => .error stop
    | .ok after => g.actAll after rest

/-- Where parsing stands: the state, the words kept aside, and the places left. -/
structure Progress (σ : Type) where
  state : σ
  aside : List Text
  places : List (Place σ)

/-- Take the switch at the head of the words, with a value that may follow it. -/
def takeSwitch (g : Grammar σ) (p : Progress σ) (word : Text) (token : Token σ)
    (rest : List (Item σ)) : Except Stop (Progress σ × List (Item σ)) :=
  match token with
  | .switch s name joined? =>
    let asked : Except Stop (Cluster σ) :=
      match joined? with
      | none => .ok ⟨[], [], some s⟩
      | some joined => g.cluster s name joined.hasSign joined.value
    match asked with
    | .error stop => .error stop
    | .ok c =>
      let withOpen : Except Stop (List (Switch σ × Option Text) × List (Item σ)) :=
        match c.open? with
        | none => .ok (c.known, rest)
        | some last =>
          if last.action.takesValue then
            match rest with
            | (value, .word) :: after => .ok (c.known ++ [(last, some value)], after)
            | _ => g.stopAt last "expected one argument"
          else .ok (c.known ++ [(last, none)], rest)
      match withOpen with
      | .error stop => .error stop
      | .ok (actions, after) =>
        (g.actAll p.state actions).map fun state =>
          ({ p with state, aside := p.aside ++ c.unknown }, after)
  | _ => .ok ({ p with aside := p.aside ++ [word] }, rest)

/-! ## 4. Places -/

/-- The mark at the head of words, and the words after it. -/
def marks : List (Item σ) → List Text × List (Item σ)
  | (word, .mark) :: rest =>
    let (more, after) := marks rest
    (word :: more, after)
  | items => ([], items)

/-- The words that a place takes, with the words after them; none where it cannot be filled. -/
def fill (place : Place σ) (items : List (Item σ)) : Option (List Text × List (Item σ)) :=
  let (before, items) := marks items
  match items with
  | (word, .word) :: rest =>
    match place with
    | .one .. =>
      let (after, left) := marks rest
      some (before ++ word :: after, left)
    | .rest .. => some (before ++ word :: rest.map (·.1), [])
  | _ => none

/-- Put words into a place. -/
def put (place : Place σ) (words : List Text) (state : σ) : Except Stop σ :=
  match place with
  | .one _ set => .ok (set (words.erase "--").head? state)
  | .rest _ set => set words state

/-- Fill as many places as possible. -/
def fillPlaces (state : σ) : List (Place σ) → List (Item σ) →
    Except Stop (σ × List (Place σ) × List (Item σ))
  | [], items => .ok (state, [], items)
  | place :: places, items =>
    match fill place items with
    | none => .ok (state, place :: places, items)
    | some (words, after) =>
      match put place words state with
      | .error stop => .error stop
      | .ok state => fillPlaces state places after

/-- Fill places and note the progress. -/
def takePlaces (p : Progress σ) (items : List (Item σ)) :
    Except Stop (Progress σ × List (Item σ)) :=
  (fillPlaces p.state p.places items).map fun (state, places, rest) =>
    ({ p with state, places }, rest)

/-! ## 5. Whole command lines -/

/-- Take places and switches in turn until no switch is left; each round takes at least one
word. -/
def run (g : Grammar σ) (p : Progress σ) :
    (rounds : Nat) → List (Item σ) → Except Stop (Progress σ × List (Item σ))
  | 0, items => .ok (p, items)
  | rounds + 1, items =>
    let (before, after) := items.span fun item => !item.2.isSwitch
    match after with
    | [] => .ok (p, items)
    | (word, token) :: rest =>
      if before.isEmpty then
        match g.takeSwitch p word token rest with
        | .error stop => .error stop
        | .ok (p, left) => g.run p rounds left
      else
        match takePlaces p items with
        | .error stop => .error stop
        | .ok (p, left) =>
          if left.length < items.length then g.run p rounds left
          else
            match g.takeSwitch { p with aside := p.aside ++ before.map (·.1) } word token rest with
            | .error stop => .error stop
            | .ok (p, left) => g.run p rounds left

/-- The state after a command line, and the words that have found no use. -/
def parse (g : Grammar σ) (initial : σ) (words : List Text) : Except Stop (σ × List Text) :=
  match g.items words with
  | .error stop => .error stop
  | .ok items =>
    match g.run ⟨initial, [], g.places⟩ (items.length + 1) items with
    | .error stop => .error stop
    | .ok (p, left) =>
      match takePlaces p left with
      | .error stop => .error stop
      | .ok (p, left) =>
        if p.places.isEmpty then .ok (p.state, p.aside ++ left.map (·.1))
        else
          g.stop ("the following arguments are required: " ++
            Text.join ", " (p.places.map Place.name))

end Grammar

end CloudAccess.CommandLine
