/-
# Command lines that are read back

Every call of the signing command can be written as a command line, and is what that line is read
as.  There are two ways to write it.  A provider and a path that do not begin with a hyphen can
stand at the front (`ofWords_plain`); whatever they begin with, they can come last, after the mark
that ends the switches (`ofWords_marked`).

A line passes through two grammars.  That of the program only wants the name of the command and
hands the rest on, whatever it is; that of the command sorts the words and lets them take effect
one by one.
-/
import CloudAccess.Proofs.CommandLine.Grammar
import CloudAccess.Proofs.Text.Decimal

namespace CloudAccess.CommandLine

/-! ## 1. The switches of the signing command -/

/-- The grammar of the signing command. -/
def signGrammar : Grammar Arguments := Command.sign.grammar

theorem names_signGrammar : ∀ p ∈ signGrammar.named, CodePoint.ofChar '=' ∉ p.1 := by
  decide

/-- A switch with its value, if there is one. -/
def optional (name : Text) (value? : Option Text) : List (Text × Text) :=
  (value?.map fun value => (name, value)).toList

/-- An override that is read back as it was written. -/
structure IsOverride (entry : Text × Text) : Prop where
  key_ne : entry.1 ≠ []
  unsigned : CodePoint.ofChar '=' ∉ entry.1
  stripped : Text.strip entry.1 = entry.1

/-- The overrides as switches. -/
def defineOptions (entries : List (Text × Text)) : List (Text × Text) :=
  entries.map fun entry => ("--define", joined entry.1 entry.2)

theorem sets_config (value? : Option Text) (a : Arguments) :
    Grammar.Sets signGrammar (optional "--config" value?) a
      { a with config := value?.or a.config } := by
  cases value? with
  | none => exact .nil
  | some value => exact .cons rfl (by decide) rfl rfl rfl .nil

theorem sets_identity (value? : Option Text) (a : Arguments) :
    Grammar.Sets signGrammar (optional "--identity" value?) a
      { a with identity := value?.or a.identity } := by
  cases value? with
  | none => exact .nil
  | some value => exact .cons rfl (by decide) rfl rfl rfl .nil

theorem sets_credential (value? : Option Text) (a : Arguments) :
    Grammar.Sets signGrammar (optional "--credential" value?) a
      { a with credential := value?.or a.credential } := by
  cases value? with
  | none => exact .nil
  | some value => exact .cons rfl (by decide) rfl rfl rfl .nil

theorem override?_joined {entry : Text × Text} (h : IsOverride entry) :
    override? (joined entry.1 entry.2) = .ok entry := by
  obtain ⟨key, value⟩ := entry
  have hcut : Text.cut? (CodePoint.ofChar '=') (joined key value) = some (key, value) :=
    Text.cut?_append_cons value h.unsigned
  obtain ⟨c, rest, hkey⟩ := List.exists_cons_of_ne_nil h.key_ne
  have hstripped := h.stripped
  simp only at hkey hstripped
  subst hkey
  rw [override?, hcut]
  simp only [hstripped]

theorem sets_define {entries : List (Text × Text)} (h : ∀ entry ∈ entries, IsOverride entry)
    (a : Arguments) :
    Grammar.Sets signGrammar (defineOptions entries) a
      { a with define := a.define ++ entries } := by
  induction entries generalizing a with
  | nil =>
    rw [List.append_nil]
    exact .nil
  | cons entry rest ih =>
    obtain ⟨hentry, hrest⟩ := List.forall_mem_cons.mp h
    have hset : ((override? (joined entry.1 entry.2)).map fun entry =>
        { a with define := a.define ++ [entry] })
          = .ok { a with define := a.define ++ [entry] } := by
      rw [override?_joined hentry]
      rfl
    have htail := ih hrest { a with define := a.define ++ [entry] }
    simp only [List.append_assoc, List.singleton_append] at htail
    exact .cons rfl (by decide) rfl rfl hset htail

/-- The switch of the lifetime. -/
def lifetimeSwitch : Switch Arguments :=
  ⟨["--ttl"], .value fun t a => (integer? t).map fun n => { a with lifetime := n }⟩

theorem switch?_lifetime : signGrammar.switch? "--ttl" = some lifetimeSwitch := rfl

theorem isPlain_ofNat (n : Nat) : IsPlain (Text.ofNat n) := by
  intro h
  have hmem : Grammar.hyphen ∈ Text.ofNat n := List.mem_of_head? h
  exact absurd (Integer.isAsciiDigit_ofNat hmem) (by decide)

/-- A hyphen with digits after it is a negative number. -/
theorem isNegativeNumber_cons {ds : Text} (hne : ds ≠ [])
    (hds : ∀ c ∈ ds, c.isAsciiDigit = true) :
    Grammar.isNegativeNumber (Grammar.hyphen :: ds) = true := by
  have hend : ds.getLast? ≠ some (CodePoint.ofNat 0x0A) := by
    intro h
    exact absurd (hds _ (List.mem_of_getLast? h)) (by decide)
  have hdigits : (ds.all fun c => c.digitValue?.isSome) = true := by
    rw [List.all_eq_true]
    intro c hc
    have hdigit := hds c hc
    have hascii : c.isAscii = true := by
      rw [CodePoint.isAsciiDigit_iff] at hdigit
      rw [CodePoint.isAscii_iff]
      omega
    rw [CodePoint.digitValue?, if_pos hascii, if_pos hdigit]
    rfl
  rw [Grammar.isNegativeNumber]
  simp only [if_neg hend, hdigits, List.isEmpty_eq_false_iff.mpr hne]
  rfl

theorem second_name : ∀ p ∈ signGrammar.named, ∀ c ∈ p.1.tail.head?, c.isAsciiDigit = false := by
  decide

/-- No switch begins like a negative number. -/
theorem not_prefix_name {p : Text × Switch Arguments} (hp : p ∈ signGrammar.named) {d : CodePoint}
    (hd : d.isAsciiDigit = true) (rest : Text) : p.1 ≠ Grammar.hyphen :: d :: rest := by
  intro h
  have hsecond := second_name p hp d (by rw [h]; rfl)
  rw [hd] at hsecond
  cases hsecond

theorem candidates_negative {d : CodePoint} (hd : d.isAsciiDigit = true) (rest : Text) :
    signGrammar.candidates (Grammar.hyphen :: d :: rest) = [] := by
  have hlong : Text.startsWith (Grammar.hyphen :: d :: rest) "--" = false := by
    rw [Bool.eq_false_iff]
    intro h
    obtain ⟨more, hmore⟩ := Text.startsWith_iff.mp h
    obtain rfl := (List.cons.inj (List.cons.inj hmore).2).1
    exact absurd hd (by decide)
  rw [Grammar.candidates, hlong]
  simp only [Bool.false_eq_true, ↓reduceIte]
  rw [List.filterMap_eq_nil_iff]
  rintro ⟨name, s⟩ hp
  have hprefix : Text.startsWith name (Grammar.hyphen :: d :: rest) = false := by
    rw [Bool.eq_false_iff]
    intro h
    obtain ⟨more, hmore⟩ := Text.startsWith_iff.mp h
    exact not_prefix_name hp hd (rest ++ more) hmore
  have hshort : name ≠ (Grammar.hyphen :: d :: rest).take 2 := not_prefix_name hp hd []
  simp only [if_neg hshort, hprefix, Bool.false_eq_true, ↓reduceIte]

/-- **A written integer is a word,** also where it begins with a hyphen. -/
theorem classify_write (n : Int) : signGrammar.classify (Integer.write n) = .ok .word := by
  cases n with
  | ofNat n => exact Grammar.classify_of_isPlain (isPlain_ofNat n)
  | negSucc n =>
    have hdigits := fun c hc => Integer.isAsciiDigit_ofNat (n := n + 1) (c := c) hc
    have hwrite : Integer.write (Int.negSucc n) = Grammar.hyphen :: Text.ofNat (n + 1) := rfl
    have hnegative := isNegativeNumber_cons (Integer.ofNat_ne_nil (n + 1)) hdigits
    have hsign : CodePoint.ofChar '=' ∉ Grammar.hyphen :: Text.ofNat (n + 1) := by
      rw [List.mem_cons, not_or]
      exact ⟨by decide, fun h => absurd (hdigits _ h) (by decide)⟩
    rw [hwrite]
    obtain ⟨d, rest, hrow⟩ := List.exists_cons_of_ne_nil (Integer.ofNat_ne_nil (n + 1))
    have hd : d.isAsciiDigit = true := hdigits d (by rw [hrow]; exact List.mem_cons_self)
    rw [hrow] at hnegative hsign ⊢
    exact Grammar.classify_negative hnegative hsign
      (Grammar.switch?_eq_none fun p hp => not_prefix_name hp hd rest)
      (candidates_negative hd rest)

theorem write_ne_endMark (n : Int) : Integer.write n ≠ endMark := by
  intro h
  cases n with
  | ofNat n =>
    have hmem : Grammar.hyphen ∈ Text.ofNat n := by
      rw [show Text.ofNat n = endMark from h]
      exact List.mem_cons_self
    exact absurd (Integer.isAsciiDigit_ofNat hmem) (by decide)
  | negSucc n =>
    have htail : Text.ofNat (n + 1) = [Grammar.hyphen] := (List.cons.inj h).2
    have hmem : Grammar.hyphen ∈ Text.ofNat (n + 1) := by
      rw [htail]
      exact List.mem_cons_self
    exact absurd (Integer.isAsciiDigit_ofNat hmem) (by decide)

theorem setLifetime {n : Int} (h : Integer.isWritable n = true) (a : Arguments) :
    ((integer? (Integer.write n)).map fun n => { a with lifetime := n })
      = .ok { a with lifetime := n } := by
  rw [integer?, Integer.read_write h]
  rfl

/-- The switch of the lifetime with its value, sorted. -/
def lifetimeItems (n : Int) : List (Item Arguments) :=
  [("--ttl", .switch lifetimeSwitch "--ttl" none), (Integer.write n, .word)]

theorem items_lifetime (n : Int) {rest : List Text} {more : List (Item Arguments)}
    (hrest : signGrammar.items rest = .ok more) :
    signGrammar.items ("--ttl" :: Integer.write n :: rest) = .ok (lifetimeItems n ++ more) :=
  Grammar.items_cons (by decide) (Grammar.classify_switch rfl switch?_lifetime)
    (Grammar.items_cons (write_ne_endMark n) (classify_write n) hrest)

theorem run_lifetime {n : Int} (h : Integer.isWritable n = true) (a : Arguments)
    (aside : List Text) (places : List (Place Arguments)) (more : List (Item Arguments))
    (rounds : Nat) :
    signGrammar.run ⟨a, aside, places⟩ (rounds + 1) (lifetimeItems n ++ more)
      = signGrammar.run ⟨{ a with lifetime := n }, aside, places⟩ rounds more :=
  Grammar.run_switch rounds (Grammar.takeSwitch_separate rfl (setLifetime h a) more)

/-! ## 2. The words of a call -/

/-- The switches that a command line needs for some arguments, with their values. -/
def Arguments.options (a : Arguments) : List (Text × Text) :=
  optional "--config" a.config ++ (defineOptions a.define ++
    (optional "--identity" a.identity ++ optional "--credential" a.credential))

/-- The lifetime and the other switches, as words. -/
def Arguments.switchWords (a : Arguments) : List Text :=
  "--ttl" :: Integer.write a.lifetime :: Grammar.joinedWords a.options

/-- **The words of a call** whose provider and path cannot be taken for switches. -/
def Arguments.plainWords (a : Arguments) (provider path : Text) : List Text :=
  "sign" :: provider :: path :: a.switchWords

/-- **The words of any call.** -/
def Arguments.markedWords (a : Arguments) (provider path : Text) : List Text :=
  "sign" :: (a.switchWords ++ [endMark, provider, path])

/-- A call that can be written: the lifetime is short enough, and the overrides are read back as
they were written. -/
structure Arguments.IsCall (a : Arguments) (provider path : Text) : Prop where
  provider : a.provider = some provider
  path : a.path = some path
  quiet : a.verbose = false
  unskewed : a.skew = 0
  lifetime : Integer.isWritable a.lifetime = true
  overrides : ∀ entry ∈ a.define, IsOverride entry

/-- The arguments of which only the lifetime and the places are left out. -/
theorem Arguments.IsCall.sets_options {a : Arguments} {provider path : Text}
    (h : a.IsCall provider path) (p q : Option Text) :
    Grammar.Sets signGrammar a.options
      { provider := p, path := q, lifetime := a.lifetime } { a with provider := p, path := q } := by
  have hconfig := sets_config a.config { provider := p, path := q, lifetime := a.lifetime }
  have hdefine := sets_define h.overrides
    { provider := p, path := q, lifetime := a.lifetime, config := a.config }
  have hidentity := sets_identity a.identity
    { provider := p, path := q, lifetime := a.lifetime, config := a.config, define := a.define }
  have hcredential := sets_credential a.credential
    { provider := p, path := q, lifetime := a.lifetime, config := a.config, define := a.define,
      identity := a.identity }
  simp only [Option.or_none, List.nil_append] at hconfig hdefine hidentity hcredential
  have hall := hconfig.append (hdefine.append (hidentity.append hcredential))
  have hlast : ({ a with provider := p, path := q } : Arguments)
      = { provider := p, path := q, lifetime := a.lifetime, config := a.config,
          define := a.define, identity := a.identity, credential := a.credential } := by
    rw [h.quiet, h.unskewed]
  rw [hlast]
  exact hall

theorem ne_endMark_of_isPlain {word : Text} (h : IsPlain word) : word ≠ endMark := by
  rintro rfl
  exact h rfl

/-- The items of the switches, and what they do whatever comes after. -/
theorem Arguments.IsCall.run_switchWords {a : Arguments} {provider path : Text}
    (h : a.IsCall provider path) {rest : List Text} {more : List (Item Arguments)}
    (hrest : signGrammar.items rest = .ok more) :
    ∃ items, signGrammar.items (a.switchWords ++ rest) = .ok (lifetimeItems a.lifetime ++ items) ∧
      items.length = a.options.length + more.length ∧
      ∀ p q aside places rounds,
        signGrammar.run ⟨{ provider := p, path := q }, aside, places⟩
            (a.options.length + rounds + 1) (lifetimeItems a.lifetime ++ items)
          = signGrammar.run ⟨{ a with provider := p, path := q }, aside, places⟩ rounds more := by
  obtain ⟨items, hitems, hlength, -⟩ :=
    (h.sets_options none none).run_items names_signGrammar hrest
  refine ⟨items, items_lifetime a.lifetime hitems, hlength, fun p q aside places rounds => ?_⟩
  obtain ⟨items', hitems', -, hrun⟩ := (h.sets_options p q).run_items names_signGrammar hrest
  obtain rfl : items = items' := Except.ok.inj (hitems.symm.trans hitems')
  rw [run_lifetime h.lifetime]
  exact hrun aside places rounds

/-- Two words before a switch or at the end fill the two places. -/
theorem takePlaces_plain {provider path : Text} (hprovider : provider ≠ endMark)
    (hpath : path ≠ endMark) (a : Arguments) (aside : List Text) {left : List (Item Arguments)}
    (hleft : Grammar.marks left = ([], left)) :
    Grammar.takePlaces ⟨a, aside, signGrammar.places⟩
        ((provider, .word) :: (path, .word) :: left)
      = .ok (⟨{ a with provider := some provider, path := some path }, aside, []⟩, left) := by
  refine (Grammar.takePlaces_cons (Grammar.fill_one rfl) (Grammar.put_one hprovider a)).trans ?_
  refine (Grammar.takePlaces_cons (Grammar.fill_one hleft) (Grammar.put_one hpath _)).trans ?_
  rfl

/-- The mark and two words fill the two places. -/
theorem takePlaces_marked {provider path : Text} (hpath : path ≠ endMark) (a : Arguments)
    (aside : List Text) :
    Grammar.takePlaces ⟨a, aside, signGrammar.places⟩
        [(endMark, .mark), (provider, .word), (path, .word)]
      = .ok (⟨{ a with provider := some provider, path := some path }, aside, []⟩, []) := by
  refine (Grammar.takePlaces_cons (Grammar.fill_marked rfl) (Grammar.put_marked a)).trans ?_
  refine (Grammar.takePlaces_cons (Grammar.fill_one rfl) (Grammar.put_one hpath _)).trans ?_
  rfl

theorem Arguments.IsCall.with_places {a : Arguments} {provider path : Text}
    (h : a.IsCall provider path) :
    { a with provider := some provider, path := some path } = a := by
  rw [← h.provider, ← h.path]

theorem length_lifetimeItems (n : Int) : (lifetimeItems n).length = 2 := rfl

/-- The signing command reads the plain words of a call: the two words take effect when the first
switch is met. -/
theorem parse_plain {a : Arguments} {provider path : Text} (h : a.IsCall provider path)
    (hprovider : IsPlain provider) (hpath : IsPlain path) :
    signGrammar.parse {} (provider :: path :: a.switchWords) = .ok (a, []) := by
  have hnone : signGrammar.items [] = .ok [] := rfl
  obtain ⟨items, hitems, hlength, hrun⟩ := h.run_switchWords hnone
  rw [List.append_nil] at hitems
  rw [List.length_nil, Nat.add_zero] at hlength
  have hwords := Grammar.items_cons (ne_endMark_of_isPlain hprovider)
    (Grammar.classify_of_isPlain hprovider)
    (Grammar.items_cons (ne_endMark_of_isPlain hpath) (Grammar.classify_of_isPlain hpath) hitems)
  have hplaces : Grammar.takePlaces ⟨{}, [], signGrammar.places⟩
        ([(provider, .word), (path, .word)] ++ (lifetimeItems a.lifetime ++ items))
      = .ok (⟨{ provider := some provider, path := some path }, [], []⟩,
          lifetimeItems a.lifetime ++ items) :=
    takePlaces_plain (ne_endMark_of_isPlain hprovider) (ne_endMark_of_isPlain hpath) {} [] rfl
  have hlast := hrun (some provider) (some path) [] [] 3
  rw [h.with_places] at hlast
  have hall : signGrammar.run ⟨{}, [], signGrammar.places⟩ (a.options.length + 3 + 1 + 1)
        ([(provider, .word), (path, .word)] ++ (lifetimeItems a.lifetime ++ items))
      = .ok (⟨a, [], []⟩, []) := by
    refine (Grammar.run_words (List.cons_ne_nil _ _) ?_ hplaces ?_ _).trans hlast
    · exact List.forall_mem_cons.mpr ⟨rfl, List.forall_mem_singleton.mpr rfl⟩
    · exact Nat.lt_add_of_pos_right Nat.two_pos
  have hrounds : ((provider, Token.word) :: (path, .word) ::
      (lifetimeItems a.lifetime ++ items)).length = a.options.length + 3 + 1 := by
    rw [List.length_cons, List.length_cons, List.length_append, length_lifetimeItems, hlength]
    omega
  have hdone : Grammar.takePlaces ⟨a, [], []⟩ [] = .ok (⟨a, [], []⟩, []) := rfl
  refine Grammar.parse_eq hwords ?_ hdone
  rw [hrounds]
  exact hall

/-- The signing command reads the words of any call: the mark and what comes after it fill the
places at the end. -/
theorem parse_marked {a : Arguments} {provider path : Text} (h : a.IsCall provider path)
    (hpath : path ≠ endMark) :
    signGrammar.parse {} (a.switchWords ++ [endMark, provider, path]) = .ok (a, []) := by
  have hrest : signGrammar.items [endMark, provider, path]
      = .ok [(endMark, .mark), (provider, .word), (path, .word)] := rfl
  obtain ⟨items, hitems, hlength, hrun⟩ := h.run_switchWords hrest
  have hplaces : Grammar.takePlaces
        ⟨{ a with provider := none, path := none }, [], signGrammar.places⟩
        [(endMark, .mark), (provider, .word), (path, .word)] = .ok (⟨a, [], []⟩, []) := by
    rw [takePlaces_marked hpath, h.with_places]
  have hswitches := hrun none none [] signGrammar.places 5
  have hleft : ∀ rounds, signGrammar.run
        ⟨{ a with provider := none, path := none }, [], signGrammar.places⟩ rounds
        [(endMark, .mark), (provider, .word), (path, .word)]
      = .ok (⟨{ a with provider := none, path := none }, [], signGrammar.places⟩,
          [(endMark, .mark), (provider, .word), (path, .word)]) :=
    Grammar.run_of_no_switch (List.forall_mem_cons.mpr ⟨rfl, List.forall_mem_cons.mpr
      ⟨rfl, List.forall_mem_singleton.mpr rfl⟩⟩)
  rw [hleft] at hswitches
  have hrounds : (lifetimeItems a.lifetime ++ items).length + 1 = a.options.length + 5 + 1 := by
    rw [List.length_append, length_lifetimeItems, hlength, List.length_cons, List.length_cons,
      List.length_singleton]
    omega
  refine Grammar.parse_eq hitems ?_ hplaces
  rw [hrounds]
  exact hswitches

/-! ## 3. The program -/

/-- A name that begins with another text begins with its first two characters. -/
theorem not_startsWith {name start : Text} (hstart : 2 ≤ start.length)
    (htake : name.take 2 ≠ start.take 2) : Text.startsWith name start = false := by
  rw [Bool.eq_false_iff]
  intro h
  obtain ⟨more, rfl⟩ := Text.startsWith_iff.mp h
  exact htake (List.take_append_of_le_length hstart)

/-- What stands before an equals sign begins as the whole word does. -/
theorem begins_of_cut? {word start value rest : Text}
    (hcut : Text.cut? (CodePoint.ofChar '=') word = some (start, value))
    (hword : word = endMark ++ rest) : ∃ more, start = endMark ++ more := by
  have hrow : start ++ CodePoint.ofChar '=' :: value = Grammar.hyphen :: Grammar.hyphen :: rest :=
    (Text.cut?_eq_some hcut).1.symm.trans hword
  match start, hrow with
  | [], hrow => exact absurd (List.cons.inj hrow).1 (by decide)
  | [c], hrow => exact absurd (List.cons.inj (List.cons.inj hrow).2).1 (by decide)
  | c :: d :: more, hrow =>
    obtain ⟨hc, hrow⟩ := List.cons.inj hrow
    obtain ⟨hd, -⟩ := List.cons.inj hrow
    rw [hc, hd]
    exact ⟨more, rfl⟩

theorem length_filterMap_pair_le {α β : Type} {f : α → Option β} {a b : α}
    (h : f a = none ∨ f b = none) : ([a, b].filterMap f).length ≤ 1 := by
  obtain h | h := h
  · rw [List.filterMap_cons_none h]
    exact List.length_filterMap_le f [b]
  · rw [← List.singleton_append, List.filterMap_append, List.filterMap_cons_none h]
    exact (List.append_nil _).symm ▸ List.length_filterMap_le f [a]

/-- The short switch of the program does not begin as a long one does. -/
theorem not_startsWith_help (more : Text) : Text.startsWith "-h" (endMark ++ more) = false := by
  refine not_startsWith ?_ (show ("-h" : Text).take 2 ≠ endMark by decide)
  rw [List.length_append]
  exact Nat.le_add_right 2 _

/-- A word is taken for at most one of the program's switches. -/
theorem length_candidates_le {word : Text} (hword : 2 ≤ word.length) :
    (grammar.candidates word).length ≤ 1 := by
  rw [Grammar.candidates]
  split
  case isTrue hlong =>
    refine length_filterMap_pair_le (.inl ?_)
    obtain ⟨rest, hrest⟩ := Text.startsWith_iff.mp hlong
    cases hcut : Text.cut? (CodePoint.ofChar '=') word with
    | none =>
      simp only [hrest, not_startsWith_help]
      rfl
    | some parts =>
      obtain ⟨start, value⟩ := parts
      obtain ⟨more, rfl⟩ := begins_of_cut? hcut hrest
      simp only [not_startsWith_help]
      rfl
  case isFalse hshort =>
    refine length_filterMap_pair_le (.inr ?_)
    have htake : word.take 2 ≠ endMark := by
      intro h
      refine hshort (Text.startsWith_iff.mpr ⟨word.drop 2, ?_⟩)
      rw [← List.take_append_drop 2 word, h]
      rfl
    have hname : ("--help" : Text) ≠ word.take 2 := by
      intro h
      have hlength : ("--help" : Text).length ≤ 2 := by
        rw [h]
        exact List.length_take_le 2 word
      exact absurd hlength (by decide)
    have hlonger : Text.startsWith "--help" word = false := not_startsWith hword (Ne.symm htake)
    simp only [hlonger, if_neg hname]
    rfl

theorem exists_items (words : List Text) : ∃ items, grammar.items words = .ok items := by
  induction words with
  | nil => exact ⟨[], rfl⟩
  | cons word rest ih =>
    obtain ⟨more, hmore⟩ := ih
    by_cases hmark : word = endMark
    · exact ⟨_, if_pos hmark⟩
    · obtain ⟨token, htoken⟩ := Grammar.exists_token (@length_candidates_le word)
      exact ⟨_, Grammar.items_cons hmark htoken hmore⟩

/-- The words of the signing command are handed to it as they are. -/
theorem ofWords_sign {words : List Text} {a : Arguments}
    (h : signGrammar.parse {} words = .ok (a, [])) :
    Invocation.ofWords ("sign" :: words) = .ok ⟨.sign, a⟩ := by
  obtain ⟨more, hmore⟩ := exists_items words
  have hread : readCommand ("sign" :: words) none = .ok (some (⟨.sign, a⟩, [])) := by
    show (signGrammar.parse {} words).map _ = _
    rw [h]
    rfl
  have hparse : grammar.parse none ("sign" :: words) = .ok (some (⟨.sign, a⟩, []), []) :=
    Grammar.parse_rest rfl (by decide) (Grammar.classify_of_isPlain (by decide)) hmore hread
  rw [Invocation.ofWords, hparse]
  rfl

/-- **A call is read back from its plain words.** -/
theorem ofWords_plain {a : Arguments} {provider path : Text} (h : a.IsCall provider path)
    (hprovider : IsPlain provider) (hpath : IsPlain path) :
    Invocation.ofWords (a.plainWords provider path) = .ok ⟨.sign, a⟩ :=
  ofWords_sign (parse_plain h hprovider hpath)

/-- **A call is read back from its words after the mark,** whatever they begin with. -/
theorem ofWords_marked {a : Arguments} {provider path : Text} (h : a.IsCall provider path)
    (hpath : path ≠ endMark) :
    Invocation.ofWords (a.markedWords provider path) = .ok ⟨.sign, a⟩ :=
  ofWords_sign (parse_marked h hpath)

end CloudAccess.CommandLine
