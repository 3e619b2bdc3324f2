/-
# How a grammar takes its words

What `Grammar.parse` does to the kinds of words that a command line can be written with: words that
are no switches (`IsPlain`), switches with their values joined to them (`Sets`), and words after the
mark that ends the switches.  Words are sorted first, and then the places and switches take them in
turn; each has a lemma that says what is taken and what is left, and `parse_eq` puts them together.
A place for all the words takes them as they are (`parse_rest`).
-/
import CloudAccess.CommandLine.Arguments
import CloudAccess.Proofs.Text.Pieces

namespace CloudAccess.CommandLine

/-- A value joined to its switch by an equals sign. -/
def joined (name value : Text) : Text := name ++ CodePoint.ofChar '=' :: value

/-- The word that ends the switches. -/
abbrev endMark : Text := "--"

/-- The word cannot be taken for a switch. -/
def IsPlain (word : Text) : Prop := word.head? ≠ some Grammar.hyphen

instance : DecidablePred IsPlain := fun word =>
  inferInstanceAs (Decidable (word.head? ≠ some Grammar.hyphen))

namespace Grammar

variable {σ : Type} {g : Grammar σ}

/-! ## 1. Sorting the words -/

theorem classify_of_isPlain {word : Text} (h : IsPlain word) : g.classify word = .ok .word :=
  if_pos h

theorem switch?_eq_none {word : Text} (h : ∀ p ∈ g.named, p.1 ≠ word) :
    g.switch? word = none := by
  rw [switch?, List.lookup_eq_none_iff]
  intro p hp
  rw [bne_iff_ne]
  exact Ne.symm (h p hp)

/-- A switch that stands alone. -/
theorem classify_switch {name : Text} {s : Switch σ} (hhyphen : name.head? = some hyphen)
    (hs : g.switch? name = some s) : g.classify name = .ok (.switch s name none) := by
  rw [classify, if_neg (not_not_intro hhyphen), hs]

/-- A switch with a value joined to it. -/
theorem classify_joined {name value : Text} {s : Switch σ} (hhyphen : name.head? = some hyphen)
    (hsign : CodePoint.ofChar '=' ∉ name) (hs : g.switch? name = some s)
    (hnames : ∀ p ∈ g.named, CodePoint.ofChar '=' ∉ p.1) :
    g.classify (joined name value) = .ok (.switch s name (some ⟨true, value⟩)) := by
  have hnone : g.switch? (joined name value) = none := by
    refine switch?_eq_none fun p hp heq => hnames p hp ?_
    rw [heq, joined]
    exact List.mem_append_right _ List.mem_cons_self
  have hcut : Text.cut? (CodePoint.ofChar '=') (joined name value) = some (name, value) :=
    Text.cut?_append_cons value hsign
  obtain ⟨more, rfl⟩ : ∃ more, name = hyphen :: more := List.head?_eq_some_iff.mp hhyphen
  have hhead : (joined (hyphen :: more) value).head? = some hyphen := rfl
  have hlong : (joined (hyphen :: more) value).length ≠ 1 := by
    rw [joined, List.length_append, List.length_cons, List.length_cons]
    omega
  rw [classify, if_neg (not_not_intro hhead), hnone]
  simp only
  rw [if_neg hlong, hcut]
  simp only [hs, Option.map_some]

/-- A negative integer as a word. -/
theorem classify_negative {word : Text} (hnegative : isNegativeNumber word = true)
    (hsign : CodePoint.ofChar '=' ∉ word) (hs : g.switch? word = none)
    (hcandidates : g.candidates word = []) : g.classify word = .ok .word := by
  rw [classify]
  split
  · rfl
  · rw [hs]
    simp only
    split
    · rfl
    · rw [Text.cut?_of_notMem hsign]
      simp only [hcandidates, hnegative, Bool.true_or, ↓reduceIte]

/-- Only a word that may mean several switches is not sorted. -/
theorem exists_token {word : Text} (h : 2 ≤ word.length → (g.candidates word).length ≤ 1) :
    ∃ token, g.classify word = .ok token := by
  rw [classify]
  split
  · exact ⟨_, rfl⟩
  next hhyphen =>
  split
  · exact ⟨_, rfl⟩
  split
  · exact ⟨_, rfl⟩
  next hlength =>
  have hfew := h <| by
    cases word with
    | nil => exact absurd nofun hhyphen
    | cons c rest =>
      rw [List.length_cons] at hlength ⊢
      omega
  simp only
  split
  · exact ⟨_, rfl⟩
  generalize g.candidates word = found at hfew
  split
  · exact ⟨_, rfl⟩
  · split <;> exact ⟨_, rfl⟩
  · next hone hnone =>
    match found, hfew with
    | [], _ => exact absurd rfl hnone
    | [x], _ => exact absurd rfl (hone x.1 x.2.1 x.2.2)

theorem items_cons {word : Text} {token : Token σ} {rest : List Text} {more : List (Item σ)}
    (hmark : word ≠ endMark) (htoken : g.classify word = .ok token)
    (hrest : g.items rest = .ok more) :
    g.items (word :: rest) = .ok ((word, token) :: more) := by
  rw [items, if_neg hmark, htoken]
  simp only [hrest]
  rfl

/-! ## 2. Switches that take a value -/

theorem actAll_singleton {s : Switch σ} {set : Text → σ → Except Text σ} {value : Text}
    {state next : σ} (haction : s.action = .value set) (hset : set value state = .ok next) :
    g.actAll state [(s, some value)] = .ok next := by
  have hact : g.act s (some value) state = .ok next := by
    rw [act.eq_def, haction]
    simp only [hset]
  rw [actAll, hact]
  rfl

/-- A switch that sets something takes the value that is joined to it. -/
theorem takeSwitch_joined {s : Switch σ} {set : Text → σ → Except Text σ} {p : Progress σ}
    {word name value : Text} {next : σ} (haction : s.action = .value set)
    (hset : set value p.state = .ok next) (rest : List (Item σ)) :
    g.takeSwitch p word (.switch s name (some ⟨true, value⟩)) rest
      = .ok (⟨next, p.aside, p.places⟩, rest) := by
  have hcluster : g.cluster s name true value = .ok ⟨[(s, some value)], [], none⟩ := by
    cases value with
    | nil => simp [cluster, haction, Action.takesValue]
    | cons c more => simp [cluster, haction, Action.takesValue]
  rw [takeSwitch]
  simp only [hcluster, actAll_singleton haction hset, List.append_nil]
  rfl

/-- A switch that sets something takes the word that follows it. -/
theorem takeSwitch_separate {s : Switch σ} {set : Text → σ → Except Text σ} {p : Progress σ}
    {word name value : Text} {next : σ} (haction : s.action = .value set)
    (hset : set value p.state = .ok next) (rest : List (Item σ)) :
    g.takeSwitch p word (.switch s name none) ((value, .word) :: rest)
      = .ok (⟨next, p.aside, p.places⟩, rest) := by
  have htakes : s.action.takesValue = true := by rw [haction]; rfl
  rw [takeSwitch]
  simp only [htakes, ↓reduceIte, List.nil_append, actAll_singleton haction hset, List.append_nil]
  rfl

/-- A switch at the head of the words is taken first. -/
theorem run_switch {p q : Progress σ} {word name : Text} {s : Switch σ} {joined? : Option Joined}
    {rest left : List (Item σ)} (rounds : Nat)
    (htake : g.takeSwitch p word (.switch s name joined?) rest = .ok (q, left)) :
    g.run p (rounds + 1) ((word, .switch s name joined?) :: rest) = g.run q rounds left := by
  rw [run, List.span_eq_takeWhile_dropWhile]
  simp only [Token.isSwitch, Bool.not_true, Bool.false_eq_true, not_false_eq_true,
    List.takeWhile_cons_of_neg, List.dropWhile_cons_of_neg, List.isEmpty_nil, ↓reduceIte, htake]

/-- Words before a switch fill places first. -/
theorem run_words {p q : Progress σ} {before rest left : List (Item σ)} {word name : Text}
    {s : Switch σ} {joined? : Option Joined} (hne : before ≠ [])
    (hbefore : ∀ item ∈ before, item.2.isSwitch = false)
    (htake : takePlaces p (before ++ (word, .switch s name joined?) :: rest) = .ok (q, left))
    (hless : left.length < (before ++ (word, Token.switch s name joined?) :: rest).length)
    (rounds : Nat) :
    g.run p (rounds + 1) (before ++ (word, .switch s name joined?) :: rest)
      = g.run q rounds left := by
  have hnot : ∀ item ∈ before, (!item.2.isSwitch) = true := by
    intro item hitem
    rw [hbefore item hitem]
    rfl
  have hspan : (before ++ (word, Token.switch s name joined?) :: rest).span
        (fun item => !item.2.isSwitch)
      = (before, (word, Token.switch s name joined?) :: rest) := by
    rw [List.span_eq_takeWhile_dropWhile, List.takeWhile_append_of_pos hnot,
      List.dropWhile_append_of_pos hnot]
    simp [Token.isSwitch]
  rw [run, hspan]
  simp only [List.isEmpty_eq_false_iff.mpr hne, Bool.false_eq_true, ↓reduceIte, htake, hless]

/-- Where no switch is left, nothing more is taken. -/
theorem run_of_no_switch {p : Progress σ} {items : List (Item σ)}
    (h : ∀ item ∈ items, item.2.isSwitch = false) (rounds : Nat) :
    g.run p rounds items = .ok (p, items) := by
  cases rounds with
  | zero => rfl
  | succ n =>
    have hspan : items.dropWhile (fun item => !item.2.isSwitch) = [] :=
      List.dropWhile_eq_nil_iff.mpr fun item hitem => by rw [h item hitem]; rfl
    rw [run, List.span_eq_takeWhile_dropWhile]
    simp only [hspan]

/-- What switches with values joined to them do to a state, one after the other. -/
inductive Sets (g : Grammar σ) : List (Text × Text) → σ → σ → Prop
  | nil {state : σ} : Sets g [] state state
  | cons {name value : Text} {rest : List (Text × Text)} {s : Switch σ}
      {set : Text → σ → Except Text σ} {state next last : σ} (hyphen : name.head? = some hyphen)
      (sign : CodePoint.ofChar '=' ∉ name) (known : g.switch? name = some s)
      (action : s.action = .value set) (sets : set value state = .ok next)
      (others : Sets g rest next last) : Sets g ((name, value) :: rest) state last

theorem Sets.append {first second : List (Text × Text)} {state next last : σ}
    (hfirst : Sets g first state next) (hsecond : Sets g second next last) :
    Sets g (first ++ second) state last := by
  induction hfirst with
  | nil => exact hsecond
  | cons hyphen sign known action sets others ih =>
    exact .cons hyphen sign known action sets (ih hsecond)

/-- Switches with their values as words. -/
def joinedWords (options : List (Text × Text)) : List Text :=
  options.map fun option => joined option.1 option.2

/-- **Switches with values joined to them** are sorted and take effect, whatever comes after. -/
theorem Sets.run_items {options : List (Text × Text)} {state last : σ}
    (h : Sets g options state last) (hnames : ∀ p ∈ g.named, CodePoint.ofChar '=' ∉ p.1)
    {rest : List Text} {more : List (Item σ)} (hrest : g.items rest = .ok more) :
    ∃ items, g.items (joinedWords options ++ rest) = .ok items ∧
      items.length = options.length + more.length ∧
      ∀ aside places rounds, g.run ⟨state, aside, places⟩ (options.length + rounds) items
        = g.run ⟨last, aside, places⟩ rounds more := by
  induction h with
  | nil =>
    refine ⟨more, hrest, (Nat.zero_add _).symm, fun aside places rounds => ?_⟩
    rw [List.length_nil, Nat.zero_add]
  | @cons name value others s set state next last hyphen sign known action sets tail ih =>
    obtain ⟨items, hitems, hlength, hrun⟩ := ih
    have hmark : joined name value ≠ endMark := by
      intro heq
      have hmem : CodePoint.ofChar '=' ∈ endMark := by
        rw [← heq, joined]
        exact List.mem_append_right _ List.mem_cons_self
      exact absurd hmem (by decide)
    refine ⟨_, items_cons hmark (classify_joined hyphen sign known hnames) hitems, ?_, ?_⟩
    · rw [List.length_cons, List.length_cons, hlength]
      omega
    · intro aside places rounds
      rw [List.length_cons, Nat.add_right_comm, run_switch _ (takeSwitch_joined action sets items)]
      exact hrun aside places rounds

/-! ## 3. Places -/

/-- A place takes a word, and no mark where none comes after it. -/
theorem fill_one {placeName word : Text} {set : Option Text → σ → σ} {rest : List (Item σ)}
    (hrest : marks rest = ([], rest)) :
    fill (.one placeName set) ((word, .word) :: rest) = some ([word], rest) := by
  rw [fill.eq_def, marks]
  · simp only [hrest]
    rfl
  · exact nofun

/-- The mark goes to the place whose word comes after it. -/
theorem fill_marked {placeName word : Text} {set : Option Text → σ → σ} {rest : List (Item σ)}
    (hrest : marks rest = ([], rest)) :
    fill (.one placeName set) ((endMark, .mark) :: (word, .word) :: rest)
      = some ([endMark, word], rest) := by
  rw [fill.eq_def, marks, marks]
  · simp only [hrest]
    rfl
  · exact nofun

theorem put_one {placeName word : Text} {set : Option Text → σ → σ} (hword : word ≠ endMark)
    (state : σ) : put (.one placeName set) [word] state = .ok (set (some word) state) := by
  rw [put, List.erase_of_not_mem]
  · rfl
  · rw [List.mem_singleton]
    exact Ne.symm hword

theorem takePlaces_cons {place : Place σ} {places : List (Place σ)} {state next : σ}
    {aside words : List Text} {items after : List (Item σ)}
    (hfill : fill place items = some (words, after)) (hput : put place words state = .ok next) :
    takePlaces ⟨state, aside, place :: places⟩ items = takePlaces ⟨next, aside, places⟩ after := by
  rw [takePlaces, takePlaces]
  simp only [fillPlaces, hfill, hput]

/-- Of a mark and a word, the word is put into the place, be it a mark again. -/
theorem put_marked {placeName word : Text} {set : Option Text → σ → σ} (state : σ) :
    put (.one placeName set) [endMark, word] state = .ok (set (some word) state) := by
  rw [put, List.erase_cons_head]
  rfl

/-- A line is read where the last places take what the switches have left. -/
theorem parse_eq {words : List Text} {items left : List (Item σ)} {initial state : σ}
    {p : Progress σ} (hitems : g.items words = .ok items)
    (hrun : g.run ⟨initial, [], g.places⟩ (items.length + 1) items = .ok (p, left))
    (hplaces : takePlaces p left = .ok (⟨state, [], []⟩, [])) :
    g.parse initial words = .ok (state, []) := by
  rw [parse, hitems]
  simp only [hrun, hplaces]
  rfl

/-! ## 4. A place for all the words -/

theorem map_fst_items {words : List Text} {items : List (Item σ)}
    (h : g.items words = .ok items) : items.map Prod.fst = words := by
  induction words generalizing items with
  | nil =>
    obtain rfl := Except.ok.inj h
    rfl
  | cons word rest ih =>
    rw [Grammar.items] at h
    split at h
    · obtain rfl := Except.ok.inj h
      rw [List.map_cons, List.map_map]
      exact congrArg (word :: ·) (List.map_id rest)
    · cases hclassify : g.classify word with
      | error stop => simp only [hclassify, reduceCtorEq] at h
      | ok token =>
        cases hrest : g.items rest with
        | error stop => simp only [hclassify, hrest, Except.map, reduceCtorEq] at h
        | ok more =>
          simp only [hclassify, hrest, Except.map] at h
          obtain rfl := Except.ok.inj h
          rw [List.map_cons, ih hrest]

/-- Words that the places take whole are taken before any switch among them takes effect. -/
theorem run_taken {p q : Progress σ} {word : Text} {more : List (Item σ)}
    (htake : takePlaces p ((word, .word) :: more) = .ok (q, []))
    (hdone : takePlaces q [] = .ok (q, [])) (rounds : Nat) :
    ∃ r left, g.run p (rounds + 1) ((word, .word) :: more) = .ok (r, left) ∧
      takePlaces r left = .ok (q, []) := by
  have hspan : ((word, Token.word) :: more).span (fun item : Item σ => !item.2.isSwitch)
      = ((word, .word) :: more.takeWhile (fun item => !item.2.isSwitch),
          more.dropWhile (fun item => !item.2.isSwitch)) := by
    rw [List.span_eq_takeWhile_dropWhile]
    rfl
  rw [run, hspan]
  cases hafter : more.dropWhile (fun item => !item.2.isSwitch) with
  | nil =>
    simp only
    exact ⟨p, (word, .word) :: more, rfl, htake⟩
  | cons item rest =>
    refine ⟨q, [], ?_, hdone⟩
    simp only [List.isEmpty_cons, Bool.false_eq_true, ↓reduceIte, htake, List.length_nil,
      List.length_cons, Nat.zero_lt_succ]
    exact run_of_no_switch (fun item hitem => absurd hitem List.not_mem_nil) rounds

/-- **A place for all the words** takes them as they are, switches included. -/
theorem parse_rest {placeName word : Text} {words : List Text}
    {set : List Text → σ → Except Stop σ} {state next : σ} {more : List (Item σ)}
    (hplaces : g.places = [.rest placeName set]) (hmark : word ≠ endMark)
    (hword : g.classify word = .ok .word) (hmore : g.items words = .ok more)
    (hset : set (word :: words) state = .ok next) :
    g.parse state (word :: words) = .ok (next, []) := by
  have hput : put (.rest placeName set) (word :: more.map Prod.fst) state = .ok next := by
    rw [map_fst_items hmore]
    exact hset
  have hfill : fill (.rest placeName set) ((word, .word) :: more)
      = some (word :: more.map Prod.fst, []) := rfl
  have htake : takePlaces ⟨state, [], g.places⟩ ((word, .word) :: more)
      = .ok (⟨next, [], []⟩, []) := by
    rw [hplaces]
    exact takePlaces_cons hfill hput
  obtain ⟨r, left, hrun, hlast⟩ := run_taken (g := g) htake rfl (more.length + 1)
  exact parse_eq (items_cons hmark hword hmore) hrun hlast

end Grammar

end CloudAccess.CommandLine
