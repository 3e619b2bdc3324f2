/-
# The value of a key

Four sources have a say in the value of a key: the overrides, the file, the environment and the
bundled defaults.  `Says` tells what each of them says, in its own terms: of the members of the
file and of the variables of the environment the last one that is about the key counts.  The
highest source that says anything wins (`Effective`), and `get_ofSources` that the standard stack
keeps to it.

What says nothing has no effect.  A member `null` hides no lower source, and variables that name no
key might as well not be there.
-/
import CloudAccess.Configuration.Stack
import CloudAccess.Proofs.Configuration.File
import CloudAccess.Proofs.Configuration.Layers

namespace CloudAccess.Configuration

/-! ## 1. What each source says -/

/-- The sources of values. -/
inductive Source where
  | overrides
  | file
  | environment
  | defaults

/-- The sources, the highest first. -/
def Source.order : List Source := [.overrides, .file, .environment, .defaults]

/-- What stands between the provider and the setting in the name of a variable. -/
abbrev underscore : CodePoint := '_'

/-- **The key that a variable's name names.**  The name is made of a provider and a setting, both
of them there, and no underscore is in the setting. -/
def Names (name key : Text) : Prop :=
  ∃ provider setting : Text, provider ≠ [] ∧ setting ≠ [] ∧ underscore ∉ setting ∧
    name = variableStart ++ (provider ++ underscore :: setting) ∧
    key = Text.lower provider ++ ("." : Text) ++ Text.lower setting

/-- **What a source says about a key.**  `members` are those of the file. -/
def Says (s : Sources) (members : List (Text × Json.Value)) (key : Text) :
    Source → Option Text → Prop
  | .overrides, v => ∃ overrides, s.overrides = some overrides ∧ overrides.get? key = some v
  | .file, v => ∃ t, v = some t ∧ IsLast (fun p => p.1 = key) members (key, .text t)
  | .environment, v =>
    ∃ name, IsLast (fun e => Names e.1 key) s.environment.entries (name, v)
  | .defaults, v => ∃ t, v = some t ∧ (key, t) ∈ defaultEntries

/-- **The value of a key** is what the highest source says that says anything. -/
inductive Effective (s : Sources) (members : List (Text × Json.Value)) (key : Text) :
    Option Text → Prop
  | spoken {higher lower : List Source} {source : Source} {v : Option Text}
      (order : Source.order = higher ++ source :: lower) (said : Says s members key source v)
      (silent : ∀ other ∈ higher, ∀ w, ¬Says s members key other w) : Effective s members key v
  | silence (silent : ∀ source w, ¬Says s members key source w) : Effective s members key none

/-- The members of the file that is named, if one is. -/
inductive FileMembers (storage : Storage) : Option Text → List (Text × Json.Value) → Prop
  | absent : FileMembers storage none []
  | present {path : Text} {content : Bytes} {members : List (Text × Json.Value)}
      (found : storage path = .file content) (flat : FlatFile content members) :
      FileMembers storage (some path) members

/-! ## 2. The environment -/

theorem ofName_eq_setting_iff {name key : Text} :
    Variable.ofName name = .setting key ↔ Names name key := by
  constructor
  · intro h
    rw [Variable.ofName] at h
    split at h
    · cases h
    · next rest hrest =>
      split at h
      · cases h
      · next provider setting hcut =>
        split at h
        · cases h
        · next hfilled =>
          obtain ⟨hparts, hnot⟩ := Text.cutLast?_eq_some hcut
          simp only [Bool.or_eq_true, List.isEmpty_iff, not_or] at hfilled
          obtain rfl := Variable.setting.inj h
          refine ⟨provider, setting, hfilled.1, hfilled.2, hnot, ?_, rfl⟩
          rw [Text.dropStart?_eq_some_iff.mp hrest, hparts]
  · rintro ⟨provider, setting, hprovider, hsetting, hnot, rfl, rfl⟩
    have hfilled : ¬(provider.isEmpty || setting.isEmpty) = true := by
      simp [hprovider, hsetting]
    rw [Variable.ofName, Text.dropStart?_eq_some_iff.mpr rfl]
    simp only [Text.cutLast?_append_cons provider hnot]
    rw [if_neg hfilled]
    rfl

/-- The setting that a variable gives, if it gives one. -/
def settingOf? (e : Text × Option Text) : Option (Text × Option Text) :=
  match Variable.ofName e.1 with
  | .setting key => some (key, e.2)
  | _ => none

theorem settingOf?_eq_some_iff {e p : Text × Option Text} :
    settingOf? e = some p ↔ Names e.1 p.1 ∧ p.2 = e.2 := by
  rw [← ofName_eq_setting_iff, settingOf?]
  cases Variable.ofName e.1 with
  | unrelated => simp
  | incomplete => simp
  | setting key => simp [Prod.ext_iff, eq_comm]

theorem ofEnvironment_eq (environment : Environment) :
    ofEnvironment environment = Dictionary.ofList (environment.entries.filterMap settingOf?) := rfl

/-- **Of the variables that name a key,** the last counts. -/
theorem get?_ofEnvironment {environment : Environment} {key : Text} {v : Option Text} :
    (ofEnvironment environment).get? key = some v ↔
      ∃ name, IsLast (fun e => Names e.1 key) environment.entries (name, v) := by
  rw [ofEnvironment_eq, Dictionary.get?_ofList_eq_some_iff, isLast_filterMap_iff]
  have hnames : ∀ e, (∃ p ∈ settingOf? e, p.1 = key) ↔ Names e.1 key := by
    intro e
    constructor
    · rintro ⟨p, hp, rfl⟩
      exact (settingOf?_eq_some_iff.mp hp).1
    · exact fun h => ⟨(key, e.2), settingOf?_eq_some_iff.mpr ⟨h, rfl⟩, rfl⟩
  simp only [IsLast.congr hnames]
  constructor
  · rintro ⟨⟨name, w⟩, hlast, heq⟩
    obtain rfl : v = w := (settingOf?_eq_some_iff.mp heq).2
    exact ⟨name, hlast⟩
  · rintro ⟨name, hlast⟩
    obtain ⟨before, after, hrow, hname, hafter⟩ := hlast
    exact ⟨(name, v), ⟨before, after, hrow, hname, hafter⟩,
      settingOf?_eq_some_iff.mpr ⟨hname, rfl⟩⟩

/-- **Variables that name no key** make no difference. -/
theorem ofEnvironment_eq_of_sublist {environment fewer : Environment}
    (hfewer : fewer.entries.Sublist environment.entries)
    (hnamed : ∀ e ∈ environment.entries, ∀ key, Names e.1 key → e ∈ fewer.entries) :
    ofEnvironment fewer = ofEnvironment environment := by
  have hnodup : environment.entries.Nodup :=
    List.Pairwise.of_map (·.1) (fun a b hne heq => hne (congrArg (·.1) heq)) environment.nodup
  rw [ofEnvironment_eq, ofEnvironment_eq, filterMap_eq_of_sublist hfewer hnodup]
  intro e he hsome
  obtain ⟨p, hp⟩ := Option.isSome_iff_exists.mp hsome
  exact hnamed e he p.1 (settingOf?_eq_some_iff.mp hp).1

/-! ## 3. The defaults -/

theorem nodup_keys_defaultEntries :
    (Entries.keys (defaultEntries.map fun (k, v) => (k, some v))).Nodup := by
  decide +kernel

theorem get?_defaults {key : Text} {v : Option Text} :
    defaults.get? key = some v ↔ ∃ t, v = some t ∧ (key, t) ∈ defaultEntries := by
  rw [defaults, Dictionary.get?_ofList_of_nodup nodup_keys_defaultEntries,
    Entries.find?_eq_some_iff_mem nodup_keys_defaultEntries, List.mem_map]
  constructor
  · rintro ⟨⟨k, t⟩, hmem, heq⟩
    obtain ⟨rfl, rfl⟩ := Prod.mk.inj heq
    exact ⟨t, rfl, hmem⟩
  · rintro ⟨t, rfl, hmem⟩
    exact ⟨(key, t), hmem, rfl⟩

/-! ## 4. The stack -/

/-- The stack of a file's settings. -/
def stack (s : Sources) (settings : Settings) : Configuration :=
  ((base s.environment).withLayer (some settings)).withLayer s.overrides

/-- What the stack holds for a key, source by source. -/
def lookup (s : Sources) (settings : Settings) (key : Text) : Source → Option (Option Text)
  | .overrides => s.overrides.bind (·.get? key)
  | .file => settings.get? key
  | .environment => (ofEnvironment s.environment).get? key
  | .defaults => defaults.get? key

/-- The variables lie over the defaults. -/
theorem get?_base (environment : Environment) (key : Text) : (base environment).get? key
    = ((ofEnvironment environment).get? key).or (defaults.get? key) := by
  rw [base, get?, List.reverse_cons, List.reverse_singleton, List.singleton_append,
    List.findSome?_cons, List.findSome?_singleton]
  cases (ofEnvironment environment).get? key <;> rfl

/-- **The stack is looked up from the highest source down.** -/
theorem get?_stack (s : Sources) (settings : Settings) (key : Text) :
    (stack s settings).get? key = Source.order.findSome? (lookup s settings key) := by
  rw [stack, get?_withLayer, get?_withLayer, get?_base]
  simp only [Source.order, List.findSome?_cons, List.findSome?_nil, lookup, Option.bind_some]
  cases s.overrides.bind (·.get? key) <;> cases settings.get? key <;>
    cases (ofEnvironment s.environment).get? key <;> cases defaults.get? key <;> rfl

/-- A file of settings, or none, leads to a stack. -/
theorem ofSources_eq_stack {storage : Storage} {s : Sources}
    {members : List (Text × Json.Value)} (h : FileMembers storage s.path members) :
    ∃ settings, ofSources storage s = .ok (stack s settings) ∧
      ∀ key v, settings.get? key = some v ↔ Says s members key .file v := by
  generalize hpath : s.path = path? at h
  cases h with
  | absent =>
    refine ⟨Dictionary.empty, ?_, fun key v => ?_⟩
    · rw [ofSources, hpath]
      rfl
    · constructor
      · exact nofun
      · rintro ⟨t, -, before, after, hrow, -⟩
        cases before <;> cases hrow
  | present found flat =>
    obtain ⟨settings, hsettings, hget⟩ := ofFile_of_flatFile found flat (Json.usualLevels - 1)
    have hread : ofFile storage _ Json.usualLevels = .ok settings := hsettings
    refine ⟨settings, ?_, hget⟩
    rw [ofSources, hpath]
    simp only [hread]
    rfl

theorem lookup_eq_some_iff {s : Sources} {settings : Settings}
    {members : List (Text × Json.Value)} {key : Text}
    (hfile : ∀ v, settings.get? key = some v ↔ Says s members key .file v) (source : Source)
    (v : Option Text) : lookup s settings key source = some v ↔ Says s members key source v := by
  cases source with
  | overrides => exact Option.bind_eq_some_iff
  | file => exact hfile v
  | environment => exact get?_ofEnvironment
  | defaults => exact get?_defaults

theorem mem_order (source : Source) : source ∈ Source.order := by
  cases source <;> simp [Source.order]

/-- What is found from the highest source down is the effective value. -/
theorem effective_iff {s : Sources} {members : List (Text × Json.Value)} {key : Text}
    {found : Source → Option (Option Text)}
    (hfound : ∀ source v, found source = some v ↔ Says s members key source v) {v : Option Text} :
    (Source.order.findSome? found).getD none = v ↔ Effective s members key v := by
  have hsilent : ∀ source, found source = none ↔ ∀ w, ¬Says s members key source w := by
    intro source
    simp only [Option.eq_none_iff_forall_ne_some, ← hfound]
  constructor
  · rintro rfl
    cases h : Source.order.findSome? found with
    | none =>
      rw [List.findSome?_eq_none_iff] at h
      exact .silence fun source => (hsilent source).mp (h source (mem_order source))
    | some w =>
      obtain ⟨higher, source, lower, horder, hsaid, hhigher⟩ := List.findSome?_eq_some_iff.mp h
      exact .spoken horder ((hfound source w).mp hsaid) fun other hother =>
        (hsilent other).mp (hhigher other hother)
  · intro h
    cases h with
    | @spoken higher lower source v order said silent =>
      have h : Source.order.findSome? found = some v := List.findSome?_eq_some_iff.mpr
        ⟨higher, source, lower, order, (hfound source v).mpr said, fun other hother =>
          (hsilent other).mpr (silent other hother)⟩
      rw [h, Option.getD_some]
    | silence silent =>
      have h : Source.order.findSome? found = none :=
        List.findSome?_eq_none_iff.mpr fun source _ => (hsilent source).mpr (silent source)
      rw [h, Option.getD_none]

/-- **The value of every key.**  With a file of settings or without one, the standard stack is made,
and what it has for a key is its effective value.  Variables that name no key can be left out, and
empty overrides too, without any change to the stack. -/
theorem get_ofSources {storage : Storage} {s : Sources} {members : List (Text × Json.Value)}
    (h : FileMembers storage s.path members) :
    ∃ c, ofSources storage s = .ok c ∧
      (∀ key v, c.get key none = v ↔ Effective s members key v) ∧
      (∀ fewer : Environment, fewer.entries.Sublist s.environment.entries →
        (∀ e ∈ s.environment.entries, ∀ key, Names e.1 key → e ∈ fewer.entries) →
        ofSources storage { s with environment := fewer } = .ok c) ∧
      (s.overrides = some Dictionary.empty →
        ofSources storage { s with overrides := none } = .ok c) := by
  obtain ⟨settings, hc, hfile⟩ := ofSources_eq_stack h
  refine ⟨stack s settings, hc, fun key v => ?_, fun fewer hfewer hnamed => ?_, fun hempty => ?_⟩
  · rw [get, get?_stack]
    exact effective_iff (lookup_eq_some_iff (hfile key))
  · rw [← hc, ofSources, ofSources, base, ofEnvironment_eq_of_sublist hfewer hnamed]
    rfl
  · rw [← hc, ofSources, ofSources, hempty]
    rfl

/-- A document in which one name comes twice and another one is `null`. -/
def mixedDocument : Text :=
  "\x7b\"my.key\": \"old\",\r\n\"my.key\": \"new\", \"s3.endpoint\": null\x7d"

def mixedMembers : List (Text × Json.Value) :=
  [("my.key", .text "old"), ("my.key", .text "new"), ("s3.endpoint", .null)]

/-- Variables of which two name one key, one has no setting, and one is below the file. -/
def mixedSources : Sources where
  path := some "settings.json"
  environment := Dictionary.ofList [("CLOUDCONTEXT_S3_ENDPOINT", some "first"),
    ("CLOUDCONTEXT_s3_endpoint", some "second"), ("CLOUDCONTEXT_DEBUG", some "1"),
    ("CLOUDCONTEXT_MY_KEY", some "hidden")]

def mixedStorage : Storage := fun _ => .file (mixedDocument.flatMap Utf8.encodeChar)

theorem flatObject_mixedDocument : Json.FlatObject mixedDocument mixedMembers := by
  have hspace : Json.Blank [' '] := by
    unfold Json.Blank
    decide
  have hlines : Json.Blank "\r\n" := by
    unfold Json.Blank
    decide
  have hold : Json.Member "\"my.key\": \"old\"" ("my.key", .text "old") :=
    .intro (.of_plain (t := "my.key") (by decide)) Json.blank_nil hspace
      (.text (.of_plain (t := "old") (by decide))) Json.blank_nil
  have hnew : Json.Member "\"my.key\": \"new\"" ("my.key", .text "new") :=
    .intro (.of_plain (t := "my.key") (by decide)) Json.blank_nil hspace
      (.text (.of_plain (t := "new") (by decide))) Json.blank_nil
  have hnull : Json.Member "\"s3.endpoint\": null" ("s3.endpoint", .null) :=
    .intro (.of_plain (t := "s3.endpoint") (by decide)) Json.blank_nil hspace
      (.word List.mem_cons_self) Json.blank_nil
  exact .members Json.blank_nil
    (.more Json.blank_nil hold (.more hlines hnew (.one hspace hnull))) Json.blank_nil

theorem fileMembers_mixedStorage :
    FileMembers mixedStorage mixedSources.path mixedMembers := by
  have hencode : Utf8.encode mixedDocument = .ok (mixedDocument.flatMap Utf8.encodeChar) :=
    Utf8.encode_eq_ok_iff.mpr ⟨by decide, rfl⟩
  have hfound : mixedStorage "settings.json" = .file (mixedDocument.flatMap Utf8.encodeChar) := rfl
  refine .present hfound
    ⟨⟨mixedDocument, hencode, flatObject_mixedDocument⟩, fun name v hlast => ?_⟩
  obtain ⟨before, after, hrow, -⟩ := hlast
  have hmem : (name, v) ∈ mixedMembers := by
    rw [hrow]
    exact List.mem_append_right _ List.mem_cons_self
  simp only [mixedMembers, List.mem_cons, List.not_mem_nil, or_false, Prod.mk.injEq] at hmem
  rcases hmem with ⟨-, rfl⟩ | ⟨-, rfl⟩ | ⟨-, rfl⟩
  · exact Or.inr ⟨_, rfl⟩
  · exact Or.inr ⟨_, rfl⟩
  · exact Or.inl rfl

/-- The file's last word wins over the environment, its `null` does not, and of the two variables
the later one counts. -/
theorem get_ofSources_mixed :
    FileMembers mixedStorage mixedSources.path mixedMembers ∧
      Effective mixedSources mixedMembers "my.key" (some ("new" : Text)) ∧
      Effective mixedSources mixedMembers "s3.endpoint" (some ("second" : Text)) ∧
      Effective mixedSources mixedMembers "s3.apiversion" (some ("2006-03-01" : Text)) ∧
      Effective mixedSources mixedMembers "cloudcontext.debug" none := by
  obtain ⟨c, hc, hvalue, -, -⟩ := get_ofSources fileMembers_mixedStorage
  have hget : ∀ key : Text,
      c.get key none = ((ofSources mixedStorage mixedSources).toOption.bind (·.get key none)) := by
    intro key
    rw [hc]
    rfl
  refine ⟨fileMembers_mixedStorage, ?_, ?_, ?_, ?_⟩
  · exact (hvalue "my.key" _).mp ((hget "my.key").trans (by decide +kernel))
  · exact (hvalue "s3.endpoint" _).mp ((hget "s3.endpoint").trans (by decide +kernel))
  · exact (hvalue "s3.apiversion" _).mp ((hget "s3.apiversion").trans (by decide +kernel))
  · exact (hvalue "cloudcontext.debug" _).mp ((hget "cloudcontext.debug").trans (by decide +kernel))

end CloudAccess.Configuration
