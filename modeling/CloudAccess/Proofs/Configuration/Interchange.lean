/-
# Settings with another credential

Two configurations, overrides or lots of properties can differ in nothing but a credential.  What
that means is said of lookups: under the keys that hold the credential of a provider both find
*interchangeable* values, and under any other key both find the same (`Alike`).

A value can be there, be there without a text, or not be there at all, and interchangeable lookups
agree on that.  Two texts are interchangeable if both are empty or neither is; where credentials are
decoded, both have to be accepted, or neither.  Stacking and collecting settings keeps lookups
alike, one lemma for each.

The sources of a configuration are related in their own terms: variables by their names
(`EnvironmentAlike`) and members of a document by theirs (`ValueAlike`).  Of a file it is enough
that it is read alike, or not read for the same reason (`ReadAlike`), and flat documents with alike
members are (`readAlike_of_flatFile`).  From alike sources come alike configurations
(`ofSources_alike`).
-/
import CloudAccess.Proofs.Configuration.Effective
import CloudAccess.Proofs.Configuration.File
import CloudAccess.Proofs.Factory.Isolation
import CloudAccess.Proofs.Properties.Setters
import CloudAccess.Signing.Signer

namespace CloudAccess

/-! ## 1. Interchangeable credentials -/

/-- Credentials that can stand for each other with the builders of a flavour.  Those of Atmos decode
credentials, the others do not look into them. -/
structure Interchangeable (flavour : Flavour) (v w : Text) : Prop where
  empty_iff : v = [] ↔ w = []
  accepted : flavour = .atmos →
    (EncodedKey.text v).decode.isOk = (EncodedKey.text w).decode.isOk

theorem Interchangeable.refl (flavour : Flavour) (v : Text) : Interchangeable flavour v v :=
  ⟨Iff.rfl, fun _ => rfl⟩

/-- Credentials that may be missing: both are, or neither is. -/
abbrev CredentialAlike (flavour : Flavour) : Option Text → Option Text → Prop :=
  Option.Rel (Interchangeable flavour)

/-- What is found under a key that holds a credential. -/
abbrev EntryAlike (flavour : Flavour) : Option (Option Text) → Option (Option Text) → Prop :=
  Option.Rel (CredentialAlike flavour)

theorem CredentialAlike.refl (flavour : Flavour) : ∀ x, CredentialAlike flavour x x
  | none => .none
  | some v => .some (.refl flavour v)

theorem EntryAlike.refl (flavour : Flavour) : ∀ x, EntryAlike flavour x x
  | none => .none
  | some x => .some (.refl flavour x)

/-- A choice between alike things is alike. -/
theorem rel_or {α β : Type} {R : α → β → Prop} {x x' : Option α} {y y' : Option β}
    (h : Option.Rel R x y) (h' : Option.Rel R x' y') : Option.Rel R (x.or x') (y.or y') := by
  cases h with
  | some h => exact .some h
  | none => exact h'

/-! ## 2. The keys of a credential -/

/-- The key holds the credential of a provider, among settings or among properties. -/
def IsCredentialKey (provider key : Text) : Prop :=
  key = Configuration.key provider "credential" ∨ key = Properties.credentialKey

/-- Keys that hold a credential end in the word. -/
theorem not_isCredentialKey {provider key : Text}
    (h : Text.startsWith key.reverse ("credential" : Text).reverse = false) :
    ¬ IsCredentialKey provider key := by
  intro hkey
  have hstarts : Text.startsWith key.reverse ("credential" : Text).reverse = true := by
    rcases hkey with rfl | rfl
    · rw [Text.startsWith_iff, Configuration.key, List.reverse_append]
      exact ⟨_, rfl⟩
    · decide +kernel
  rw [h] at hstarts
  cases hstarts

/-- No other setting of a provider holds a credential. -/
theorem not_isCredentialKey_key (provider other : Text) {setting : Text}
    (hsetting : setting ∈ Configuration.settingNames) (hne : setting ≠ "credential") :
    ¬ IsCredentialKey provider (Configuration.key other setting) := by
  have hcredential : ("credential" : Text) ∈ Configuration.settingNames := by
    simp [Configuration.settingNames]
  have hproperty : Properties.credentialKey = Configuration.key "cloudcontext" "credential" := rfl
  rintro (h | h)
  · exact hne ((Configuration.key_inj hsetting hcredential).mp h).2
  · rw [hproperty] at h
    exact hne ((Configuration.key_inj hsetting hcredential).mp h).2

/-! ## 3. Lookups -/

/-- A way to look up keys: the outer option tells whether the key is there. -/
abbrev Lookup := Text → Option (Option Text)

/-- Two lookups find the same, but for interchangeable credentials of a provider. -/
structure Alike (flavour : Flavour) (provider : Text) (f g : Lookup) : Prop where
  credential : ∀ key, IsCredentialKey provider key → EntryAlike flavour (f key) (g key)
  others : ∀ key, ¬ IsCredentialKey provider key → f key = g key

namespace Alike

variable {flavour : Flavour} {provider : Text} {f f' g g' : Lookup}

theorem refl (flavour : Flavour) (provider : Text) (f : Lookup) : Alike flavour provider f f :=
  ⟨fun key _ => .refl flavour (f key), fun _ _ => rfl⟩

/-- Whatever the key holds, what is found there is alike. -/
theorem entry (h : Alike flavour provider f g) (key : Text) :
    EntryAlike flavour (f key) (g key) := by
  by_cases hkey : IsCredentialKey provider key
  · exact h.credential key hkey
  · rw [h.others key hkey]
    exact .refl flavour _

/-- **Lookups that fall back on alike ones are alike.** -/
theorem or (h : Alike flavour provider f g) (h' : Alike flavour provider f' g') :
    Alike flavour provider (fun key => (f key).or (f' key)) fun key => (g key).or (g' key) :=
  ⟨fun key hkey => rel_or (h.credential key hkey) (h'.credential key hkey),
    fun key hkey => by rw [h.others key hkey, h'.others key hkey]⟩

end Alike

/-- Settings under one key that are alike. -/
structure SettingAlike (flavour : Flavour) (provider key : Text) (x y : Option Text) : Prop where
  value : CredentialAlike flavour x y
  others : ¬ IsCredentialKey provider key → x = y

section Stacking

variable {flavour : Flavour} {provider : Text}

theorem SettingAlike.refl (key : Text) (x : Option Text) :
    SettingAlike flavour provider key x x := ⟨.refl flavour x, fun _ => rfl⟩

/-- Lookups are alike if they find alike settings under every key. -/
theorem alike_of_settingAlike {f g : Lookup}
    (h : ∀ key, Option.Rel (SettingAlike flavour provider key) (f key) (g key)) :
    Alike flavour provider f g := by
  have hcredential : ∀ {key : Text} {x y : Option (Option Text)},
      Option.Rel (SettingAlike flavour provider key) x y → EntryAlike flavour x y
    | _, _, _, .none => .none
    | _, _, _, .some hxy => .some hxy.value
  have hothers : ∀ {key : Text} {x y : Option (Option Text)},
      Option.Rel (SettingAlike flavour provider key) x y → ¬ IsCredentialKey provider key → x = y
    | _, _, _, .none, _ => rfl
    | _, _, _, .some hxy, hkey => congrArg some (hxy.others hkey)
  exact ⟨fun key _ => hcredential (h key), fun key hkey => hothers (h key) hkey⟩

/-- **Settings made of alike pairs are alike.** -/
theorem alike_ofList {l m : List (Text × Option Text)}
    (h : List.Forall₂ (fun p q => p.1 = q.1 ∧ SettingAlike flavour provider p.1 p.2 q.2) l m) :
    Alike flavour provider (Dictionary.ofList l).get? (Dictionary.ofList m).get? :=
  alike_of_settingAlike (Dictionary.rel_get?_ofList h)

/-- **A configuration with an alike layer on top is alike.** -/
theorem alike_withLayer {c d : Configuration} {o q : Option Settings}
    (hc : Alike flavour provider c.get? d.get?)
    (ho : Alike flavour provider (fun key => o.bind (·.get? key)) fun key => q.bind (·.get? key)) :
    Alike flavour provider (c.withLayer o).get? (d.withLayer q).get? := by
  have hget : ∀ (c : Configuration) (o : Option Settings),
      (c.withLayer o).get? = fun key => (o.bind (·.get? key)).or (c.get? key) := fun c o =>
    funext fun key => Configuration.get?_withLayer c o key
  rw [hget, hget]
  exact ho.or hc

end Stacking

/-! ## 4. Variables and files -/

namespace Configuration

variable {flavour : Flavour} {provider : Text}

/-- Variables of one name that differ in a credential at most, and only if the name sets one. -/
structure VariableAlike (flavour : Flavour) (provider : Text) (e f : Text × Option Text) :
    Prop where
  name : e.1 = f.1
  value : CredentialAlike flavour e.2 f.2
  others : (∀ key, Variable.ofName e.1 = .setting key → ¬ IsCredentialKey provider key) → e.2 = f.2

/-- Environments with the same variables, in the same order, but for credentials. -/
def EnvironmentAlike (flavour : Flavour) (provider : Text) (e f : Environment) : Prop :=
  List.Forall₂ (VariableAlike flavour provider) e.entries f.entries

theorem EnvironmentAlike.refl (e : Environment) : EnvironmentAlike flavour provider e e :=
  List.forall₂_same.mpr fun x _ => ⟨rfl, .refl flavour x.2, fun _ => rfl⟩

/-- **Alike environments give alike settings.** -/
theorem ofEnvironment_alike {e f : Environment} (h : EnvironmentAlike flavour provider e f) :
    Alike flavour provider (ofEnvironment e).get? (ofEnvironment f).get? := by
  rw [ofEnvironment_eq, ofEnvironment_eq]
  refine alike_ofList ?_
  rw [EnvironmentAlike] at h
  generalize e.entries = entries at h ⊢
  generalize f.entries = others at h ⊢
  induction h with
  | nil => exact .nil
  | @cons x y rest more hxy _ ih =>
    rw [List.filterMap_cons, List.filterMap_cons, settingOf?, settingOf?, ← hxy.name]
    cases hname : Variable.ofName x.1 with
    | unrelated => exact ih
    | incomplete => exact ih
    | setting key =>
      refine .cons ⟨rfl, hxy.value, fun hkey => hxy.others fun other hother => ?_⟩ ih
      obtain rfl : key = other := Variable.setting.inj (hname.symm.trans hother)
      exact hkey

/-- Alike environments have the same names, so the same are skipped. -/
theorem warnings_alike {e f : Environment} (h : EnvironmentAlike flavour provider e f) :
    warnings e = warnings f := by
  have hkeys : e.keys = f.keys :=
    List.forall₂_eq_eq_eq ▸ List.forall₂_map_left_iff.mpr
      (List.forall₂_map_right_iff.mpr (h.imp fun _ _ hxy => hxy.name))
  rw [warnings, warnings, hkeys]

/-- What is no setting is the same in alike environments. -/
theorem get?_of_unrelated {e f : Environment} (h : EnvironmentAlike flavour provider e f)
    {name : Text} (hname : Variable.ofName name = .unrelated) : e.get? name = f.get? name := by
  rw [EnvironmentAlike] at h
  rw [Dictionary.get?, Dictionary.get?]
  generalize e.entries = entries at h ⊢
  generalize f.entries = others at h ⊢
  induction h with
  | nil => rfl
  | @cons x y rest more hxy _ ih =>
    obtain ⟨first, value⟩ := x
    obtain ⟨_, other⟩ := y
    obtain ⟨rfl, -, hothers⟩ := hxy
    rw [Entries.find?, Entries.find?, ih]
    split
    · next hsame =>
      obtain rfl := hsame
      have hvalue : value = other := hothers fun key hkey => by cases hname.symm.trans hkey
      rw [hvalue]
    · rfl

/-- Two readings of a file give alike settings, or the same fault. -/
inductive ReadAlike (flavour : Flavour) (provider : Text) :
    Except Fault Settings → Except Fault Settings → Prop where
  | read {s t : Settings} (h : Alike flavour provider s.get? t.get?) :
    ReadAlike flavour provider (.ok s) (.ok t)
  | unread (fault : Fault) : ReadAlike flavour provider (.error fault) (.error fault)

/-- A file is read like itself. -/
theorem ReadAlike.refl (flavour : Flavour) (provider : Text) (x : Except Fault Settings) :
    ReadAlike flavour provider x x := by
  cases x with
  | ok s => exact .read (.refl flavour provider s.get?)
  | error fault => exact .unread fault

/-- Values of a member of a document: the same, or texts that are interchangeable credentials. -/
inductive ValueAlike (flavour : Flavour) (provider name : Text) :
    Json.Value → Json.Value → Prop where
  | same (v : Json.Value) : ValueAlike flavour provider name v v
  | credential {v w : Text} (hname : IsCredentialKey provider name)
      (h : Interchangeable flavour v w) : ValueAlike flavour provider name (.text v) (.text w)

/-- What a member's value sets. -/
theorem ValueAlike.setting {name : Text} {v w : Json.Value}
    (h : ValueAlike flavour provider name v w) :
    Option.Rel (SettingAlike flavour provider name) ((textOf? v).map some)
      ((textOf? w).map some) := by
  cases h with
  | same v =>
    cases textOf? v with
    | none => exact .none
    | some t => exact .some (.refl name (some t))
  | credential hname h => exact .some ⟨.some h, fun hother => absurd hname hother⟩

/-- **Flat documents with alike members are read alike,** on any number of levels. -/
theorem readAlike_of_flatFile {storage other : Storage} {path : Text} {content altered : Bytes}
    {members changed : List (Text × Json.Value)} (hcontent : storage path = .file content)
    (haltered : other path = .file altered) (hfile : FlatFile content members)
    (hchanged : FlatFile altered changed)
    (h : List.Forall₂ (fun p q => p.1 = q.1 ∧ ValueAlike flavour provider p.1 p.2 q.2)
      members changed) (levels : Nat) :
    ReadAlike flavour provider (ofFile storage path levels) (ofFile other path levels) := by
  cases levels with
  | zero =>
    rw [ofFile_of_flatFile_zero hcontent hfile, ofFile_of_flatFile_zero haltered hchanged]
    exact .refl flavour provider _
  | succ n =>
  obtain ⟨s, hs, hfound⟩ := ofFile_of_flatFile hcontent hfile n
  obtain ⟨t, ht, hfoundOther⟩ := ofFile_of_flatFile haltered hchanged n
  -- a name has what it is last given, if that is a text
  have hget : ∀ {settings : Settings} {members : List (Text × Json.Value)},
      (∀ key v, settings.get? key = some v ↔
        ∃ t, v = some t ∧ IsLast (fun p => p.1 = key) members (key, .text t)) →
      ∀ key, settings.get? key
        = ((Dictionary.ofList members).get? key).bind fun v => (textOf? v).map some := by
    intro settings members hfound key
    ext v
    simp only [hfound, Option.bind_eq_some_iff, Dictionary.get?_ofList_eq_some_iff,
      Option.map_eq_some_iff, textOf?_eq_some_iff]
    constructor
    · rintro ⟨t, rfl, hlast⟩
      exact ⟨.text t, hlast, t, rfl, rfl⟩
    · rintro ⟨_, hlast, t, rfl, rfl⟩
      exact ⟨t, rfl, hlast⟩
  rw [hs, ht]
  refine .read (alike_of_settingAlike fun key => ?_)
  rw [hget hfound, hget hfoundOther]
  have hvalues := Dictionary.rel_get?_ofList h key
  generalize (Dictionary.ofList members).get? key = x at hvalues ⊢
  generalize (Dictionary.ofList changed).get? key = y at hvalues ⊢
  cases hvalues with
  | none => exact .none
  | some hvw => exact hvw.setting

/-! ## 5. The standard stack -/

/-- **Alike sources make alike configurations,** or none because of the same fault. -/
theorem ofSources_alike {storage other : Storage} {s t : Sources}
    {levels others : Nat} (hpath : s.path = t.path)
    (hfile : ∀ path, s.path = some path →
      ReadAlike flavour provider (ofFile storage path levels) (ofFile other path others))
    (henvironment : EnvironmentAlike flavour provider s.environment t.environment)
    (hoverrides : Alike flavour provider (fun key => s.overrides.bind (·.get? key))
      fun key => t.overrides.bind (·.get? key)) :
    (∃ fault, ofSources storage s levels = .error fault ∧
        ofSources other t others = .error fault) ∨
      ∃ c d, ofSources storage s levels = .ok c ∧ ofSources other t others = .ok d ∧
        Alike flavour provider c.get? d.get? := by
  have hbase : Alike flavour provider (base s.environment).get? (base t.environment).get? := by
    have hget : ∀ e, (base e).get?
        = fun key => ((ofEnvironment e).get? key).or (defaults.get? key) :=
      fun e => funext (get?_base e)
    rw [hget, hget]
    exact (ofEnvironment_alike henvironment).or (.refl flavour provider _)
  rw [ofSources, ofSources, ← hpath]
  cases hs : s.path with
  | none => exact .inr ⟨_, _, rfl, rfl, alike_withLayer hbase hoverrides⟩
  | some path =>
    have hread := hfile path hs
    simp only
    generalize ofFile storage path levels = x at hread ⊢
    generalize ofFile other path others = y at hread ⊢
    cases hread with
    | unread fault => exact .inl ⟨fault, rfl, rfl⟩
    | read hsettings =>
      exact .inr ⟨_, _, rfl, rfl, alike_withLayer (alike_withLayer hbase hsettings) hoverrides⟩

end Configuration

end CloudAccess
