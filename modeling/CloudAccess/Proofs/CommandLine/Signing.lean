/-
# Printed and shared addresses

The signing command prints an address with a lifetime, and a context of the Atmos pair hands out
addresses whose lifetime is one of its properties.  The command asks the spec for a signer; the
context gets one from properties that its builder has checked.  Main statement: for one
configuration and the same request, both give the same addresses, as far as the screen takes them
(`prints_iff_shares`).  It need not: a context hands out addresses whose printing comes to nothing
(`shared_unprinted`).

A command prints an address if the spec is resolved, has a signer, and the signer signs
(`prints_iff`), which is what has to go well for a context, too (`Atmos.shares_iff`).  The spec is
the same: the lifetime is overridden under a key that resolving does not look at.
-/
import CloudAccess.CommandLine.Program
import CloudAccess.Proofs.CommandLine.Endings
import CloudAccess.Proofs.CommandLine.Words
import CloudAccess.Proofs.Factory.Agreement
import CloudAccess.Proofs.Provider.Share

namespace CloudAccess

namespace CommandLine

/-! ## 1. What is printed -/

/-- The program ends well and has written just this line for the user. -/
def Prints (around : Surroundings) (words : List Text) (line : Text) : Prop :=
  ∃ outcome, run around words = .ok outcome ∧ outcome.status = 0 ∧ outcome.output = written line

/-- The screen is set up, has columns, and its stream takes the line. -/
structure TakesLine (around : Surroundings) (line : Text) : Prop where
  screen : screenTrouble? around.environment = none
  columns : around.width ≠ 0
  stream : around.refuses (written line) = none

theorem written_inj {line other : Text} : written line = written other ↔ line = other :=
  List.append_left_inj _

theorem written_ne_nil (line : Text) : written line ≠ [] :=
  List.append_ne_nil_of_right_ne_nil _ (List.cons_ne_nil _ _)

/-- A command line that is carried out prints what its activity has to show. -/
theorem prints_iff_result {around : Surroundings} {words : List Text} {i : Invocation}
    (hwords : Invocation.ofWords words = .ok i) {line : Text} :
    Prints around words line ↔
      screenTrouble? around.environment = none ∧
        (i.perform around).result = .ok (written line) := by
  rw [Prints, run, hwords]
  simp only
  cases screenTrouble? around.environment with
  | some fault =>
    constructor
    · rintro ⟨outcome, hrun, -⟩
      cases hrun
    · rintro ⟨hscreen, -⟩
      cases hscreen
  | none =>
    simp only [true_and]
    cases (i.perform around).result with
    | ok output =>
      constructor
      · rintro ⟨outcome, hrun, -, houtput⟩
        cases hrun
        exact congrArg Except.ok houtput
      · intro h
        exact ⟨_, rfl, rfl, Except.ok.inj h⟩
    | error failure =>
      constructor
      · rintro ⟨outcome, hrun, hstatus, -⟩
        -- a fault is reported with another status, or not at all
        simp only at hrun
        split at hrun
        · cases hrun
          cases hstatus
        · cases hrun
      · intro h
        cases h

/-- What goes to the screen is this line if it is the line that is written, and the screen has
columns and a stream that takes it. -/
theorem display_written_eq_ok_iff {around : Surroundings} {line url : Text} :
    around.display (written line) = .ok (written url) ↔
      line = url ∧ around.width ≠ 0 ∧ around.refuses (written url) = none := by
  rw [display_eq_ok_iff]
  constructor
  · rintro (⟨-, hnil⟩ | ⟨hwidth, hrefuses, hsame⟩)
    · exact absurd hnil (written_ne_nil url)
    · obtain rfl := written_inj.mp hsame
      exact ⟨rfl, hwidth, hrefuses⟩
  · rintro ⟨rfl, hwidth, hrefuses⟩
    exact .inr ⟨hwidth, hrefuses, rfl⟩

theorem signed_eq_ok_iff {around : Surroundings} {a : Arguments} {s : Spec} {path url : Text}
    (hpath : a.path = some path) :
    (signed around a s).result = .ok (written url) ↔
      (∃ signer u, s.signer? (.whole a.lifetime) (.whole a.skew) = .ok signer ∧
        signer.Issued around.now path u ∧ u.url = url) ∧
      around.width ≠ 0 ∧ around.refuses (written url) = none := by
  rw [signed, hpath]
  cases s.signer? (.whole a.lifetime) (.whole a.skew) with
  | error failure =>
    constructor
    · intro h
      cases h
    · rintro ⟨⟨signer, u, hsigner, -⟩, -⟩
      cases hsigner
  | ok signer =>
    simp only
    constructor
    · intro h
      cases hsigned : (signer.sign logger around.now (some path)).outcome with
      | error failure =>
        rw [hsigned] at h
        cases h
      | ok u =>
        rw [hsigned] at h
        obtain ⟨hurl, htaken⟩ := display_written_eq_ok_iff.mp h
        exact ⟨⟨signer, u, rfl, Signer.sign_path_eq_ok_iff.mp hsigned, hurl⟩, htaken⟩
    · rintro ⟨⟨made, u, hmade, hissued, hurl⟩, htaken⟩
      obtain rfl := Except.ok.inj hmade
      rw [Signer.sign_path_eq_ok_iff.mpr hissued]
      exact display_written_eq_ok_iff.mpr ⟨hurl, htaken⟩

/-- **What the signing command prints:** the address that a signer of the resolved spec issues, if
the screen takes the line. -/
theorem prints_iff {around : Surroundings} {words : List Text} {a : Arguments} {path url : Text}
    {c : Configuration} (hwords : Invocation.ofWords words = .ok ⟨.sign, a⟩)
    (hpath : a.path = some path)
    (hc : Configuration.ofSources around.storage (a.sources around) around.levels = .ok c) :
    Prints around words url ↔
      (∃ s, (⟨c, Registry.bundled, logger⟩ : Factory).resolve a.request = .ok s ∧
        ∃ signer u, s.signer? (.whole a.lifetime) (.whole a.skew) = .ok signer ∧
          signer.Issued around.now path u ∧ u.url = url) ∧
      TakesLine around url := by
  rw [prints_iff_result hwords, Invocation.perform]
  simp only [hc, Factory.createSpec]
  cases (⟨c, Registry.bundled, logger⟩ : Factory).resolve a.request with
  | error fault =>
    constructor
    · rintro ⟨-, h⟩
      cases h
    · rintro ⟨⟨s, hs, -⟩, -⟩
      cases hs
  | ok s =>
    constructor
    · rintro ⟨hscreen, h⟩
      obtain ⟨hissued, hcolumns, hstream⟩ := (signed_eq_ok_iff hpath).mp h
      exact ⟨⟨s, rfl, hissued⟩, hscreen, hcolumns, hstream⟩
    · rintro ⟨⟨t, ht, hissued⟩, hscreen, hcolumns, hstream⟩
      obtain rfl := Except.ok.inj ht
      exact ⟨hscreen, (signed_eq_ok_iff hpath).mpr ⟨hissued, hcolumns, hstream⟩⟩

/-! ## 2. The same spec -/

/-- The key of the lifetime, read backwards, does not begin as a setting does. -/
theorem startsWith_reverse_shareLifetimeKey : ∀ setting ∈ Configuration.settingNames,
    Text.startsWith Properties.shareLifetimeKey.reverse setting.reverse = false := by
  decide +kernel

/-- The lifetime is not a setting of any provider. -/
theorem shareLifetimeKey_ne_key (provider : Text) {setting : Text}
    (hsetting : setting ∈ Configuration.settingNames) :
    Properties.shareLifetimeKey ≠ Configuration.key provider setting := by
  intro h
  have hstarts : Text.startsWith Properties.shareLifetimeKey.reverse setting.reverse = true := by
    rw [Text.startsWith_iff, h, Configuration.key, List.reverse_append]
    exact ⟨_, rfl⟩
  rw [startsWith_reverse_shareLifetimeKey setting hsetting] at hstarts
  cases hstarts

/-- The lifetime makes no difference to what a request is resolved to. -/
theorem resolve_shareRequest (c : Configuration) (name : Text) {a : Arguments} {provider : Text}
    (hprovider : a.provider = some provider) :
    (⟨c, Registry.bundled, name⟩ : Factory).resolve
        (Atmos.shareRequest provider a.identity a.credential a.lifetime)
      = (⟨c, Registry.bundled, logger⟩ : Factory).resolve a.request := by
  refine Factory.resolve_congr rfl hprovider.symm rfl rfl fun p _ => ?_
  refine Configuration.agreeOn_withLayer c fun setting hsetting => ?_
  rw [Atmos.get?_shareOverrides, if_neg (shareLifetimeKey_ne_key p hsetting)]

/-- The Atmos pair. -/
def atmosBuilders : Registry.Builders where
  properties := .bundled .properties .atmos
  context := .bundled .context .atmos

/-- A spec of a provider whose settings lead to the Atmos pair names this pair. -/
theorem hasPair_of_resolve {c : Configuration} {name : Text} {r : Factory.Request} {s : Spec}
    {provider : Text} (hprovider : r.provider = some provider) (hoverrides : r.overrides = none)
    (hbuilders : Registry.bundled.resolveBuilders provider c = .ok atmosBuilders)
    (hs : (⟨c, Registry.bundled, name⟩ : Factory).resolve r = .ok s) : Atmos.HasPair s := by
  have hresolved := Factory.resolve_eq_ok_iff.mp hs
  obtain rfl : s.provider = provider := Option.some.inj (hresolved.provider.symm.trans hprovider)
  obtain ⟨builders, hfound, hproperties, hcontext⟩ := hresolved.builders
  rw [Factory.layered, hoverrides] at hfound
  obtain rfl := Except.ok.inj (hfound.symm.trans hbuilders)
  exact ⟨hproperties, hcontext⟩

/-! ## 3. The same addresses -/

/-- What a signer of the command issues is what a context of the same configuration hands out. -/
theorem issues_iff_shares {a : Arguments} {provider path url name : Text} {now : Number}
    {c : Configuration} (hprovider : a.provider = some provider) (hskew : a.skew = 0)
    (hlifetime : Integer.isWritable a.lifetime = true)
    (hbuilders : Registry.bundled.resolveBuilders provider c = .ok atmosBuilders) :
    (∃ s, (⟨c, Registry.bundled, logger⟩ : Factory).resolve a.request = .ok s ∧
        ∃ signer u, s.signer? (.whole a.lifetime) (.whole a.skew) = .ok signer ∧
          signer.Issued now path u ∧ u.url = url) ↔
      (⟨c, Registry.bundled, name⟩ : Factory).Shares
        (Atmos.shareRequest provider a.identity a.credential a.lifetime) now path url := by
  have hsame := resolve_shareRequest c name hprovider
  rw [hskew]
  constructor
  · rintro ⟨s, hs, hsigned⟩
    exact (Atmos.shares_iff hlifetime (hsame.trans hs)
      (hasPair_of_resolve hprovider rfl hbuilders hs)).mpr hsigned
  · intro hshared
    obtain ⟨s, hs⟩ := hshared.exists_resolve
    rw [Atmos.shareRequest_completed, hsame] at hs
    exact ⟨s, hs, (Atmos.shares_iff hlifetime (hsame.trans hs)
      (hasPair_of_resolve hprovider rfl hbuilders hs)).mp hshared⟩

/-- **The signing command and a context sign alike.**  Let the settings of a provider lead to the
Atmos pair in the configuration that the command builds for its arguments.  Whatever the words are
that are read as these arguments, the program prints an address if and only if a context of this
configuration hands it out at the same time, when the context is made for the same identity and
credential and its lifetime is overridden with that of the command, and the screen takes the line.
Where the screen does not, nothing is printed.  The plain words of a call are read as its arguments,
and so are, for a provider and a path that begin with a hyphen, the words that put them after the
mark. -/
theorem prints_iff_shares {around : Surroundings} {a : Arguments} {provider path name : Text}
    {c : Configuration} (hprovider : a.provider = some provider) (hpath : a.path = some path)
    (hskew : a.skew = 0) (hlifetime : Integer.isWritable a.lifetime = true)
    (hc : Configuration.ofSources around.storage (a.sources around) around.levels = .ok c)
    (hbuilders : Registry.bundled.resolveBuilders provider c = .ok atmosBuilders) :
    (∀ words, Invocation.ofWords words = .ok ⟨.sign, a⟩ → ∀ url,
        Prints around words url ↔
          (⟨c, Registry.bundled, name⟩ : Factory).Shares
            (Atmos.shareRequest provider a.identity a.credential a.lifetime) around.now path url ∧
          TakesLine around url) ∧
      (a.IsCall provider path → IsPlain provider → IsPlain path →
        Invocation.ofWords (a.plainWords provider path) = .ok ⟨.sign, a⟩) ∧
      (a.IsCall provider path → path ≠ endMark →
        Invocation.ofWords (a.markedWords provider path) = .ok ⟨.sign, a⟩) := by
  refine ⟨fun words hwords url => ?_, ofWords_plain, ofWords_marked⟩
  rw [prints_iff hwords hpath hc, issues_iff_shares hprovider hskew hlifetime hbuilders]

/-- A call that gives the identity, overrides the endpoint, and has a path with a hyphen. -/
def hyphenCall : Arguments where
  provider := some "atmos"
  path := some "-x/y z"
  identity := some "uid"
  define := [("atmos.endpoint", "http://store.example/base")]
  lifetime := 60

/-- The words of the call, the path after the mark. -/
def hyphenWords : List Text :=
  ["sign", "--ttl", "60", "--define=atmos.endpoint=http://store.example/base", "--identity=uid",
    "--", "atmos", "-x/y z"]

theorem markedWords_hyphenCall : hyphenCall.markedWords "atmos" "-x/y z" = hyphenWords := by
  decide +kernel

/-- Surroundings in which the credential is a variable. -/
def credentialAround : Surroundings where
  storage := fun _ => .missing
  environment :=
    Dictionary.ofList [(("CLOUDCONTEXT_ATMOS_CREDENTIAL" : Text), some ("a2V5" : Text))]
  now := .whole 1000
  width := 80

/-- The configuration that the command builds for the call. -/
def credentialConfiguration : Configuration :=
  (Configuration.base credentialAround.environment).withLayer
    (hyphenCall.sources credentialAround).overrides

/-- The address for the call. -/
def hyphenUrl : Text :=
  "http://store.example/base/rest/namespace/-x/y%20z?uid=uid&expires=1060" ++
    "&signature=x%2B3p8Rixo3FiPlABj9AAFobOMoc%3D"

theorem run_hyphenWords :
    run credentialAround hyphenWords = .ok ⟨0, written hyphenUrl, [], []⟩ := by
  decide +kernel

/-- A path with a hyphen comes after the mark, and the address that is printed for it is shared. -/
theorem prints_iff_shares_hyphen :
    Invocation.ofWords hyphenWords = .ok ⟨.sign, hyphenCall⟩ ∧
      Prints credentialAround hyphenWords hyphenUrl ∧
      (⟨credentialConfiguration, Registry.bundled, nullLogger⟩ : Factory).Shares
        (Atmos.shareRequest "atmos" (some "uid") none 60) (.whole 1000) "-x/y z" hyphenUrl := by
  have hlifetime : Integer.isWritable hyphenCall.lifetime = true := by
    rw [Integer.isWritable_iff]
    exact (show 60 < 10 ^ 2 by decide).trans_le (Nat.pow_le_pow_right (by decide) (by decide))
  have hbuilders : Registry.bundled.resolveBuilders "atmos" credentialConfiguration
      = .ok atmosBuilders := by
    decide +kernel
  have hcall : hyphenCall.IsCall "atmos" "-x/y z" :=
    ⟨rfl, rfl, rfl, rfl, hlifetime,
      List.forall_mem_singleton.mpr ⟨by decide, by decide, by decide⟩⟩
  obtain ⟨hsame, -, hmarked⟩ := @prints_iff_shares credentialAround hyphenCall "atmos" "-x/y z"
    nullLogger credentialConfiguration rfl rfl rfl hlifetime rfl hbuilders
  have hwords : Invocation.ofWords hyphenWords = .ok ⟨.sign, hyphenCall⟩ := by
    rw [← markedWords_hyphenCall]
    exact hmarked hcall (by decide)
  have hprints : Prints credentialAround hyphenWords hyphenUrl := ⟨_, run_hyphenWords, rfl, rfl⟩
  exact ⟨hwords, hprints, ((hsame hyphenWords hwords hyphenUrl).mp hprints).1⟩

/-! ## 4. Shared, and not printed -/

/-- A call that could not be plainer. -/
def sharedCall : Arguments where
  provider := some "atmos"
  path := some "a"
  identity := some "u"
  credential := some "a2V5"

/-- The words of the call. -/
def sharedWords : List Text := ["sign", "atmos", "a", "--identity", "u", "--credential", "a2V5"]

/-- Surroundings in which a variable tells the columns of the screen, of which one stays free. -/
def columnsAround (told : Text) (width : Nat) : Surroundings where
  storage := fun _ => .missing
  environment := Dictionary.ofList [("COLUMNS", some told)]
  now := .whole 1000
  width := width

/-- The configuration that the command builds for the call. -/
def sharedConfiguration (told : Text) : Configuration :=
  (Configuration.base (columnsAround told 0).environment).withLayer
    (sharedCall.sources (columnsAround told 0)).overrides

/-- The address for the call. -/
def sharedUrl : Text :=
  "https://accesspoint.atmosonline.com/rest/namespace/a?uid=u&expires=4600" ++
    "&signature=4A2Mir8kiYU9OdKuh0HjdzglS4s%3D"

theorem ofWords_sharedWords : Invocation.ofWords sharedWords = .ok ⟨.sign, sharedCall⟩ := by
  decide +kernel

/-- A context hands out the address for the call, whatever is told of the columns. -/
theorem shares_sharedUrl {told : Text}
    (htold : sharedConfiguration told = sharedConfiguration "80") (name : Text) :
    (⟨sharedConfiguration told, Registry.bundled, name⟩ : Factory).Shares
      (Atmos.shareRequest "atmos" (some "u") (some "a2V5") 3600) (.whole 1000) "a" sharedUrl := by
  have hlifetime : Integer.isWritable sharedCall.lifetime = true := by
    rw [Integer.isWritable_iff]
    exact (show 3600 < 10 ^ 4 by decide).trans_le (Nat.pow_le_pow_right (by decide) (by decide))
  have hbuilders : Registry.bundled.resolveBuilders "atmos" (sharedConfiguration "80")
      = .ok atmosBuilders := by
    decide +kernel
  have hrun : run (columnsAround "80" 79) sharedWords = .ok ⟨0, written sharedUrl, [], []⟩ := by
    decide +kernel
  have hprints : Prints (columnsAround "80" 79) sharedWords sharedUrl := ⟨_, hrun, rfl, rfl⟩
  rw [htold]
  exact (issues_iff_shares (a := sharedCall) rfl rfl hlifetime hbuilders).mp
    ((prints_iff ofWords_sharedWords rfl rfl).mp hprints).1

/-- **Not every address that is shared is printed.**  Where one column is told, none is left: the
program ends well, and has printed nothing.  Where the columns are told with a superscript, the
program ends without a report. -/
theorem shared_unprinted :
    (∀ told ∈ (["1", "²"] : List Text),
      (⟨sharedConfiguration told, Registry.bundled, nullLogger⟩ : Factory).Shares
        (Atmos.shareRequest "atmos" (some "u") (some "a2V5") 3600) (.whole 1000) "a" sharedUrl) ∧
      run (columnsAround "1" 0) sharedWords = .ok ⟨0, [], [], []⟩ ∧
      run (columnsAround "²" 79) sharedWords
        = .error (.ofFault (.misreadInteger (.malformed "²"))) := by
  refine ⟨fun told htold => ?_, by decide +kernel, by decide +kernel⟩
  have hsame : sharedConfiguration told = sharedConfiguration "80" := by
    rcases List.mem_cons.mp htold with rfl | htold
    · decide +kernel
    · obtain rfl := List.mem_singleton.mp htold
      decide +kernel
  exact shares_sharedUrl hsame nullLogger

end CommandLine

end CloudAccess
