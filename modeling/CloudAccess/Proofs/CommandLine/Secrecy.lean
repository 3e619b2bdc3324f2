/-
# What is seen of a credential

Nothing is, but whether it is there.  Two calls of the factory that differ in interchangeable
credentials are logged and shown alike, and the same is told of them where they fail; and two runs
of the program that show a spec write the same, down to the records of their logs, and end alike
(`credentials_unseen`).

The program gets credentials from more places than a call does: from its words, from variables, and
from a file.  Each may hold another credential, and the configurations of the two runs are alike all
the same, so that the calls of the factory are.
-/
import CloudAccess.CommandLine.Program
import CloudAccess.Proofs.CommandLine.Endings
import CloudAccess.Proofs.Factory.Secrecy

namespace CloudAccess.CommandLine

variable {flavour : Flavour} {provider : Text}

/-! ## 1. Runs that differ in a credential -/

/-- Two runs for one provider that differ in nothing but interchangeable credentials.  The time does
not matter to a spec. -/
structure RunsAlike (flavour : Flavour) (provider : Text) (around other : Surroundings)
    (a b : Arguments) : Prop where
  provider_left : a.provider = some provider
  provider_right : b.provider = some provider
  identity : a.identity = b.identity
  credential : CredentialAlike flavour a.credential b.credential
  verbose : a.verbose = b.verbose
  config : a.config = b.config
  define : List.Forall₂
    (fun x y => x.1 = y.1 ∧ SettingAlike flavour provider x.1 (some x.2) (some y.2))
    a.define b.define
  width : around.width = other.width
  judge : around.judge = other.judge
  refuses : around.refuses = other.refuses
  environment : Configuration.EnvironmentAlike flavour provider around.environment
    other.environment
  file : ∀ path, a.config = some path → Configuration.ReadAlike flavour provider
    (Configuration.ofFile around.storage path around.levels)
    (Configuration.ofFile other.storage path other.levels)

namespace RunsAlike

variable {around other : Surroundings} {a b : Arguments}

/-- The settings that the words give. -/
theorem overrides (h : RunsAlike flavour provider around other a b) :
    Alike flavour provider (fun key => (a.sources around).overrides.bind (·.get? key))
      fun key => (b.sources other).overrides.bind (·.get? key) :=
  alike_ofList (List.forall₂_map_left_iff.mpr (List.forall₂_map_right_iff.mpr h.define))

/-- **The program makes alike configurations,** or none because of the same fault. -/
theorem configuration (h : RunsAlike flavour provider around other a b) :
    (∃ fault,
        Configuration.ofSources around.storage (a.sources around) around.levels = .error fault ∧
        Configuration.ofSources other.storage (b.sources other) other.levels = .error fault) ∨
      ∃ c d, Configuration.ofSources around.storage (a.sources around) around.levels = .ok c ∧
        Configuration.ofSources other.storage (b.sources other) other.levels = .ok d ∧
        Alike flavour provider c.get? d.get? :=
  Configuration.ofSources_alike h.config h.file h.environment h.overrides

/-- **The program makes alike calls.** -/
theorem calls (h : RunsAlike flavour provider around other a b) {c d : Configuration}
    (hc : Alike flavour provider c.get? d.get?) :
    Factory.CallsAlike flavour provider ⟨c, Registry.bundled, logger⟩
      ⟨d, Registry.bundled, logger⟩ a.request b.request where
  registry := rfl
  logger := rfl
  configuration := hc
  provider_left := h.provider_left
  provider_right := h.provider_right
  identity := h.identity
  credential := h.credential
  overrides := .refl flavour provider fun _ => none
  modules := rfl

/-- **The command that shows a spec does the same** in both runs. -/
theorem perform_eq (h : RunsAlike flavour provider around other a b) :
    Invocation.perform ⟨.spec, a⟩ around = Invocation.perform ⟨.spec, b⟩ other := by
  rw [Invocation.perform, Invocation.perform, Configuration.warnings_alike h.environment]
  rcases h.configuration with ⟨fault, ha, hb⟩ | ⟨c, d, hc, hd, hcd⟩
  · simp only [ha, hb]
  · simp only [hc, hd]
    rcases (h.calls hcd).resolve_alike with ⟨fault, hr, hq⟩ | ⟨s, t, hr, hq, halike⟩
    · simp only [Factory.createSpec, hr, hq]
    · have hdisplay : around.display = other.display := by
        funext text
        rw [Surroundings.display, Surroundings.display, h.width, h.refuses]
      simp only [Factory.createSpec, hr, hq, Factory.resolvedRecord, halike.summary_eq,
        Command.perform, Spec.render, halike.sheet_eq, h.width, h.judge, hdisplay]

/-- The screen is set up in both runs, or fails for the same reason. -/
theorem screenTrouble?_eq (h : RunsAlike flavour provider around other a b) :
    screenTrouble? around.environment = screenTrouble? other.environment := by
  have hcolumns := Configuration.get?_of_unrelated h.environment
    (show Configuration.Variable.ofName "COLUMNS" = .unrelated by decide +kernel)
  have hlines := Configuration.get?_of_unrelated h.environment
    (show Configuration.Variable.ofName "LINES" = .unrelated by decide +kernel)
  simp only [screenTrouble?, sizeVariables, List.findSome?_cons, hcolumns, hlines,
    List.findSome?_nil]

theorem run_eq (h : RunsAlike flavour provider around other a b) {words others : List Text}
    (hwords : Invocation.ofWords words = .ok ⟨.spec, a⟩)
    (hothers : Invocation.ofWords others = .ok ⟨.spec, b⟩) :
    run around words = run other others := by
  rw [run, run, hwords, hothers]
  simp only [h.screenTrouble?_eq, h.perform_eq, Arguments.level, h.verbose]

end RunsAlike

/-! ## 2. Nothing is seen -/

/-- **Credentials are never seen.**  Calls of the factory that differ in nothing but interchangeable
credentials write the same records, show the same spec, and fail for the same reason; so do those
that make a builder, if the builders of the provider are a bundled pair for which the credentials
are interchangeable.  Runs of the program that show a spec and differ in nothing else do the same
altogether. -/
theorem credentials_unseen (flavour : Flavour) (provider : Text) :
    (∀ f g r q, Factory.CallsAlike flavour provider f g r q →
      ((f.createSpec r).log = (g.createSpec q).log ∧
        told (f.createSpec r).outcome = told (g.createSpec q).outcome ∧
        ∀ s t, (f.createSpec r).outcome = .ok s → (g.createSpec q).outcome = .ok t →
          s.summary = t.summary ∧ ∀ width judge, s.render width judge = t.render width judge) ∧
      (f.registry.resolveBuilders provider (f.layered r) = .ok (Registry.pair flavour) →
        (f.createBuilder r).log = (g.createBuilder q).log ∧
          told (f.createBuilder r).outcome = told (g.createBuilder q).outcome)) ∧
    ∀ around other a b, RunsAlike flavour provider around other a b → ∀ words others,
      Invocation.ofWords words = .ok ⟨.spec, a⟩ → Invocation.ofWords others = .ok ⟨.spec, b⟩ →
      run around words = run other others := by
  refine ⟨fun f g r q h => ⟨?_, fun hpair => ?_⟩,
    fun around other a b h words others hwords hothers => h.run_eq hwords hothers⟩
  · obtain ⟨hlog, htold, hshown⟩ := h.createSpec_alike
    refine ⟨hlog, htold, fun s t hs ht => ?_⟩
    obtain ⟨hsummary, hsheet⟩ := hshown s t hs ht
    refine ⟨hsummary, fun width judge => ?_⟩
    rw [Spec.render, Spec.render, hsheet]
  · refine h.createBuilder_alike fun builders hbuilders => ?_
    rw [Factory.layered_completed, hpair] at hbuilders
    cases hbuilders
    rfl

/-- The factory of the program where nothing but the bundled defaults is configured. -/
def plainFactory : Factory := ⟨⟨[Configuration.defaults]⟩, Registry.bundled, logger⟩

/-- The arguments for a spec of Atmos with a credential. -/
def secretArguments (credential : Text) : Arguments where
  provider := some "atmos"
  identity := some "u"
  credential := some credential

/-- The words of the arguments. -/
def secretWords (credential : Text) : List Text :=
  ["spec", "atmos", "--identity", "u", "--credential", credential]

/-- Credentials of one character and of five are refused for different reasons, each of which tells
the number of characters.  Neither reason is seen. -/
theorem credentials_unseen_refused :
    (EncodedKey.text "a").decode ≠ (EncodedKey.text "abcde").decode ∧
      told (plainFactory.createBuilder (secretArguments "a").request).outcome
        = .error .atmosSecretRejected ∧
      told (plainFactory.createBuilder (secretArguments "abcde").request).outcome
        = .error .atmosSecretRejected ∧
      run bareAround (secretWords "a") = run bareAround (secretWords "abcde") := by
  have hinterchangeable : Interchangeable .atmos "a" "abcde" :=
    ⟨by decide, fun _ => by decide +kernel⟩
  have hruns : RunsAlike .atmos "atmos" bareAround bareAround (secretArguments "a")
      (secretArguments "abcde") :=
    { provider_left := rfl
      provider_right := rfl
      identity := rfl
      credential := .some hinterchangeable
      verbose := rfl
      config := rfl
      define := .nil
      width := rfl
      judge := rfl
      refuses := rfl
      environment := .refl _
      file := nofun }
  have hcalls : Factory.CallsAlike .atmos "atmos" plainFactory plainFactory
      (secretArguments "a").request (secretArguments "abcde").request :=
    hruns.calls (.refl .atmos "atmos" _)
  obtain ⟨hfactory, hprogram⟩ := credentials_unseen .atmos "atmos"
  obtain ⟨-, hbuilder⟩ := hfactory _ _ _ _ hcalls
  have hsame := (hbuilder (by decide +kernel)).2
  have hrefused : told (plainFactory.createBuilder (secretArguments "a").request).outcome
      = .error .atmosSecretRejected := by
    decide +kernel
  exact ⟨by decide +kernel, hrefused, hsame.symm.trans hrefused,
    hprogram _ _ _ _ hruns _ _ (by decide +kernel) (by decide +kernel)⟩

end CloudAccess.CommandLine
