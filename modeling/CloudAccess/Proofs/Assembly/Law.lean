/-
# What an assembly does

An assembly is a run of steps (`plan`): the properties builder is made, asked for what the spec
sets, and asked for the finished properties; then the context builder is made with them and given
the modules.  `run_eq` says that this is all an assembly does, so its calls and its outcome are
read off the plan.

`assemble_report` puts this together with what is reported.  The calls are those of the steps up to
the first that fails; there is a builder if none fails, and a failure otherwise; and the failure is
the first one of rejected credentials on the walk from what the step failed with, or that itself.
-/
import CloudAccess.Assembly
import CloudAccess.Proofs.Assembly.Steps
import CloudAccess.Proofs.Failure.Walk

namespace CloudAccess.Assembly

open Traced (Step runSteps callsOf)

/-! ## 1. The plan -/

/-- The component that collects the properties. -/
def propertiesBuilder (s : Spec) : Component :=
  Component.orElse s.propertiesBuilder (.bundled .properties .generic)

/-- The component that makes the builder of the context. -/
def contextBuilder (s : Spec) : Component :=
  Component.orElse s.contextBuilder (.bundled .context .generic)

/-- The calls that collect the properties for a spec.  What the spec leaves open is not set. -/
def collectCalls (s : Spec) : List Call :=
  let ask := Call.builder (propertiesBuilder s)
  [ask .construct [], ask .provider [some s.provider]] ++
    (s.apiVersion.map fun version => ask .apiVersion [some version]).toList ++
    (s.identity.map fun identity => ask .credentials [some identity, s.credential]).toList ++
    (s.endpoint.map fun uri => ask .endpoint [some uri]).toList ++ [ask .build []]

/-- The calls of an assembly in which nothing fails. -/
def callSequence (s : Spec) : List Call :=
  collectCalls s ++
    [Call.builder (contextBuilder s) .construct [],
      Call.builder (contextBuilder s) .attachModules []]

/-- What keeps a component from being made a properties builder. -/
def propertiesTrouble? (c : Component) (handled? : Option Failure := none) : Option Failure :=
  match c.failure? .construct, c.flavour? .properties with
  | some failure, _ => some failure
  | none, none => some (.arising handled? (.notCallable c.className))
  | none, some _ => none

/-- What keeps a component from being made a context builder for some properties. -/
def contextTrouble? (c : Component) (p : Properties) (handled? : Option Failure := none) :
    Option Failure :=
  match c.failure? .construct, c.flavour? .context with
  | some failure, _ => some failure
  | none, none => some (.arising handled? (.notCallable c.className))
  | none, some flavour =>
    match ContextBuilder.prepare flavour p handled? with
    | .error failure => some failure
    | .ok _ => none

/-- The properties that a component starts from, as far as it can collect any. -/
def startingProperties (c : Component) (overrides : Option Settings) : Properties :=
  let own? : Option Properties :=
    match c with
    | .extension e => e.defaults?
    | _ => none
  Properties.seed (own?.getD (Properties.defaults ((c.flavour? .properties).getD .generic)))
    overrides

/-- The properties that are collected for a spec. -/
def collected (s : Spec) (overrides : Option Settings) : Properties :=
  (setters s).foldl Properties.Setter.apply (startingProperties (propertiesBuilder s) overrides)

/-- A component is made; what keeps it from that is reported as such. -/
def constructStep (part : Part) (c : Component) (trouble? : Option Failure) : Step :=
  ⟨some (.builder c .construct []), trouble?.map (notConstructed part c)⟩

/-- A builder is asked for its work of a stage. -/
def askStep (c : Component) (stage : Stage) (arguments : List (Option Text)) : Step :=
  ⟨some (.builder c stage arguments), c.failure? stage⟩

/-- The modules are handed over.  Before that they are run through, so no call is made where the run
fails or there is nothing to run through. -/
def attachStep (c : Component) (modules : Modules) (handled? : Option Failure := none) : Step :=
  match modules.run handled? with
  | .ok _ => askStep c .attachModules []
  | .error failure => ⟨none, some failure⟩

/-- The steps that collect the properties for a spec. -/
def collectSteps (s : Spec) (handled? : Option Failure := none) : List Step :=
  constructStep .properties (propertiesBuilder s)
      (propertiesTrouble? (propertiesBuilder s) handled?) ::
    ((setters s).map fun setter =>
      askStep (propertiesBuilder s) setter.stage setter.arguments) ++
    [askStep (propertiesBuilder s) .build []]

/-- The steps that make a context builder with collected properties. -/
def buildSteps (s : Spec) (modules : Modules) (overrides : Option Settings)
    (handled? : Option Failure := none) : List Step :=
  [constructStep .context (contextBuilder s)
      (contextTrouble? (contextBuilder s) (collected s overrides) handled?),
    attachStep (contextBuilder s) modules handled?]

/-- The steps of an assembly. -/
def plan (s : Spec) (modules : Modules) (overrides : Option Settings)
    (handled? : Option Failure := none) : List Step :=
  collectSteps s handled? ++ buildSteps s modules overrides handled?

/-- What a component has read off properties when it is made a context builder. -/
def prepared (c : Component) (p : Properties) : Preparation :=
  match (c.flavour? .context).map fun flavour => ContextBuilder.prepare flavour p with
  | some (.ok preparation) => preparation
  | _ => .generic

/-- The modules that come out of a run, as far as one can be made. -/
def listed : Modules → List Module
  | .iterable (.ok modules) => modules
  | _ => []

/-- The builder that an assembly ends with if no step fails. -/
def assembled (s : Spec) (modules : Modules) (overrides : Option Settings) : ContextBuilder where
  component := contextBuilder s
  preparation := prepared (contextBuilder s) (collected s overrides)
  sync := s.sync
  async := s.async
  properties := collected s overrides
  modules := listed modules

/-! ## 2. An assembly carries out its plan -/

theorem ask_eq (c : Component) (stage : Stage) (arguments : List (Option Text)) :
    Traced.ask c stage arguments = (askStep c stage arguments).run := rfl

theorem start_eq (c : Component) (overrides : Option Settings) (handled? : Option Failure) :
    (start c overrides handled?).mapFailure (notConstructed .properties c)
      = (constructStep .properties c (propertiesTrouble? c handled?)).run.andThen fun _ =>
          pure (startingProperties c overrides) := by
  unfold start startingProperties
  rw [ask_eq, constructStep, propertiesTrouble?]
  cases hfailure : c.failure? .construct with
  | some failure =>
    have hask : (askStep c .construct []).failure? = some failure := hfailure
    rw [Traced.run_of_failure hask]
    rfl
  | none =>
    have hask : (askStep c .construct []).failure? = none := hfailure
    rw [Traced.run_of_none hask]
    cases c.flavour? .properties with
    | none => rfl
    | some flavour => rfl

theorem applySetters_eq (c : Component) (p : Properties) (setters : List Properties.Setter) :
    applySetters c p setters
      = (runSteps (setters.map fun setter => askStep c setter.stage setter.arguments)).andThen
          fun _ => pure (setters.foldl Properties.Setter.apply p) := by
  induction setters generalizing p with
  | nil => rfl
  | cons setter rest ih =>
    rw [applySetters, ask_eq, List.map_cons, runSteps, Traced.andThen_assoc, List.foldl_cons]
    simp only [ih]

/-- What is being handled has no part in what is accepted, only in how a refusal is told. -/
theorem prepare_eq_ok {flavour : Flavour} {p : Properties} {handled? : Option Failure}
    {preparation : Preparation}
    (h : ContextBuilder.prepare flavour p handled? = .ok preparation) :
    ContextBuilder.prepare flavour p = .ok preparation := by
  cases flavour with
  | generic => exact h
  | s3 =>
    rw [ContextBuilder.prepare] at h ⊢
    cases hchecked : S3.checkCredentials p with
    | ok _ =>
      rw [hchecked] at h
      exact h
    | error fault =>
      rw [hchecked] at h
      cases h
  | atmos =>
    rw [ContextBuilder.prepare] at h ⊢
    cases haccept : Atmos.accept p handled? with
    | error failure =>
      rw [haccept] at h
      cases h
    | ok accepted =>
      rw [haccept] at h
      rw [Atmos.accept_eq_ok haccept]
      exact h

theorem create?_eq (c : Component) (sync async : Option Component) (p : Properties)
    (handled? : Option Failure) :
    (ContextBuilder.create? c sync async p handled?).mapFailure (notConstructed .context c)
      = (constructStep .context c (contextTrouble? c p handled?)).run.andThen fun _ =>
          pure ⟨c, prepared c p, sync, async, p, []⟩ := by
  rw [ContextBuilder.create?, ask_eq, constructStep, contextTrouble?, prepared]
  cases hfailure : c.failure? .construct with
  | some failure =>
    have hask : (askStep c .construct []).failure? = some failure := hfailure
    rw [Traced.run_of_failure hask]
    rfl
  | none =>
    have hask : (askStep c .construct []).failure? = none := hfailure
    rw [Traced.run_of_none hask]
    cases c.flavour? .context with
    | none => rfl
    | some flavour =>
      simp only [Option.map_some]
      cases hprepare : ContextBuilder.prepare flavour p handled? with
      | error failure => rfl
      | ok preparation =>
        rw [prepare_eq_ok hprepare]
        rfl

/-- A run through modules that does not fail comes to those that are listed. -/
theorem run_eq_ok {modules : Modules} {handled? : Option Failure} {ran : List Module}
    (h : modules.run handled? = .ok ran) : listed modules = ran := by
  cases modules with
  | notIterable kind => cases h
  | iterable outcome =>
    obtain rfl : outcome = .ok ran := h
    rfl

theorem attachModules_eq (b : ContextBuilder) (modules : Modules) (handled? : Option Failure) :
    attachModules b modules handled?
      = (attachStep b.component modules handled?).run.andThen fun _ =>
          pure (b.attach (listed modules)) := by
  rw [attachModules, attachStep]
  cases hrun : modules.run handled? with
  | error failure => rfl
  | ok ran =>
    rw [run_eq_ok hrun]
    rfl

theorem collect_eq (s : Spec) (overrides : Option Settings) (handled? : Option Failure) :
    collect (propertiesBuilder s) s overrides handled?
      = (runSteps (collectSteps s handled?)).andThen fun _ => pure (collected s overrides) := by
  rw [collect, start_eq, collectSteps]
  simp only [Traced.bind_eq, Traced.andThen_assoc, Traced.pure_andThen, applySetters_eq,
    runSteps, List.cons_append, Traced.runSteps_append, ask_eq, collected]

/-- **An assembly is the run of its plan.** -/
theorem run_eq (s : Spec) (modules : Modules) (overrides : Option Settings)
    (handled? : Option Failure) :
    run s modules overrides handled?
      = (runSteps (plan s modules overrides handled?)).andThen fun _ =>
          pure (assembled s modules overrides) := by
  rw [plan, Traced.runSteps_append, Traced.andThen_assoc]
  show (collect (propertiesBuilder s) s overrides handled? >>= fun p =>
    (ContextBuilder.create? (contextBuilder s) s.sync s.async p handled?).mapFailure
      (notConstructed .context (contextBuilder s)) >>= fun b =>
        attachModules b modules handled?) = _
  rw [collect_eq, Traced.bind_eq, Traced.andThen_assoc]
  simp only [Traced.bind_eq, Traced.andThen_assoc, Traced.pure_andThen, create?_eq,
    attachModules_eq, buildSteps, runSteps]
  rfl

/-! ## 3. The calls of a plan -/

theorem callsOf_collectSteps (s : Spec) (handled? : Option Failure) :
    callsOf (collectSteps s handled?) = collectCalls s := by
  rw [collectSteps, setters, collectCalls]
  cases s.apiVersion with
  | none => cases s.identity with
    | none => cases s.endpoint with
      | none => rfl
      | some uri => rfl
    | some identity => cases s.endpoint with
      | none => rfl
      | some uri => rfl
  | some version => cases s.identity with
    | none => cases s.endpoint with
      | none => rfl
      | some uri => rfl
    | some identity => cases s.endpoint with
      | none => rfl
      | some uri => rfl

/-- The calls of a plan are all there are, but for the last where the modules cannot be run
through. -/
theorem callSequence_eq (s : Spec) (modules : Modules) (overrides : Option Settings)
    (handled? : Option Failure) :
    callSequence s = callsOf (plan s modules overrides handled?) ++
      match modules.run handled? with
      | .ok _ => []
      | .error _ => [.builder (contextBuilder s) .attachModules []] := by
  rw [plan, Traced.callsOf_append, callsOf_collectSteps, callSequence, buildSteps,
    attachStep]
  cases modules.run handled? with
  | error failure => simp only [List.append_assoc]; rfl
  | ok ran => simp only [List.append_assoc]; rfl

/-! ## 4. What is reported -/

/-- What is reported of an assembly that failed.  The walk from the failure along its links either
meets rejected credentials, and they are reported, or it does not. -/
inductive ReportsFailure (logger provider : Text) (failure : Failure) :
    Log.Record → Result ContextBuilder → Prop where
  | rejected {steps i : Nat} {carried : Failure}
      (meets : Failure.MeetsAt failure.nodes failure.root steps i)
      (carried_eq : failure.at? i = some carried) :
      ReportsFailure logger provider failure
        ⟨logger, .warning,
          "Credentials rejected for provider " ++ provider ++ ": " ++ carried.fault.message⟩
        { failure := some carried }
  | other
      (never : ∀ steps, ∀ i ∈ Failure.walk failure.nodes failure.root steps,
        Failure.isAuthorizationAt failure.nodes i = false) :
      ReportsFailure logger provider failure
        ⟨logger, .error,
          "Context assembly failed for provider " ++ provider ++ ": " ++ failure.fault.message⟩
        { failure := some failure }

/-- **What a report says of a plan.**  Either no step fails, all calls are made and there is a
builder; or there is a first step that fails, its call is the last, and its failure is reported. -/
inductive Follows (logger : Text) (s : Spec) (modules : Modules) (overrides : Option Settings)
    (handled? : Option Failure) : Report → Prop where
  | built (succeeds : ∀ step ∈ plan s modules overrides handled?, step.failure? = none) :
      Follows logger s modules overrides handled?
        ⟨callSequence s,
          ⟨logger, .debug,
            "Assembled " ++ (contextBuilder s).className ++ " for provider " ++ s.provider⟩,
          { builder := some (assembled s modules overrides) }⟩
  | failed {before after : List Step} {step : Step} {failure : Failure} {record : Log.Record}
      {result : Result ContextBuilder}
      (plan_eq : plan s modules overrides handled? = before ++ step :: after)
      (before_succeeds : ∀ earlier ∈ before, earlier.failure? = none)
      (step_fails : step.failure? = some failure)
      (reports : ReportsFailure logger s.provider failure record result) :
      Follows logger s modules overrides handled? ⟨callsOf (before ++ [step]), record, result⟩

theorem reportsFailure_conclude (logger : Text) (s : Spec) (failure : Failure) :
    ReportsFailure logger s.provider failure (conclude logger s (.error failure)).1
      (conclude logger s (.error failure)).2 := by
  rw [conclude]
  obtain ⟨hnone, hnever⟩ | ⟨steps, i, carried, hmeets, hat, hsome⟩ := failure.authorization?_cases
  · rw [hnone]
    exact .other hnever
  · rw [hsome]
    exact .rejected hmeets hat

/-- A plan fails at its last step where the modules cannot be run through. -/
theorem exists_run_of_succeeds {s : Spec} {modules : Modules} {overrides : Option Settings}
    {handled? : Option Failure}
    (h : ∀ step ∈ plan s modules overrides handled?, step.failure? = none) :
    ∃ ran, modules.run handled? = .ok ran := by
  have hlast := h (attachStep (contextBuilder s) modules handled?) (by simp [plan, buildSteps])
  rw [attachStep] at hlast
  cases hrun : modules.run handled? with
  | ok ran => exact ⟨ran, rfl⟩
  | error failure =>
    rw [hrun] at hlast
    cases hlast

theorem follows_assemble (logger : Text) (s : Spec) (modules : Modules)
    (overrides : Option Settings) (handled? : Option Failure) :
    Follows logger s modules overrides handled?
      (assemble logger s modules overrides handled?) := by
  have hrun := run_eq s modules overrides handled?
  rcases Traced.none_or_first_failure (plan s modules overrides handled?) with
    hnone | ⟨before, step, after, failure, hplan, hbefore, hstep⟩
  · obtain ⟨ran, hran⟩ := exists_run_of_succeeds hnone
    have hcalls := callSequence_eq s modules overrides handled?
    rw [hran, List.append_nil] at hcalls
    rw [Traced.runSteps_of_none hnone, Traced.ok_andThen_pure] at hrun
    rw [assemble, hrun, ← hcalls]
    exact .built hnone
  · rw [hplan, Traced.runSteps_of_failure hbefore hstep, Traced.error_andThen] at hrun
    rw [assemble, hrun]
    exact .failed hplan hbefore hstep (reportsFailure_conclude logger s failure)

section Follows

variable {logger : Text} {s : Spec} {modules : Modules} {overrides : Option Settings}
  {handled? : Option Failure} {report : Report}

/-- The calls that are made are the first ones of the full sequence. -/
theorem Follows.calls_prefix (h : Follows logger s modules overrides handled? report) :
    report.calls <+: callSequence s := by
  cases h with
  | built succeeds => exact List.prefix_refl _
  | failed plan_eq before_succeeds step_fails reports =>
    rename_i before after step failure record result
    have hplan : callsOf (plan s modules overrides handled?)
        = callsOf (before ++ [step]) ++ callsOf after := by
      rw [plan_eq, ← Traced.callsOf_append, List.append_assoc, List.singleton_append]
    rw [callSequence_eq s modules overrides handled?, hplan, List.append_assoc]
    exact List.prefix_append _ _

/-- A failed assembly reports a failure and no builder. -/
theorem ReportsFailure.result_eq {provider : Text} {failure : Failure} {record : Log.Record}
    {result : Result ContextBuilder} (h : ReportsFailure logger provider failure record result) :
    result.builder = none ∧ result.failure.isSome = true := by
  cases h with
  | rejected meets carried_eq => exact ⟨rfl, rfl⟩
  | other never => exact ⟨rfl, rfl⟩

theorem Follows.isSome_builder_iff (h : Follows logger s modules overrides handled? report) :
    report.result.builder.isSome ↔
      ∀ step ∈ plan s modules overrides handled?, step.failure? = none := by
  cases h with
  | built succeeds => exact ⟨fun _ => succeeds, fun _ => rfl⟩
  | failed plan_eq before_succeeds step_fails reports =>
    rename_i before after step failure record result
    constructor
    · intro hsome
      rw [reports.result_eq.1] at hsome
      exact Bool.noConfusion hsome
    · intro hall
      have hstep : step ∈ plan s modules overrides handled? := by
        rw [plan_eq]
        exact List.mem_append_right _ List.mem_cons_self
      rw [hall step hstep] at step_fails
      cases step_fails

theorem Follows.isSome_failure (h : Follows logger s modules overrides handled? report) :
    report.result.failure.isSome = !report.result.builder.isSome := by
  cases h with
  | built succeeds => rfl
  | failed plan_eq before_succeeds step_fails reports =>
    rw [reports.result_eq.1, reports.result_eq.2]
    rfl

end Follows

end CloudAccess.Assembly
