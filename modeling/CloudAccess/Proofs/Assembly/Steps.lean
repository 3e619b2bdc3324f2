/-
# Runs of steps

A traced computation is often nothing but a list of steps, each with the call it makes and the
failure it ends in, if it fails.  Such a run makes the calls of all its steps if none of them fails
(`runSteps_of_none`); otherwise it makes the calls up to and including that of the first step that
fails, and ends in its failure (`runSteps_of_failure`).  So what a run does can be read off the
list, and a computation that is shown to be such a run has been described in full.
-/
import CloudAccess.Component

namespace CloudAccess.Traced

variable {α β γ : Type}

/-! ## 1. One computation after another -/

theorem bind_eq (t : Traced α) (f : α → Traced β) : t >>= f = t.andThen f := rfl

theorem pure_andThen (a : α) (f : α → Traced β) : (pure a : Traced α).andThen f = f a := rfl

theorem ok_andThen (calls : List Call) (a : α) (f : α → Traced β) :
    (⟨calls, .ok a⟩ : Traced α).andThen f = ⟨calls ++ (f a).calls, (f a).outcome⟩ := rfl

theorem ok_andThen_pure (calls : List Call) (a : α) (b : β) :
    (⟨calls, .ok a⟩ : Traced α).andThen (fun _ => pure b) = ⟨calls, .ok b⟩ :=
  congrArg (fun made => (⟨made, .ok b⟩ : Traced β)) (List.append_nil calls)

theorem error_andThen (calls : List Call) (failure : Failure) (f : α → Traced β) :
    (⟨calls, .error failure⟩ : Traced α).andThen f = ⟨calls, .error failure⟩ := rfl

theorem andThen_assoc (t : Traced α) (f : α → Traced β) (g : β → Traced γ) :
    (t.andThen f).andThen g = t.andThen fun a => (f a).andThen g := by
  obtain ⟨calls, outcome⟩ := t
  cases outcome with
  | error failure => rfl
  | ok a =>
    simp only [andThen]
    cases (f a).outcome with
    | error failure => rfl
    | ok b => simp only [List.append_assoc]

/-! ## 2. Steps -/

/-- A step of a run: the call it makes, if it makes one, and the failure it ends in, if it fails. -/
structure Step where
  call? : Option Call
  failure? : Option Failure

/-- What a step leaves behind: nothing, unless it fails. -/
def Step.outcome (step : Step) : Except Failure Unit :=
  match step.failure? with
  | some failure => .error failure
  | none => .ok ()

/-- A step as a computation. -/
def Step.run (step : Step) : Traced Unit := ⟨step.call?.toList, step.outcome⟩

/-- Steps as a computation, one after the other. -/
def runSteps : List Step → Traced Unit
  | [] => pure ()
  | step :: rest => step.run.andThen fun _ => runSteps rest

/-- The calls that steps make if all of them are taken. -/
def callsOf (steps : List Step) : List Call := steps.filterMap Step.call?

/-! ## 3. What a run of steps does -/

theorem run_of_failure {step : Step} {failure : Failure} (h : step.failure? = some failure) :
    step.run = ⟨step.call?.toList, .error failure⟩ := by
  rw [Step.run, Step.outcome, h]

theorem run_of_none {step : Step} (h : step.failure? = none) :
    step.run = ⟨step.call?.toList, .ok ()⟩ := by
  rw [Step.run, Step.outcome, h]

theorem callsOf_cons (step : Step) (steps : List Step) :
    callsOf (step :: steps) = step.call?.toList ++ callsOf steps := by
  rw [callsOf, List.filterMap_cons]
  cases step.call? with
  | none => rfl
  | some call => rfl

theorem callsOf_append (first second : List Step) :
    callsOf (first ++ second) = callsOf first ++ callsOf second := List.filterMap_append

theorem runSteps_append (first second : List Step) :
    runSteps (first ++ second) = (runSteps first).andThen fun _ => runSteps second := by
  induction first with
  | nil => rfl
  | cons step rest ih => rw [List.cons_append, runSteps, runSteps, ih, andThen_assoc]

/-- **Where no step fails,** all calls are made. -/
theorem runSteps_of_none {steps : List Step} (h : ∀ step ∈ steps, step.failure? = none) :
    runSteps steps = ⟨callsOf steps, .ok ()⟩ := by
  induction steps with
  | nil => rfl
  | cons step rest ih =>
    have hrest := ih fun s hs => h s (List.mem_cons_of_mem _ hs)
    rw [runSteps, run_of_none (h step List.mem_cons_self), ok_andThen, hrest, callsOf_cons]

/-- **Where a step fails,** its call is the last and its failure is the outcome. -/
theorem runSteps_of_failure {before after : List Step} {step : Step} {failure : Failure}
    (hbefore : ∀ earlier ∈ before, earlier.failure? = none) (hstep : step.failure? = some failure) :
    runSteps (before ++ step :: after) = ⟨callsOf (before ++ [step]), .error failure⟩ := by
  rw [runSteps_append, runSteps_of_none hbefore, ok_andThen, runSteps, run_of_failure hstep,
    error_andThen, callsOf_append, callsOf_cons]
  exact congrArg (fun calls => (⟨callsOf before ++ calls, .error failure⟩ : Traced Unit))
    (List.append_nil _).symm

/-- A step that is reached makes its call, right after those of the steps before it. -/
theorem prefix_calls_runSteps {before : List Step} (step : Step) (after : List Step)
    (hbefore : ∀ earlier ∈ before, earlier.failure? = none) :
    callsOf (before ++ [step]) <+: (runSteps (before ++ step :: after)).calls := by
  rw [callsOf_append, callsOf_cons, runSteps_append, runSteps_of_none hbefore, ok_andThen]
  refine (List.prefix_append_right_inj _).mpr ?_
  show step.run.calls ++ [] <+: _
  rw [List.append_nil, runSteps, andThen]
  split
  · exact List.prefix_rfl
  · exact List.prefix_append _ _

/-- Either no step fails, or there is a first that does. -/
theorem none_or_first_failure (steps : List Step) :
    (∀ step ∈ steps, step.failure? = none) ∨
      ∃ before step after failure, steps = before ++ step :: after ∧
        (∀ earlier ∈ before, earlier.failure? = none) ∧ step.failure? = some failure := by
  cases h : steps.findSome? Step.failure? with
  | none => exact Or.inl (List.findSome?_eq_none_iff.mp h)
  | some failure =>
    obtain ⟨before, step, after, hsteps, hstep, hbefore⟩ := List.findSome?_eq_some_iff.mp h
    exact Or.inr ⟨before, step, after, failure, hsteps, hbefore, hstep⟩

/-- **The outcome of a run** is the failure of the first step that fails, if there is one. -/
theorem outcome_runSteps (steps : List Step) :
    (runSteps steps).outcome = match steps.findSome? Step.failure? with
      | some failure => .error failure
      | none => .ok () := by
  cases h : steps.findSome? Step.failure? with
  | none => rw [runSteps_of_none (List.findSome?_eq_none_iff.mp h)]
  | some failure =>
    obtain ⟨before, step, after, rfl, hstep, hbefore⟩ := List.findSome?_eq_some_iff.mp h
    rw [runSteps_of_failure hbefore hstep]

end CloudAccess.Traced
