/-
# When an assembly ends with a builder

An assembly ends with a builder if no step of its plan fails, and the builder is the one that the
plan leads to (`outcome_assemble_eq_ok_iff`).  So whatever is to be said about a builder can be
said about `assembled`.  Otherwise it ends with the failure of the first step that fails, or with
the rejected credentials behind it (`outcome_assemble`).

A component that could not be made is reported as such.  If rejected credentials are the reason,
they are found behind the report; if they have no part in it, the report stands.
-/
import CloudAccess.Proofs.Assembly.Law

namespace CloudAccess.Assembly

open Traced (Step)

/-! ## 1. Outcomes -/

variable (s : Spec) (modules : Modules) (overrides : Option Settings) (handled? : Option Failure)

/-- The steps of an assembly end with the first failure, or with the builder. -/
theorem outcome_run :
    (run s modules overrides handled?).outcome
      = match (plan s modules overrides handled?).findSome? Step.failure? with
        | some failure => .error failure
        | none => .ok (assembled s modules overrides) := by
  have hsteps := Traced.outcome_runSteps (plan s modules overrides handled?)
  rw [run_eq, Traced.andThen, hsteps]
  cases (plan s modules overrides handled?).findSome? Step.failure? with
  | some failure => rfl
  | none => rfl

theorem assemble_eq (logger : Text) :
    assemble logger s modules overrides handled?
      = ⟨(run s modules overrides handled?).calls,
          (conclude logger s (run s modules overrides handled?).outcome).1,
          (conclude logger s (run s modules overrides handled?).outcome).2⟩ := rfl

/-- **What an assembly ends with:** rejected credentials are what is reported of a failure that they
led to. -/
theorem outcome_assemble (logger : Text) :
    (assemble logger s modules overrides handled?).outcome
      = match (plan s modules overrides handled?).findSome? Step.failure? with
        | some failure => .error failure.surfaced
        | none => .ok (assembled s modules overrides) := by
  rw [assemble_eq, outcome_run]
  cases (plan s modules overrides handled?).findSome? Step.failure? with
  | none => rfl
  | some failure =>
    simp only [conclude, Failure.surfaced]
    cases failure.authorization? with
    | none => rfl
    | some rejected => rfl

variable {s modules overrides handled?}

/-- **An assembly ends with the builder of its plan,** if no step fails. -/
theorem outcome_assemble_eq_ok_iff {logger : Text} {b : ContextBuilder} :
    (assemble logger s modules overrides handled?).outcome = .ok b ↔
      (∀ step ∈ plan s modules overrides handled?, step.failure? = none) ∧
        b = assembled s modules overrides := by
  rw [outcome_assemble, ← List.findSome?_eq_none_iff]
  cases (plan s modules overrides handled?).findSome? Step.failure? with
  | some failure => exact ⟨nofun, nofun⟩
  | none =>
    simp only [Except.ok.injEq, true_and]
    exact eq_comm

/-! ## 2. Components that could not be made -/

variable (part : Part) (c : Component) {failure : Failure}

theorem isAuthorization_notConstructed :
    (Fault.notConstructed part.title c.makerName
      failure.fault.message).category.isAuthorization = false := rfl

theorem authorization?_notConstructed (h : failure.fault.category.isAuthorization = true) :
    ∃ rejected, (notConstructed part c failure).authorization? = some rejected ∧
      rejected.fault = failure.fault :=
  Failure.authorization?_wrap (isAuthorization_notConstructed part c) h

/-- The report has the rejected credentials behind it that are behind what it reports. -/
theorem findAuthorization?_notConstructed (h : failure.Closed) :
    (notConstructed part c failure).findAuthorization? = failure.findAuthorization? :=
  Failure.findAuthorization?_wrap h (isAuthorization_notConstructed part c)

theorem surfaced_notConstructed (hclosed : failure.Closed)
    (h : failure.findAuthorization? = none) :
    (notConstructed part c failure).surfaced = notConstructed part c failure :=
  Failure.surfaced_of_findAuthorization?_eq_none
    ((findAuthorization?_notConstructed part c hclosed).trans h)

end CloudAccess.Assembly
