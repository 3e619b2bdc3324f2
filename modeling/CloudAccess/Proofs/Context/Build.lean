/-
# When a context is made

Making a context asks its builder for it, and then carries out a run of whatever is at work in it
(`build_eq`): the client is made and the hooks of the modules are called.  Where the builder raises
nothing of its own and there are no modules, all depends on the client (`outcome_build`).
`createContext_eq_ok_iff` splits what a factory does into the making of the builder and that of the
context.
-/
import CloudAccess.Factory
import CloudAccess.Proofs.Assembly.Steps

namespace CloudAccess

namespace ContextBuilder

variable {b : ContextBuilder} {handled? : Option Failure} {refused : S3.Refusals}

/-- A builder that does not refuse to build carries out the run of what is at work in it. -/
theorem build_eq (hinherits : b.component.failure? .buildContext = none) :
    b.build handled? refused
      = ⟨.builder b.component .buildContext [] ::
            ((workings handled? refused).build b).steps.map call,
          ((workings handled? refused).build b).outcome⟩ := by
  have hask : Traced.ask b.component .buildContext []
      = ⟨[.builder b.component .buildContext []], .ok ()⟩ := by
    rw [Traced.ask, hinherits]
  show (Traced.ask b.component .buildContext []).andThen _ = _
  rw [hask]
  rfl

/-- The context of a builder with a client. -/
def contextWith (b : ContextBuilder) (client : Option Client) : Context where
  provider := Properties.getD b.properties Properties.providerKey (some [])
  properties := b.properties
  sync := b.sync
  async := b.async
  modules := b.modules
  client := client

theorem outcome_build (hraises : ∀ stage, b.component.failure? stage = none)
    (hmodules : b.modules = []) :
    (b.build handled? refused).outcome
      = ((b.client? refused).mapError (.arising handled?)).map b.contextWith := by
  have hclient : (workings handled? refused).createClient b
      = (b, (b.client? refused).mapError (.arising handled?)) := by
    show (b, b.createClient handled? refused) = _
    rw [createClient, hraises]
  have hhooks : ∀ client, (workings handled? refused).runHooks client b
      ((workings handled? refused).modules b) = ⟨[], b, .ok ()⟩ := by
    intro client
    show (workings handled? refused).runHooks client b b.modules = _
    rw [hmodules]
    rfl
  rw [build_eq (hraises .buildContext), Workings.build, hclient]
  cases b.client? refused with
  | error fault => rfl
  | ok client =>
    have hmade : (Except.ok client : Except Fault (Option Client)).mapError
        (Failure.arising handled?) = .ok client := rfl
    simp only [hmade, hhooks]
    rfl

end ContextBuilder

namespace Factory

/-- **A context is made if its builder is** and makes it. -/
theorem createContext_eq_ok_iff {f : Factory} {r : Request} {context : Context} :
    (f.createContext r).outcome = .ok context ↔
      ∃ b, (f.createBuilder r).outcome = .ok b ∧ b.build.outcome = .ok context := by
  rw [createContext]
  obtain ⟨log, calls, outcome⟩ := f.createBuilder r
  cases outcome with
  | error failure =>
    constructor
    · intro h
      cases h
    · rintro ⟨b, hb, -⟩
      cases hb
  | ok b =>
    have hmapped : (Assembly.buildContext b).outcome = .ok context ↔
        b.build.outcome = .ok context := by
      rw [Assembly.buildContext, Traced.mapFailure]
      cases b.build.outcome with
      | error failure => exact ⟨nofun, nofun⟩
      | ok made => exact Iff.rfl
    constructor
    · exact fun h => ⟨b, rfl, hmapped.mp h⟩
    · rintro ⟨b', hb, hcontext⟩
      cases hb
      exact hmapped.mpr hcontext

end Factory

end CloudAccess
