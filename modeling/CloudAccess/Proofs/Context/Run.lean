/-
# What building a context does

Building a context is asking for the provider's client and then running the hooks of the modules,
in order, up to the first that raises.  A module without a hook that can be called is passed over
and still belongs to the context.

Whoever is asked may change the builder.  So each module has its turn with the builder as those
before it have left it (`turns`), and a hook is called with that builder and with the client.

`Builds` has one case for each way this can end: the client is not made, a hook raises, or the
context is there.  `buildContext_builds` says that these are all, which calls each of them makes,
and that what leaves is the first failure of rejected credentials behind the one that ended it.
-/
import CloudAccess.Proofs.Context.Build
import CloudAccess.Proofs.Failure.Walk

namespace CloudAccess

namespace Workings

variable {σ μ α : Type}

/-! ## 1. The turns of modules -/

/-- A module's turn: what is left of the builder, and the failure that the hook raises, if it
does. -/
def turn (w : Workings σ μ α) (client : α) (builder : σ) (m : μ) : σ × Option Failure :=
  match w.hook builder m with
  | .absent | .notCallable => (builder, none)
  | .callable call =>
    match call client builder with
    | (after, .error failure) => (after, some failure)
    | (after, .ok ()) => (after, none)

/-- The call in a module's turn, if it has a hook that can be called. -/
def step? (w : Workings σ μ α) (client : α) (builder : σ) (m : μ) : Option (BuildStep σ μ α) :=
  match w.hook builder m with
  | .absent | .notCallable => none
  | .callable _ => some (.configure m builder client)

/-- The turns of modules, each with the builder as the ones before have left it. -/
def turns (w : Workings σ μ α) (client : α) : σ → List μ → List (σ × μ)
  | _, [] => []
  | builder, m :: rest => (builder, m) :: w.turns client (w.turn client builder m).1 rest

/-- What the turns of modules leave of the builder. -/
def leaves (w : Workings σ μ α) (client : α) (builder : σ) (modules : List μ) : σ :=
  modules.foldl (fun b m => (w.turn client b m).1) builder

/-- The calls of the hooks in the turns of modules. -/
def hookSteps (w : Workings σ μ α) (client : α) (builder : σ) (modules : List μ) :
    List (BuildStep σ μ α) :=
  (w.turns client builder modules).filterMap fun turn => w.step? client turn.1 turn.2

/-- In the turns of modules, no hook raises. -/
def Quiet (w : Workings σ μ α) (client : α) (builder : σ) (modules : List μ) : Prop :=
  ∀ b m, (b, m) ∈ w.turns client builder modules → (w.turn client b m).2 = none

variable {w : Workings σ μ α} {client : α} {builder : σ}

/-- Every module has one turn, in order. -/
theorem map_turns (w : Workings σ μ α) (client : α) (builder : σ) (modules : List μ) :
    (w.turns client builder modules).map Prod.snd = modules := by
  induction modules generalizing builder with
  | nil => rfl
  | cons m rest ih => rw [turns, List.map_cons, ih]

theorem quiet_cons {m : μ} {rest : List μ} :
    w.Quiet client builder (m :: rest) ↔
      (w.turn client builder m).2 = none ∧ w.Quiet client (w.turn client builder m).1 rest := by
  constructor
  · exact fun h => ⟨h _ _ List.mem_cons_self, fun b n hb => h b n (List.mem_cons_of_mem _ hb)⟩
  · rintro ⟨hm, hrest⟩ b n hb
    rcases List.mem_cons.mp hb with hb | hb
    · cases hb
      exact hm
    · exact hrest b n hb

theorem hookSteps_cons (m : μ) (rest : List μ) :
    w.hookSteps client builder (m :: rest)
      = (w.step? client builder m).toList
          ++ w.hookSteps client (w.turn client builder m).1 rest := by
  rw [hookSteps, turns, List.filterMap_cons]
  simp only
  cases w.step? client builder m with
  | none => rfl
  | some step => rfl

/-- A run of hooks begins with a turn, and goes on with the builder that it leaves. -/
theorem runHooks_cons (m : μ) (rest : List μ) :
    w.runHooks client builder (m :: rest) =
      match (w.turn client builder m).2 with
      | some failure =>
        ⟨(w.step? client builder m).toList, (w.turn client builder m).1, .error failure⟩
      | none =>
        let t := w.runHooks client (w.turn client builder m).1 rest
        { t with steps := (w.step? client builder m).toList ++ t.steps } := by
  rw [runHooks, turn, step?]
  cases w.hook builder m with
  | absent => rfl
  | notCallable => rfl
  | callable call =>
    simp only
    obtain ⟨after, outcome⟩ := call client builder
    cases outcome with
    | error failure => rfl
    | ok done => rfl

/-- Where no hook raises, all that can be called are called. -/
theorem runHooks_of_quiet {modules : List μ} (h : w.Quiet client builder modules) :
    w.runHooks client builder modules
      = ⟨w.hookSteps client builder modules, w.leaves client builder modules, .ok ()⟩ := by
  induction modules generalizing builder with
  | nil => rfl
  | cons m rest ih =>
    obtain ⟨hm, hrest⟩ := quiet_cons.mp h
    rw [runHooks_cons, hm, ih hrest, hookSteps_cons]
    rfl

/-- **The hooks run in order,** each once, up to the first that raises. -/
theorem runHooks_of_raises {before after : List μ} {m : μ} {failure : Failure}
    (hquiet : w.Quiet client builder before)
    (hraises : (w.turn client (w.leaves client builder before) m).2 = some failure) :
    w.runHooks client builder (before ++ m :: after)
      = ⟨w.hookSteps client builder (before ++ [m]), w.leaves client builder (before ++ [m]),
          .error failure⟩ := by
  induction before generalizing builder with
  | nil =>
    have hm : (w.turn client builder m).2 = some failure := hraises
    rw [List.nil_append, runHooks_cons, hm, List.nil_append, hookSteps_cons]
    exact congrArg (fun steps => (⟨steps, _, _⟩ : Build σ μ α Unit)) (List.append_nil _).symm
  | cons first rest ih =>
    obtain ⟨hfirst, hrest⟩ := quiet_cons.mp hquiet
    rw [List.cons_append, runHooks_cons, hfirst, ih hrest hraises, List.cons_append,
      hookSteps_cons]
    rfl

/-- Either no hook raises, or there is a first that does. -/
theorem quiet_or_first_raises (w : Workings σ μ α) (client : α) (builder : σ) (modules : List μ) :
    w.Quiet client builder modules ∨
      ∃ before m after failure, modules = before ++ m :: after ∧
        w.Quiet client builder before ∧
        (w.turn client (w.leaves client builder before) m).2 = some failure := by
  induction modules generalizing builder with
  | nil => exact Or.inl nofun
  | cons m rest ih =>
    cases hm : (w.turn client builder m).2 with
    | some failure => exact Or.inr ⟨[], m, rest, failure, rfl, nofun, hm⟩
    | none =>
      rcases ih (w.turn client builder m).1 with
        hquiet | ⟨before, n, after, failure, rfl, hquiet, hraises⟩
      · exact Or.inl (quiet_cons.mpr ⟨hm, hquiet⟩)
      · exact Or.inr ⟨m :: before, n, after, failure, rfl, quiet_cons.mpr ⟨hm, hquiet⟩, hraises⟩

/-- Where nobody changes the builder, every module has its turn with the same one. -/
theorem turns_of_unchanged (h : ∀ b m, (w.turn client b m).1 = b) (modules : List μ) :
    w.turns client builder modules = modules.map (builder, ·) := by
  induction modules with
  | nil => rfl
  | cons m rest ih => rw [turns, h, ih, List.map_cons]

theorem leaves_of_unchanged (h : ∀ b m, (w.turn client b m).1 = b) (modules : List μ) :
    w.leaves client builder modules = builder := by
  induction modules with
  | nil => rfl
  | cons m rest ih =>
    rw [leaves, List.foldl_cons, h]
    exact ih

/-! ## 2. The three ends -/

/-- **How building a context ends.** -/
inductive Builds (w : Workings σ μ α) (builder : σ) : Build σ μ α (ContextOf μ α) → Prop where
  /-- The client is not made, and no hook is run. -/
  | noClient {start : σ} {failure reported : Failure}
      (fails : w.createClient builder = (start, .error failure))
      (reports : failure.Surfaces reported) :
      Builds w builder ⟨[.createClient builder], start, .error reported⟩
  /-- The client is made, and a hook is the first to raise. -/
  | raised {start : σ} {client : α} {before after : List μ} {m : μ} {failure reported : Failure}
      (makes : w.createClient builder = (start, .ok client))
      (modules_eq : w.modules start = before ++ m :: after)
      (quiet : w.Quiet client start before)
      (raises : (w.turn client (w.leaves client start before) m).2 = some failure)
      (reports : failure.Surfaces reported) :
      Builds w builder ⟨.createClient builder :: w.hookSteps client start (before ++ [m]),
        w.leaves client start (before ++ [m]), .error reported⟩
  /-- The client is made, and no hook raises. -/
  | built {start : σ} {client : α} (makes : w.createClient builder = (start, .ok client))
      (quiet : w.Quiet client start (w.modules start)) :
      Builds w builder ⟨.createClient builder :: w.hookSteps client start (w.modules start),
        w.leaves client start (w.modules start),
        .ok (w.contextWith (w.leaves client start (w.modules start)) client)⟩

theorem builds_buildContextOf (w : Workings σ μ α) (builder : σ) :
    Builds w builder (Assembly.buildContextOf w builder) := by
  rw [Assembly.buildContextOf, Build.mapFailure, build]
  rcases hmade : w.createClient builder with ⟨start, made⟩
  cases made with
  | error failure => exact .noClient hmade failure.surfaces_surfaced
  | ok client =>
    simp only
    rcases w.quiet_or_first_raises client start (w.modules start) with
      hquiet | ⟨before, m, after, failure, hmodules, hquiet, hraises⟩
    · rw [runHooks_of_quiet hquiet]
      exact .built hmade hquiet
    · rw [hmodules, runHooks_of_raises hquiet hraises]
      exact .raised hmade hmodules hquiet hraises failure.surfaces_surfaced

/-- The hooks that are called are those of modules that have one. -/
theorem mem_hookSteps {modules : List μ} {step : BuildStep σ μ α}
    (h : step ∈ w.hookSteps client builder modules) :
    ∃ b m call, m ∈ modules ∧ w.hook b m = .callable call ∧ step = .configure m b client := by
  obtain ⟨⟨b, m⟩, hturn, hstep⟩ := List.mem_filterMap.mp h
  have hm : m ∈ modules := by
    rw [← w.map_turns client builder modules]
    exact List.mem_map_of_mem hturn
  simp only [step?] at hstep
  cases hhook : w.hook b m with
  | absent | notCallable =>
    rw [hhook] at hstep
    cases hstep
  | callable call =>
    rw [hhook] at hstep
    exact ⟨b, m, call, hm, hhook, (Option.some.inj hstep).symm⟩

section Builds

variable {t : Build σ μ α (ContextOf μ α)}

/-- Every run opens with the request for the client, and goes on with hooks that are called with
it. -/
theorem Builds.steps_eq (h : Builds w builder t) :
    ∃ hooks, t.steps = .createClient builder :: hooks ∧
      ∀ step ∈ hooks, ∃ start client b m call, w.createClient builder = (start, .ok client) ∧
        m ∈ w.modules start ∧ w.hook b m = .callable call ∧ step = .configure m b client := by
  cases h with
  | noClient fails reports => exact ⟨[], rfl, nofun⟩
  | raised makes modules_eq quiet raises reports =>
    rename_i start client before after m failure reported
    refine ⟨_, rfl, fun step hstep => ?_⟩
    obtain ⟨b, n, call, hn, hhook, rfl⟩ := mem_hookSteps hstep
    refine ⟨_, _, b, n, call, makes, ?_, hhook, rfl⟩
    rw [modules_eq]
    rcases List.mem_append.mp hn with hn | hn
    · exact List.mem_append_left _ hn
    · exact List.mem_append_right _ (List.mem_singleton.mp hn ▸ List.mem_cons_self)
  | built makes quiet =>
    refine ⟨_, rfl, fun step hstep => ?_⟩
    obtain ⟨b, n, call, hn, hhook, rfl⟩ := mem_hookSteps hstep
    exact ⟨_, _, b, n, call, makes, hn, hhook, rfl⟩

theorem Builds.outcome_eq_ok_iff (h : Builds w builder t) {context : ContextOf μ α} :
    t.outcome = .ok context ↔ ∃ start client, w.createClient builder = (start, .ok client) ∧
      w.Quiet client start (w.modules start) ∧
      t.builder = w.leaves client start (w.modules start) ∧
      context = w.contextWith t.builder client := by
  cases h with
  | noClient fails reports =>
    constructor
    · exact nofun
    · rintro ⟨start, client, makes, -⟩
      cases fails.symm.trans makes
  | raised makes modules_eq quiet raises reports =>
    rename_i start client before after m failure reported
    constructor
    · exact nofun
    · rintro ⟨start', client', makes', quiet', -⟩
      cases makes.symm.trans makes'
      -- the hook that raises has its turn, and no hook raises in its turn
      have hrun := runHooks_of_quiet quiet'
      rw [modules_eq, runHooks_of_raises quiet raises] at hrun
      cases congrArg Build.outcome hrun
  | built makes quiet =>
    constructor
    · intro h
      exact ⟨_, _, makes, quiet, rfl, (Except.ok.inj h).symm⟩
    · rintro ⟨start, client, makes', -, -, rfl⟩
      cases makes.symm.trans makes'
      rfl

end Builds

/-- Credentials that have expired, behind another failure. -/
def expiredBehind : Failure :=
  ⟨[⟨.raised .authorization "token expired", none, none⟩,
      ⟨.raised .general "wrapped", none, some 0⟩],
    1, by decide⟩

theorem surfaced_expiredBehind :
    expiredBehind.surfaced = ⟨expiredBehind.nodes, 0, by decide⟩ := by
  decide +kernel

/-- Three modules on a builder that is a switch: the first turns it on, the second has a hook that
cannot be called, and the third raises if it is on. -/
def switched : Workings Bool (Fin 3) Unit where
  properties _ := Dictionary.empty
  sync _ := none
  async _ := none
  modules _ := [0, 1, 2]
  createClient b := (b, .ok ())
  hook _ m :=
    match m with
    | 0 => .callable fun _ _ => (true, .ok ())
    | 1 => .notCallable
    | 2 => .callable fun _ b => (b, if b then .error expiredBehind else .ok ())

/-- An extension with a module of each sort.  The second hook that can be called raises, so that of
the last module is not run. -/
example :
    (Assembly.buildContext
        { component := .extension { name := "B" }, preparation := .generic, sync := none
          async := none, properties := Dictionary.empty
          modules := [⟨"a", .present none⟩, ⟨"b", .absent⟩, ⟨"c", .notCallable⟩,
            ⟨"d", .present (some expiredBehind)⟩, ⟨"e", .present none⟩] }).calls
      = [.builder (.extension { name := "B" }) .buildContext [],
          .builder (.extension { name := "B" }) .createApi [],
          .hook ⟨"a", .present none⟩ "B" none,
          .hook ⟨"d", .present (some expiredBehind)⟩ "B" none] := by
  decide +kernel

end Workings

end CloudAccess
