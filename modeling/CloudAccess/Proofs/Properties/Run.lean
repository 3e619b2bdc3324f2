/-
# A properties builder over a row of calls

Setters may be called any number of times, in any order, and with builds between them.  What a key
holds then is settled by the last call of the one setter that speaks of it (`LastCalls`), or by
what the builder started from where that setter was not called (`Follows`).  The credential is the
key that can also be taken away: the setter for credentials speaks of it even when it is called
without one, so that none is left over from an earlier call, from the overrides or the defaults.

Whatever order the calls of different setters come in, their last calls are the same, and so is
what is found in the properties that are built (`builds_follow`).
-/
import CloudAccess.Proofs.Properties.Setters

namespace CloudAccess.Properties

/-! ## 1. The last calls -/

namespace Request

/-- The setter that a call is. -/
def setter? : Request → Option Setter
  | .set setter => some setter
  | .build => none

/-- The name that a call sets as the provider. -/
def provider? : Request → Option (Option Text)
  | .set (.provider name) => some name
  | _ => none

/-- The version that a call sets. -/
def apiVersion? : Request → Option (Option Text)
  | .set (.apiVersion version) => some version
  | _ => none

/-- The identity and the credential that a call sets. -/
def credentials? : Request → Option (Option Text × Option Text)
  | .set (.credentials identity credential) => some (identity, credential)
  | _ => none

/-- The endpoint that a call sets. -/
def endpoint? : Request → Option (Option Text)
  | .set (.endpoint uri) => some uri
  | _ => none

end Request

/-- What each setter was last called with in a row of calls, if it was called. -/
structure LastCalls where
  provider : Option (Option Text)
  apiVersion : Option (Option Text)
  credentials : Option (Option Text × Option Text)
  endpoint : Option (Option Text)

/-- The last calls in a row. -/
def lastCalls (calls : List Request) : LastCalls where
  provider := (calls.filterMap Request.provider?).getLast?
  apiVersion := (calls.filterMap Request.apiVersion?).getLast?
  credentials := (calls.filterMap Request.credentials?).getLast?
  endpoint := (calls.filterMap Request.endpoint?).getLast?

/-- The properties that follow from what is there at the start, key by key, and the last calls. -/
structure Follows (start : Text → Option (Option Text)) (last : LastCalls) (p : Properties) :
    Prop where
  provider : p.get? providerKey = last.provider.or (start providerKey)
  apiVersion : p.get? apiVersionKey = last.apiVersion.or (start apiVersionKey)
  endpoint : p.get? endpointKey = last.endpoint.or (start endpointKey)
  identity : p.get? identityKey = (last.credentials.map (·.1)).or (start identityKey)
  credential : p.get? credentialKey =
    match last.credentials with
    | some (_, credential) => credential.map some
    | none => start credentialKey
  other : ∀ key ∉ [providerKey, apiVersionKey, endpointKey, identityKey, credentialKey],
    p.get? key = start key

/-! ## 2. What is collected -/

theorem collect_eq (p : Properties) (calls : List Request) :
    collect p calls = (calls.filterMap Request.setter?).foldl Setter.apply p := by
  induction calls generalizing p with
  | nil => rfl
  | cons call rest ih =>
    cases call with
    | set setter => exact ih (setter.apply p)
    | build => exact ih p

theorem collect_append (p : Properties) (before after : List Request) :
    collect p (before ++ after) = collect (collect p before) after := List.foldl_append

/-- A key holds what the last of the calls that speak of it says: `f` picks those calls out, and
`g` is what they say of the key. -/
theorem get?_collect {β : Type} {f : Request → Option β} {g : β → Option (Option Text)} {key : Text}
    (hbuild : f .build = none)
    (hset : ∀ setter : Setter, setter.says? key = (f (.set setter)).map g)
    (p : Properties) (calls : List Request) :
    (collect p calls).get? key = ((calls.filterMap f).getLast?.map g).getD (p.get? key) := by
  have hcall (call : Request) : call.setter?.bind (·.says? key) = (f call).map g := by
    cases call with
    | set setter => exact hset setter
    | build => rw [hbuild]; rfl
  have hsaid : ((calls.filterMap Request.setter?).reverse.findSome? (·.says? key))
      = (calls.filterMap f).getLast?.map g := by
    rw [← List.head?_filterMap, List.filterMap_reverse, List.head?_reverse,
      List.filterMap_filterMap, List.filterMap_congr fun call _ => hcall call, ← List.map_filterMap,
      List.getLast?_map]
  rw [collect_eq, Setter.get?_foldl_apply, hsaid]

theorem getD_map_some {x : Option (Option Text)} {y : Option (Option Text)} :
    (x.map some).getD y = x.or y := by
  cases x <;> rfl

/-- **The last calls settle what is collected.**  Each key is spoken of by one setter, and those of
the credentials by the same. -/
theorem follows_collect (p : Properties) (calls : List Request) :
    Follows p.get? (lastCalls calls) (collect p calls) := by
  obtain ⟨⟨hpv, hpe, hpi, hpc⟩, ⟨hve, hvi, hvc⟩, ⟨hei, hec⟩, hic⟩ := Setter.keys_ne
  constructor
  case provider =>
    rw [get?_collect (f := Request.provider?) (g := some) rfl, getD_map_some]
    · rfl
    · intro setter
      cases setter <;> simp [Request.provider?, Setter.says?, hpv, hpe, hpi, hpc]
  case apiVersion =>
    rw [get?_collect (f := Request.apiVersion?) (g := some) rfl, getD_map_some]
    · rfl
    · intro setter
      cases setter <;> simp [Request.apiVersion?, Setter.says?, hpv.symm, hve, hvi, hvc]
  case endpoint =>
    rw [get?_collect (f := Request.endpoint?) (g := some) rfl, getD_map_some]
    · rfl
    · intro setter
      cases setter <;> simp [Request.endpoint?, Setter.says?, hpe.symm, hve.symm, hei, hec]
  case identity =>
    rw [get?_collect (f := Request.credentials?) (g := fun c => some c.1) rfl]
    · rw [← getD_map_some, Option.map_map]
      rfl
    · intro setter
      cases setter <;> simp [Request.credentials?, Setter.says?, hpi.symm, hvi.symm, hei.symm]
  case credential =>
    rw [get?_collect (f := Request.credentials?) (g := fun c => c.2.map some) rfl]
    · rw [lastCalls]
      cases (calls.filterMap Request.credentials?).getLast? with
      | none => rfl
      | some last => rfl
    · intro setter
      cases setter <;>
        simp [Request.credentials?, Setter.says?, hpc.symm, hvc.symm, hec.symm, hic.symm]
  case other =>
    intro key hkey
    simp only [List.mem_cons, List.not_mem_nil, or_false, not_or] at hkey
    obtain ⟨hp, hv, he, hi, hc⟩ := hkey
    rw [get?_collect (f := fun _ => none) (g := fun said : Option (Option Text) => said) rfl]
    · simp
    · intro setter
      cases setter <;> simp [Setter.says?, hp, hv, he, hi, hc]

/-! ## 3. What is built -/

/-- The same is found under every key. -/
def SamePairs (p q : Properties) : Prop := ∀ key, p.get? key = q.get? key

/-- What follows from the same start and the same last calls is the same. -/
theorem Follows.samePairs {start : Text → Option (Option Text)} {last : LastCalls}
    {p q : Properties} (hp : Follows start last p) (hq : Follows start last q) : SamePairs p q := by
  intro key
  by_cases hkey : key ∈ [providerKey, apiVersionKey, endpointKey, identityKey, credentialKey]
  · simp only [List.mem_cons, List.not_mem_nil, or_false] at hkey
    rcases hkey with rfl | rfl | rfl | rfl | rfl
    · rw [hp.provider, hq.provider]
    · rw [hp.apiVersion, hq.apiVersion]
    · rw [hp.endpoint, hq.endpoint]
    · rw [hp.identity, hq.identity]
    · rw [hp.credential, hq.credential]
  · rw [hp.other key hkey, hq.other key hkey]

theorem SamePairs.apply {p q : Properties} (h : SamePairs p q) (setter : Setter) :
    SamePairs (setter.apply p) (setter.apply q) := by
  intro key
  rw [Setter.get?_apply, Setter.get?_apply, h key]

theorem builds_append (p : Properties) (before after : List Request) :
    builds p (before ++ after) = builds p before ++ builds (collect p before) after := by
  induction before generalizing p with
  | nil => rfl
  | cons call rest ih =>
    cases call with
    | set setter => exact ih (setter.apply p)
    | build => exact congrArg (p :: ·) (ih p)

/-- From properties in which the same is found, the same is built. -/
theorem SamePairs.builds {p q : Properties} (h : SamePairs p q) (calls : List Request) :
    List.Forall₂ SamePairs (builds p calls) (builds q calls) := by
  induction calls generalizing p q with
  | nil => exact .nil
  | cons call rest ih =>
    cases call with
    | set setter => exact ih (h.apply setter)
    | build => exact .cons h (ih h)

/-- Where calls have the same last calls, what is built after them is the same. -/
theorem builds_of_lastCalls {before before' : List Request}
    (h : lastCalls before = lastCalls before') (p : Properties) (after : List Request) :
    List.Forall₂ SamePairs (builds (collect p before) after)
      (builds (collect p before') after) := by
  have hsame : SamePairs (collect p before) (collect p before') :=
    (follows_collect p before).samePairs (h ▸ follows_collect p before')
  exact hsame.builds after

/-- Calls of different setters can change places. -/
theorem lastCalls_swap (before : List Request) {s t : Setter} (h : s.stage ≠ t.stage) :
    lastCalls (before ++ [.set s, .set t]) = lastCalls (before ++ [.set t, .set s]) := by
  simp only [lastCalls, List.filterMap_append]
  cases s with
  | provider _ =>
    cases t with
    | provider _ => exact absurd rfl h
    | apiVersion _ | credentials _ _ | endpoint _ => rfl
  | apiVersion _ =>
    cases t with
    | apiVersion _ => exact absurd rfl h
    | provider _ | credentials _ _ | endpoint _ => rfl
  | credentials _ _ =>
    cases t with
    | credentials _ _ => exact absurd rfl h
    | provider _ | apiVersion _ | endpoint _ => rfl
  | endpoint _ =>
    cases t with
    | endpoint _ => exact absurd rfl h
    | provider _ | apiVersion _ | credentials _ _ => rfl

theorem builds_of_two (p : Properties) (before after : List Request) (s t : Setter) :
    builds p (before ++ .set s :: .set t :: after)
      = builds p before ++ builds (collect p (before ++ [.set s, .set t])) after := by
  rw [builds_append, collect_append]
  rfl

/-- **What a properties builder builds.**  From whatever defaults and overrides it starts, a build
among its calls returns what follows from these and the last calls before, and the builds around it
do not change that.  So calls of different setters can change places, and only the last calls
matter: the builds return the same pairs. -/
theorem builds_follow (defaults : Properties) (overrides : Option Settings) :
    (∀ before after, ∃ built,
        builds (seed defaults overrides) (before ++ .build :: after)
          = builds (seed defaults overrides) before ++ built :: builds built after ∧
        Follows (fun key => (overrides.bind (·.get? key)).or (defaults.get? key))
          (lastCalls before) built) ∧
      (∀ before s t after, s.stage ≠ t.stage →
        List.Forall₂ SamePairs
          (builds (seed defaults overrides) (before ++ .set s :: .set t :: after))
          (builds (seed defaults overrides) (before ++ .set t :: .set s :: after))) ∧
      ∀ before before' after, lastCalls before = lastCalls before' →
        List.Forall₂ SamePairs
          (builds (collect (seed defaults overrides) before) after)
          (builds (collect (seed defaults overrides) before') after) := by
  have hstart : (fun key => (overrides.bind (·.get? key)).or (defaults.get? key))
      = (seed defaults overrides).get? :=
    (funext fun key => Setter.get?_seed defaults overrides key).symm
  refine ⟨fun before after => ?_, fun before s t after hne => ?_, fun before before' after h => ?_⟩
  · refine ⟨collect (seed defaults overrides) before, builds_append _ _ _, ?_⟩
    rw [hstart]
    exact follows_collect _ _
  · have hlater := builds_of_lastCalls (lastCalls_swap before hne) (seed defaults overrides) after
    rw [builds_of_two, builds_of_two]
    exact List.rel_append (List.forall₂_same.mpr fun _ _ _ => rfl) hlater
  · exact builds_of_lastCalls h _ after

end CloudAccess.Properties
