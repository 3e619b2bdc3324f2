/-
# The walk along the links of a failure

The links may run in a circle, so a walk along them (`walk`) need not end at all.  The search does:
it stops at the first node that it comes to again.  What it has passed until then (`Passed`) is the
whole beginning of the walk, and from a node that it has passed the walk only goes round, so
nothing is missed.

`findAuthorization?_eq_some_iff` and `findAuthorization?_eq_none_iff` say what the search finds in
terms of the walk alone, without what it remembers.

A graph grows by a fault at its top that is linked to the one before: as its cause, when a failure
is wrapped, or as its context, when a fault arises while the failure is handled.  What is found from
the top then is what is found below it, unless the fault at the top is found itself (section 6).
-/
import Mathlib.Data.Nat.Basic
import CloudAccess.Failure

namespace CloudAccess.Failure

/-! ## 1. The walk -/

/-- The node that a walk along the links has come to after some steps, if it has not ended. -/
def walk (nodes : List Node) (start : Nat) : Nat → Option Nat
  | 0 => some start
  | steps + 1 => (walk nodes start steps).bind (next? nodes)

/-- After `steps` steps the walk meets rejected credentials at node `i`, for the first time. -/
structure MeetsAt (nodes : List Node) (start steps i : Nat) : Prop where
  walk_eq : walk nodes start steps = some i
  rejected : isAuthorizationAt nodes i = true
  first : ∀ m < steps, ∀ j ∈ walk nodes start m, isAuthorizationAt nodes j = false

variable {nodes : List Node} {start i j : Nat}

theorem walk_add (nodes : List Node) (start m n : Nat) :
    walk nodes start (m + n) = (walk nodes start m).bind fun i => walk nodes i n := by
  induction n with
  | zero => exact (Option.bind_fun_some _).symm
  | succ n ih =>
    rw [← Nat.add_assoc, walk, ih, Option.bind_assoc]
    rfl

/-- A walk that has ended does not go on. -/
theorem walk_eq_none_of_le {m n : Nat} (h : walk nodes start m = none) (hle : m ≤ n) :
    walk nodes start n = none := by
  obtain ⟨k, rfl⟩ := Nat.exists_eq_add_of_le hle
  rw [walk_add, h]
  rfl

theorem lt_length_of_isAuthorizationAt (h : isAuthorizationAt nodes i = true) :
    i < nodes.length := by
  rw [isAuthorizationAt, Option.any_eq_true] at h
  obtain ⟨node, hnode, -⟩ := h
  exact (List.getElem?_eq_some_iff.mp hnode).1

/-- Rejected credentials that are met first are not met after others. -/
theorem MeetsAt.not_lt {m n : Nat} (h : MeetsAt nodes start m i) (h' : MeetsAt nodes start n j) :
    ¬m < n := by
  intro hlt
  have hnot := h'.first m hlt i h.walk_eq
  rw [h.rejected] at hnot
  cases hnot

/-- At most one node is the first with rejected credentials. -/
theorem MeetsAt.unique {m n : Nat} (h : MeetsAt nodes start m i) (h' : MeetsAt nodes start n j) :
    i = j := by
  obtain rfl : m = n := Nat.le_antisymm (Nat.not_lt.mp (h'.not_lt h)) (Nat.not_lt.mp (h.not_lt h'))
  exact Option.some_inj.mp (h.walk_eq.symm.trans h'.walk_eq)

/-! ## 2. What a search has passed -/

/-- A search from `start` that has come to node `i` has been at the nodes `seen`, one for each step
of the walk so far, and none of them is rejected credentials. -/
structure Passed (nodes : List Node) (start : Nat) (seen : List Nat) (i : Nat) : Prop where
  here : walk nodes start seen.length = some i
  mem_iff : ∀ j, j ∈ seen ↔ ∃ m < seen.length, walk nodes start m = some j
  quiet : ∀ j ∈ seen, isAuthorizationAt nodes j = false

variable {seen : List Nat}

theorem passed_nil : Passed nodes start [] start where
  here := rfl
  mem_iff j := by simp
  quiet j hj := by simp at hj

/-- A search that goes on has passed one more node. -/
theorem Passed.cons (h : Passed nodes start seen i) (hquiet : isAuthorizationAt nodes i = false)
    (hnext : next? nodes i = some j) : Passed nodes start (i :: seen) j where
  here := by
    rw [List.length_cons, walk, h.here]
    exact hnext
  mem_iff k := by
    rw [List.mem_cons, h.mem_iff, List.length_cons]
    constructor
    · rintro (rfl | ⟨m, hm, hk⟩)
      · exact ⟨seen.length, Nat.lt_succ_self _, h.here⟩
      · exact ⟨m, Nat.lt_succ_of_lt hm, hk⟩
    · rintro ⟨m, hm, hk⟩
      rcases Nat.lt_succ_iff_lt_or_eq.mp hm with hlt | rfl
      · exact Or.inr ⟨m, hlt, hk⟩
      · rw [h.here] at hk
        exact Or.inl (Option.some_inj.mp hk).symm
  quiet k hk := by
    rcases List.mem_cons.mp hk with rfl | hk
    · exact hquiet
    · exact h.quiet k hk

theorem Passed.quiet_before (h : Passed nodes start seen i) {m : Nat} (hm : m < seen.length)
    (hj : walk nodes start m = some j) : isAuthorizationAt nodes j = false :=
  h.quiet j ((h.mem_iff j).mpr ⟨m, hm, hj⟩)

/-- Where the links end, the walk has met nothing. -/
theorem Passed.never_of_end (h : Passed nodes start seen i)
    (hquiet : isAuthorizationAt nodes i = false) (hnext : next? nodes i = none) (steps : Nat) :
    ∀ j ∈ walk nodes start steps, isAuthorizationAt nodes j = false := by
  intro j hj
  rcases Nat.lt_trichotomy steps seen.length with hlt | rfl | hgt
  · exact h.quiet_before hlt hj
  · rw [h.here] at hj
    cases hj
    exact hquiet
  · have hend : walk nodes start (seen.length + 1) = none := by
      rw [walk, h.here]
      exact hnext
    rw [walk_eq_none_of_le hend hgt] at hj
    cases hj

/-- **A walk that comes back has been everywhere that it will ever come to.**  Each later step leads
where an earlier one led, so the induction is on the steps. -/
theorem Passed.mem_of_back (h : Passed nodes start seen i) (hback : i ∈ seen) (steps : Nat) :
    ∀ j ∈ walk nodes start steps, j ∈ seen := by
  obtain ⟨m, hm, hi⟩ := (h.mem_iff i).mp hback
  induction steps using Nat.strongRecOn with
  | _ steps ih =>
    intro j hj
    rcases Nat.lt_or_ge steps seen.length with hlt | hge
    · exact (h.mem_iff j).mpr ⟨steps, hlt, hj⟩
    · obtain ⟨n, rfl⟩ := Nat.exists_eq_add_of_le hge
      refine ih (m + n) (Nat.add_lt_add_right hm n) j ?_
      rw [walk_add, h.here] at hj
      rw [walk_add, hi]
      exact hj

/-! ## 3. What the search finds -/

/-- What there is to be found on a walk: the first rejected credentials that it meets, or nothing
if it meets none, however far it goes. -/
inductive Finds (nodes : List Node) (start : Nat) : Option Nat → Prop where
  | met {steps i : Nat} (meets : MeetsAt nodes start steps i) : Finds nodes start (some i)
  | never (quiet : ∀ steps, ∀ i ∈ walk nodes start steps, isAuthorizationAt nodes i = false) :
      Finds nodes start none

/-- **The search misses nothing,** wherever it has come to. -/
theorem Passed.finds (h : Passed nodes start seen i) :
    Finds nodes start (searchFrom nodes seen i) := by
  fun_induction searchFrom nodes seen i with
  | case1 seen i hback =>
    refine .never fun steps j hj => ?_
    exact h.quiet j (h.mem_of_back hback steps j hj)
  | case2 seen i _ hrejected =>
    exact .met ⟨h.here, hrejected, fun m hm j hj => h.quiet_before hm hj⟩
  | case3 seen i _ hquiet hnext =>
    rw [Bool.not_eq_true] at hquiet
    exact .never (h.never_of_end hquiet hnext)
  | case4 seen i _ hquiet j hnext ih =>
    rw [Bool.not_eq_true] at hquiet
    exact ih (h.cons hquiet hnext)

theorem finds_findAuthorization? (f : Failure) : Finds f.nodes f.root f.findAuthorization? :=
  passed_nil.finds

/-- **The search finds the first rejected credentials that the walk meets.** -/
theorem findAuthorization?_eq_some_iff {f : Failure} :
    f.findAuthorization? = some i ↔ ∃ steps, MeetsAt f.nodes f.root steps i := by
  have hfinds := f.finds_findAuthorization?
  constructor
  · intro hfound
    rw [hfound] at hfinds
    cases hfinds with
    | met meets => exact ⟨_, meets⟩
  · rintro ⟨steps, hmeets⟩
    cases hfound : f.findAuthorization? with
    | some j =>
      rw [hfound] at hfinds
      cases hfinds with
      | met meets => rw [meets.unique hmeets]
    | none =>
      rw [hfound] at hfinds
      cases hfinds with
      | never quiet =>
        have hnot := quiet steps i hmeets.walk_eq
        rw [hmeets.rejected] at hnot
        cases hnot

/-- **The search finds nothing if the walk meets no rejected credentials,** however far it goes. -/
theorem findAuthorization?_eq_none_iff {f : Failure} :
    f.findAuthorization? = none ↔
      ∀ steps, ∀ i ∈ walk f.nodes f.root steps, isAuthorizationAt f.nodes i = false := by
  constructor
  · intro hnone
    have hfinds := f.finds_findAuthorization?
    rw [hnone] at hfinds
    cases hfinds with
    | never quiet => exact quiet
  · intro hall
    rw [Option.eq_none_iff_forall_ne_some]
    intro i hi
    obtain ⟨steps, h⟩ := findAuthorization?_eq_some_iff.mp hi
    have hnot := hall steps i h.walk_eq
    rw [h.rejected] at hnot
    exact Bool.noConfusion hnot

/-- What is reported of a failure: the first rejected credentials that the walk from it along its
links meets, if it meets any, and otherwise the failure itself. -/
inductive Surfaces (f : Failure) : Failure → Prop where
  | rejected {steps i : Nat} {carried : Failure} (meets : MeetsAt f.nodes f.root steps i)
      (carried_eq : f.at? i = some carried) : Surfaces f carried
  | other (never : ∀ steps, ∀ i ∈ walk f.nodes f.root steps,
      isAuthorizationAt f.nodes i = false) : Surfaces f f

/-- The search finds the failure that the walk meets first, or the walk meets none. -/
theorem authorization?_cases (f : Failure) :
    (f.authorization? = none ∧
      ∀ steps, ∀ i ∈ walk f.nodes f.root steps, isAuthorizationAt f.nodes i = false) ∨
    ∃ steps i carried, MeetsAt f.nodes f.root steps i ∧ f.at? i = some carried ∧
      f.authorization? = some carried := by
  rw [authorization?]
  cases hfound : f.findAuthorization? with
  | none => exact Or.inl ⟨rfl, findAuthorization?_eq_none_iff.mp hfound⟩
  | some i =>
    obtain ⟨steps, hmeets⟩ := findAuthorization?_eq_some_iff.mp hfound
    have hat : f.at? i = some ⟨f.nodes, i, lt_length_of_isAuthorizationAt hmeets.rejected⟩ :=
      dif_pos (lt_length_of_isAuthorizationAt hmeets.rejected)
    exact Or.inr ⟨steps, i, _, hmeets, hat, hat⟩

theorem surfaces_surfaced (f : Failure) : Surfaces f f.surfaced := by
  rw [surfaced]
  obtain ⟨hnone, hnever⟩ | ⟨steps, i, carried, hmeets, hat, hsome⟩ := f.authorization?_cases
  · rw [hnone]
    exact .other hnever
  · rw [hsome]
    exact .rejected hmeets hat

/-! ## 4. What a failure names as its cause -/

/-- The same failure, with more faults in its graph. -/
def Extends (f original : Failure) : Prop :=
  f.root = original.root ∧ original.nodes <+: f.nodes

/-- A fault that a failure is the cause of names that failure. -/
theorem cause?_wrap (fault : Fault) (original : Failure) :
    ∃ f, (wrap fault original).cause? = some f ∧ Extends f original := by
  have hroot : (wrap fault original).rootNode
      = ⟨fault, some original.root, some original.root⟩ := by
    simp [wrap, rootNode]
  have hlt : original.root < (wrap fault original).nodes.length :=
    Nat.lt_trans original.root_lt (wrap fault original).root_lt
  refine ⟨⟨(wrap fault original).nodes, original.root, hlt⟩, ?_, rfl, List.prefix_append _ _⟩
  rw [cause?, hroot]
  exact dif_pos hlt

/-- More faults in the graph do not change what went wrong. -/
theorem Extends.fault_eq {f original : Failure} (h : Extends f original) :
    f.fault = original.fault := by
  obtain ⟨hroot, more, hnodes⟩ := h
  have hnode : f.nodes[f.root]? = some original.rootNode := by
    rw [hroot, ← hnodes, List.getElem?_append_left original.root_lt]
    exact List.getElem?_eq_getElem original.root_lt
  have hsame : f.rootNode = original.rootNode :=
    Option.some.inj ((List.getElem?_eq_getElem f.root_lt).symm.trans hnode)
  rw [Failure.fault, hsame]
  rfl

/-! ## 5. Rejected credentials behind a fault -/

/-- The walk goes on from a fault to its cause, which is its context too. -/
theorem next?_wrap (fault : Fault) (cause : Failure) :
    next? (wrap fault cause).nodes (wrap fault cause).root = some cause.root := by
  have hlast : (wrap fault cause).nodes[(wrap fault cause).root]?
      = some ⟨fault, some cause.root, some cause.root⟩ := List.getElem?_concat_length
  rw [next?, hlast]
  show ((some cause.root).filter _).or (some cause.root) = _
  rw [Option.filter_some]
  split <;> rfl

theorem isAuthorizationAt_wrap (fault : Fault) (cause : Failure) :
    isAuthorizationAt (wrap fault cause).nodes (wrap fault cause).root
      = fault.category.isAuthorization := by
  have hlast : (wrap fault cause).nodes[(wrap fault cause).root]?
      = some ⟨fault, some cause.root, some cause.root⟩ := List.getElem?_concat_length
  rw [isAuthorizationAt, hlast]
  rfl

/-- A fault that rejected credentials are the cause of does not hide them. -/
theorem authorization?_wrap {fault : Fault} {cause : Failure}
    (hfault : fault.category.isAuthorization = false)
    (hcause : cause.fault.category.isAuthorization = true) :
    ∃ rejected, (wrap fault cause).authorization? = some rejected ∧
      rejected.fault = cause.fault := by
  have hroot : (wrap fault cause).nodes[cause.root]? = some cause.rootNode := by
    show (cause.nodes ++ _)[cause.root]? = _
    rw [List.getElem?_append_left cause.root_lt]
    exact List.getElem?_eq_getElem cause.root_lt
  have hmeets : MeetsAt (wrap fault cause).nodes (wrap fault cause).root 1 cause.root := by
    refine ⟨next?_wrap fault cause, ?_, fun m hm i hi => ?_⟩
    · rw [isAuthorizationAt, hroot]
      exact hcause
    · obtain rfl : m = 0 := Nat.lt_one_iff.mp hm
      cases hi
      rw [isAuthorizationAt_wrap, hfault]
  have hlt : cause.root < (wrap fault cause).nodes.length :=
    lt_length_of_isAuthorizationAt hmeets.rejected
  refine ⟨⟨(wrap fault cause).nodes, cause.root, hlt⟩, ?_, ?_⟩
  · rw [authorization?, findAuthorization?_eq_some_iff.mpr ⟨1, hmeets⟩]
    exact dif_pos hlt
  · have hnode : (wrap fault cause).nodes[cause.root] = cause.rootNode :=
      Option.some.inj ((List.getElem?_eq_getElem hlt).symm.trans hroot)
    show ((wrap fault cause).nodes[cause.root]).fault = cause.fault
    rw [hnode]
    rfl

/-! ## 6. Graphs that grow

A fault that arises while a failure is handled is put on top of its graph.  The walk from it goes
on where the walk from that failure starts, and meets the same, if no link of the graph led out of
it: otherwise such a link might lead to the new fault. -/

/-- Every link leads to a node of the graph. -/
def Closed (f : Failure) : Prop :=
  ∀ node ∈ f.nodes, ∀ j, node.cause? = some j ∨ node.context? = some j → j < f.nodes.length

theorem closed_ofFault (fault : Fault) : Closed (ofFault fault) := by
  intro node hnode j hj
  rw [List.mem_singleton.mp hnode] at hj
  rcases hj with hj | hj <;> cases hj

/-- A node whose links lead to an old root keeps a graph closed. -/
theorem Closed.concat {f : Failure} (hf : Closed f) {node last : Node}
    (hlast : ∀ j, last.cause? = some j ∨ last.context? = some j → j = f.root)
    (hnode : node ∈ f.nodes ++ [last]) {j : Nat}
    (hj : node.cause? = some j ∨ node.context? = some j) :
    j < (f.nodes ++ [last]).length := by
  rw [List.length_append]
  refine Nat.lt_add_right _ ?_
  rcases List.mem_append.mp hnode with hnode | hnode
  · exact hf node hnode j hj
  · rw [List.mem_singleton.mp hnode] at hj
    rw [hlast j hj]
    exact f.root_lt

theorem Closed.wrap {cause : Failure} (hcause : Closed cause) (fault : Fault) :
    Closed (wrap fault cause) := by
  intro node hnode j hj
  refine hcause.concat ?_ hnode hj
  rintro j (hj | hj) <;> exact (Option.some.inj hj).symm

theorem closed_arising {handled? : Option Failure} (hhandled : ∀ handled ∈ handled?, Closed handled)
    (fault : Fault) : Closed (arising handled? fault) := by
  cases handled? with
  | none => exact closed_ofFault fault
  | some handled =>
    intro node hnode j hj
    refine (hhandled handled rfl).concat ?_ hnode hj
    rintro j (hj | hj)
    · cases hj
    · exact (Option.some.inj hj).symm

/-- One failure is another with a fault on top that is not one of rejected credentials and from
which the walk goes on to the other. -/
structure Tops (f original : Failure) : Prop where
  nodes_eq : ∃ node, f.nodes = original.nodes ++ [node]
  root_eq : f.root = original.nodes.length
  quiet : isAuthorizationAt f.nodes f.root = false
  next_eq : next? f.nodes f.root = some original.root

namespace Tops

variable {f original : Failure}

theorem getElem?_eq (h : Tops f original) (hi : i < original.nodes.length) :
    f.nodes[i]? = original.nodes[i]? := by
  obtain ⟨node, hnodes⟩ := h.nodes_eq
  rw [hnodes, List.getElem?_append_left hi]

theorem next?_eq (h : Tops f original) (hclosed : Closed original)
    (hi : i < original.nodes.length) : next? f.nodes i = next? original.nodes i := by
  have hget := List.getElem?_eq_getElem hi
  simp only [next?, h.getElem?_eq hi, hget]
  cases hcause : original.nodes[i].cause? with
  | none => rfl
  | some j =>
    have hj : j < original.nodes.length :=
      hclosed _ (List.getElem_mem hi) j (Or.inl hcause)
    have htruth : isTruthyAt f.nodes j = isTruthyAt original.nodes j := by
      rw [isTruthyAt, isTruthyAt, h.getElem?_eq hj]
    simp only [Option.filter_some, htruth]

theorem lt_of_next? (hclosed : Closed original) (hnext : next? original.nodes i = some j) :
    j < original.nodes.length := by
  have hi := lt_length_of_next? hnext
  have hmem := List.getElem_mem hi
  simp only [next?, List.getElem?_eq_getElem hi, Option.or_eq_some_iff,
    Option.filter_eq_some_iff] at hnext
  rcases hnext with ⟨hcause, -⟩ | ⟨-, hcontext⟩
  · exact hclosed _ hmem j (Or.inl hcause)
  · exact hclosed _ hmem j (Or.inr hcontext)

/-- **One step behind, the walk is the same,** and it stays in the old graph. -/
theorem walk_succ (h : Tops f original) (hclosed : Closed original) (steps : Nat) :
    walk f.nodes f.root (steps + 1) = walk original.nodes original.root steps ∧
      ∀ i ∈ walk original.nodes original.root steps, i < original.nodes.length := by
  induction steps with
  | zero =>
    refine ⟨h.next_eq, ?_⟩
    intro i hi
    cases hi
    exact original.root_lt
  | succ steps ih =>
    obtain ⟨hsame, hinside⟩ := ih
    rw [walk, hsame, walk]
    cases hwalk : walk original.nodes original.root steps with
    | none => simp
    | some i =>
      exact ⟨h.next?_eq hclosed (hinside i hwalk), fun j hj => lt_of_next? hclosed hj⟩

theorem isAuthorizationAt_eq (h : Tops f original) (hi : i < original.nodes.length) :
    isAuthorizationAt f.nodes i = isAuthorizationAt original.nodes i := by
  rw [isAuthorizationAt, isAuthorizationAt, h.getElem?_eq hi]

/-- The fault on top is passed, and then the walk meets what it met before. -/
theorem meetsAt_succ_iff (h : Tops f original) (hclosed : Closed original) {steps : Nat} :
    MeetsAt f.nodes f.root (steps + 1) i ↔ MeetsAt original.nodes original.root steps i := by
  constructor
  · rintro ⟨hwalk, hrejected, hfirst⟩
    obtain ⟨hsame, hinside⟩ := h.walk_succ hclosed steps
    rw [hsame] at hwalk
    refine ⟨hwalk, by rwa [← h.isAuthorizationAt_eq (hinside i hwalk)], fun m hm j hj => ?_⟩
    obtain ⟨hsame, hinside⟩ := h.walk_succ hclosed m
    rw [← h.isAuthorizationAt_eq (hinside j hj)]
    exact hfirst (m + 1) (Nat.succ_lt_succ hm) j (hsame ▸ hj)
  · rintro ⟨hwalk, hrejected, hfirst⟩
    obtain ⟨hsame, hinside⟩ := h.walk_succ hclosed steps
    refine ⟨hsame.trans hwalk, by rwa [h.isAuthorizationAt_eq (hinside i hwalk)],
      fun m hm j hj => ?_⟩
    cases m with
    | zero =>
      cases hj
      exact h.quiet
    | succ m =>
      obtain ⟨hsame, hinside⟩ := h.walk_succ hclosed m
      rw [hsame] at hj
      rw [h.isAuthorizationAt_eq (hinside j hj)]
      exact hfirst m (Nat.lt_of_succ_lt_succ hm) j hj

/-- **What is found is found behind the fault on top,** at the node where it was found before. -/
theorem findAuthorization?_eq (h : Tops f original) (hclosed : Closed original) :
    f.findAuthorization? = original.findAuthorization? := by
  refine Option.ext fun i => ?_
  rw [findAuthorization?_eq_some_iff, findAuthorization?_eq_some_iff]
  constructor
  · rintro ⟨steps, hmeets⟩
    cases steps with
    | zero =>
      -- the fault on top is none of rejected credentials
      have hrejected := hmeets.rejected
      rw [← Option.some.inj hmeets.walk_eq, h.quiet] at hrejected
      cases hrejected
    | succ steps => exact ⟨steps, (h.meetsAt_succ_iff hclosed).mp hmeets⟩
  · rintro ⟨steps, hmeets⟩
    exact ⟨steps + 1, (h.meetsAt_succ_iff hclosed).mpr hmeets⟩

end Tops

theorem tops_wrap {fault : Fault} (hfault : fault.category.isAuthorization = false)
    (cause : Failure) : Tops (wrap fault cause) cause where
  nodes_eq := ⟨_, rfl⟩
  root_eq := rfl
  quiet := (isAuthorizationAt_wrap fault cause).trans hfault
  next_eq := next?_wrap fault cause

theorem tops_arising {fault : Fault} (hfault : fault.category.isAuthorization = false)
    (handled : Failure) : Tops (arising (some handled) fault) handled := by
  have hlast : (arising (some handled) fault).nodes[handled.nodes.length]?
      = some ⟨fault, none, some handled.root⟩ := List.getElem?_concat_length
  refine ⟨⟨_, rfl⟩, rfl, ?_, ?_⟩
  · show isAuthorizationAt _ handled.nodes.length = false
    rw [isAuthorizationAt, hlast]
    exact hfault
  · show next? _ handled.nodes.length = some handled.root
    rw [next?, hlast]
    rfl

/-- Rejected credentials are behind the failure that is being handled, if one is. -/
def Lingers (handled? : Option Failure) : Prop :=
  ∃ handled, handled? = some handled ∧ handled.findAuthorization?.isSome

/-- **Rejected credentials behind a fault that arises are those behind the failure that is being
handled.** -/
theorem isSome_findAuthorization?_arising {handled? : Option Failure} {fault : Fault}
    (hhandled : ∀ handled ∈ handled?, Closed handled)
    (hfault : fault.category.isAuthorization = false) :
    (arising handled? fault).findAuthorization?.isSome ↔ Lingers handled? := by
  cases handled? with
  | none =>
    have hnone : (ofFault fault).findAuthorization? = none := by
      refine findAuthorization?_eq_none_iff.mpr fun steps i _ => ?_
      rw [isAuthorizationAt]
      match i with
      | 0 => exact hfault
      | _ + 1 => rfl
    simp [arising, hnone, Lingers]
  | some handled =>
    rw [(tops_arising hfault handled).findAuthorization?_eq (hhandled handled rfl)]
    simp [Lingers]

/-- A wrapped failure has the rejected credentials behind it that it had before. -/
theorem findAuthorization?_wrap {fault : Fault} {cause : Failure} (hcause : Closed cause)
    (hfault : fault.category.isAuthorization = false) :
    (wrap fault cause).findAuthorization? = cause.findAuthorization? :=
  (tops_wrap hfault cause).findAuthorization?_eq hcause

/-- What is reported of a failure is of rejected credentials where some are found. -/
theorem fault_surfaced_of_isSome {f : Failure} (h : f.findAuthorization?.isSome) :
    f.surfaced.fault.category.isAuthorization = true := by
  obtain ⟨i, hi⟩ := Option.isSome_iff_exists.mp h
  obtain ⟨steps, hmeets⟩ := findAuthorization?_eq_some_iff.mp hi
  have hlt := lt_length_of_isAuthorizationAt hmeets.rejected
  have hsome : f.authorization? = some ⟨f.nodes, i, hlt⟩ := by
    rw [authorization?, hi]
    exact dif_pos hlt
  have hrejected := hmeets.rejected
  rw [isAuthorizationAt, List.getElem?_eq_getElem hlt] at hrejected
  rw [surfaced, hsome]
  exact hrejected

theorem surfaced_of_findAuthorization?_eq_none {f : Failure} (h : f.findAuthorization? = none) :
    f.surfaced = f := by
  rw [surfaced, authorization?, h]
  rfl

end CloudAccess.Failure
