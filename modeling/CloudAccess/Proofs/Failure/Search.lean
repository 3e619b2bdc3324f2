/-
# The search for rejected credentials ends

`Ends` says how a search goes, node by node, and what it comes to.  Nothing in it bounds the number
of links that are followed, and the links of a failure may run in a circle.  What bounds it is that
a search remembers: each link that it follows leads away from a node that it had not been at, so
it leaves fewer of them unseen (`ends_searchFrom`).

`authorization_on_walk` puts this together with what there is to be found on the walk, and says
which links the walk goes along.
-/
import CloudAccess.Proofs.Failure.Walk

namespace CloudAccess.Failure

variable {nodes : List Node} {seen : List Nat} {i : Nat}

/-! ## 1. How a search goes -/

/-- A search that has been at the nodes `seen` and is at node `i` follows some more links and ends
with what it has found, if anything. -/
inductive Ends (nodes : List Node) : List Nat → Nat → Nat → Option Nat → Prop where
  /-- It has been here before. -/
  | back {seen : List Nat} {i : Nat} (again : i ∈ seen) : Ends nodes seen i 0 none
  /-- Here is what it looks for. -/
  | found {seen : List Nat} {i : Nat} (new : i ∉ seen)
      (rejected : isAuthorizationAt nodes i = true) : Ends nodes seen i 0 (some i)
  /-- No link leads on. -/
  | last {seen : List Nat} {i : Nat} (new : i ∉ seen)
      (quiet : isAuthorizationAt nodes i = false) (noLink : next? nodes i = none) :
      Ends nodes seen i 0 none
  /-- It follows the link and goes on from there. -/
  | onward {seen : List Nat} {i j links : Nat} {found? : Option Nat} (new : i ∉ seen)
      (quiet : isAuthorizationAt nodes i = false) (link : next? nodes i = some j)
      (rest : Ends nodes (i :: seen) j links found?) : Ends nodes seen i (links + 1) found?

/-- A search goes in one way only. -/
theorem Ends.unique {m n : Nat} {a b : Option Nat} (h : Ends nodes seen i m a)
    (h' : Ends nodes seen i n b) : m = n ∧ a = b := by
  induction h generalizing n b with
  | back again =>
    cases h' with
    | back _ => exact ⟨rfl, rfl⟩
    | found new _ | last new _ _ | onward new _ _ _ => exact absurd again new
  | found new rejected =>
    cases h' with
    | back again => exact absurd again new
    | found _ _ => exact ⟨rfl, rfl⟩
    | last _ quiet _ | onward _ quiet _ _ => simp [rejected] at quiet
  | last new quiet noLink =>
    cases h' with
    | back again => exact absurd again new
    | found _ rejected => simp [rejected] at quiet
    | last _ _ _ => exact ⟨rfl, rfl⟩
    | onward _ _ link _ => simp [noLink] at link
  | onward new quiet link _ ih =>
    cases h' with
    | back again => exact absurd again new
    | found _ rejected => simp [rejected] at quiet
    | last _ _ noLink => simp [link] at noLink
    | onward _ _ link' rest' =>
      rw [link] at link'
      cases link'
      obtain ⟨rfl, rfl⟩ := ih rest'
      exact ⟨rfl, rfl⟩

/-! ## 2. It ends -/

/-- **A search ends.**  It follows at most as many links as there are nodes that it has not been
at. -/
theorem ends_searchFrom (nodes : List Node) (seen : List Nat) (i : Nat) :
    ∃ links ≤ (unseen nodes seen).length, Ends nodes seen i links (searchFrom nodes seen i) := by
  fun_induction searchFrom nodes seen i with
  | case1 seen i again => exact ⟨0, Nat.zero_le _, .back again⟩
  | case2 seen i new rejected => exact ⟨0, Nat.zero_le _, .found new rejected⟩
  | case3 seen i new quiet noLink =>
    rw [Bool.not_eq_true] at quiet
    exact ⟨0, Nat.zero_le _, .last new quiet noLink⟩
  | case4 seen i new quiet j link ih =>
    rw [Bool.not_eq_true] at quiet
    obtain ⟨links, hlinks, rest⟩ := ih
    have hfewer := length_unseen_cons_lt (lt_length_of_next? link) new
    exact ⟨links + 1, Nat.lt_of_le_of_lt hlinks hfewer, .onward new quiet link rest⟩

theorem length_unseen_nil (nodes : List Node) : (unseen nodes []).length = nodes.length := by
  have hall : unseen nodes [] = List.range nodes.length :=
    List.filter_eq_self.mpr fun i _ => decide_eq_true List.not_mem_nil
  rw [hall, List.length_range]

/-- The failure that a search finds is the one at the node that it finds. -/
theorem authorization?_eq_some_iff {f carried : Failure} :
    f.authorization? = some carried ↔
      ∃ i, f.findAuthorization? = some i ∧ f.at? i = some carried := by
  rw [authorization?, Option.bind_eq_some_iff]

/-- What a search finds is a node of the graph. -/
theorem authorization?_eq_none_iff {f : Failure} :
    f.authorization? = none ↔ f.findAuthorization? = none := by
  rw [authorization?, Option.bind_eq_none_iff]
  constructor
  · intro hnone
    rw [Option.eq_none_iff_forall_ne_some]
    intro i hi
    obtain ⟨steps, hmeets⟩ := findAuthorization?_eq_some_iff.mp hi
    have hlt := lt_length_of_isAuthorizationAt hmeets.rejected
    have hat := hnone i hi
    simp [at?, hlt] at hat
  · intro hnone i hi
    rw [hnone] at hi
    cases hi

/-- **Where a link leads:** to the cause if there is one, and otherwise to the context.  A cause
that counts as false is as good as none. -/
theorem next?_of_getElem? {node : Node} (hnode : nodes[i]? = some node) :
    next? nodes i =
      if node.cause?.all (isTruthyAt nodes) then node.cause?.or node.context?
      else node.context? := by
  obtain ⟨fault, cause?, context?⟩ := node
  rw [next?, hnode]
  cases cause? with
  | none => rfl
  | some j =>
    show ((some j).filter _).or _ = if isTruthyAt nodes j then _ else _
    rw [Option.filter_some]
    split <;> rfl

/-- A context beside a cause is not on the walk, here one that goes round between two faults. -/
example :
    (⟨[⟨.endpointMissing, some 1, some 2⟩, ⟨.providerMissing, none, some 0⟩,
        ⟨.s3CredentialsMissing, none, none⟩], 0, by decide⟩ : Failure).authorization? = none := by
  decide +kernel

/-- A cause that counts as false is not on it either, even one of rejected credentials. -/
example :
    (⟨[⟨.raised .value "failed", some 1, none⟩, ⟨.hollow .authorization "rejected", none, none⟩],
        0, by decide⟩ : Failure).authorization? = none := by
  decide +kernel

end CloudAccess.Failure
