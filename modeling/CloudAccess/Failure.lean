/-
# Failures and what caused them

A failure is a fault together with the faults behind it.  Each fault may name a cause, given on
purpose, and a context, the fault that was being handled when it arose; either may be shared, and
nothing keeps the links from running in a circle.  A `Failure` is therefore a finite graph with
a node to start from.

`authorization?` looks for rejected credentials along the links, where a cause goes before a
context, unless the cause counts as false.  The search remembers the nodes it has been at and ends
when it comes back to one of them: from there the links lead round in a circle, past nothing that is
new.
-/
import CloudAccess.Fault

namespace CloudAccess

/-! ## 1. Graphs of faults -/

/-- A fault with its links to others of the same graph. -/
structure Failure.Node where
  fault : Fault
  cause? : Option Nat
  context? : Option Nat
deriving DecidableEq

/-- A fault among the faults that led to it. -/
structure Failure where
  nodes : List Failure.Node
  root : Nat
  root_lt : root < nodes.length
deriving DecidableEq

namespace Failure

/-- A fault that nothing led to. -/
def ofFault (fault : Fault) : Failure := ⟨[⟨fault, none, none⟩], 0, by simp⟩

instance : Inhabited Failure := ⟨ofFault .providerMissing⟩

/-- A fault that arises while a failure is being handled, if one is: that failure is its context,
and it has no cause. -/
def arising (handled? : Option Failure) (fault : Fault) : Failure :=
  match handled? with
  | none => ofFault fault
  | some handled =>
    ⟨handled.nodes ++ [⟨fault, none, some handled.root⟩], handled.nodes.length, by simp⟩

/-- The node to start from. -/
def rootNode (f : Failure) : Node := f.nodes.get ⟨f.root, f.root_lt⟩

/-- What went wrong. -/
def fault (f : Failure) : Fault := f.rootNode.fault

/-- The same graph, seen from another node. -/
def at? (f : Failure) (i : Nat) : Option Failure :=
  if h : i < f.nodes.length then some ⟨f.nodes, i, h⟩ else none

/-- The failure named as the cause. -/
def cause? (f : Failure) : Option Failure := f.rootNode.cause?.bind f.at?

/-- A fault that a failure is the cause of.  The failure was being handled when the fault arose,
so it is the context too. -/
def wrap (fault : Fault) (cause : Failure) : Failure :=
  ⟨cause.nodes ++ [⟨fault, some cause.root, some cause.root⟩], cause.nodes.length, by simp⟩

/-! ## 2. Rejected credentials along the links -/

/-- The node is a fault that counts as true. -/
def isTruthyAt (nodes : List Node) (i : Nat) : Bool :=
  nodes[i]?.any fun node => node.fault.isTruthy

/-- The node that a walk goes to next: the cause if there is one that counts as true, or else the
context, whatever that counts as. -/
def next? (nodes : List Node) (i : Nat) : Option Nat :=
  match nodes[i]? with
  | none => none
  | some node => (node.cause?.filter (isTruthyAt nodes)).or node.context?

/-- The node is a fault of rejected credentials. -/
def isAuthorizationAt (nodes : List Node) (i : Nat) : Bool :=
  nodes[i]?.any fun node => node.fault.category.isAuthorization

/-- The nodes of a graph that a search has not been at. -/
def unseen (nodes : List Node) (seen : List Nat) : List Nat :=
  (List.range nodes.length).filter (· ∉ seen)

/-- Links lead on from nodes only. -/
theorem lt_length_of_next? {nodes : List Node} {i j : Nat} (h : next? nodes i = some j) :
    i < nodes.length := by
  rw [next?] at h
  split at h
  · cases h
  · next node hnode => exact (List.getElem?_eq_some_iff.mp hnode).1

/-- A search that goes on from a node leaves fewer unseen. -/
theorem length_unseen_cons_lt {nodes : List Node} {seen : List Nat} {i : Nat}
    (hi : i < nodes.length) (hnew : i ∉ seen) :
    (unseen nodes (i :: seen)).length < (unseen nodes seen).length := by
  have hfewer : unseen nodes (i :: seen) = (unseen nodes seen).filter (· ≠ i) := by
    simp only [unseen, List.filter_filter, List.mem_cons, not_or, Bool.decide_and]
  rw [hfewer, List.length_filter_lt_length_iff_exists]
  exact ⟨i, by simp [unseen, hi, hnew], by simp⟩

/-- The first fault of rejected credentials that a search at a node comes to, if it has been at
the nodes `seen`. -/
def searchFrom (nodes : List Node) (seen : List Nat) (i : Nat) : Option Nat :=
  if i ∈ seen then none
  else if isAuthorizationAt nodes i then some i
  else
    match _ : next? nodes i with
    | none => none
    | some j => searchFrom nodes (i :: seen) j
termination_by (unseen nodes seen).length
decreasing_by
  have hnext : next? nodes i = some j := by assumption
  have hnew : i ∉ seen := by assumption
  exact length_unseen_cons_lt (lt_length_of_next? hnext) hnew

/-- Where the first fault of rejected credentials stands, from the root along the links. -/
def findAuthorization? (f : Failure) : Option Nat := searchFrom f.nodes [] f.root

/-- The first failure of rejected credentials along the links. -/
def authorization? (f : Failure) : Option Failure := f.findAuthorization?.bind f.at?

/-- The failure to report: rejected credentials are never hidden behind a fault they led to. -/
def surfaced (f : Failure) : Failure := f.authorization?.getD f

@[simp] theorem fault_ofFault (fault : Fault) : (ofFault fault).fault = fault := rfl

@[simp] theorem fault_arising (handled? : Option Failure) (fault : Fault) :
    (arising handled? fault).fault = fault := by
  cases handled? <;> simp [arising, Failure.fault, rootNode, ofFault]

@[simp] theorem fault_wrap (fault : Fault) (cause : Failure) :
    (wrap fault cause).fault = fault := by
  simp [wrap, Failure.fault, rootNode]

end Failure

end CloudAccess
