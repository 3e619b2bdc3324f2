/-
# Sets of code points as sorted ranges

A property of code points that only a table can give is held as the sorted, disjoint ranges
where it holds, and looked up by halving.  Tables are written as hexadecimal text, `41-5a` for
a range and `aa` for a single code point, because a table of a few hundred ranges is easier to
read and to check against its source that way than as Lean terms.
-/
import CloudAccess.Text.Basic

namespace CloudAccess

/-- A set of numbers: those that lie in one of the ranges, both ends included.  The ranges
are sorted and disjoint. -/
structure Ranges where
  bounds : Array (Nat × Nat)

namespace Ranges

/-! ## 1. Membership -/

/-- Whether `n` lies in one of the ranges with index from `low` up to `high`, found by
halving. -/
def search (bounds : Array (Nat × Nat)) (n low high : Nat) : Bool :=
  if _h : low < high then
    let middle := (low + high) / 2
    match bounds[middle]? with
    | none => false
    | some (first, last) =>
      if n < first then search bounds n low middle
      else if last < n then search bounds n (middle + 1) high
      else true
  else false
termination_by high - low
decreasing_by all_goals omega

/-- The number belongs to the set. -/
def contains (r : Ranges) (n : Nat) : Bool := search r.bounds n 0 r.bounds.size

/-! ## 2. Reading the written form -/

/-- What has been read of a table: the ranges so far, the first end of a range whose last end
is being read, and the number being read, if a digit of it has been seen. -/
structure Reading where
  done : Array (Nat × Nat) := #[]
  first? : Option Nat := none
  number? : Option Nat := none

/-- A range ends: a lone number is a range of one. -/
def Reading.close (s : Reading) : Reading :=
  match s.number? with
  | none => s
  | some n => { done := s.done.push (s.first?.getD n, n) }

/-- One character of a table: a digit, the hyphen of a range, or a blank after one. -/
def Reading.step (s : Reading) (c : Char) : Reading :=
  if c = '-' then { s with first? := s.number?, number? := none }
  else
    match (CodePoint.ofChar c).hexValue? with
    | some d => { s with number? := some (s.number?.getD 0 * 16 + d) }
    | none => s.close

/-- The set written in the given lines. -/
def ofHex (lines : List String) : Ranges :=
  ⟨(lines.foldl (fun (s : Reading) (line : String) => (line.foldl Reading.step s).close) {}).done⟩

end Ranges

end CloudAccess
