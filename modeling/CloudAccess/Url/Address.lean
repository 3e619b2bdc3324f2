/-
# Numeric host addresses

The written forms of IPv4 and IPv6 addresses.  Only validity matters here: a valid address is
kept as it was written.
-/
import CloudAccess.Text.Basic

namespace CloudAccess.Url

/-! ## 1. Version 4 -/

/-- The text is a number from 0 to 255 in decimal, without leading zeros. -/
def isOctet (t : Text) : Bool :=
  t.all CodePoint.isAsciiDigit && !t.isEmpty && t.length ≤ 3 &&
    (t.length == 1 || t.head? != some (CodePoint.ofChar '0')) &&
    t.foldl (fun n c => 10 * n + (c.val - 0x30)) 0 ≤ 255

/-- The text is a version 4 address: four octets with points between them. -/
def isIpv4 (t : Text) : Bool :=
  let octets := Text.splitOn '.' t
  octets.length == 4 && octets.all isOctet

/-- The states after one more character in a search for four runs of digits with one character
of any kind between neighbours.  State `2 * i` waits for the first digit of run `i`, and state
`2 * i + 1` is inside that run. -/
def dottedStep (states : List Nat) (c : CodePoint) : List Nat :=
  (List.range 8).filter fun s =>
    if s % 2 = 1 then c.isAsciiDigit && (s ∈ states || (s - 1) ∈ states)
    else s != 0 && (s - 1) ∈ states

/-- The text looks like a version 4 address: four runs of digits, with one character of any kind
between neighbours.  Such a host is never taken for a name. -/
def looksLikeIpv4 (t : Text) : Bool := 7 ∈ t.foldl dottedStep [0]

/-! ## 2. Version 6 -/

/-- The text is a group of one to four hexadecimal digits. -/
def isGroup (t : Text) : Bool :=
  t.all (·.hexValue?.isSome) && !t.isEmpty && t.length ≤ 4

/-- The pieces between the colons of a version 6 address, with a version 4 address at the end
replaced by the two groups it stands for. -/
def groups? (t : Text) : Option (List Text) :=
  let pieces := Text.splitOn ':' t
  if pieces.length < 3 then none
  else
    match pieces.getLast? with
    | none => none
    | some final =>
      if (CodePoint.ofChar '.') ∈ final then
        if isIpv4 final then some (pieces.dropLast ++ [("0" : Text), "0"]) else none
      else some pieces

/-- The pieces write eight groups in full, or fewer with one gap.  A gap is an empty piece
inside; at either end it needs an empty piece on the outside too. -/
def fillsGroups (pieces : List Text) : Bool :=
  let inner := (pieces.drop 1).dropLast
  let gaps := (inner.filter List.isEmpty).length
  if pieces.length > 9 || gaps > 1 then false
  else if gaps = 0 then pieces.length == 8 && pieces.all isGroup
  else
    let before := pieces.takeWhile (!·.isEmpty)
    let startsEmpty := before.isEmpty
    let front := if startsEmpty then [] else before
    let after := (pieces.drop (if startsEmpty then 2 else front.length + 1))
    let back := if after = [[]] then [] else after
    (!startsEmpty || (pieces.drop 1).head?.any List.isEmpty) &&
      front.all isGroup && back.all isGroup && front.length + back.length < 8

/-- The text is a version 6 address, perhaps with a zone after a percent sign. -/
def isIpv6 (t : Text) : Bool :=
  let (address, zoneFits) : Text × Bool :=
    match Text.cut? '%' t with
    | none => (t, true)
    | some (address, zone) => (address, !zone.isEmpty && (CodePoint.ofChar '%') ∉ zone)
  zoneFits && (groups? address).any fillsGroups

end CloudAccess.Url
