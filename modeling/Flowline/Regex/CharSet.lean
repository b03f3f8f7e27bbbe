set_option autoImplicit false

/-!
# Sets of characters

A `CharSet` is a set of code points, kept as its ranges: sorted, disjoint,
inclusive, and never adjacent, so every set has exactly one form. Pattern
classes are built from these sets by union, intersection, difference,
symmetric difference and complement, all computed range by range:

* `union` merges the two lists by their first points and joins ranges that
  overlap or touch;
* `complement` takes the gaps between the ranges, up to `U+10FFFF`;
* intersection and difference are unions of complements, so each keeps the
  canonical form.

Membership is a search over the ranges in `CharSet.toArray` order, halving
the window at every step.
-/

namespace Flowline.Regex

/-- A set of code points as sorted, disjoint, non-adjacent inclusive ranges. -/
structure CharSet where
  ranges : List (Nat × Nat)
  deriving Inhabited, BEq, Repr

namespace CharSet

/-- The largest code point. -/
def maxCode : Nat := 0x10FFFF

/-- The empty set. -/
def empty : CharSet := ⟨[]⟩

/-- Every code point. -/
def all : CharSet := ⟨[(0, maxCode)]⟩

/-- Joins neighbouring ranges of a list sorted by first points when they
overlap or touch. -/
def coalesce : List (Nat × Nat) → List (Nat × Nat)
  | (a, b) :: (c, d) :: rest =>
    if c ≤ b + 1 then coalesce ((a, max b d) :: rest)
    else (a, b) :: coalesce ((c, d) :: rest)
  | rs => rs
termination_by rs => rs.length

/-- A set from ranges in any order; a range whose ends are swapped is read
from its smaller end. -/
def ofRanges (rs : List (Nat × Nat)) : CharSet :=
  let ordered := rs.map fun (a, b) => (min a b, max a b)
  ⟨coalesce (ordered.mergeSort fun x y => x.1 ≤ y.1)⟩

/-- The set of one code point. -/
def single (c : Nat) : CharSet := ⟨[(c, c)]⟩

/-- Every code point of either set. -/
def union (s t : CharSet) : CharSet :=
  ⟨coalesce (List.merge s.ranges t.ranges fun x y => x.1 ≤ y.1)⟩

/-- The gaps between sorted ranges, from `next` up to the largest code point. -/
def gapsFrom (next : Nat) : List (Nat × Nat) → List (Nat × Nat)
  | [] => if next ≤ maxCode then [(next, maxCode)] else []
  | (a, b) :: rest => (if next < a then [(next, a - 1)] else []) ++ gapsFrom (b + 1) rest

/-- Every code point not in the set. -/
def complement (s : CharSet) : CharSet := ⟨gapsFrom 0 s.ranges⟩

/-- The code points of both sets. -/
def inter (s t : CharSet) : CharSet := (s.complement.union t.complement).complement

/-- The code points of the first set that are not in the second. -/
def diff (s t : CharSet) : CharSet := s.inter t.complement

/-- The code points of exactly one of the sets. -/
def symmDiff (s t : CharSet) : CharSet := (s.union t).diff (s.inter t)

/-- Whether the set has no code point. -/
def isEmpty (s : CharSet) : Bool := s.ranges.isEmpty

/-- Whether every code point of the set is ASCII. -/
def isAscii (s : CharSet) : Bool := s.ranges.all fun (_, b) => b ≤ 0x7F

/-- The ranges as an array, for searching. -/
def toArray (s : CharSet) : Array (Nat × Nat) := s.ranges.toArray

end CharSet

/-- Whether `n` lies in one of the sorted ranges of `table` between
positions `lo` (included) and `hi` (excluded). -/
def rangesHoldBetween (table : Array (Nat × Nat)) (n lo hi : Nat) : Bool :=
  if lo < hi then
    let mid := (lo + hi) / 2
    let (first, last) := table.getD mid (0, 0)
    if n < first then rangesHoldBetween table n lo mid
    else if last < n then rangesHoldBetween table n (mid + 1) hi
    else true
  else false
termination_by hi - lo

/-- Whether `n` lies in one of the sorted ranges of `table`. -/
def rangesHold (table : Array (Nat × Nat)) (n : Nat) : Bool :=
  rangesHoldBetween table n 0 table.size

end Flowline.Regex
