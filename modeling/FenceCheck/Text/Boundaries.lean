/-!
Sets of characters given by their boundaries: an increasing list of code points at which membership
starts, stops, starts again, and so on. A code point belongs to the set when an odd number of
boundaries lie at or below it.
-/
namespace FenceCheck.Text

/-- Number of entries of the increasing array `a` that are at most `c`, looking between `lo` and `hi`. -/
def countAtMost (a : Array Nat) (c lo hi : Nat) : Nat :=
  if lo < hi then
    let mid := (lo + hi) / 2
    if a.getD mid 0 ≤ c then countAtMost a c (mid + 1) hi else countAtMost a c lo mid
  else lo
termination_by hi - lo

/-- Membership in the set whose boundaries are `a`. -/
def withinBoundaries (a : Array Nat) (c : Nat) : Bool :=
  countAtMost a c 0 a.size % 2 = 1

end FenceCheck.Text
