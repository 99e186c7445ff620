/-!
# Sets of characters given by their boundaries

A set of code points is written as the ascending list of the points at which membership changes:
outside below the first boundary, inside from it on, outside again from the second one on, and so
on.  A property that holds on many short runs then takes two numbers per run.

* `Boundaries.inside` decides membership.
-/

namespace PipedShell

/-- The ascending code points at which membership of a set changes. -/
abbrev Boundaries := List Nat

/-- A character is inside when an odd number of boundaries lies at or below it. -/
def Boundaries.inside (boundaries : Boundaries) (c : Char) : Bool :=
  (boundaries.takeWhile (· ≤ c.toNat)).length % 2 == 1

end PipedShell
