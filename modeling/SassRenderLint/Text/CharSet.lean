/-
Module: SassRenderLint.Text.CharSet
Layer: Text
Purpose: Sets of characters given by the code points at which membership changes. The first bound
  opens the first range, the second closes it, and so on; a set without a last bound runs to the end.
Main exports: CharSet, CharSet.contains
-/

namespace SassRenderLint

/-- A set of characters, as the increasing list of code points at which membership changes. -/
structure CharSet where
  bounds : List Nat
deriving DecidableEq, Repr, Inhabited

/-- A character belongs to the set when an odd number of bounds lie at or before it. -/
def CharSet.contains (set : CharSet) (c : Char) : Bool :=
  (set.bounds.takeWhile (· ≤ c.toNat)).length % 2 = 1

end SassRenderLint
