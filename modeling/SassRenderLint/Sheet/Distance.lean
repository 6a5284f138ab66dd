/-
Module: SassRenderLint.Sheet.Distance
Layer: Sheet
Purpose: Distances between positions, in the plane of lines and columns. A distance is the root of a
  whole number, rounded to the fifty-three bits of a binary64 number, and is held as a whole number
  of `2 ^ -64`, so that distances are compared exactly.
Program names: Position.distance is the hypot of endpoint_distance.
Main exports: Position.squaredDistance, Distance.root, Position.distance, Distance.thousandths
-/
import SassRenderLint.Text.Position

namespace SassRenderLint

/-- A distance in units of `2 ^ -64`. -/
abbrev Distance := Nat

namespace Distance

/-- The whole part of the square root of a number below `4 ^ k`. -/
def wholeRoot : Nat → Nat → Nat
  | 0, _ => 0
  | k + 1, n =>
    let r := 2 * wholeRoot k (n / 4)
    if (r + 1) * (r + 1) ≤ n then r + 1 else r

/-- Rounds to fifty-three significant bits; a half goes to the even neighbour. With `inexact`, the
    number stands for one slightly above it. -/
def roundBits (n : Nat) (inexact : Bool) : Nat :=
  let drop := Nat.log2 n + 1 - 53
  let unit := 1 <<< drop
  let quotient := n / unit
  let twice := 2 * (n % unit)
  let up := unit < twice ∨ (unit = twice ∧ (inexact ∨ quotient % 2 = 1))
  if 0 < drop ∧ up then (quotient + 1) * unit else quotient * unit

/-- The square root of a whole number. -/
def root (n : Nat) : Distance :=
  let scaled := n <<< 128
  let r := wholeRoot (Nat.log2 scaled / 2 + 1) scaled
  roundBits r (r * r != scaled)

/-- A thousand times the distance, to the nearest whole number. -/
def thousandths (d : Distance) : Nat := (roundBits (d * 1000) false + 1 <<< 63) >>> 64

end Distance

namespace Position

/-- How far two numbers are apart. -/
def gap (a b : UInt32) : Nat := (a.toNat - b.toNat) + (b.toNat - a.toNat)

def squaredDistance (p q : Position) : Nat :=
  gap p.line q.line * gap p.line q.line + gap p.column q.column * gap p.column q.column

/-- The distance, rounded. -/
def distance (p q : Position) : Distance := Distance.root (p.squaredDistance q)

end Position

end SassRenderLint
