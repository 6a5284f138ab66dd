/-
Module: SassRenderLint.Text.Position
Layer: Text
Purpose: Places in a text. Lines and columns are unsigned 32-bit numbers counted from one; sums stop
  at the greatest of them instead of wrapping round.
Program names: Span is SourceSpan, between is between, startingAt is starting_at.
Main exports: Position, Span, saturatingAdd, saturatingSub
-/

namespace SassRenderLint

/-- The sum, or the greatest number when the sum is beyond it. -/
def saturatingAdd (a b : UInt32) : UInt32 :=
  if a.toNat + b.toNat < UInt32.size then a + b else UInt32.ofNat (UInt32.size - 1)

/-- The difference, or zero when it would be negative. -/
def saturatingSub (a b : UInt32) : UInt32 := if b ≤ a then a - b else 0

/-- A natural number as a line or column, or the greatest one when it is beyond it. -/
def clampUInt32 (n : Nat) : UInt32 := UInt32.ofNat (min n (UInt32.size - 1))

structure Position where
  line : UInt32
  column : UInt32
deriving DecidableEq, Repr, Inhabited

/-- Where something starts and ends, as far as it is known. -/
structure Span where
  start : Option Position
  stop : Option Position
deriving DecidableEq, Repr, Inhabited

namespace Span

/-- The span with both ends known. -/
def between (start stop : Position) : Span := ⟨some start, some stop⟩

/-- The span of which only the start is known. -/
def startingAt (start : Position) : Span := ⟨some start, none⟩

/-- The span of which nothing is known. -/
def unknown : Span := ⟨none, none⟩

end Span

end SassRenderLint
