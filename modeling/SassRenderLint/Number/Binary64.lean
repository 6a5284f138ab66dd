/-
Module: SassRenderLint.Number.Binary64
Layer: Number
Purpose: Finite binary64 numbers as exact data: a sign, a significand and a power of two. Rounding a
  quotient of naturals is the one operation that loses information; a product, a quotient or a decimal
  is the exact value, rounded once. Nothing here uses machine floats, so every step can be computed
  in a proof.
Main exports: Binary64, Binary64.nearest, Binary64.ofParts?, Binary64.ofDecimal?
-/

namespace SassRenderLint

/-- The finite number `± significand · 2 ^ exponent`. A rounded number has fewer than 54 significant
    bits and an exponent of at least `-1074`, and the significand is full unless the exponent is least. -/
structure Binary64 where
  negative : Bool
  significand : Nat
  exponent : Int
deriving DecidableEq, Repr, Inhabited

namespace Binary64

/-- The least exponent: one unit of it is the smallest positive number. -/
def leastExponent : Int := -1074

/-- The greatest exponent of a full significand. -/
def greatestExponent : Int := 971

def zero (negative : Bool) : Binary64 := ⟨negative, 0, leastExponent⟩

/-- The natural number next to `num / den`; a half goes to the even neighbour. -/
def roundDiv (num den : Nat) : Nat :=
  let quotient := num / den
  let twice := 2 * (num % den)
  if twice < den ∨ (twice = den ∧ quotient % 2 = 0) then quotient else quotient + 1

/-- `num / den` in units of `2 ^ exponent`, rounded. -/
def roundAt (num den : Nat) (exponent : Int) : Nat :=
  if 0 ≤ exponent then roundDiv num (den <<< exponent.toNat)
  else roundDiv (num <<< (-exponent).toNat) den

/-- The exponent that gives the positive quotient `num / den` fifty-three bits, or the least one. -/
def exponentOf (num den : Nat) : Int :=
  let guess : Int := (Nat.log2 num : Int) - (Nat.log2 den : Int) - 52
  let fits : Bool :=
    if 0 ≤ guess then decide (den <<< (guess.toNat + 52) ≤ num)
    else decide (den <<< 52 ≤ num <<< (-guess).toNat)
  max leastExponent (if fits then guess else guess - 1)

/-- The binary64 number nearest to `± num / den`, or nothing when it lies beyond the finite ones. -/
def nearest (negative : Bool) (num den : Nat) : Option Binary64 :=
  if num = 0 then some (zero negative)
  else
    let exponent := exponentOf num den
    let significand := roundAt num den exponent
    let (significand, exponent) :=
      if significand = 1 <<< 53 then (1 <<< 52, exponent + 1) else (significand, exponent)
    if greatestExponent < exponent then none else some ⟨negative, significand, exponent⟩

/-- The magnitude as an exact quotient. -/
def toQuotient (x : Binary64) : Nat × Nat :=
  if 0 ≤ x.exponent then (x.significand <<< x.exponent.toNat, 1)
  else (x.significand, 1 <<< (-x.exponent).toNat)

def mul? (x y : Binary64) : Option Binary64 :=
  let (a, b) := x.toQuotient
  let (c, d) := y.toQuotient
  nearest (x.negative != y.negative) (a * c) (b * d)

/-- The rounded quotient of `x` by a number other than zero. -/
def div? (x y : Binary64) : Option Binary64 :=
  let (a, b) := x.toQuotient
  let (c, d) := y.toQuotient
  nearest (x.negative != y.negative) (a * d) (b * c)

/-- Ten to the power `n`, rounded. -/
def powerOfTen? (n : Nat) : Option Binary64 := nearest false (Nat.pow 10 n) 1

/-- The greatest power of ten that is a finite number. -/
def greatestPowerOfTen : Nat := 308

/-- Reads `significand · 10 ^ -drop` by rounded divisions, each by the greatest power of ten at most,
    the last by what is left. Each full division takes 308 off `drop`, so `fuel` counts them. -/
def divideDown : Nat → Binary64 → Nat → Option Binary64
  | 0, x, _ => some (zero x.negative)
  | fuel + 1, x, drop =>
    if drop ≤ greatestPowerOfTen then do x.div? (← powerOfTen? drop)
    else if x.significand = 0 then some x
    else do divideDown fuel (← x.div? (← powerOfTen? greatestPowerOfTen)) (drop - greatestPowerOfTen)

/-- Reads a decimal by rounding the significand first and then one product with, or quotient by, a
    rounded power of ten. Nothing when the result is not finite. Four divisions by `10 ^ 308` take
    every significand below `2 ^ 64` to zero. -/
def ofParts? (negative : Bool) (significand : Nat) (exponent : Int) : Option Binary64 := do
  let start ← nearest negative significand 1
  if 0 ≤ exponent then
    if exponent.toNat ≤ greatestPowerOfTen then start.mul? (← powerOfTen? exponent.toNat)
    else if significand = 0 then some start
    else none
  else divideDown 4 start (-exponent).toNat

/-- The number nearest to the decimal `± digits · 10 ^ exponent`. Nothing when it is not finite.
    Exponents far outside the range are decided by the number of digits alone. -/
def ofDecimal? (negative : Bool) (digits : Nat) (exponent : Int) : Option Binary64 :=
  let size : Int := (Nat.toDigits 10 digits).length
  if digits = 0 ∨ size + exponent < -330 then some (zero negative)
  else if 330 < size + exponent then none
  else if 0 ≤ exponent then nearest negative (digits * Nat.pow 10 exponent.toNat) 1
  else nearest negative digits (Nat.pow 10 (-exponent).toNat)

end Binary64

end SassRenderLint
