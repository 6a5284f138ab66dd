/-
Module: SassRenderLint.Number.Shortest
Layer: Number
Purpose: The shortest decimal that reads back as a given binary64 number, and the two layouts in
  which a decimal is written: positional, and with an exponent for the far ends.
Main exports: Binary64.shortest, Binary64.jsonText
-/
import SassRenderLint.Number.Binary64

namespace SassRenderLint

namespace Binary64

/-- The decimal `digits · 10 ^ exponent`. -/
structure Decimal where
  digits : Nat
  exponent : Int
deriving DecidableEq, Repr, Inhabited

/-- The reals that round to a positive number, from `low / unit` to `high / unit` around
    `value / unit`. The ends belong to it when `closed`. -/
structure Interval where
  low : Nat
  value : Nat
  high : Nat
  unit : Nat
  closed : Bool
deriving DecidableEq, Repr, Inhabited

/-- The interval of a number other than zero. Its lower half is narrower at a power of two. -/
def interval (x : Binary64) : Interval :=
  let scale := 1 <<< x.exponent.toNat
  let below := if x.significand = 1 <<< 52 ∧ leastExponent < x.exponent then 1 else 2
  { low := (4 * x.significand - below) * scale
    value := 4 * x.significand * scale
    high := (4 * x.significand + 2) * scale
    unit := 4 <<< (-x.exponent).toNat
    closed := x.significand % 2 = 0 }

/-- The interval counted in grid steps of `10 ^ k`. -/
def Interval.onGrid (i : Interval) (k : Int) : Interval :=
  let up := Nat.pow 10 (-k).toNat
  { i with
    low := i.low * up
    value := i.value * up
    high := i.high * up
    unit := i.unit * Nat.pow 10 k.toNat }

/-- Whether grid point `c` lies in the interval. -/
def Interval.holds (i : Interval) (c : Nat) : Bool :=
  if i.closed then i.low ≤ c * i.unit && c * i.unit ≤ i.high
  else i.low < c * i.unit && c * i.unit < i.high

/-- The grid point of the interval nearest to its value, if there is one. Of two equally near ones
    the even one is taken. -/
def Interval.pick? (i : Interval) : Option Nat :=
  let down := i.value / i.unit
  let up := down + 1
  let far := up * i.unit - i.value
  let near := i.value - down * i.unit
  match i.holds down && down != 0, i.holds up with
  | true, true =>
    if near < far ∨ (near = far ∧ down % 2 = 0) then some down else some up
  | true, false => some down
  | false, true => some up
  | false, false => none

/-- Tries the grids of `10 ^ k`, `10 ^ (k - 1)`, … and takes the first hit. -/
def searchGrid (i : Interval) : Nat → Int → Decimal
  | 0, k => ⟨i.value / i.unit, k⟩
  | fuel + 1, k =>
    match (i.onGrid k).pick? with
    | some digits => ⟨digits, k⟩
    | none => searchGrid i fuel (k - 1)

/-- The decimal with the fewest digits that reads back as `x`, the nearest of those. The first grid
    is above the number and seventeen digits always suffice, so the search ends within its bound. -/
def shortest (x : Binary64) : Decimal :=
  if x.significand = 0 then ⟨0, 0⟩
  else
    let magnitude : Int := (Nat.log2 x.significand : Int) + x.exponent
    searchGrid x.interval 24 (magnitude * 30103 / 100000 + 2)

def digitText (n : Nat) : String := String.ofList (Nat.toDigits 10 n)

def signed (x : Binary64) (text : String) : String := if x.negative then "-" ++ text else text

/-- A decimal without exponent. Whole numbers end in `.0`. -/
def Decimal.positional (d : Decimal) : String :=
  let digits := Nat.toDigits 10 d.digits
  let point : Int := digits.length + d.exponent
  if 0 ≤ d.exponent then
    String.ofList (digits ++ List.replicate d.exponent.toNat '0' ++ ['.', '0'])
  else if 0 < point then
    String.ofList (digits.take point.toNat ++ '.' :: digits.drop point.toNat)
  else
    String.ofList ('0' :: '.' :: List.replicate (-point).toNat '0' ++ digits)

/-- A decimal with one digit before the point and a signed exponent. -/
def Decimal.scientific (d : Decimal) : String :=
  let digits := Nat.toDigits 10 d.digits
  let exponent : Int := digits.length + d.exponent - 1
  let mantissa :=
    match digits with
    | [] => []
    | [c] => [c]
    | c :: rest => c :: '.' :: rest
  let sign := if 0 ≤ exponent then "e+" else "e-"
  String.ofList mantissa ++ sign ++ digitText exponent.natAbs

/-- The text of a number in JSON: positional from `10 ^ -5` up to below `10 ^ 16`. -/
def jsonText (x : Binary64) : String :=
  let d := x.shortest
  let point : Int := (Nat.toDigits 10 d.digits).length + d.exponent
  x.signed (if -5 < point ∧ point ≤ 16 then d.positional else d.scientific)

end Binary64

end SassRenderLint
