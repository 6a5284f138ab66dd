/-
Module: SassRenderLint.Text.Scan
Layer: Text
Purpose: Readers of text. A reader takes the characters that are left and gives a result with what is
  left after it, or nothing when the characters do not start with what it reads.
Main exports: Scan, Scan.digitValue, Scan.hexValue?, Scan.natOfDigits, Scan.digits1
-/

namespace SassRenderLint

/-- What a reader makes of the characters left: a result and the characters after it. -/
abbrev Scan (α : Type) := List Char → Option (α × List Char)

namespace Scan

def digitValue (c : Char) : Nat := c.toNat - '0'.toNat

/-- The value of a hexadecimal digit of either case. -/
def hexValue? (c : Char) : Option Nat :=
  if '0' ≤ c ∧ c ≤ '9' then some (c.toNat - '0'.toNat)
  else if 'a' ≤ c ∧ c ≤ 'f' then some (c.toNat - 'a'.toNat + 10)
  else if 'A' ≤ c ∧ c ≤ 'F' then some (c.toNat - 'A'.toNat + 10)
  else none

def natOfDigits (digits : List Char) : Nat := digits.foldl (fun n c => n * 10 + digitValue c) 0

/-- The digits in front, which have to be there. -/
def digits1 : Scan (List Char) := fun cs =>
  let digits := cs.takeWhile Char.isDigit
  if digits.isEmpty then none else some (digits, cs.dropWhile Char.isDigit)

/-- Puts a character in front of what was read. -/
def prepend (c : Char) (result : Option (List Char × List Char)) : Option (List Char × List Char) :=
  result.map fun (cs, rest) => (c :: cs, rest)

end Scan

end SassRenderLint
