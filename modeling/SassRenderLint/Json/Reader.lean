/-
Module: SassRenderLint.Json.Reader
Layer: Json
Purpose: Reads JSON text, strictly: no comments, no trailing commas, no bare words, no characters
  after the value, at most 127 containers inside one another. Each reader takes the characters that
  are left and gives the value with what is left after it. A container reader is structural in the
  nesting that is still allowed, a list of items in a bound on their number.
Main exports: Json.read?, Json.readChars?
-/
import SassRenderLint.Json.Basic
import SassRenderLint.Text.Scan

namespace SassRenderLint

namespace Json

open Scan

/-- Blanks between tokens. -/
def isBlank (c : Char) : Bool := c = ' ' || c = '\t' || c = '\n' || c = '\x0d'

def skipBlanks (cs : List Char) : List Char := cs.dropWhile isBlank

/-- Four hexadecimal digits as one number. -/
def hex4? (a b c d : Char) : Option Nat := do
  pure ((((← hexValue? a) * 16 + (← hexValue? b)) * 16 + (← hexValue? c)) * 16 + (← hexValue? d))

/-- Whether a code unit opens a surrogate pair. -/
def isHighSurrogate (n : Nat) : Bool := 0xD800 ≤ n && n < 0xDC00

/-- Whether a code unit closes a surrogate pair. -/
def isLowSurrogate (n : Nat) : Bool := 0xDC00 ≤ n && n < 0xE000

/-- The character of a one-letter escape. -/
def plainEscape? : Char → Option Char
  | '"' => some '"'
  | '\\' => some '\\'
  | '/' => some '/'
  | 'b' => some '\x08'
  | 'f' => some '\x0c'
  | 'n' => some '\n'
  | 'r' => some '\x0d'
  | 't' => some '\t'
  | _ => none

/-- The characters of a string up to its closing quote. Control characters have to be escaped, and
    escaped surrogates have to come in pairs. -/
def stringBody : Scan (List Char)
  | [] => none
  | '"' :: rest => some ([], rest)
  | '\\' :: 'u' :: a :: b :: c :: d :: '\\' :: 'u' :: e :: f :: g :: h :: rest =>
    match hex4? a b c d with
    | none => none
    | some high =>
      if isHighSurrogate high then
        match hex4? e f g h with
        | none => none
        | some low =>
          if isLowSurrogate low then
            prepend (Char.ofNat (0x10000 + (high - 0xD800) * 0x400 + (low - 0xDC00))) (stringBody rest)
          else none
      else if isLowSurrogate high then none
      else prepend (Char.ofNat high) (stringBody ('\\' :: 'u' :: e :: f :: g :: h :: rest))
  | '\\' :: 'u' :: a :: b :: c :: d :: rest =>
    match hex4? a b c d with
    | none => none
    | some n => if isHighSurrogate n || isLowSurrogate n then none else prepend (Char.ofNat n) (stringBody rest)
  | '\\' :: c :: rest =>
    match plainEscape? c with
    | none => none
    | some e => prepend e (stringBody rest)
  | c :: rest => if c = '\\' ∨ c.toNat < 0x20 then none else prepend c (stringBody rest)

/-- A string, from its opening quote. -/
def string : Scan String
  | '"' :: rest => (stringBody rest).map fun (cs, rest) => (String.ofList cs, rest)
  | _ => none

/-- One past the greatest significand that a decimal's digits are gathered into. -/
def significandLimit : Nat := UInt64.size

/-- Gathers the digits before the point. From the first digit that does not fit, digits are dropped
    and counted. -/
def gatherWhole (digits : List Char) : Nat × Nat :=
  digits.foldl
    (fun (significand, dropped) c =>
      let next := significand * 10 + digitValue c
      if dropped = 0 ∧ next < significandLimit then (next, 0) else (significand, dropped + 1))
    (0, 0)

/-- Gathers the digits after the point until one does not fit, and counts those gathered. -/
def gatherFraction (significand : Nat) : List Char → Nat × Nat
  | [] => (significand, 0)
  | c :: rest =>
    let next := significand * 10 + digitValue c
    if next < significandLimit then
      let (gathered, count) := gatherFraction next rest
      (gathered, count + 1)
    else (significand, 0)

/-- The parts of a number: the digits before the point, after it, and the signed exponent. -/
structure Numeral where
  negative : Bool
  whole : List Char
  fraction : Option (List Char)
  exponent : Option (Bool × List Char)
deriving DecidableEq, Repr, Inhabited

/-- A sign and digits, after the exponent mark. -/
def exponentDigits : Scan (Bool × List Char)
  | '+' :: rest => (digits1 rest).map fun (ds, rest) => ((false, ds), rest)
  | '-' :: rest => (digits1 rest).map fun (ds, rest) => ((true, ds), rest)
  | rest => (digits1 rest).map fun (ds, rest) => ((false, ds), rest)

/-- The parts of a number. A leading zero stands alone before the point. -/
def numeral : Scan Numeral := fun cs => do
  let (negative, cs) := match cs with
    | '-' :: rest => (true, rest)
    | _ => (false, cs)
  let (whole, cs) ← digits1 cs
  if whole.head? = some '0' ∧ 1 < whole.length then none
  let (fraction, cs) ← match cs with
    | '.' :: rest => (digits1 rest).map fun (ds, rest) => (some ds, rest)
    | _ => some (none, cs)
  let (exponent, cs) ← match cs with
    | 'e' :: rest => (exponentDigits rest).map fun (e, rest) => (some e, rest)
    | 'E' :: rest => (exponentDigits rest).map fun (e, rest) => (some e, rest)
    | _ => some (none, cs)
  pure (⟨negative, whole, fraction, exponent⟩, cs)

/-- The greatest exponent that is taken at its value. -/
def exponentLimit : Nat := UInt32.size / 2

/-- A number with a fraction, an exponent or too many digits. Nothing when it is not finite. -/
def Numeral.toFloat? (n : Numeral) : Option Binary64 :=
  let (significand, dropped) := gatherWhole n.whole
  let (significand, places) := match n.fraction with
    | none => (significand, 0)
    | some digits => gatherFraction significand digits
  let scale : Int := (dropped : Int) - places
  match n.exponent with
  | none => Binary64.ofParts? n.negative significand scale
  | some (minus, digits) =>
    let e := natOfDigits digits
    if e < exponentLimit then
      Binary64.ofParts? n.negative significand (if minus then scale - e else scale + e)
    else if significand ≠ 0 ∧ ¬ minus then none
    else some (Binary64.zero n.negative)

/-- The value of a number: an integer if it is written as one and fits, and is not a negative zero. -/
def Numeral.toNumber? (n : Numeral) : Option JsonNumber :=
  if n.fraction.isNone ∧ n.exponent.isNone then
    let value := natOfDigits n.whole
    if n.negative then
      if value = 0 then some (.float (Binary64.zero true))
      else if value ≤ UInt64.size / 2 then some (.int (-(value : Int)))
      else n.toFloat?.map .float
    else if value < UInt64.size then some (.int value)
    else n.toFloat?.map .float
  else n.toFloat?.map .float

def number : Scan JsonNumber := fun cs => do
  let (n, rest) ← numeral cs
  pure (← n.toNumber?, rest)

/-- Items up to the closing bracket, at least one and at most `bound` of them. -/
def items (item : Scan Json) : Nat → Scan (List Json)
  | 0, _ => none
  | bound + 1, cs => do
    let (x, rest) ← item cs
    match skipBlanks rest with
    | ',' :: rest =>
      let (xs, rest) ← items item bound rest
      pure (x :: xs, rest)
    | ']' :: rest => pure ([x], rest)
    | _ => none

/-- A key, a colon and a value. -/
def field (item : Scan Json) : Scan (String × Json) := fun cs => do
  let (key, rest) ← string (skipBlanks cs)
  match skipBlanks rest with
  | ':' :: rest =>
    let (value, rest) ← item rest
    pure ((key, value), rest)
  | _ => none

/-- Fields up to the closing brace, at least one and at most `bound` of them. -/
def fields (item : Scan Json) : Nat → Scan (List (String × Json))
  | 0, _ => none
  | bound + 1, cs => do
    let (x, rest) ← field item cs
    match skipBlanks rest with
    | ',' :: rest =>
      let (xs, rest) ← fields item bound rest
      pure (x :: xs, rest)
    | '\x7d' :: rest => pure ([x], rest)
    | _ => none

/-- A value that is no container, after blanks. -/
def scalar (cs : List Char) : Option (Json × List Char) :=
  match cs with
  | 'n' :: 'u' :: 'l' :: 'l' :: rest => some (.null, rest)
  | 't' :: 'r' :: 'u' :: 'e' :: rest => some (.bool true, rest)
  | 'f' :: 'a' :: 'l' :: 's' :: 'e' :: rest => some (.bool false, rest)
  | '"' :: rest => (stringBody rest).map fun (cs, rest) => (.str (String.ofList cs), rest)
  | cs => (number cs).map fun (n, rest) => (.num n, rest)

/-- A value inside which at most `depth` containers may be nested. -/
def value : Nat → Scan Json
  | 0, cs => scalar (skipBlanks cs)
  | depth + 1, cs =>
    match skipBlanks cs with
    | '[' :: rest =>
      match skipBlanks rest with
      | ']' :: rest => some (.arr [], rest)
      | rest => (items (value depth) rest.length rest).map fun (xs, rest) => (.arr xs, rest)
    | '\x7b' :: rest =>
      match skipBlanks rest with
      | '\x7d' :: rest => some (.obj [], rest)
      | rest =>
        (fields (value depth) rest.length rest).map fun (pairs, rest) => (.obj (Fields.ofPairs pairs), rest)
    | cs => scalar cs

/-- How many containers may be nested. -/
def depthLimit : Nat := 127

/-- Reads a whole text that holds one value and blanks around it. -/
def readChars? (cs : List Char) : Option Json :=
  match value depthLimit cs with
  | some (v, rest) => if (skipBlanks rest).isEmpty then some v else none
  | none => none

def read? (text : String) : Option Json := readChars? text.toList

end Json

end SassRenderLint
