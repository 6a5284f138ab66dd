/-
Module: SassRenderLint.Toml.Value
Layer: Toml
Purpose: The values of TOML text, as JSON. Numbers that are not finite become `null`, and a date or time
  becomes an object that holds its normal form.
Main exports: Toml.number, Toml.value
-/
import SassRenderLint.Toml.Lexis
import SassRenderLint.Toml.Moment
import SassRenderLint.Toml.Table

namespace SassRenderLint

namespace Toml

open Scan

/-- Digits of a class, each underscore between two of them; the digits come without underscores. -/
def grouped (isDigit : Char → Bool) : Scan (List Char)
  | [] => none
  | c :: rest =>
    if isDigit c then
      match rest with
      | '_' :: d :: more =>
        if isDigit d then prepend c (grouped isDigit (d :: more)) else some ([c], rest)
      | d :: more => if isDigit d then prepend c (grouped isDigit (d :: more)) else some ([c], rest)
      | [] => some ([c], [])
    else none

def natInBase (base : Nat) (digits : List Char) : Nat :=
  digits.foldl (fun n c => n * base + (hexValue? c).getD 0) 0

/-- A sign, if one is there: whether it is a minus. -/
def sign : List Char → Bool × List Char
  | '+' :: rest => (false, rest)
  | '-' :: rest => (true, rest)
  | cs => (false, cs)

/-- The digits of a decimal integer. A zero in front stands alone. -/
def wholeDigits : Scan (List Char)
  | '0' :: rest => some (['0'], rest)
  | cs => grouped Char.isDigit cs

/-- The greatest integer, and one more for the least one. -/
def integerLimit : Nat := UInt64.size / 2

/-- An integer that fits. -/
def integer? (negative : Bool) (n : Nat) : Option Json :=
  if negative then
    if n ≤ integerLimit then some (.num (.int (-(n : Int)))) else none
  else if n < integerLimit then some (.num (.int n))
  else none

/-- An integer in any of the four bases. -/
def integer : Scan Json
  | '0' :: 'x' :: rest => do
    let (digits, rest) ← grouped (fun c => (hexValue? c).isSome) rest
    pure (← integer? false (natInBase 16 digits), rest)
  | '0' :: 'o' :: rest => do
    let (digits, rest) ← grouped (fun c => '0' ≤ c ∧ c ≤ '7') rest
    pure (← integer? false (natInBase 8 digits), rest)
  | '0' :: 'b' :: rest => do
    let (digits, rest) ← grouped (fun c => c = '0' ∨ c = '1') rest
    pure (← integer? false (natInBase 2 digits), rest)
  | cs => do
    let (negative, cs) := sign cs
    let (digits, rest) ← wholeDigits cs
    pure (← integer? negative (natOfDigits digits), rest)

/-- The digits after the point, if there is one. -/
def fraction : Scan (Option (List Char))
  | '.' :: rest => (grouped Char.isDigit rest).map fun (digits, rest) => (some digits, rest)
  | cs => some (none, cs)

/-- The exponent, if there is one. -/
def exponent : Scan (Option Int) := fun cs =>
  match cs with
  | c :: rest =>
    if c = 'e' ∨ c = 'E' then do
      let (negative, rest) := sign rest
      let (digits, rest) ← grouped Char.isDigit rest
      let n : Int := natOfDigits digits
      pure (some (if negative then -n else n), rest)
    else some (none, cs)
  | [] => some (none, [])

/-- A number with a point or an exponent. One too large is refused; one too small below zero is not
    finite. -/
def float : Scan Json := fun cs => do
  let (negative, cs) := sign cs
  let (whole, cs) ← wholeDigits cs
  let (places, cs) ← fraction cs
  let (power, cs) ← exponent cs
  if places.isNone ∧ power.isNone then none
  let places := places.getD []
  let digits := natOfDigits (whole ++ places)
  match Binary64.ofDecimal? negative digits (power.getD 0 - places.length) with
  | some x => pure (.num (.float x), cs)
  | none => if negative then pure (.null, cs) else none

/-- Infinity and what is no number, after a sign or none. -/
def notFinite (cs : List Char) : Option (Json × List Char) :=
  match (sign cs).2 with
  | 'i' :: 'n' :: 'f' :: rest => some (.null, rest)
  | 'n' :: 'a' :: 'n' :: rest => some (.null, rest)
  | _ => none

/-- The key under which the normal form of a date or time stands. -/
def momentKey : String := "$__toml_private_datetime"

/-- The first of some readers that reads something. -/
def firstOf {α : Type} (readers : List (Scan α)) : Scan α := fun cs => readers.findSome? fun read => read cs

/-- A date, a time or a number. -/
def number : Scan Json :=
  firstOf [
    fun cs => (moment cs).map fun (m, rest) => (.obj [(momentKey, .str m.shown)], rest),
    float, notFinite, integer]

/-- Items of an array up to its closing bracket, at most `bound` of them. -/
def items (item : Scan Json) : Nat → Scan (List Json)
  | 0, _ => none
  | bound + 1, cs => do
    match ← gap cs with
    | ']' :: rest => pure ([], rest)
    | cs =>
      let (x, rest) ← item cs
      match ← gap rest with
      | ',' :: rest =>
        let (xs, rest) ← items item bound rest
        pure (x :: xs, rest)
      | ']' :: rest => pure ([x], rest)
      | _ => none

/-- A key and its value. -/
def pair (item : Scan Json) : Scan (List String × Json) := fun cs => do
  let (path, rest) ← key cs
  let rest ← mark '=' rest
  let (v, rest) ← item (skipBlanks rest)
  pure ((path, v), rest)

/-- Sets a key given by its parts. -/
def assignPath? (t : Table) (header path : List String) (value : Json) : Option Table := do
  let last ← path.getLast?
  t.assign? header path.dropLast last value

/-- The pairs of an inline table up to its closing brace, at least one and at most `bound` of them. -/
def pairs (item : Scan Json) (t : Table) : Nat → Scan Table
  | 0, _ => none
  | bound + 1, cs => do
    let ((path, v), rest) ← pair item cs
    let t ← assignPath? t [] path v
    match skipBlanks rest with
    | ',' :: rest => pairs item t bound rest
    | '\x7d' :: rest => pure (t, rest)
    | _ => none

/-- A value that holds no other. -/
def scalarValue : Scan Json := fun cs =>
  match cs with
  | '"' :: _ => (string cs).map fun (s, rest) => (.str s, rest)
  | '\'' :: _ => (string cs).map fun (s, rest) => (.str s, rest)
  | 't' :: 'r' :: 'u' :: 'e' :: rest => some (.bool true, rest)
  | 'f' :: 'a' :: 'l' :: 's' :: 'e' :: rest => some (.bool false, rest)
  | cs => number cs

/-- A value in which at most `depth` arrays and inline tables are nested. -/
def value : Nat → Scan Json
  | 0, cs => scalarValue cs
  | depth + 1, cs =>
    match cs with
    | '[' :: rest => (items (value depth) (rest.length + 1) rest).map fun (xs, rest) => (.arr xs, rest)
    | '\x7b' :: rest =>
      match skipBlanks rest with
      | '\x7d' :: rest => some (.obj [], rest)
      | rest =>
        (pairs (value depth) (.new .header) (rest.length + 1) rest).map fun (t, rest) => (.obj t.toFields, rest)
    | cs => scalarValue cs

end Toml

end SassRenderLint
