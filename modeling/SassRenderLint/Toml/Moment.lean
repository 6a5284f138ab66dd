/-
Module: SassRenderLint.Toml.Moment
Layer: Toml
Purpose: Dates and times in TOML text, and their normal form: the letter between date and time is a
  capital one, fractions of a second have at most nine digits and no zeros at the end.
Main exports: Toml.Moment, Toml.moment, Toml.Moment.shown
-/
import SassRenderLint.Text.Scan

namespace SassRenderLint

namespace Toml

open Scan

structure Day where
  year : Nat
  month : Nat
  day : Nat
deriving DecidableEq, Repr, Inhabited

structure Clock where
  hour : Nat
  minute : Nat
  second : Nat
  nanosecond : Nat
deriving DecidableEq, Repr, Inhabited

/-- A distance from universal time. -/
inductive Offset where
  | utc
  | minutes (ahead : Int)
deriving DecidableEq, Repr, Inhabited

/-- A day, a time, or both, perhaps with an offset. -/
inductive Moment where
  | day (day : Day)
  | clock (clock : Clock)
  | both (day : Day) (clock : Clock) (offset : Option Offset)
deriving DecidableEq, Repr, Inhabited

/-- A number of `n` digits. -/
def fixedDigits (n : Nat) : Scan Nat := fun cs =>
  let digits := cs.take n
  if digits.length = n ∧ digits.all Char.isDigit then some (natOfDigits digits, cs.drop n) else none

/-- A number of two digits that is at most `greatest`. -/
def twoDigits (greatest : Nat) : Scan Nat := fun cs => do
  let (n, rest) ← fixedDigits 2 cs
  if n ≤ greatest then some (n, rest) else none

/-- A given character. -/
def mark (c : Char) : List Char → Option (List Char)
  | [] => none
  | d :: rest => if d = c then some rest else none

/-- The last day of a month. -/
def lastDay (year month : Nat) : Nat :=
  if month = 2 then
    if year % 4 = 0 ∧ (year % 100 ≠ 0 ∨ year % 400 = 0) then 29 else 28
  else if month ∈ [4, 6, 9, 11] then 30
  else 31

def day : Scan Day := fun cs => do
  let (year, cs) ← fixedDigits 4 cs
  let cs ← mark '-' cs
  let (month, cs) ← twoDigits 12 cs
  let cs ← mark '-' cs
  let (day, cs) ← twoDigits 31 cs
  if 1 ≤ month ∧ 1 ≤ day ∧ day ≤ lastDay year month then some (⟨year, month, day⟩, cs) else none

/-- The nanoseconds that the digits after the point say. Digits past the ninth are dropped. -/
def nanoseconds (digits : List Char) : Nat :=
  let kept := digits.take 9
  natOfDigits (kept ++ List.replicate (9 - kept.length) '0')

/-- A time of day. The sixtieth second is for leap seconds. -/
def clock : Scan Clock := fun cs => do
  let (hour, cs) ← twoDigits 23 cs
  let cs ← mark ':' cs
  let (minute, cs) ← twoDigits 59 cs
  let cs ← mark ':' cs
  let (second, cs) ← twoDigits 60 cs
  match cs with
  | '.' :: rest =>
    let (digits, rest) ← digits1 rest
    pure (⟨hour, minute, second, nanoseconds digits⟩, rest)
  | cs => pure (⟨hour, minute, second, 0⟩, cs)

/-- Hours and minutes of an offset. -/
def offsetMinutes : Scan Nat := fun cs => do
  let (hours, cs) ← twoDigits 23 cs
  let cs ← mark ':' cs
  let (minutes, cs) ← twoDigits 59 cs
  pure (hours * 60 + minutes, cs)

/-- An offset, if one is there. -/
def offset : Scan (Option Offset)
  | 'Z' :: rest => some (some .utc, rest)
  | 'z' :: rest => some (some .utc, rest)
  | '+' :: rest => (offsetMinutes rest).map fun (n, rest) => (some (.minutes n), rest)
  | '-' :: rest => (offsetMinutes rest).map fun (n, rest) => (some (.minutes (-(n : Int))), rest)
  | cs => some (none, cs)

/-- Whether a character may stand between a day and a time. -/
def isDivider (c : Char) : Bool := c = 'T' || c = 't' || c = ' '

/-- A day with a time after it, if one is there. -/
def dayAndClock : Scan Moment := fun cs => do
  let (d, cs) ← day cs
  match cs with
  | divider :: rest =>
    match (if isDivider divider then clock rest else none) with
    | some (c, rest) =>
      let (o, rest) ← offset rest
      pure (.both d c o, rest)
    | none => pure (.day d, cs)
  | [] => pure (.day d, [])

/-- A date or a time. -/
def moment : Scan Moment := fun cs =>
  match dayAndClock cs with
  | some result => some result
  | none => (clock cs).map fun (c, rest) => (.clock c, rest)

def padded (width n : Nat) : List Char :=
  let digits := Nat.toDigits 10 n
  List.replicate (width - digits.length) '0' ++ digits

def Day.shown (d : Day) : List Char := padded 4 d.year ++ '-' :: padded 2 d.month ++ '-' :: padded 2 d.day

def Clock.shown (c : Clock) : List Char :=
  padded 2 c.hour ++ ':' :: padded 2 c.minute ++ ':' :: padded 2 c.second
    ++ if c.nanosecond = 0 then []
      else '.' :: ((padded 9 c.nanosecond).reverse.dropWhile (· = '0')).reverse

def Offset.shown : Offset → List Char
  | .utc => ['Z']
  | .minutes ahead =>
    (if ahead < 0 then '-' else '+') :: padded 2 (ahead.natAbs / 60) ++ ':' :: padded 2 (ahead.natAbs % 60)

/-- The normal form. -/
def Moment.shown : Moment → String
  | .day d => String.ofList d.shown
  | .clock c => String.ofList c.shown
  | .both d c none => String.ofList (d.shown ++ 'T' :: c.shown)
  | .both d c (some o) => String.ofList (d.shown ++ 'T' :: c.shown ++ o.shown)

end Toml

end SassRenderLint
