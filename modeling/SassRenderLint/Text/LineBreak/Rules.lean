/-
Module: SassRenderLint.Text.LineBreak.Rules
Layer: Text
Purpose: Where a line may be broken. The text is read once from left to right; what the rules need to
  know of the characters before is the class of the last one, the class before a run of blanks, and
  three small facts. Combining marks take the class of the character they combine with.
Main exports: LineBreak.opportunities
-/
import SassRenderLint.Text.LineBreak.Class
import SassRenderLint.Text.Width

namespace SassRenderLint

namespace LineBreak

open LineBreakClass

/-- What is known of the characters before. -/
structure Context where
  /-- The class of the last character, marks taken with their base. -/
  last : LineBreakClass
  /-- The class before the blanks, if the last characters are blanks, otherwise that of the last one. -/
  base : LineBreakClass
  /-- Whether the last character joins with the next one whatever it is. -/
  joined : Bool
  /-- Whether the last character is a hyphen after a Hebrew letter. -/
  hebrewHyphen : Bool
  /-- Whether an odd number of regional indicators comes last. -/
  oddRegional : Bool
deriving DecidableEq, Repr, Inhabited

/-- Classes that end a line. -/
def endsLine (c : LineBreakClass) : Bool := c ∈ [mandatory, carriageReturn, lineFeed, nextLine]

/-- Marks, which combine with what is before them. -/
def isMark (c : LineBreakClass) : Bool := c ∈ [combining, zeroWidthJoiner]

/-- Classes that marks do not combine with. -/
def standsAlone (c : LineBreakClass) : Bool := endsLine c || c ∈ [blank, zeroWidthBlank]

def isLetter (c : LineBreakClass) : Bool := c ∈ [alphabetic, hebrew]

/-- Ideographs and emoji. -/
def isIdeograph (c : LineBreakClass) : Bool := c ∈ [ideographic, emojiBase, emojiModifier]

/-- Parts of Hangul syllables. -/
def isHangul (c : LineBreakClass) : Bool :=
  c ∈ [leadingJamo, vowelJamo, trailingJamo, hangulPair, hangulTriple]

/-- Pairs of which the second never starts a line after the first, numbers and units first, then
    letters, syllables and brackets. `narrow` says that the second character is not wide. -/
def sticks (a b : LineBreakClass) (narrow : Bool) : Bool :=
  (a = slash && b = hebrew)
    || b = inseparable
    || (isLetter a && b = numeric) || (a = numeric && isLetter b)
    || (a = unitBefore && isIdeograph b) || (isIdeograph a && b = unitAfter)
    || (a ∈ [unitBefore, unitAfter] && isLetter b) || (isLetter a && b ∈ [unitBefore, unitAfter])
    || (a ∈ [closing, closingParen, numeric] && b ∈ [unitAfter, unitBefore])
    || (a ∈ [unitAfter, unitBefore] && b ∈ [opening, numeric])
    || (a ∈ [hyphen, separator, numeric, slash] && b = numeric)
    || (a = leadingJamo && b ∈ [leadingJamo, vowelJamo, hangulPair, hangulTriple])
    || (a ∈ [vowelJamo, hangulPair] && b ∈ [vowelJamo, trailingJamo])
    || (a ∈ [trailingJamo, hangulTriple] && b = trailingJamo)
    || (isHangul a && b = unitAfter) || (a = unitBefore && isHangul b)
    || (isLetter a && isLetter b)
    || (a = separator && isLetter b)
    || ((isLetter a || a = numeric) && b = opening && narrow)
    || (a = closingParen && (isLetter b || b = numeric))
    || (a = emojiBase && b = emojiModifier)

/-- Whether a line may be broken between what is known and a character of class `b`. -/
def mayBreak (k : Context) (b : LineBreakClass) (narrow : Bool) : Bool :=
  if k.last = carriageReturn then b ≠ lineFeed
  else if endsLine k.last then true
  else if endsLine b || b ∈ [blank, zeroWidthBlank] then false
  else if k.base = zeroWidthBlank then true
  else if k.joined then false
  else if isMark b && !standsAlone k.last then false
  else
    let b := if isMark b then alphabetic else b
    if b = wordJoiner || k.last = wordJoiner || k.last = glue then false
    else if b = glue && !(k.last ∈ [blank, breakAfter, hyphen]) then false
    else if b ∈ [closing, closingParen, exclamation, separator, slash] then false
    else if k.base = opening then false
    else if k.base = quotation && b = opening then false
    else if k.base ∈ [closing, closingParen] && b = nonstarter then false
    else if k.base = breakBoth && b = breakBoth then false
    else if k.last = blank then true
    else if b = quotation || k.last = quotation then false
    else if b = contingent || k.last = contingent then true
    else if b ∈ [breakAfter, hyphen, nonstarter] || k.last = breakBefore then false
    else if k.hebrewHyphen then false
    else if k.last = regional && b = regional then !k.oddRegional
    else !sticks k.last b narrow

/-- What is known after a character of class `b`. -/
def advance (k : Context) (b : LineBreakClass) : Context :=
  if isMark b && !standsAlone k.last then { k with joined := b = zeroWidthJoiner }
  else
    let cls := if isMark b then alphabetic else b
    { last := cls
      base := if cls = blank then k.base else cls
      joined := b = zeroWidthJoiner
      hebrewHyphen := k.last = hebrew && cls ∈ [hyphen, breakAfter]
      oddRegional := cls = regional && !(k.last = regional && k.oddRegional) }

/-- What is known after the first character. -/
def begin (b : LineBreakClass) : Context :=
  let cls := if isMark b then alphabetic else b
  { last := cls, base := cls, joined := b = zeroWidthJoiner, hebrewHyphen := false, oddRegional := cls = regional }

/-- Each further character with whether a line may be broken before it. -/
def scan (k : Context) : List Char → List (Bool × Char)
  | [] => []
  | c :: rest =>
    let cls := ofChar c
    (mayBreak k cls (!Text.isWide c), c) :: scan (advance k cls) rest

/-- Each character with whether a line may be broken before it. -/
def opportunities : List Char → List (Bool × Char)
  | [] => []
  | c :: rest => (false, c) :: scan (begin (ofChar c)) rest

end LineBreak

end SassRenderLint
