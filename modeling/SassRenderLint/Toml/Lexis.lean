/-
Module: SassRenderLint.Toml.Lexis
Layer: Toml
Purpose: The small parts of TOML text: blanks, comments and line ends, the four kinds of strings, and
  keys. Loops that do not go one character at a time carry a bound on their steps, which callers set
  to the number of characters left.
Main exports: Toml.lineEnd, Toml.gap, Toml.string, Toml.key
-/
import SassRenderLint.Text.Scan

namespace SassRenderLint

namespace Toml

open Scan

/-- Blanks inside a line. -/
def isBlank (c : Char) : Bool := c = ' ' || c = '\t'

def skipBlanks (cs : List Char) : List Char := cs.dropWhile isBlank

/-- Characters that may stand in comments and strings: no control characters but the tab. -/
def isPlain (c : Char) : Bool := c = '\t' || (0x20 ≤ c.toNat && c.toNat ≠ 0x7F)

/-- A line end in front: a line feed, or a carriage return and a line feed. -/
def newline? : List Char → Option (List Char)
  | '\n' :: rest => some rest
  | '\x0d' :: '\n' :: rest => some rest
  | _ => none

def skipComment : List Char → List Char
  | '#' :: rest => rest.dropWhile isPlain
  | cs => cs

/-- The end of a statement: blanks, perhaps a comment, and a line end or the end of the text. -/
def lineEnd (cs : List Char) : Option (List Char) :=
  match skipComment (skipBlanks cs) with
  | [] => some []
  | cs => newline? cs

/-- Drops blanks, comments and line ends, at most `bound` of them. -/
def gapWithin : Nat → List Char → Option (List Char)
  | 0, cs => some cs
  | bound + 1, cs =>
    match skipBlanks cs with
    | '#' :: rest =>
      match rest.dropWhile isPlain with
      | [] => some []
      | rest => (newline? rest).bind (gapWithin bound)
    | cs =>
      match newline? cs with
      | some rest => gapWithin bound rest
      | none => some cs

/-- Drops blanks, comments and line ends. Nothing when a comment does not end with its line. -/
def gap (cs : List Char) : Option (List Char) := gapWithin cs.length cs

/-- The character with a code point. Nothing for surrogates and numbers beyond the last code point. -/
def scalar? (n : Nat) : Option Char := if n.isValidChar then some (Char.ofNat n) else none

def hexNumber? (digits : List Char) : Option Nat :=
  digits.foldl (fun n c => do pure ((← n) * 16 + (← hexValue? c))) (some 0)

/-- An escape after its backslash. -/
def escape : Scan Char
  | 'b' :: rest => some ('\x08', rest)
  | 't' :: rest => some ('\t', rest)
  | 'n' :: rest => some ('\n', rest)
  | 'f' :: rest => some ('\x0c', rest)
  | 'r' :: rest => some ('\x0d', rest)
  | '"' :: rest => some ('"', rest)
  | '\\' :: rest => some ('\\', rest)
  | 'u' :: a :: b :: c :: d :: rest => do pure (← scalar? (← hexNumber? [a, b, c, d]), rest)
  | 'U' :: a :: b :: c :: d :: e :: f :: g :: h :: rest => do
    pure (← scalar? (← hexNumber? [a, b, c, d, e, f, g, h]), rest)
  | _ => none

/-- A string with escapes, after its opening quote. -/
def basicBody : Nat → Scan (List Char)
  | 0, _ => none
  | _ + 1, [] => none
  | _ + 1, '"' :: rest => some ([], rest)
  | bound + 1, '\\' :: rest => do
    let (c, rest) ← escape rest
    prepend c (basicBody bound rest)
  | bound + 1, c :: rest => if isPlain c then prepend c (basicBody bound rest) else none

/-- A string without escapes, after its opening quote. -/
def literalBody : Scan (List Char)
  | [] => none
  | '\'' :: rest => some ([], rest)
  | c :: rest => if isPlain c then prepend c (literalBody rest) else none

/-- After a backslash at the end of a line: drops blanks and line ends. -/
def skipFolded : Nat → List Char → List Char
  | 0, cs => cs
  | bound + 1, cs =>
    match newline? (skipBlanks cs) with
    | some rest => skipFolded bound rest
    | none => skipBlanks cs

/-- A string of several lines with escapes, after its opening quotes. Up to two quotes may stand before
    the closing three. -/
def longBasicBody : Nat → Scan (List Char)
  | 0, _ => none
  | _ + 1, [] => none
  | _ + 1, '"' :: '"' :: '"' :: '"' :: '"' :: rest => some (['"', '"'], rest)
  | _ + 1, '"' :: '"' :: '"' :: '"' :: rest => some (['"'], rest)
  | _ + 1, '"' :: '"' :: '"' :: rest => some ([], rest)
  | bound + 1, '\\' :: rest =>
    match escape rest with
    | some (c, rest) => prepend c (longBasicBody bound rest)
    | none =>
      match newline? (skipBlanks rest) with
      | some rest => longBasicBody bound (skipFolded bound rest)
      | none => none
  | bound + 1, '\n' :: rest => prepend '\n' (longBasicBody bound rest)
  | bound + 1, '\x0d' :: '\n' :: rest => prepend '\n' (longBasicBody bound rest)
  | bound + 1, c :: rest => if isPlain c then prepend c (longBasicBody bound rest) else none

/-- A string of several lines without escapes, after its opening quotes. -/
def longLiteralBody : Scan (List Char)
  | [] => none
  | '\'' :: '\'' :: '\'' :: '\'' :: '\'' :: rest => some (['\'', '\''], rest)
  | '\'' :: '\'' :: '\'' :: '\'' :: rest => some (['\''], rest)
  | '\'' :: '\'' :: '\'' :: rest => some ([], rest)
  | '\n' :: rest => prepend '\n' (longLiteralBody rest)
  | '\x0d' :: '\n' :: rest => prepend '\n' (longLiteralBody rest)
  | c :: rest => if isPlain c then prepend c (longLiteralBody rest) else none

/-- Drops a line end right after opening quotes. -/
def skipFirstNewline (cs : List Char) : List Char := (newline? cs).getD cs

/-- A string of one line. -/
def shortString : Scan String
  | '"' :: rest => (basicBody (rest.length + 1) rest).map fun (cs, rest) => (String.ofList cs, rest)
  | '\'' :: rest => (literalBody rest).map fun (cs, rest) => (String.ofList cs, rest)
  | _ => none

/-- A string of any kind. -/
def string : Scan String
  | '"' :: '"' :: '"' :: rest =>
    let rest := skipFirstNewline rest
    (longBasicBody (rest.length + 1) rest).map fun (cs, rest) => (String.ofList cs, rest)
  | '\'' :: '\'' :: '\'' :: rest =>
    (longLiteralBody (skipFirstNewline rest)).map fun (cs, rest) => (String.ofList cs, rest)
  | cs => shortString cs

/-- Characters of a key without quotes. -/
def isBare (c : Char) : Bool := c.isAlphanum || c = '_' || c = '-'

def keyPart : Scan String := fun cs =>
  match cs with
  | '"' :: _ => shortString cs
  | '\'' :: _ => shortString cs
  | cs =>
    let bare := cs.takeWhile isBare
    if bare.isEmpty then none else some (String.ofList bare, cs.dropWhile isBare)

/-- The parts of a key, at most `bound` of them. -/
def keyWithin : Nat → Scan (List String)
  | 0, _ => none
  | bound + 1, cs => do
    let (part, rest) ← keyPart (skipBlanks cs)
    match skipBlanks rest with
    | '.' :: rest =>
      let (parts, rest) ← keyWithin bound rest
      pure (part :: parts, rest)
    | rest => pure ([part], rest)

/-- How deep keys and values may be nested. -/
def depthLimit : Nat := 79

/-- A key of one or more parts, and the blanks around them. -/
def key : Scan (List String) := keyWithin depthLimit

end Toml

end SassRenderLint
