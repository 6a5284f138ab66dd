/-
Module: SassRenderLint.Json.Writer
Layer: Json
Purpose: The two written forms of a JSON value. The compact form has no blanks; the indented form
  puts every item on a line of its own, two blanks deeper than its container. Both write fields in
  the order they stand in.
Main exports: Json.compact, Json.indented
-/
import SassRenderLint.Json.Basic
import SassRenderLint.Number.Shortest

namespace SassRenderLint

namespace Json

/-- The lower-case hexadecimal digit of a number below sixteen. -/
def hexDigit (n : Nat) : Char := Nat.digitChar n

/-- A character inside a string: quotes, backslashes and control characters are escaped, all else
    stands for itself. -/
def escapeChar (c : Char) : List Char :=
  if c = '"' then ['\\', '"']
  else if c = '\\' then ['\\', '\\']
  else if c = '\x08' then ['\\', 'b']
  else if c = '\x0c' then ['\\', 'f']
  else if c = '\n' then ['\\', 'n']
  else if c = '\x0d' then ['\\', 'r']
  else if c = '\t' then ['\\', 't']
  else if c.toNat < 0x20 then ['\\', 'u', '0', '0', hexDigit (c.toNat / 16), hexDigit (c.toNat % 16)]
  else [c]

/-- A string in quotes. -/
def quoteChars (s : String) : List Char := '"' :: s.toList.flatMap escapeChar ++ ['"']

/-- The digits of an integer, after a minus sign if it is negative. -/
def intChars (i : Int) : List Char :=
  if i < 0 then '-' :: Nat.toDigits 10 i.natAbs else Nat.toDigits 10 i.natAbs

def numberChars : JsonNumber → List Char
  | .int i => intChars i
  | .float x => x.jsonText.toList

mutual

/-- The compact form. -/
def compactChars : Json → List Char
  | .null => ['n', 'u', 'l', 'l']
  | .bool true => ['t', 'r', 'u', 'e']
  | .bool false => ['f', 'a', 'l', 's', 'e']
  | .num n => numberChars n
  | .str s => quoteChars s
  | .arr [] => ['[', ']']
  | .arr (x :: xs) => '[' :: compactChars x ++ compactItems xs
  | .obj [] => ['\x7b', '\x7d']
  | .obj ((k, v) :: fields) => '\x7b' :: quoteChars k ++ ':' :: compactChars v ++ compactFields fields

/-- The items after the first, and the closing bracket. -/
def compactItems : List Json → List Char
  | [] => [']']
  | x :: xs => ',' :: compactChars x ++ compactItems xs

/-- The fields after the first, and the closing brace. -/
def compactFields : List (String × Json) → List Char
  | [] => ['\x7d']
  | (k, v) :: fields => ',' :: quoteChars k ++ ':' :: compactChars v ++ compactFields fields

end

def compact (v : Json) : String := String.ofList v.compactChars

/-- A line end and the blanks of nesting depth `depth`. -/
def newline (depth : Nat) : List Char := '\n' :: List.replicate (2 * depth) ' '

mutual

/-- The indented form at a nesting depth. -/
def indentedChars (depth : Nat) : Json → List Char
  | .null => ['n', 'u', 'l', 'l']
  | .bool true => ['t', 'r', 'u', 'e']
  | .bool false => ['f', 'a', 'l', 's', 'e']
  | .num n => numberChars n
  | .str s => quoteChars s
  | .arr [] => ['[', ']']
  | .arr (x :: xs) =>
    '[' :: newline (depth + 1) ++ indentedChars (depth + 1) x ++ indentedItems depth xs
  | .obj [] => ['\x7b', '\x7d']
  | .obj ((k, v) :: fields) =>
    '\x7b' :: newline (depth + 1) ++ quoteChars k ++ ':' :: ' ' :: indentedChars (depth + 1) v
      ++ indentedFields depth fields

/-- The items after the first, and the closing bracket on its own line. -/
def indentedItems (depth : Nat) : List Json → List Char
  | [] => newline depth ++ [']']
  | x :: xs => ',' :: newline (depth + 1) ++ indentedChars (depth + 1) x ++ indentedItems depth xs

/-- The fields after the first, and the closing brace on its own line. -/
def indentedFields (depth : Nat) : List (String × Json) → List Char
  | [] => newline depth ++ ['\x7d']
  | (k, v) :: fields =>
    ',' :: newline (depth + 1) ++ quoteChars k ++ ':' :: ' ' :: indentedChars (depth + 1) v
      ++ indentedFields depth fields

end

def indented (v : Json) : String := String.ofList (v.indentedChars 0)

end Json

end SassRenderLint
