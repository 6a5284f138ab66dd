/-
Module: SassRenderLint.Text.Quoted
Layer: Text
Purpose: Text in quotes, as it is shown in messages: quotes and backslashes are escaped, control
  characters have short names or are given by their code point.
Main exports: Text.quoted
-/
import SassRenderLint.Text.Printable

namespace SassRenderLint

namespace Text

/-- A code point in hexadecimal, between braces. -/
def codePointEscape (c : Char) : List Char :=
  '\\' :: 'u' :: '\x7b' :: Nat.toDigits 16 c.toNat ++ ['\x7d']

def quotedChar (c : Char) : List Char :=
  if c = '\x00' then ['\\', '0']
  else if c = '\t' then ['\\', 't']
  else if c = '\x0d' then ['\\', 'r']
  else if c = '\n' then ['\\', 'n']
  else if c = '"' then ['\\', '"']
  else if c = '\\' then ['\\', '\\']
  else if isGraphemeExtender c || !isPrintable c then codePointEscape c
  else [c]

def quoted (s : String) : String := String.ofList ('"' :: s.toList.flatMap quotedChar ++ ['"'])

end Text

end SassRenderLint
