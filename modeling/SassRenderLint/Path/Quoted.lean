/-
Module: SassRenderLint.Path.Quoted
Layer: Path
Purpose: A path in quotes. Besides what is escaped in any quoted text, single quotes are, and bytes that
  are no text are given in hexadecimal.
Main exports: Path.quoted
-/
import SassRenderLint.Path.Basic
import SassRenderLint.Text.Quoted

namespace SassRenderLint

namespace Path

/-- A hexadecimal digit, a capital one if it is a letter. -/
def capitalHexDigit (n : Nat) : Char := (Nat.digitChar n).toUpper

/-- A byte in two hexadecimal digits. -/
def byteEscape (b : UInt8) : List Char :=
  ['\\', 'x', capitalHexDigit (b.toNat / 16), capitalHexDigit (b.toNat % 16)]

def quotedGlyph : Glyph → List Char
  | .char c => if c = '\'' then ['\\', '\''] else Text.quotedChar c
  | .stray bytes => bytes.flatMap byteEscape

def quoted (p : Path) : String := String.ofList ('"' :: p.glyphs.flatMap quotedGlyph ++ ['"'])

end Path

end SassRenderLint
