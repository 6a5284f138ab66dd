/-
Module: SassRenderLint.Text.Utf8
Layer: Text
Purpose: Bytes as text. Bytes that are no UTF-8 are kept, each longest run that starts a character but
  does not finish it as one piece, so nothing is lost; shown, each piece is one replacement character.
  Offsets into a text count its bytes.
Main exports: Glyph, Glyph.ofBytes, Text.ofBytes?, Text.byteLength, Text.bytes
-/

namespace SassRenderLint

/-- A character, or bytes that belong to no character. -/
inductive Glyph where
  | char (c : Char)
  | stray (bytes : List UInt8)
deriving DecidableEq, Repr, Inhabited

namespace Glyph

/-- The character that stands for bytes that are no text. -/
def replacement : Char := Char.ofNat 0xFFFD

def shown : Glyph → Char
  | .char c => c
  | .stray _ => replacement

/-- The six low bits of a continuation byte. -/
def tailBits (b : UInt8) : Nat := b.toNat % 64

/-- Whether a byte lies in a range. -/
def within (low high : UInt8) (b : UInt8) : Bool := low ≤ b && b ≤ high

/-- The bytes that may follow the first byte of a character of three or four bytes. -/
def secondRange (a : UInt8) : UInt8 × UInt8 :=
  if a = 0xE0 then (0xA0, 0xBF)
  else if a = 0xED then (0x80, 0x9F)
  else if a = 0xF0 then (0x90, 0xBF)
  else if a = 0xF4 then (0x80, 0x8F)
  else (0x80, 0xBF)

/-- Whether a byte may come second after `a`. -/
def seconds (a b : UInt8) : Bool := within (secondRange a).1 (secondRange a).2 b

/-- Whether a byte may come third or fourth. -/
def isTail (b : UInt8) : Bool := within 0x80 0xBF b

/-- The glyph that starts with `a`, and how many bytes it takes after that. -/
def first (a : UInt8) (rest : List UInt8) : Glyph × Nat :=
  if a < 0x80 then (.char (Char.ofNat a.toNat), 0)
  else if within 0xC2 0xDF a then
    match rest with
    | b :: _ =>
      if isTail b then (.char (Char.ofNat (a.toNat % 32 * 64 + tailBits b)), 1) else (.stray [a], 0)
    | [] => (.stray [a], 0)
  else if within 0xE0 0xEF a then
    match rest with
    | b :: c :: _ =>
      if seconds a b then
        if isTail c then
          (.char (Char.ofNat ((a.toNat % 16 * 64 + tailBits b) * 64 + tailBits c)), 2)
        else (.stray [a, b], 1)
      else (.stray [a], 0)
    | [b] => if seconds a b then (.stray [a, b], 1) else (.stray [a], 0)
    | [] => (.stray [a], 0)
  else if within 0xF0 0xF4 a then
    match rest with
    | b :: c :: d :: _ =>
      if seconds a b then
        if isTail c then
          if isTail d then
            (.char (Char.ofNat (((a.toNat % 8 * 64 + tailBits b) * 64 + tailBits c) * 64 + tailBits d)), 3)
          else (.stray [a, b, c], 2)
        else (.stray [a, b], 1)
      else (.stray [a], 0)
    | [b, c] =>
      if seconds a b then
        if isTail c then (.stray [a, b, c], 2) else (.stray [a, b], 1)
      else (.stray [a], 0)
    | [b] => if seconds a b then (.stray [a, b], 1) else (.stray [a], 0)
    | [] => (.stray [a], 0)
  else (.stray [a], 0)

/-- Splits bytes into glyphs, after the `skip` bytes that belong to the glyph before. -/
def ofBytesAfter : Nat → List UInt8 → List Glyph
  | _, [] => []
  | skip + 1, _ :: rest => ofBytesAfter skip rest
  | 0, a :: rest =>
    let (glyph, more) := first a rest
    glyph :: ofBytesAfter more rest

def ofBytes (bytes : List UInt8) : List Glyph := ofBytesAfter 0 bytes

/-- The characters of glyphs that are all characters. -/
def chars? : List Glyph → Option (List Char)
  | [] => some []
  | .char c :: rest => (chars? rest).map (c :: ·)
  | .stray _ :: _ => none

end Glyph

namespace Text

/-- The text that bytes encode, unless some of them encode none. -/
def ofBytes? (bytes : List UInt8) : Option String := (Glyph.chars? (Glyph.ofBytes bytes)).map String.ofList

def bytes (s : String) : List UInt8 := s.toUTF8.toList

def byteLength (cs : List Char) : Nat := cs.foldr (fun c bytes => c.utf8Size + bytes) 0

end Text

end SassRenderLint
