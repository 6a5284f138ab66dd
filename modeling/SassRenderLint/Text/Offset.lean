/-
Module: SassRenderLint.Text.Offset
Layer: Text
Purpose: Byte offsets into a document and the positions they stand for. A position's offset is found
  by passing the lines before it and then as many characters as its column says, to the end of the
  document at most. An offset's position counts the line ends before it and the characters since the
  last of them.
Program names: offsetOf? is byte_offset, positionAt is position_at, locateWord? is locate_word.
Main exports: Text.offsetOf?, Text.positionAt, Text.find?, Text.locateWord?
-/
import SassRenderLint.Text.Position
import SassRenderLint.Text.Utf8

namespace SassRenderLint

namespace Text

/-- Passes one line and its end: the bytes passed, and what is left. Nothing when no line end comes. -/
def passLine : List Char → Option (Nat × List Char)
  | [] => none
  | c :: rest =>
    if c = '\n' then some (c.utf8Size, rest)
    else (passLine rest).map fun (bytes, left) => (c.utf8Size + bytes, left)

/-- Passes `n` lines. -/
def passLines : Nat → List Char → Option (Nat × List Char)
  | 0, cs => some (0, cs)
  | n + 1, cs =>
    match passLine cs with
    | none => none
    | some (bytes, left) => (passLines n left).map fun (more, left) => (bytes + more, left)

/-- The byte offset of a position. Nothing when the document has no such line. A column past the end
    of its line counts on into the lines after it. -/
def offsetOf? (document : List Char) (p : Position) : Option Nat :=
  if p.line = 0 then none
  else
    (passLines (p.line.toNat - 1) document).map fun (start, left) =>
      start + byteLength (left.take (p.column.toNat - 1))

/-- The longest beginning of a document that has at most so many bytes. -/
def takeBytes : Nat → List Char → List Char
  | _, [] => []
  | bytes, c :: rest => if c.utf8Size ≤ bytes then c :: takeBytes (bytes - c.utf8Size) rest else []

/-- What is left of a document after that beginning. -/
def dropBytes : Nat → List Char → List Char
  | _, [] => []
  | bytes, c :: rest => if c.utf8Size ≤ bytes then dropBytes (bytes - c.utf8Size) rest else c :: rest

/-- The position right after some characters. -/
def positionAfter (before : List Char) : Position where
  line := clampUInt32 (before.count '\n' + 1)
  column := clampUInt32 ((before.reverse.takeWhile (· ≠ '\n')).length + 1)

/-- The position of a byte offset. -/
def positionAt (document : List Char) (offset : Nat) : Position := positionAfter (takeBytes offset document)

/-- The byte offset of the first place where a word occurs. -/
def find? (word : List Char) : List Char → Option Nat
  | [] => if word.isEmpty then some 0 else none
  | c :: rest =>
    if word.isPrefixOf (c :: rest) then some 0 else (find? word rest).map (c.utf8Size + ·)

/-- The byte offset at which a word first occurs at or after an offset. -/
def findFrom? (document word : List Char) (start : Nat) : Option Nat :=
  (find? word (dropBytes start document)).map (start + ·)

/-- Where a word starts and ends that is looked for from a position on. An empty word is nowhere. -/
def locateWord? (document word : List Char) (start : Position) : Option (Position × Position) :=
  if word.isEmpty then none
  else do
    let start ← offsetOf? document start
    let found ← findFrom? document word start
    pure (positionAt document found, positionAt document (found + byteLength word))

end Text

end SassRenderLint
