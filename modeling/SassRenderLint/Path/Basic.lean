/-
Module: SassRenderLint.Path.Basic
Layer: Path
Purpose: Paths as they are written, and their components. Two paths are the same place when their
  components agree: repeated and trailing slashes and inner `.` segments do not count, a leading `.`
  does, and `..` is kept. Joining and taking the parent work on the written form.
Main exports: Path, Path.components, Path.join, Path.parent?, Path.ancestors, Path.fileName?,
  Path.extension?
-/
import SassRenderLint.Text.Utf8

namespace SassRenderLint

/-- A path as it is written. -/
structure Path where
  glyphs : List Glyph
deriving DecidableEq, Repr, Inhabited

/-- A step of a path. -/
inductive Component where
  | root
  | current
  | parent
  | name (glyphs : List Glyph)
deriving DecidableEq, Repr, Inhabited

namespace Path

/-- The separator of segments. -/
def slash : Glyph := .char '/'

/-- The mark before an extension. -/
def dot : Glyph := .char '.'

def ofString (s : String) : Path := ⟨s.toList.map .char⟩

def ofBytes (bytes : List UInt8) : Path := ⟨Glyph.ofBytes bytes⟩

def shown (p : Path) : String := String.ofList (p.glyphs.map Glyph.shown)

def isAbsolute (p : Path) : Bool := p.glyphs.head? = some slash

/-- The pieces between slashes, at least one. -/
def segments : List Glyph → List (List Glyph)
  | [] => [[]]
  | g :: rest =>
    if g = slash then [] :: segments rest
    else
      match segments rest with
      | [] => [[g]]
      | first :: more => (g :: first) :: more

/-- The component of a segment after the first. Empty ones and `.` are none. -/
def component? (segment : List Glyph) : Option Component :=
  if segment = [] ∨ segment = [dot] then none
  else if segment = [dot, dot] then some .parent
  else some (.name segment)

def components (p : Path) : List Component :=
  if p.isAbsolute then .root :: (segments p.glyphs).filterMap component?
  else
    match segments p.glyphs with
    | [] => []
    | first :: rest =>
      if first = [dot] then .current :: rest.filterMap component?
      else (first :: rest).filterMap component?

/-- Whether two paths are the same place. -/
def samePlace (p q : Path) : Bool := p.components = q.components

/-- Puts `q` below `p`. An absolute `q` stands for itself. -/
def join (p q : Path) : Path :=
  if q.isAbsolute then q
  else if p.glyphs = [] ∨ p.glyphs.getLast? = some slash then ⟨p.glyphs ++ q.glyphs⟩
  else ⟨p.glyphs ++ slash :: q.glyphs⟩

/-- The path with text written after it. -/
def append (p : Path) (text : String) : Path := ⟨p.glyphs ++ text.toList.map .char⟩

/-- Splits off the last segment of reversed glyphs: the segment, reversed, and what is before its
    slash, if there is one. -/
def splitLast (reversed : List Glyph) : List Glyph × Option (List Glyph) :=
  let segment := reversed.takeWhile (· ≠ slash)
  match reversed.dropWhile (· ≠ slash) with
  | [] => (segment, none)
  | _ :: before => (segment, some before)

/-- Whether a segment is a component when it is not the first one. -/
def counts (segment : List Glyph) : Bool := (component? segment).isSome

/-- Drops segments that are no component from the end of the reversed rest of a path whose first
    `fixed` glyphs are not touched. Each step drops at least one glyph, so `bound` is their number. -/
def trimEnd : Nat → Nat → List Glyph → List Glyph
  | 0, _, reversed => reversed
  | bound + 1, fixed, reversed =>
    if reversed.length ≤ fixed then reversed
    else
      let body := reversed.take (reversed.length - fixed)
      let (segment, before) := splitLast body
      if counts segment then reversed
      else
        match before with
        | none => reversed.drop segment.length
        | some _ => trimEnd bound fixed (reversed.drop (segment.length + 1))

/-- How many glyphs in front stand for the root or a leading `.`. -/
def fixedLength (p : Path) : Nat :=
  if p.isAbsolute then 1
  else if (segments p.glyphs).head? = some [dot] then 1
  else 0

/-- The path without its last component, or nothing for the root and the empty path. -/
def parent? (p : Path) : Option Path :=
  let fixed := p.fixedLength
  let trimmed := trimEnd p.glyphs.length fixed p.glyphs.reverse
  if trimmed.length ≤ fixed then
    if p.isAbsolute ∨ p.glyphs = [] then none else some ⟨[]⟩
  else
    let body := trimmed.take (trimmed.length - fixed)
    let (segment, before) := splitLast body
    let rest := trimmed.drop (segment.length + (if before.isSome then 1 else 0))
    some ⟨(trimEnd p.glyphs.length fixed rest).reverse⟩

/-- The path and those above it, nearest first. Each parent is shorter, so `bound` is the length. -/
def ancestorsWithin : Nat → Path → List Path
  | 0, p => [p]
  | bound + 1, p =>
    match p.parent? with
    | none => [p]
    | some q => p :: ancestorsWithin bound q

/-- The path and those above it, nearest first. -/
def ancestors (p : Path) : List Path := ancestorsWithin p.glyphs.length p

/-- The last component, if it is a name. -/
def fileName? (p : Path) : Option (List Glyph) :=
  match p.components.getLast? with
  | some (.name glyphs) => some glyphs
  | _ => none

/-- What follows the last dot of a name, unless that dot comes first or there is none. -/
def extensionOf? (name : List Glyph) : Option (List Glyph) :=
  let after := name.reverse.takeWhile (· ≠ dot)
  match name.reverse.dropWhile (· ≠ dot) with
  | [] => none
  | [_] => none
  | _ :: _ :: _ => some after.reverse

/-- The extension of the last component. -/
def extension? (p : Path) : Option (List Glyph) := p.fileName?.bind extensionOf?

def hasExtension (p : Path) (text : String) : Bool := p.extension? = some (text.toList.map .char)

end Path

end SassRenderLint
