/-
Module: SassRenderLint.Files.Tree
Layer: Files
Purpose: Directories and files held in memory, and how paths are followed in them. A path is followed
  segment by segment: whatever comes before a slash has to be a directory, and `..` goes to the
  directory above the one that was reached.
Main exports: FileTree, FileTree.addFile, FileTree.addDirectory, FileTree.follow, FileTree.read,
  FileTree.access
-/
import SassRenderLint.Config.Files

namespace SassRenderLint

/-- What stands at a place. -/
inductive FileEntry where
  | directory
  | file (bytes : List UInt8)
deriving DecidableEq, Repr, Inhabited

/-- A place: the names from the root down. -/
abbrev Place := List (List Glyph)

/-- Directories and files, and the directory where relative paths start. The root is always there. -/
structure FileTree where
  entries : List (Place × FileEntry)
  workingDirectory : Place
deriving DecidableEq, Repr, Inhabited

/-- Why a path leads to no text. -/
inductive FileError where
  | notFound
  | notADirectory
  | isADirectory
  | notText
  | zeroInName
deriving DecidableEq, Repr, Inhabited

def FileError.message : FileError → String
  | .notFound => "No such file or directory (os error 2)"
  | .notADirectory => "Not a directory (os error 20)"
  | .isADirectory => "Is a directory (os error 21)"
  | .notText => "stream did not contain valid UTF-8"
  | .zeroInName => "file name contained an unexpected NUL byte"

namespace FileTree

def get? (t : FileTree) (place : Place) : Option FileEntry :=
  if place = [] then some .directory else (t.entries.find? fun entry => entry.1 = place).map Prod.snd

/-- Puts something at a place. -/
def put (t : FileTree) (place : Place) (entry : FileEntry) : FileTree :=
  { t with entries := (place, entry) :: t.entries.filter fun other => other.1 ≠ place }

/-- Makes a directory and those above it. -/
def addDirectory (t : FileTree) (place : Place) : FileTree :=
  (List.range (place.length + 1)).foldl
    (fun t n => if (t.get? (place.take n)).isSome then t else t.put (place.take n) .directory) t

/-- Makes a file and the directories above it. -/
def addFile (t : FileTree) (place : Place) (bytes : List UInt8) : FileTree :=
  (t.addDirectory place.dropLast).put place (.file bytes)

/-- One segment further from a place, which has to be a directory. -/
def step (t : FileTree) (place : Place) (segment : List Glyph) : Except FileError Place :=
  match t.get? place with
  | some .directory =>
    if segment = [] ∨ segment = [Path.dot] then .ok place
    else if segment = [Path.dot, Path.dot] then .ok place.dropLast
    else if (t.get? (place ++ [segment])).isSome then .ok (place ++ [segment])
    else .error .notFound
  | some (.file _) => .error .notADirectory
  | none => .error .notFound

/-- The place to which a path leads. -/
def follow (t : FileTree) (p : Path) : Except FileError Place :=
  if p.glyphs = [] then .error .notFound
  else if Glyph.char '\x00' ∈ p.glyphs then .error .zeroInName
  else (Path.segments p.glyphs).foldlM t.step (if p.isAbsolute then [] else t.workingDirectory)

def isFile (t : FileTree) (p : Path) : Bool :=
  match (t.follow p).toOption.bind t.get? with
  | some (.file _) => true
  | _ => false

/-- The text of the file to which a path leads. -/
def read (t : FileTree) (p : Path) : Except FileError String := do
  match t.get? (← t.follow p) with
  | some (.file bytes) =>
    match Text.ofBytes? bytes with
    | some text => .ok text
    | none => .error .notText
  | some .directory => .error .isADirectory
  | none => .error .notFound

def access (t : FileTree) : FileAccess where
  isFile := t.isFile
  read p := (t.read p).mapError FileError.message

end FileTree

end SassRenderLint
