/-
Module: SassRenderLint.Rule.Target
Layer: Rule
Purpose: What is linted: a file, or text from standard input. Style files are told by their extension.
Program names: Target is TargetFile, stdinName is STDIN_SENTINEL, styleExtensions is
  STYLE_FILE_EXTENSIONS, isStyleFile is is_style_file, hasStyleExtension is has_style_extension.
Main exports: Target, Target.parse, Target.identifier, Target.isStyleFile
-/
import SassRenderLint.Path.Basic

namespace SassRenderLint

inductive Target where
  | stdin
  | path (path : Path)
deriving DecidableEq, Repr, Inhabited

namespace Target

/-- The name that stands for standard input. -/
def stdinName : String := "stdin"

def styleExtensions : List String := [".scss", ".sass", ".css"]

/-- An identifier names a file unless it is empty or names standard input. -/
def parse (identifier : String) : Target :=
  if identifier = "" ∨ identifier = stdinName then .stdin else .path (.ofString identifier)

def ofPath? : Option Path → Target
  | none => .stdin
  | some p => .path p

def path? : Target → Option Path
  | .stdin => none
  | .path p => some p

/-- The name under which results are reported. -/
def identifier : Target → String
  | .stdin => stdinName
  | .path p => p.shown

/-- Whether a path ends in an extension of style files. -/
def hasStyleExtension (p : Path) : Bool :=
  styleExtensions.any fun extension => p.hasExtension (String.ofList (extension.toList.drop 1))

/-- Whether the target is a file that the compiler reads itself. -/
def isStyleFile : Target → Bool
  | .stdin => false
  | .path p => hasStyleExtension p

/-- Whether two targets are the same. Paths are compared by their components. -/
def same : Target → Target → Bool
  | .stdin, .stdin => true
  | .path p, .path q => p.samePlace q
  | _, _ => false

end Target

end SassRenderLint
