/-
Module: SassRenderLint.Render.CompilerOptions
Layer: Render
Purpose: What a compiler is asked to do: compile a file or a text, under options. The merged options
  address the input in exactly one way, whatever the base options say.
Program names: quietDeps is quiet_deps, file? is file, content? is content, toJson is to_value, of which
  unaddressed and toFields are the steps.
Main exports: CompileInput, CompilerOptions, CompilerOptions.toFields
-/
import SassRenderLint.Json.Basic
import SassRenderLint.Path.Basic

namespace SassRenderLint

inductive CompileInput where
  | file (path : Path)
  | content (text : String)
deriving DecidableEq, Repr, Inhabited

/-- Base options and what is compiled. -/
structure CompilerOptions where
  base : Fields
  input : CompileInput
deriving DecidableEq, Repr, Inhabited

namespace CompilerOptions

/-- Warnings of dependencies are never wanted. -/
def quietDeps (_ : CompilerOptions) : Bool := true

def file? (o : CompilerOptions) : Option Path :=
  match o.input with
  | .file path => some path
  | .content _ => none

def content? (o : CompilerOptions) : Option String :=
  match o.input with
  | .file _ => none
  | .content text => some text

/-- The base options without their own addressing. -/
def unaddressed (o : CompilerOptions) : Fields := (o.base.erase "file").erase "data"

/-- The options handed to the compiler. -/
def toFields (o : CompilerOptions) : Fields :=
  let quiet := o.unaddressed.insert "quietDeps" (.bool o.quietDeps)
  match o.input with
  | .file path => quiet.insert "file" (.str path.shown)
  | .content text => quiet.insert "data" (.str text)

/-- The options handed to the compiler, as one value. -/
def toJson (o : CompilerOptions) : Json := .obj o.toFields

end CompilerOptions

end SassRenderLint
