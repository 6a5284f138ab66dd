/-
Module: SassRenderLint.Script.Renderers
Layer: Script
Purpose: Compilers and renderers that answer from a script. A renderer may be suspended, may call its
  compiler, and then fails or gives its diagnostics.
Main exports: Script.Performance, Script.Renderer, Script.Workshop, Script.Workshop.toolchain
-/
import SassRenderLint.Script.Stage

namespace SassRenderLint

namespace Script

/-- What a renderer is to do. -/
structure Performance where
  diagnostics : List Diagnostic
  error : Option CompileError
  suspensions : Nat
  compiles : Bool
deriving DecidableEq, Repr, Inhabited

/-- A renderer: its name, what it is to do, and its compiler. -/
structure Renderer where
  name : String
  performance : Performance
  compiler : Option Compiler
deriving DecidableEq, Repr, Inhabited

/-- What renderers are to do once they are built, and what compilers fail with. -/
structure Workshop where
  base : Performance
  undefinedFunctions : Performance
  compileError : Option CompileError
deriving DecidableEq, Repr, Inhabited

namespace Workshop

/-- The call of its compiler that a renderer makes: what it notes, and how it fails. -/
def compile (w : Workshop) (r : Renderer) (options : CompilerOptions) (s : Stage) : Option CompileError × Stage :=
  match r.compiler with
  | some compiler =>
    if r.performance.compiles then (w.compileError, s.note (.compile compiler options)) else (none, s)
  | none => (none, s)

/-- How a renderer ends. -/
def finish (w : Workshop) (r : Renderer) (options : CompilerOptions) (s : Stage) : RenderResult × Stage :=
  match w.compile r options s with
  | (some e, s) => (.error e, s)
  | (none, s) =>
    match r.performance.error with
    | some e => (.error e, s.note (.failed r.name))
    | none => (.ok r.performance.diagnostics, s.note (.succeeded r.name))

/-- Builds the next renderer. Renderers are numbered as they are built. -/
def construct (kind : String) (key : Option String) (performance : Performance) (compiler : Compiler) (s : Stage) :
    Renderer × Stage :=
  let name := kind ++ "#" ++ String.ofList (Nat.toDigits 10 s.builds)
  (⟨name, performance, some compiler⟩, { s.note (.build name key) with builds := s.builds + 1 })

/-- Renderers that answer from the script. -/
def toolchain (w : Workshop) : Toolchain Stage Renderer where
  build := construct "base" none w.base
  buildUndefined compiler options := construct "undefined" (some options.cacheKey) w.undefinedFunctions compiler
  render r options :=
    (Routine.update (Stage.note (.render r.name))).bind fun _ =>
      (suspend r.name r.performance.suspensions).bind fun _ => .modifyGet (w.finish r options)
  renderBlocking r options s := w.finish r options (s.note (.renderBlocking r.name))

end Workshop

end Script

end SassRenderLint
