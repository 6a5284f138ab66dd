/-
Module: SassRenderLint.Render.Toolchain
Layer: Render
Purpose: Compilers, and the renderers that are built around them to collect diagnostics. Building and
  rendering act on the surroundings, of type `ω`; renderers are of type `ρ`. A renderer can render
  with suspensions or without.
Program names: Compiler.identity is compiler_identity; Toolchain is DiagnosticExtractor and Renderer in
  one, with build for renderer, buildUndefined for undefined_functions_renderer, render for render and
  renderBlocking for render_sync.
Main exports: Compiler, Toolchain
-/
import SassRenderLint.Diagnostic.Basic
import SassRenderLint.Render.CompilerOptions
import SassRenderLint.Routine.Basic
import SassRenderLint.Rule.Options

namespace SassRenderLint

/-- A compiler. Compilers are told apart by their identity alone. -/
structure Compiler where
  identity : Nat
deriving DecidableEq, Repr, Inhabited

/-- What a renderer makes of its input. -/
abbrev RenderResult := Except CompileError (List Diagnostic)

/-- How renderers are built and used. -/
structure Toolchain (ω ρ : Type) where
  /-- A renderer that reports errors and deprecations. -/
  build : Compiler → ω → ρ × ω
  /-- A renderer that reports undefined functions. -/
  buildUndefined : Compiler → UndefinedFunctionsOptions → ω → ρ × ω
  /-- Renders with suspensions. -/
  render : ρ → CompilerOptions → Routine ω RenderResult
  /-- Renders at once. -/
  renderBlocking : ρ → CompilerOptions → ω → RenderResult × ω

end SassRenderLint
