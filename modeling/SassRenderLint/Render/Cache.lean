/-
Module: SassRenderLint.Render.Cache
Layer: Render
Purpose: Renderers that were built before are used again: one for each compiler, and one for each
  compiler with options for undefined functions. Each stands beside the compiler it was built for.
Program names: RendererTables is RendererCache, built makes what it calls Pinned, renderer is renderer,
  undefinedRenderer is undefined_functions_renderer, renderers is renderers, size is len.
Main exports: RendererTables, RenderState, RendererTables.size, Toolchain.renderers
-/
import SassRenderLint.Memo.Basic
import SassRenderLint.Render.Toolchain

namespace SassRenderLint

/-- The renderers built so far. -/
structure RendererTables (ρ : Type) where
  base : Memo Nat (Compiler × ρ)
  undefinedFunctions : Memo (Nat × String) (Compiler × ρ)

namespace RendererTables

variable {ρ : Type}

def empty : RendererTables ρ := ⟨.empty, .empty⟩

instance : Inhabited (RendererTables ρ) := ⟨empty⟩

def size (t : RendererTables ρ) : Nat := t.base.size + t.undefinedFunctions.size

def isEmpty (t : RendererTables ρ) : Bool := t.size = 0

def shown (t : RendererTables ρ) : String :=
  "RendererCache \x7b base: " ++ t.base.shown ++ ", undefined_functions: " ++ t.undefinedFunctions.shown ++ " \x7d"

end RendererTables

/-- The surroundings, and the renderers built so far. -/
structure RenderState (ω ρ : Type) where
  env : ω
  renderers : RendererTables ρ

namespace RenderState

variable {ω ρ : Type}

def envSlot : Slot (RenderState ω ρ) ω where
  get s := s.env
  set env s := { s with env := env }

/-- The renderers for errors and deprecations. -/
def baseSlot : Slot (RenderState ω ρ) (Memo Nat (Compiler × ρ)) where
  get s := s.renderers.base
  set base s := { s with renderers := { s.renderers with base := base } }

/-- The renderers for undefined functions. -/
def undefinedFunctionsSlot : Slot (RenderState ω ρ) (Memo (Nat × String) (Compiler × ρ)) where
  get s := s.renderers.undefinedFunctions
  set table s := { s with renderers := { s.renderers with undefinedFunctions := table } }

end RenderState

namespace Toolchain

variable {ω ρ : Type}

/-- Builds a renderer and puts it beside its compiler. -/
def built (compiler : Compiler) (build : ω → ρ × ω) : Routine (RenderState ω ρ) (Compiler × ρ) :=
  (Routine.modifyGet fun env =>
    let (renderer, env) := build env
    ((compiler, renderer), env)).zoom RenderState.envSlot

/-- The renderer for errors and deprecations. -/
def renderer (t : Toolchain ω ρ) (compiler : Compiler) : Routine (RenderState ω ρ) ρ :=
  (Memo.lookup RenderState.baseSlot compiler.identity (built compiler (t.build compiler))).bind fun pinned =>
    .done pinned.2

/-- The renderer for undefined functions. -/
def undefinedRenderer (t : Toolchain ω ρ) (compiler : Compiler) (options : UndefinedFunctionsOptions) :
    Routine (RenderState ω ρ) ρ :=
  (Memo.lookup RenderState.undefinedFunctionsSlot (compiler.identity, options.cacheKey)
    (built compiler (t.buildUndefined compiler options))).bind fun pinned => .done pinned.2

/-- The renderers for a run, the one for errors and deprecations first. -/
def renderers (t : Toolchain ω ρ) (compiler : Compiler) (undefinedFunctions : Option UndefinedFunctionsOptions) :
    Routine (RenderState ω ρ) (List ρ) :=
  (t.renderer compiler).bind fun first =>
    match undefinedFunctions with
    | none => .done [first]
    | some options => (t.undefinedRenderer compiler options).bind fun second => .done [first, second]

end Toolchain

end SassRenderLint
