/-
Module: SassRenderLint.Render.Batch
Layer: Render
Purpose: Runs several renderers on one input, in rounds or one after the other. The diagnostics come in
  the order of the renderers; one failure fails the whole.
Program names: renderAll is render_all, batches its two branches.
Main exports: Toolchain.renderAll
-/
import SassRenderLint.Render.Toolchain
import SassRenderLint.Routine.Join

namespace SassRenderLint

namespace Toolchain

variable {ω ρ : Type}

/-- The results of each renderer, in order. -/
def batches (t : Toolchain ω ρ) (renderers : List ρ) (options : CompilerOptions) :
    RenderMode → Routine ω (Except CompileError (List (List Diagnostic)))
  | .concurrent => Routine.tryAll (renderers.map fun renderer => t.render renderer options)
  | .blocking =>
    Routine.trySequence (renderers.map fun renderer => .modifyGet (t.renderBlocking renderer options))

/-- The diagnostics of all renderers. -/
def renderAll (t : Toolchain ω ρ) (renderers : List ρ) (options : CompilerOptions) (mode : RenderMode) :
    Routine ω RenderResult :=
  (t.batches renderers options mode).bind fun results => .done (results.map List.flatten)

end Toolchain

end SassRenderLint
