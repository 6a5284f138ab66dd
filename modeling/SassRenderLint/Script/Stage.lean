/-
Module: SassRenderLint.Script.Stage
Layer: Script
Purpose: Surroundings for collaborators that answer from a script: a journal of the calls they get, and
  the counts by which they go on in their scripts.
Main exports: Script.Event, Script.Stage, Script.Stage.note, Script.suspend
-/
import SassRenderLint.Render.Toolchain

namespace SassRenderLint

namespace Script

/-- A call of a collaborator, or something that it does. -/
inductive Event where
  | packageRoot (start : Path)
  | resolveFrom (base : Path) (specifier : String)
  | load (path : Path)
  | factory
  | asyncFactory
  | suspended (name : String)
  | computes (name : String)
  | build (name : String) (key : Option String)
  | render (name : String)
  | renderBlocking (name : String)
  | compile (compiler : Compiler) (options : CompilerOptions)
  | succeeded (name : String)
  | failed (name : String)
deriving DecidableEq, Repr, Inhabited

/-- The journal, how often each path was loaded, and how many renderers were built. -/
structure Stage where
  journal : List Event
  loads : List (String × Nat)
  builds : Nat
deriving DecidableEq, Repr, Inhabited

namespace Stage

def start : Stage := ⟨[], [], 0⟩

def note (e : Event) (s : Stage) : Stage := { s with journal := s.journal ++ [e] }

/-- Turns to a fresh page of the journal. -/
def turnPage (s : Stage) : Stage := { s with journal := [] }

def loadsOf (s : Stage) (path : String) : Nat := (s.loads.lookup path).getD 0

def countLoad (path : String) (s : Stage) : Stage :=
  { s with loads := (path, s.loadsOf path + 1) :: s.loads.filter fun entry => entry.1 ≠ path }

end Stage

/-- Suspends `n` times, each noted under a name. -/
def suspend (name : String) (n : Nat) : Routine Stage Unit := .pauses (Stage.note (.suspended name)) n

end Script

end SassRenderLint
