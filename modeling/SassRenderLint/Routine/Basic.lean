/-
Module: SassRenderLint.Routine.Basic
Layer: Routine
Purpose: Computations on a shared state that can be suspended. A routine is a tree of atomic steps and
  suspensions; between two suspensions nothing else happens to the state. A routine can be run alone
  to its end, or continued to its next suspension so that others get their turn.
Main exports: Routine, Routine.bind, Routine.run, Routine.poll, Slot, Routine.zoom, Routine.withOwn
-/

namespace SassRenderLint

/-- A computation on a state of type `σ`. -/
inductive Routine (σ α : Type) where
  /-- It has ended. -/
  | done (value : α)
  /-- It reads the state, leaves it changed and goes on, all at once. -/
  | act (write : σ → σ) (next : σ → Routine σ α)
  /-- It lets others have their turn. -/
  | pause (next : Routine σ α)

namespace Routine

variable {σ τ α β : Type}

/-- One computation after the other. -/
def bind : Routine σ α → (α → Routine σ β) → Routine σ β
  | .done a, k => k a
  | .act write next, k => .act write fun s => (next s).bind k
  | .pause next, k => .pause (next.bind k)

instance : Monad (Routine σ) where
  pure := .done
  bind := bind

/-- Takes something from the state and changes it, at once. -/
def modifyGet (f : σ → α × σ) : Routine σ α := .act (fun s => (f s).2) fun s => .done (f s).1

def read (f : σ → α) : Routine σ α := .act id fun s => .done (f s)

def update (f : σ → σ) : Routine σ Unit := .act f fun _ => .done ()

/-- Suspends `n` times, with a change of the state before each. -/
def pauses (mark : σ → σ) : Nat → Routine σ Unit
  | 0 => .done ()
  | n + 1 => .act mark fun _ => .pause (pauses mark n)

/-- Runs a routine alone to its end. -/
def run : Routine σ α → σ → α × σ
  | .done a, s => (a, s)
  | .act write next, s => (next s).run (write s)
  | .pause next, s => next.run s

/-- Continues a routine until it is suspended or ends. -/
def poll : Routine σ α → σ → Routine σ α × σ
  | .done a, s => (.done a, s)
  | .act write next, s => (next s).poll (write s)
  | .pause next, s => (next, s)

end Routine

/-- A part of type `τ` of a state of type `σ`. -/
structure Slot (σ τ : Type) where
  get : σ → τ
  set : τ → σ → σ

/-- What is shared, where a routine also has something of its own. -/
def Slot.shared {σ τ : Type} : Slot (σ × τ) σ := ⟨Prod.fst, fun s whole => (s, whole.2)⟩

namespace Routine

variable {σ τ α : Type}

/-- A routine on a part of the state, as a routine on the whole. -/
def zoom (slot : Slot σ τ) : Routine τ α → Routine σ α
  | .done a => .done a
  | .act write next => .act (fun s => slot.set (write (slot.get s)) s) fun s => (next (slot.get s)).zoom slot
  | .pause next => .pause (next.zoom slot)

/-- A routine with a state of its own beside the shared one, as a routine on the shared one. It starts with
    `own` and gives back what it has made of it; nobody else gets to see it. -/
def withOwn : Routine (σ × τ) α → τ → Routine σ (α × τ)
  | .done a, own => .done (a, own)
  | .act write next, own =>
    .act (fun s => (write (s, own)).1) fun s => (next (s, own)).withOwn (write (s, own)).2
  | .pause next, own => .pause (next.withOwn own)

end Routine

end SassRenderLint
