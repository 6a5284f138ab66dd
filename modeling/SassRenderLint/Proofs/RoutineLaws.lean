/-
Module: SassRenderLint.Proofs.RoutineLaws
Layer: Proofs
Purpose: The laws of routines that all later proofs cite instead of unfolding a run: what a run of two
  routines one after the other does, what a routine on a part of the state does to the whole, what one
  does that has a state of its own, and that a routine run to its end passes through every one of its
  suspensions.
Main exports: Routine.bind_assoc, Routine.run_bind, Routine.run_poll, Slot.Lawful, Routine.run_zoom,
  Routine.withOwn_bind, Routine.withOwn_zoom_shared, Routine.run_withOwn
-/
import SassRenderLint.Routine.Basic

namespace SassRenderLint

namespace Routine

variable {σ τ α β γ : Type}

theorem bind_assoc (r : Routine σ α) (k : α → Routine σ β) (l : β → Routine σ γ) :
    (r.bind k).bind l = r.bind fun a => (k a).bind l := by
  induction r with
  | done a => rfl
  | act write next ih =>
      simp only [bind]
      exact congrArg (Routine.act write) (funext ih)
  | pause next ih =>
      simp only [bind]
      exact congrArg Routine.pause ih

theorem bind_done (r : Routine σ α) : r.bind .done = r := by
  induction r with
  | done a => rfl
  | act write next ih =>
      simp only [bind]
      exact congrArg (Routine.act write) (funext ih)
  | pause next ih =>
      simp only [bind]
      exact congrArg Routine.pause ih

/-- The second routine starts where the first one has ended. -/
theorem run_bind (r : Routine σ α) (k : α → Routine σ β) (s : σ) :
    (r.bind k).run s = (k (r.run s).1).run (r.run s).2 := by
  induction r generalizing s with
  | done a => rfl
  | act write next ih => exact ih s (write s)
  | pause next ih => exact ih s

theorem run_modifyGet (f : σ → α × σ) (s : σ) : (modifyGet f).run s = f s := rfl

/-- Running on from a suspension ends as running from the start does. -/
theorem run_poll (r : Routine σ α) (s : σ) : (r.poll s).1.run (r.poll s).2 = r.run s := by
  induction r generalizing s with
  | done a => rfl
  | act write next ih => exact ih s (write s)
  | pause next => rfl

/-- A continuation that ends at once takes no part in the turns. -/
theorem poll_bind_done (r : Routine σ α) (f : α → β) (s : σ) :
    (r.bind fun a => .done (f a)).poll s = ((r.poll s).1.bind fun a => .done (f a), (r.poll s).2) := by
  induction r generalizing s with
  | done a => rfl
  | act write next ih => exact ih s (write s)
  | pause next => rfl

end Routine

/-- What a part of a state has to obey: it holds what was put there last, and putting back what it
    holds changes nothing. -/
structure Slot.Lawful {σ τ : Type} (slot : Slot σ τ) : Prop where
  get_set (part : τ) (s : σ) : slot.get (slot.set part s) = part
  set_get (s : σ) : slot.set (slot.get s) s = s
  set_set (first second : τ) (s : σ) : slot.set second (slot.set first s) = slot.set second s

theorem Slot.shared_lawful {σ τ : Type} : (Slot.shared : Slot (σ × τ) σ).Lawful where
  get_set _ _ := rfl
  set_get _ := rfl
  set_set _ _ _ := rfl

namespace Routine

variable {σ τ α β : Type}

/-- A routine on a part of the state runs on that part and leaves the rest of the state alone. -/
theorem run_zoom {slot : Slot σ τ} (lawful : slot.Lawful) (r : Routine τ α) (s : σ) :
    (r.zoom slot).run s = ((r.run (slot.get s)).1, slot.set (r.run (slot.get s)).2 s) := by
  induction r generalizing s with
  | done a =>
      simp only [zoom, run]
      rw [lawful.set_get]
  | act write next ih =>
      simp only [zoom, run]
      rw [ih, lawful.get_set, lawful.set_set]
  | pause next ih => exact ih s

/-! ### A state of one's own -/

/-- What is a routine's own is handed on from its beginning to what comes after. -/
theorem withOwn_bind (r : Routine (σ × τ) α) (k : α → Routine (σ × τ) β) (own : τ) :
    (r.bind k).withOwn own = (r.withOwn own).bind fun (a, own) => (k a).withOwn own := by
  induction r generalizing own with
  | done a => rfl
  | act write next ih =>
      simp only [bind, withOwn]
      exact congrArg (Routine.act _) (funext fun s => ih (s, own) _)
  | pause next ih =>
      simp only [bind, withOwn]
      exact congrArg Routine.pause (ih own)

/-- A routine on what is shared leaves alone what is one's own. -/
theorem withOwn_zoom_shared (r : Routine σ α) (own : τ) :
    (r.zoom Slot.shared).withOwn own = r.bind fun a => .done (a, own) := by
  induction r with
  | done a => rfl
  | act write next ih =>
      simp only [zoom, bind, withOwn]
      exact congrArg (Routine.act write) (funext ih)
  | pause next ih =>
      simp only [zoom, bind, withOwn]
      exact congrArg Routine.pause ih

/-- A routine on the shared state leaves what is its own alone. -/
theorem run_zoom_shared (r : Routine σ α) (s : σ) (own : τ) :
    (r.zoom Slot.shared).run (s, own) = ((r.run s).1, (r.run s).2, own) :=
  run_zoom Slot.shared_lawful r (s, own)

/-- Alone, it makes no difference whether a state is one's own. -/
theorem run_withOwn (r : Routine (σ × τ) α) (own : τ) (s : σ) :
    (r.withOwn own).run s = (((r.run (s, own)).1, (r.run (s, own)).2.2), (r.run (s, own)).2.1) := by
  induction r generalizing own s with
  | done a => rfl
  | act write next ih => exact ih (s, own) (write (s, own)).2 (write (s, own)).1
  | pause next ih => exact ih own s

end Routine


end SassRenderLint
