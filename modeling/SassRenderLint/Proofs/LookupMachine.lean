/-
Module: SassRenderLint.Proofs.LookupMachine
Layer: Proofs
Purpose: Callers of one table, in any order of steps. A program is what a caller does: its own work, which
  leaves the table alone, lookups whose computations are programs again, and clearing the table. A
  machine takes the steps of any number of programs in any order, one at a time, and writes down what
  happens at the table. What a program stands for is a routine made of `Memo.tryLookup`, and the machine
  does what such routines do that take turns.
Main exports: Memo.Program, Memo.Event, Memo.Thread.move, Memo.System, Memo.System.run,
  Routine.interleave, Memo.System.runsAs_start
-/
import SassRenderLint.Memo.Basic
import SassRenderLint.Proofs.RoutineLaws

namespace SassRenderLint

/-! ### Turns -/

namespace Routine

variable {σ τ α β : Type}

/-- The next atomic step of a routine. -/
def step : Routine σ α → σ → Routine σ α × σ
  | .done a, s => (.done a, s)
  | .act write next, s => (next s, write s)
  | .pause next, s => (next, s)

/-- One of some routines takes a step. -/
def turn (i : Nat) (rs : List (Routine σ α)) (s : σ) : List (Routine σ α) × σ :=
  match rs[i]? with
  | none => (rs, s)
  | some r => (rs.set i (r.step s).1, (r.step s).2)

/-- Routines take steps in a given order. -/
def interleave : List Nat → List (Routine σ α) → σ → List (Routine σ α) × σ
  | [], rs, s => (rs, s)
  | i :: turns, rs, s => interleave turns (turn i rs s).1 (turn i rs s).2

/-- Turns may be cut in two anywhere. -/
theorem interleave_append (first second : List Nat) (rs : List (Routine σ α)) (s : σ) :
    interleave (first ++ second) rs s = interleave second (interleave first rs s).1 (interleave first rs s).2 := by
  induction first generalizing rs s with
  | nil => rfl
  | cons i first ih => exact ih _ _

/-- A routine that leaves a part of the state alone. -/
def Quiet (slot : Slot σ τ) : Routine σ α → Prop
  | .done _ => True
  | .act write next => (∀ s, slot.get (write s) = slot.get s) ∧ ∀ s, (next s).Quiet slot
  | .pause next => next.Quiet slot

/-- Two routines that leave a part alone leave it alone one after the other. -/
theorem quiet_bind {slot : Slot σ τ} {r : Routine σ α} {k : α → Routine σ β} (first : r.Quiet slot)
    (second : ∀ a, (k a).Quiet slot) : (r.bind k).Quiet slot := by
  induction r with
  | done a => exact second a
  | act write next ih => exact ⟨first.1, fun s => ih s (first.2 s)⟩
  | pause next ih => exact ih first

/-- A routine on one part of the state leaves alone what that part has no hold of. -/
theorem quiet_zoom {slot : Slot σ τ} {part : Slot σ β} (apart : ∀ x s, slot.get (part.set x s) = slot.get s)
    (r : Routine β α) : (r.zoom part).Quiet slot := by
  induction r with
  | done a => trivial
  | act write next ih => exact ⟨fun s => apart _ s, fun s => ih (part.get s)⟩
  | pause next ih => exact ih

end Routine

namespace Memo

variable {σ κ ν ε α : Type} [DecidableEq κ] {slot : Slot σ (Memo κ ν)}

/-! ### Lookups -/

/-- How a lookup ends once its computation has: a value is stored, a failure is passed on. -/
def conclude (slot : Slot σ (Memo κ ν)) (key : κ) : Except ε ν → Routine σ (Except ε ν)
  | .error e => .done (.error e)
  | .ok made =>
    .act (fun s => slot.set ((slot.get s).store key made).2 s) fun s => .done (.ok ((slot.get s).store key made).1)

/-- A lookup checks the table, and on a miss computes and concludes. -/
theorem tryLookup_eq (key : κ) (compute : Routine σ (Except ε ν)) :
    tryLookup slot key compute =
      .act id fun s =>
        match (slot.get s).get? key with
        | some value => .done (.ok value)
        | none => compute.bind (conclude slot key) := by
  refine congrArg (Routine.act id) (funext fun s => ?_)
  show (match (slot.get s).get? key with
    | some value => _
    | none => _) = _
  cases (slot.get s).get? key with
  | some value => rfl
  | none =>
      refine congrArg compute.bind (funext fun result => ?_)
      cases result with
      | error e => rfl
      | ok made => rfl

/-- A lookup that cannot fail takes the steps of one that can. -/
theorem lookup_bind_eq (key : κ) (compute : Routine σ ν) (next : Except ε ν → Routine σ α) :
    (lookup slot key compute).bind (fun value => next (.ok value)) =
      (tryLookup slot key (compute.bind fun value => .done (.ok value))).bind next := by
  rw [tryLookup_eq]
  refine congrArg (Routine.act id) (funext fun s => ?_)
  show Routine.bind (match (slot.get s).get? key with
    | some value => _
    | none => _) _ =
      Routine.bind (match (slot.get s).get? key with
        | some value => _
        | none => _) _
  cases (slot.get s).get? key with
  | some value => rfl
  | none =>
      show (compute.bind _).bind _ = ((compute.bind _).bind _).bind _
      rw [Routine.bind_assoc, Routine.bind_assoc, Routine.bind_assoc]
      rfl

/-- What comes of a computation that has no way to fail. -/
def unfailing {α : Type} : Except Empty α → Routine σ α
  | .ok a => .done a
  | .error e => e.elim

/-- A lookup that cannot fail is one that can, with a computation that never does. So one machine serves both.
    -/
theorem lookup_eq_tryLookup (slot : Slot σ (Memo κ ν)) (key : κ) (compute : Routine σ ν) :
    lookup slot key compute =
      (tryLookup slot key (compute.bind fun value => .done (.ok value))).bind unfailing := by
  have taken : (lookup slot key compute).bind .done = _ := lookup_bind_eq key compute unfailing
  rw [← taken, Routine.bind_done]

/-- Lookups in one table leave another alone. -/
theorem quiet_tryLookup {τ : Type} {other : Slot σ τ} (apart : ∀ m s, other.get (slot.set m s) = other.get s)
    (key : κ) {compute : Routine σ (Except ε ν)} (quiet : compute.Quiet other) :
    (tryLookup slot key compute).Quiet other := by
  rw [tryLookup_eq]
  refine ⟨fun _ => rfl, ?_⟩
  intro s
  show Routine.Quiet other (match (slot.get s).get? key with
    | some value => _
    | none => _)
  cases (slot.get s).get? key with
  | some value => trivial
  | none =>
      refine Routine.quiet_bind quiet ?_
      intro result
      cases result with
      | error e => trivial
      | ok made => exact ⟨fun s => apart _ s, fun _ => trivial⟩

/-! ### Programs -/

/-- What a caller of the table in `slot` does. -/
inductive Program (slot : Slot σ (Memo κ ν)) (ε : Type) where
  /-- It has ended. -/
  | done (result : Except ε ν)
  /-- It lets others have their turn. -/
  | pause (next : Program slot ε)
  /-- It looks at the state and changes what is not the table. -/
  | work (write : σ → σ) (quiet : ∀ s, slot.get (write s) = slot.get s) (next : σ → Program slot ε)
  /-- It looks a key up; on a miss it computes the value. -/
  | call (key : κ) (compute : Program slot ε) (next : Except ε ν → Program slot ε)
  /-- It clears the table, and may change other things at once. -/
  | clear (write : σ → σ) (empties : ∀ s, slot.get (write s) = Memo.empty) (next : Program slot ε)

namespace Program

def routine : Program slot ε → Routine σ (Except ε ν)
  | .done result => .done result
  | .pause next => .pause next.routine
  | .work write _ next => .act write fun s => (next s).routine
  | .call key compute next => (Memo.tryLookup slot key compute.routine).bind fun result => (next result).routine
  | .clear write _ next => .act write fun _ => next.routine

/-- A lookup whose computation cannot fail is among the programs too. -/
theorem routine_call_of_total {key : κ} {compute : Program slot ε} {total : Routine σ ν}
    (cannotFail : compute.routine = total.bind fun value => .done (.ok value))
    (next : Except ε ν → Program slot ε) :
    (call key compute next).routine =
      (Memo.lookup slot key total).bind fun value => (next (.ok value)).routine := by
  rw [routine, cannotFail]
  exact (lookup_bind_eq key total fun result => (next result).routine).symm

/-- A routine that leaves the table alone, and a program after it. -/
def after : (r : Routine σ α) → r.Quiet slot → (α → Program slot ε) → Program slot ε
  | .done a, _, next => next a
  | .act write rest, quiet, next => .work write quiet.1 fun s => after (rest s) (quiet.2 s) next
  | .pause rest, quiet, next => .pause (after rest quiet next)

/-- A quiet routine in front of a program stands in front of its routine. -/
theorem routine_after (r : Routine σ α) (quiet : r.Quiet slot) (next : α → Program slot ε) :
    (after r quiet next).routine = r.bind fun a => (next a).routine := by
  induction r with
  | done a => rfl
  | act write rest ih =>
      simp only [after, routine, Routine.bind]
      exact congrArg (Routine.act write) (funext fun s => ih s (quiet.2 s))
  | pause rest ih => exact congrArg Routine.pause (ih quiet)

end Program

/-! ### The machine -/

/-- What can happen at the table. A lookup that misses is known by the place of its miss in the
    history. -/
inductive Event (κ ν : Type) where
  /-- A lookup found a value and returned it. -/
  | hit (key : κ) (value : ν)
  /-- A lookup found nothing, and its computation starts. -/
  | missed (key : κ)
  /-- The computation of a lookup made a value; the lookup stored it, or found that another had stored
      one, and returned the value that is kept. -/
  | stored (call : Nat) (key : κ) (made kept : ν)
  /-- The computation of a lookup failed, and so did the lookup. -/
  | failed (call : Nat) (key : κ)
  /-- All was forgotten. -/
  | cleared

/-- A lookup whose computation is under way. -/
structure Frame (slot : Slot σ (Memo κ ν)) (ε : Type) where
  /-- Which lookup it is. -/
  call : Nat
  key : κ
  /-- What its caller does with the result. -/
  next : Except ε ν → Program slot ε

/-- A caller under way: the lookups that it is inside of, the innermost first, and what it does next. -/
structure Thread (slot : Slot σ (Memo κ ν)) (ε : Type) where
  frames : List (Frame slot ε)
  code : Program slot ε

/-- What a step does. -/
structure Move (slot : Slot σ (Memo κ ν)) (ε : Type) where
  event : Option (Event κ ν)
  thread : Thread slot ε
  state : σ

/-- The next step of a caller. A lookup that misses now is known as `call`. -/
def Thread.move (call : Nat) : Thread slot ε → σ → Move slot ε
  | ⟨[], .done result⟩, s => ⟨none, ⟨[], .done result⟩, s⟩
  | ⟨frame :: frames, .done (.error e)⟩, s =>
    ⟨some (.failed frame.call frame.key), ⟨frames, frame.next (.error e)⟩, s⟩
  | ⟨frame :: frames, .done (.ok made)⟩, s =>
    let kept := ((slot.get s).store frame.key made).1
    ⟨some (.stored frame.call frame.key made kept), ⟨frames, frame.next (.ok kept)⟩,
      slot.set ((slot.get s).store frame.key made).2 s⟩
  | ⟨frames, .pause next⟩, s => ⟨none, ⟨frames, next⟩, s⟩
  | ⟨frames, .work write _ next⟩, s => ⟨none, ⟨frames, next s⟩, write s⟩
  | ⟨frames, .call key compute next⟩, s =>
    match (slot.get s).get? key with
    | some value => ⟨some (.hit key value), ⟨frames, next (.ok value)⟩, s⟩
    | none => ⟨some (.missed key), ⟨⟨call, key, next⟩ :: frames, compute⟩, s⟩
  | ⟨frames, .clear write _ next⟩, s => ⟨some .cleared, ⟨frames, next⟩, write s⟩

/-- What a step of a caller can be, seen from the table. -/
inductive Thread.Moves (call : Nat) (t : Thread slot ε) (s : σ) : Move slot ε → Prop where
  | silent (code : Program slot ε) (state : σ) (same : slot.get state = slot.get s) :
      Thread.Moves call t s ⟨none, ⟨t.frames, code⟩, state⟩
  | hit (key : κ) (value : ν) (code : Program slot ε) (found : (slot.get s).get? key = some value) :
      Thread.Moves call t s ⟨some (.hit key value), ⟨t.frames, code⟩, s⟩
  | missed (key : κ) (compute : Program slot ε) (next : Except ε ν → Program slot ε)
      (missing : (slot.get s).get? key = none) :
      Thread.Moves call t s ⟨some (.missed key), ⟨⟨call, key, next⟩ :: t.frames, compute⟩, s⟩
  | stored (frame : Frame slot ε) (frames : List (Frame slot ε)) (made : ν) (code : Program slot ε)
      (innermost : t.frames = frame :: frames) :
      Thread.Moves call t s
        ⟨some (.stored frame.call frame.key made ((slot.get s).store frame.key made).1), ⟨frames, code⟩,
          slot.set ((slot.get s).store frame.key made).2 s⟩
  | failed (frame : Frame slot ε) (frames : List (Frame slot ε)) (code : Program slot ε)
      (innermost : t.frames = frame :: frames) :
      Thread.Moves call t s ⟨some (.failed frame.call frame.key), ⟨frames, code⟩, s⟩
  | cleared (code : Program slot ε) (state : σ) (empties : slot.get state = Memo.empty) :
      Thread.Moves call t s ⟨some .cleared, ⟨t.frames, code⟩, state⟩

/-- The step that a caller takes is one of those that are listed, guards included. -/
theorem Thread.moves_move (call : Nat) (t : Thread slot ε) (s : σ) : t.Moves call s (t.move call s) := by
  obtain ⟨frames, code⟩ := t
  cases code with
  | done result =>
      cases frames with
      | nil => exact .silent _ _ rfl
      | cons frame frames =>
          cases result with
          | error e => exact .failed frame frames _ rfl
          | ok made => exact .stored frame frames made _ rfl
  | pause next =>
      simp only [move]
      exact .silent _ _ rfl
  | work write quiet next =>
      simp only [move]
      exact .silent _ _ (quiet s)
  | call key compute next =>
      simp only [move]
      cases found : (slot.get s).get? key with
      | some value => exact .hit key value _ found
      | none => exact .missed key compute next found
  | clear write empties next =>
      simp only [move]
      exact .cleared _ _ (empties s)

/-- Callers, what they share, and what has happened so far. -/
structure System (slot : Slot σ (Memo κ ν)) (ε : Type) where
  state : σ
  threads : List (Thread slot ε)
  history : List (Event κ ν)

namespace System

def start (programs : List (Program slot ε)) (s : σ) : System slot ε := ⟨s, programs.map fun p => ⟨[], p⟩, []⟩

def step (sys : System slot ε) (i : Nat) : System slot ε :=
  match sys.threads[i]? with
  | none => sys
  | some t =>
    let move := t.move sys.history.length sys.state
    ⟨move.state, sys.threads.set i move.thread, sys.history ++ move.event.toList⟩

def run (sys : System slot ε) (schedule : List Nat) : System slot ε := schedule.foldl step sys

theorem run_append (sys : System slot ε) (first second : List Nat) :
    sys.run (first ++ second) = (sys.run first).run second := List.foldl_append

/-- What has happened stays written down. -/
theorem exists_history_run (sys : System slot ε) (schedule : List Nat) :
    ∃ more, (sys.run schedule).history = sys.history ++ more := by
  induction schedule generalizing sys with
  | nil => exact ⟨[], (List.append_nil _).symm⟩
  | cons i rest ih =>
      obtain ⟨later, longer⟩ := ih (sys.step i)
      have one : ∃ more, (sys.step i).history = sys.history ++ more := by
        rw [step]
        split
        · exact ⟨[], (List.append_nil _).symm⟩
        · exact ⟨_, rfl⟩
      obtain ⟨more, same⟩ := one
      refine ⟨more ++ later, ?_⟩
      rw [← List.append_assoc, ← same]
      exact longer

end System

/-! ### Routines that take turns -/

/-- What is left of some lookups once the computation of the innermost is a given routine. -/
def through : List (Frame slot ε) → Routine σ (Except ε ν) → Routine σ (Except ε ν)
  | [], r => r
  | frame :: frames, r =>
    through frames ((r.bind (conclude slot frame.key)).bind fun result => (frame.next result).routine)

def Thread.routine (t : Thread slot ε) : Routine σ (Except ε ν) := through t.frames t.code.routine

/-- What the innermost computation does to the state, the whole does. -/
theorem through_act (frames : List (Frame slot ε)) (write : σ → σ) (next : σ → Routine σ (Except ε ν)) :
    through frames (.act write next) = .act write fun s => through frames (next s) := by
  induction frames generalizing next with
  | nil => rfl
  | cons frame frames ih => exact ih _

/-- When the innermost computation is suspended, so is the whole. -/
theorem through_pause (frames : List (Frame slot ε)) (next : Routine σ (Except ε ν)) :
    through frames (.pause next) = .pause (through frames next) := by
  induction frames generalizing next with
  | nil => rfl
  | cons frame frames ih => exact ih _

/-- A caller whose computation has failed has nothing to do at the state but to pass the failure on. -/
def Thread.failing : Thread slot ε → Bool
  | ⟨_ :: _, .done (.error _)⟩ => true
  | _ => false

/-- Passing on a failure is no step of the routine. -/
theorem Thread.move_of_failing {t : Thread slot ε} (failing : t.failing = true) (call : Nat) (s : σ) :
    (t.move call s).thread.routine = t.routine ∧ (t.move call s).state = s ∧
      (t.move call s).thread.frames.length < t.frames.length := by
  obtain ⟨frames, code⟩ := t
  cases frames with
  | nil => cases failing
  | cons frame frames =>
      cases code with
      | done result =>
          cases result with
          | error e => exact ⟨rfl, rfl, Nat.lt_succ_self _⟩
          | ok made => cases failing
      | pause next => cases failing
      | work write quiet next => cases failing
      | call key compute next => cases failing
      | clear write empties next => cases failing

/-- Any other step of a caller is the next step of its routine. -/
theorem Thread.move_of_not_failing {t : Thread slot ε} (failing : t.failing = false) (call : Nat) (s : σ) :
    ((t.move call s).thread.routine, (t.move call s).state) = t.routine.step s := by
  obtain ⟨frames, code⟩ := t
  cases code with
  | done result =>
      cases frames with
      | nil => rfl
      | cons frame frames =>
          cases result with
          | error e => cases failing
          | ok made =>
              simp only [routine, through, Program.routine, Routine.bind, conclude, through_act, Routine.step, move]
  | pause next => simp only [routine, Program.routine, through_pause, Routine.step, move]
  | work write quiet next => simp only [routine, Program.routine, through_act, Routine.step, move]
  | call key compute next =>
      simp only [routine, Program.routine, tryLookup_eq, Routine.bind, through_act, Routine.step, move]
      cases (slot.get s).get? key with
      | some value => rfl
      | none => rfl
  | clear write empties next => simp only [routine, Program.routine, through_act, Routine.step, move]

namespace System

def routines (sys : System slot ε) : List (Routine σ (Except ε ν)) := sys.threads.map Thread.routine

/-- A step of the system is a step of one caller, whose event is written down. -/
theorem step_of_getElem? {sys : System slot ε} {i : Nat} {t : Thread slot ε} (present : sys.threads[i]? = some t) :
    sys.step i =
      ⟨(t.move sys.history.length sys.state).state,
        sys.threads.set i (t.move sys.history.length sys.state).thread,
        sys.history ++ (t.move sys.history.length sys.state).event.toList⟩ := by
  rw [step, present]

/-- In terms of routines, the step of a caller replaces one routine by what is left of it. -/
theorem routines_step {sys : System slot ε} {i : Nat} {t : Thread slot ε} (present : sys.threads[i]? = some t) :
    (sys.step i).routines = sys.routines.set i (t.move sys.history.length sys.state).thread.routine := by
  rw [step_of_getElem? present]
  exact List.map_set

theorem getElem?_routines {sys : System slot ε} {i : Nat} {t : Thread slot ε} (present : sys.threads[i]? = some t) :
    sys.routines[i]? = some t.routine := by
  rw [routines, List.getElem?_map, present]
  rfl

/-- A step at which a failure is passed on is no turn of the routines. -/
theorem step_of_failing {sys : System slot ε} {i : Nat} {t : Thread slot ε} (present : sys.threads[i]? = some t)
    (failing : t.failing = true) : (sys.step i).routines = sys.routines ∧ (sys.step i).state = sys.state := by
  obtain ⟨same, unchanged, _⟩ := t.move_of_failing failing sys.history.length sys.state
  obtain ⟨inside, value⟩ := List.getElem?_eq_some_iff.1 (getElem?_routines present)
  constructor
  · rw [routines_step present, same, ← value, List.set_getElem_self]
  · rw [step_of_getElem? present]
    exact unchanged

/-- Any other step of a caller is a turn of its routine. -/
theorem step_of_not_failing {sys : System slot ε} {i : Nat} {t : Thread slot ε} (present : sys.threads[i]? = some t)
    (failing : t.failing = false) :
    Routine.turn i sys.routines sys.state = ((sys.step i).routines, (sys.step i).state) := by
  have next := t.move_of_not_failing failing sys.history.length sys.state
  rw [routines_step present, step_of_getElem? present, Routine.turn, getElem?_routines present]
  simp only [← next]

/-- A turn for nobody changes nothing on either side. -/
theorem turn_of_absent {sys : System slot ε} {i : Nat} (absent : sys.threads[i]? = none) :
    Routine.turn i sys.routines sys.state = (sys.routines, sys.state) := by
  have none : sys.routines[i]? = none := by
    rw [routines, List.getElem?_map, absent]
    rfl
  rw [Routine.turn, none]

/-- A turn of a routine is a step of the machine, after the failures that the caller passes on first. -/
theorem exists_run_of_turn (sys : System slot ε) (i : Nat) :
    ∃ schedule, Routine.turn i sys.routines sys.state = ((sys.run schedule).routines, (sys.run schedule).state) := by
  cases present : sys.threads[i]? with
  | none => exact ⟨[], turn_of_absent present⟩
  | some t =>
      -- Passing on a failure leaves one lookup less to be inside of.
      induction lookups : t.frames.length using Nat.strongRecOn generalizing sys t with
      | _ n ih =>
          cases failing : t.failing with
          | true =>
              obtain ⟨_, _, fewer⟩ := t.move_of_failing failing sys.history.length sys.state
              have inside : i < sys.threads.length := (List.getElem?_eq_some_iff.1 present).1
              have still : (sys.step i).threads[i]? = some (t.move sys.history.length sys.state).thread := by
                rw [step_of_getElem? present]
                exact List.getElem?_set_self inside
              obtain ⟨schedule, turns⟩ := ih _ (lookups ▸ fewer) (sys.step i) _ still rfl
              obtain ⟨sameRoutines, sameState⟩ := step_of_failing present failing
              rw [sameRoutines, sameState] at turns
              exact ⟨i :: schedule, turns⟩
          | false => exact ⟨[i], step_of_not_failing present failing⟩

/-- A step of the machine is a turn of a routine, or none. -/
theorem exists_turns_of_step (sys : System slot ε) (i : Nat) :
    ∃ turns, Routine.interleave turns sys.routines sys.state = ((sys.step i).routines, (sys.step i).state) := by
  cases present : sys.threads[i]? with
  | none =>
      refine ⟨[], ?_⟩
      rw [step, present]
      rfl
  | some t =>
      cases failing : t.failing with
      | true =>
          obtain ⟨sameRoutines, sameState⟩ := step_of_failing present failing
          refine ⟨[], ?_⟩
          rw [sameRoutines, sameState]
          rfl
      | false => exact ⟨[i], step_of_not_failing present failing⟩

/-- The runs of a system are what some routines do that take turns. -/
def RunsAs (sys : System slot ε) (rs : List (Routine σ (Except ε ν))) : Prop :=
  (∀ turns, ∃ schedule, Routine.interleave turns rs sys.state =
    ((sys.run schedule).routines, (sys.run schedule).state)) ∧
  ∀ schedule, ∃ turns, Routine.interleave turns rs sys.state =
    ((sys.run schedule).routines, (sys.run schedule).state)

/-- The machine does what the routines do that its callers stand for. -/
theorem runsAs_routines (sys : System slot ε) : sys.RunsAs sys.routines := by
  constructor
  · intro turns
    induction turns generalizing sys with
    | nil => exact ⟨[], rfl⟩
    | cons i turns ih =>
        obtain ⟨first, turned⟩ := sys.exists_run_of_turn i
        obtain ⟨rest, interleaved⟩ := ih (sys.run first)
        refine ⟨first ++ rest, ?_⟩
        rw [Routine.interleave, turned, run_append]
        exact interleaved
  · intro schedule
    induction schedule generalizing sys with
    | nil => exact ⟨[], rfl⟩
    | cons i schedule ih =>
        obtain ⟨first, turned⟩ := sys.exists_turns_of_step i
        obtain ⟨rest, interleaved⟩ := ih (sys.step i)
        refine ⟨first ++ rest, ?_⟩
        rw [Routine.interleave_append, turned]
        exact interleaved

/-- At the start, the callers stand for their programs. -/
theorem routines_start (programs : List (Program slot ε)) (s : σ) :
    (start programs s).routines = programs.map Program.routine := by
  simp only [routines, start, List.map_map]
  rfl

/-- So the runs of a system are those of plain routines that take turns: nothing is assumed of the machine
    itself. -/
theorem runsAs_start (programs : List (Program slot ε)) (s : σ) :
    (start programs s).RunsAs (programs.map Program.routine) := by
  rw [← routines_start programs s]
  exact runsAs_routines _

end System

end Memo

end SassRenderLint
