/-
Module: SassRenderLint.Routine.Join
Layer: Routine
Purpose: Routines that take turns. In each round every unfinished one is continued once, in order, and
  the whole is suspended when all have had their turn. The first that fails ends the whole at once;
  otherwise the results come in the order of the routines.
Main exports: Routine.tryJoin, Routine.tryAll, Routine.both
-/
import SassRenderLint.Routine.Basic

namespace SassRenderLint

namespace Routine

variable {σ ε α β : Type}

/-- The first has succeeded: the second alone is left. -/
def finishSecond (a : α) (second : Routine σ (Except ε β)) : Routine σ (Except ε (α × β)) :=
  second.bind fun r => .done (r.map fun b => (a, b))

/-- The second has succeeded: the first alone is left. -/
def finishFirst (first : Routine σ (Except ε α)) (b : β) : Routine σ (Except ε (α × β)) :=
  first.bind fun r => .done (r.map fun a => (a, b))

/-- The turn of the second routine, while the first is suspended. `again` starts the next round. -/
def secondTurn (first : Routine σ (Except ε α))
    (again : Routine σ (Except ε β) → Routine σ (Except ε (α × β))) :
    Routine σ (Except ε β) → Routine σ (Except ε (α × β))
  | .done (.error e) => .done (.error e)
  | .done (.ok b) => .pause (finishFirst first b)
  | .act write next => .act write fun s => secondTurn first again (next s)
  | .pause next => .pause (again next)

/-- Two routines in rounds, the first one's turn. -/
def tryJoin : Routine σ (Except ε α) → Routine σ (Except ε β) → Routine σ (Except ε (α × β))
  | .done (.error e), _ => .done (.error e)
  | .done (.ok a), second => finishSecond a second
  | .act write next, second => .act write fun s => tryJoin (next s) second
  | .pause next, second => secondTurn next (fun rest => tryJoin next rest) second

/-- Any number of routines in rounds. -/
def tryAll : List (Routine σ (Except ε α)) → Routine σ (Except ε (List α))
  | [] => .done (.ok [])
  | r :: rest => (tryJoin r (tryAll rest)).bind fun joined => .done (joined.map fun (a, as) => a :: as)

/-- Two routines that cannot fail, in rounds. -/
def both (first : Routine σ α) (second : Routine σ β) : Routine σ (Except Empty (α × β)) :=
  tryJoin (first.bind fun a => .done (.ok a)) (second.bind fun b => .done (.ok b))

/-- Routines one after the other, up to the first that fails. -/
def trySequence : List (Routine σ (Except ε α)) → Routine σ (Except ε (List α))
  | [] => .done (.ok [])
  | r :: rest => r.bind fun
    | .error e => .done (.error e)
    | .ok a => (trySequence rest).bind fun more => .done (more.map (a :: ·))

end Routine

end SassRenderLint
