/-
Module: SassRenderLint.Proofs.Rounds
Layer: Proofs
Purpose: What routines in rounds come to. A round continues each routine once, in order, and knows
  nothing of failures or of joining. The join of a list of routines, built from joins of two, passes
  through the same rounds as long as nobody fails: `Joins` relates the routine that is left of a join to
  the routines that are left of its parts, and is kept by every round. So when the rounds lead every
  routine to a value, the join ends with those values, in the order of the routines. And a join that
  ends with values has led every routine to its value: one that had failed would have failed the join.
Main exports: Routine.round, Routine.rounds, Routine.Joins, Routine.run_tryAll_of_rounds,
  Routine.Hopeless, Routine.exists_rounds_of_run_tryAll
-/
import SassRenderLint.Proofs.RoutineLaws
import SassRenderLint.Routine.Join

namespace SassRenderLint

namespace Routine

variable {σ ε α β : Type}

/-- One round: every routine is continued once, in order. -/
def round : List (Routine σ α) → σ → List (Routine σ α) × σ
  | [], s => ([], s)
  | r :: rest, s =>
    let polled := r.poll s
    let others := round rest polled.2
    (polled.1 :: others.1, others.2)

def rounds : Nat → List (Routine σ α) → σ → List (Routine σ α) × σ
  | 0, rs, s => (rs, s)
  | n + 1, rs, s => rounds n (round rs s).1 (round rs s).2

/-- The routine has ended with a failure. -/
def Failed (r : Routine σ (Except ε α)) : Prop := ∃ e, r = .done (.error e)

/-- The routines have ended with these values. -/
def Ended (rs : List (Routine σ (Except ε α))) (values : List α) : Prop :=
  rs = values.map fun value => .done (.ok value)

/-! ### Two routines -/

/-- What is left of the join of two routines when `first` and `second` are left of them. Once the second
    has a value, only the first is waited for. -/
def JoinsTwo (joined : Routine σ (Except ε (α × β))) (first : Routine σ (Except ε α))
    (second : Routine σ (Except ε β)) : Prop :=
  joined = tryJoin first second ∨ ∃ b, second = .done (.ok b) ∧ joined = finishFirst first b

theorem poll_finishFirst (first : Routine σ (Except ε α)) (b : β) (s : σ) :
    (finishFirst first b).poll s = (finishFirst (first.poll s).1 b, (first.poll s).2) :=
  poll_bind_done first _ s

theorem poll_finishSecond (a : α) (second : Routine σ (Except ε β)) (s : σ) :
    (finishSecond a second).poll s = (finishSecond a (second.poll s).1, (second.poll s).2) :=
  poll_bind_done second _ s

/-- The turn of the second routine, while `first` waits for the next round. -/
theorem poll_secondTurn {first : Routine σ (Except ε α)} {second : Routine σ (Except ε β)} {s : σ}
    (alive : ¬ Failed (second.poll s).1) :
    JoinsTwo ((secondTurn first (fun rest => tryJoin first rest) second).poll s).1 first
        (second.poll s).1 ∧
      ((secondTurn first (fun rest => tryJoin first rest) second).poll s).2 = (second.poll s).2 := by
  induction second generalizing s with
  | done result =>
      cases result with
      | error e => exact absurd ⟨e, rfl⟩ alive
      | ok b => exact ⟨Or.inr ⟨b, rfl, rfl⟩, rfl⟩
  | act write next ih => exact ih s alive
  | pause next => exact ⟨Or.inl rfl, rfl⟩

/-- One round of a join is the turn of the first routine and then that of the second. -/
theorem poll_tryJoin {first : Routine σ (Except ε α)} {second : Routine σ (Except ε β)} {s : σ}
    (firstAlive : ¬ Failed (first.poll s).1)
    (secondAlive : ¬ Failed (second.poll (first.poll s).2).1) :
    JoinsTwo ((tryJoin first second).poll s).1 (first.poll s).1 (second.poll (first.poll s).2).1 ∧
      ((tryJoin first second).poll s).2 = (second.poll (first.poll s).2).2 := by
  induction first generalizing s with
  | done result =>
      cases result with
      | error e => exact absurd ⟨e, rfl⟩ firstAlive
      | ok a =>
          have turn := poll_finishSecond a second s
          exact ⟨Or.inl (congrArg Prod.fst turn), congrArg Prod.snd turn⟩
  | act write next ih => exact ih s firstAlive secondAlive
  | pause next => exact poll_secondTurn secondAlive

/-- While neither has failed, one turn of the join is one turn of each, in order. -/
theorem JoinsTwo.poll {joined : Routine σ (Except ε (α × β))} {first : Routine σ (Except ε α)}
    {second : Routine σ (Except ε β)} (joins : JoinsTwo joined first second) {s : σ}
    (firstAlive : ¬ Failed (first.poll s).1)
    (secondAlive : ¬ Failed (second.poll (first.poll s).2).1) :
    JoinsTwo (joined.poll s).1 (first.poll s).1 (second.poll (first.poll s).2).1 ∧
      (joined.poll s).2 = (second.poll (first.poll s).2).2 := by
  rcases joins with rfl | ⟨b, rfl, rfl⟩
  · exact poll_tryJoin firstAlive secondAlive
  · rw [poll_finishFirst]
    exact ⟨Or.inr ⟨b, rfl, rfl⟩, rfl⟩

/-- A join does not fail before one of its two does. -/
theorem JoinsTwo.not_failed {joined : Routine σ (Except ε (α × β))} {first : Routine σ (Except ε α)}
    {second : Routine σ (Except ε β)} (joins : JoinsTwo joined first second)
    (firstAlive : ¬ Failed first) (secondAlive : ¬ Failed second) : ¬ Failed joined := by
  rintro ⟨e, rfl⟩
  rcases joins with same | ⟨b, rfl, same⟩
  · cases first with
    | done result =>
        cases result with
        | error e => exact firstAlive ⟨e, rfl⟩
        | ok a =>
            cases second with
            | done result =>
                cases result with
                | error e => exact secondAlive ⟨e, rfl⟩
                | ok b => cases same
            | act write next => cases same
            | pause next => cases same
    | act write next => cases same
    | pause next =>
        cases second with
        | done result =>
            cases result with
            | error e => exact secondAlive ⟨e, rfl⟩
            | ok b => cases same
        | act write next => cases same
        | pause next => cases same
  · cases first with
    | done result =>
        cases result with
        | error e => exact firstAlive ⟨e, rfl⟩
        | ok a => cases same
    | act write next => cases same
    | pause next => cases same

/-- When both have their values, so has the join. -/
theorem JoinsTwo.eq_done {joined : Routine σ (Except ε (α × β))} {a : α} {b : β}
    (joins : JoinsTwo joined (.done (.ok a)) (.done (.ok b))) : joined = .done (.ok (a, b)) := by
  rcases joins with rfl | ⟨b', same, rfl⟩
  · rfl
  · cases same
    rfl

/-! ### Any number of routines -/

/-- Puts the value of the first routine in front of the values of the others. -/
def gathered (joined : Except ε (α × List α)) : Routine σ (Except ε (List α)) :=
  .done (joined.map fun (a, as) => a :: as)

/-- What is left of the join of a list of routines when `rs` are left of them. -/
def Joins (joined : Routine σ (Except ε (List α))) : List (Routine σ (Except ε α)) → Prop
  | [] => joined = .done (.ok [])
  | r :: rest => ∃ two others, joined = two.bind gathered ∧ JoinsTwo two r others ∧ Joins others rest

/-- At the beginning, all routines are left. -/
theorem joins_tryAll : ∀ rs : List (Routine σ (Except ε α)), Joins (tryAll rs) rs
  | [] => rfl
  | r :: rest => ⟨tryJoin r (tryAll rest), tryAll rest, rfl, Or.inl rfl, joins_tryAll rest⟩

theorem failed_of_bind_gathered {two : Routine σ (Except ε (α × List α))}
    (failed : Failed (two.bind gathered)) : Failed two := by
  obtain ⟨e, same⟩ := failed
  match two with
  | .done (.error e) => exact ⟨e, rfl⟩
  | .done (.ok _) => simp [bind, gathered, Except.map] at same
  | .act _ _ => simp [bind] at same
  | .pause _ => simp [bind] at same

/-- A join of many does not fail before one of them does. -/
theorem Joins.not_failed : ∀ {rs : List (Routine σ (Except ε α))} {joined : Routine σ (Except ε (List α))},
    Joins joined rs → (∀ r ∈ rs, ¬ Failed r) → ¬ Failed joined
  | [], _, joins, _, ⟨e, same⟩ => by
      rw [joins] at same
      cases same
  | r :: rest, _, ⟨two, others, same, joinsTwo, joins⟩, alive, failed => by
      subst same
      have othersAlive : ¬ Failed others :=
        joins.not_failed fun r member => alive r (List.mem_cons_of_mem _ member)
      exact joinsTwo.not_failed (alive r List.mem_cons_self) othersAlive (failed_of_bind_gathered failed)

/-- A round of the join is a round of its parts, as long as none of them has failed. -/
theorem Joins.poll : ∀ {rs : List (Routine σ (Except ε α))} {joined : Routine σ (Except ε (List α))} {s : σ},
    Joins joined rs → (∀ r ∈ (round rs s).1, ¬ Failed r) →
      Joins (joined.poll s).1 (round rs s).1 ∧ (joined.poll s).2 = (round rs s).2
  | [], _, _, joins, _ => by
      rw [joins]
      exact ⟨rfl, rfl⟩
  | r :: rest, _, s, ⟨two, others, same, joinsTwo, joins⟩, alive => by
      subst same
      have firstAlive : ¬ Failed (r.poll s).1 := alive _ List.mem_cons_self
      have restAlive : ∀ r' ∈ (round rest (r.poll s).2).1, ¬ Failed r' :=
        fun r' member => alive r' (List.mem_cons_of_mem _ member)
      obtain ⟨othersJoin, othersState⟩ := joins.poll restAlive
      obtain ⟨twoJoin, twoState⟩ := joinsTwo.poll firstAlive (othersJoin.not_failed restAlive)
      have turn := poll_bind_done two (fun joined => joined.map fun (a, as) => a :: as) s
      refine ⟨⟨(two.poll s).1, (others.poll (r.poll s).2).1, ?_, twoJoin, othersJoin⟩, ?_⟩
      · exact congrArg Prod.fst turn
      · calc
          ((two.bind gathered).poll s).2 = (two.poll s).2 := congrArg Prod.snd turn
          _ = (others.poll (r.poll s).2).2 := twoState
          _ = (round rest (r.poll s).2).2 := othersState

/-- When all have ended, the join has their values in order. -/
theorem Joins.eq_done : ∀ {values : List α} {rs : List (Routine σ (Except ε α))}
    {joined : Routine σ (Except ε (List α))},
      Joins joined rs → Ended rs values → joined = .done (.ok values)
  | [], _, _, joins, ended => by
      subst ended
      exact joins
  | value :: values, _, _, joins, ended => by
      subst ended
      obtain ⟨two, others, rfl, joinsTwo, joins⟩ := joins
      obtain rfl := joins.eq_done rfl
      rw [joinsTwo.eq_done]
      rfl

/-! ### Runs -/

theorem failed_poll {r : Routine σ (Except ε α)} (failed : Failed r) (s : σ) : (r.poll s).1 = r := by
  obtain ⟨e, rfl⟩ := failed
  rfl

/-- A failure stays. -/
theorem failed_mem_round {r : Routine σ (Except ε α)} (failed : Failed r) :
    ∀ {rs : List (Routine σ (Except ε α))} {s : σ}, r ∈ rs → r ∈ (round rs s).1
  | first :: rest, s, member => by
      rcases List.mem_cons.1 member with rfl | later
      · exact List.mem_cons.2 (Or.inl (failed_poll failed s).symm)
      · exact List.mem_cons_of_mem _ (failed_mem_round failed later)

/-- A failure stays where it is, however many rounds follow. -/
theorem failed_mem_rounds {r : Routine σ (Except ε α)} (failed : Failed r) :
    ∀ {n : Nat} {rs : List (Routine σ (Except ε α))} {s : σ}, r ∈ rs → r ∈ (rounds n rs s).1
  | 0, _, _, member => member
  | n + 1, rs, s, member => by
      have later := failed_mem_round failed (s := s) member
      exact failed_mem_rounds (n := n) (s := (round rs s).2) failed later

/-- Nothing has failed where all have values. -/
theorem Ended.not_failed {rs : List (Routine σ (Except ε α))} {values : List α} (ended : Ended rs values) :
    ∀ r ∈ rs, ¬ Failed r := by
  rintro r member ⟨e, rfl⟩
  rw [ended] at member
  simp at member

/-- When so many rounds lead all routines to values, a join of them ends with those values. -/
theorem Joins.run_of_rounds {values : List α} : ∀ {n : Nat} {rs : List (Routine σ (Except ε α))}
    {joined : Routine σ (Except ε (List α))} {s : σ}, Joins joined rs → Ended (rounds n rs s).1 values →
      joined.run s = (.ok values, (rounds n rs s).2)
  | 0, _, _, _, joins, ended => by
      rw [joins.eq_done ended]
      rfl
  | n + 1, rs, joined, s, joins, ended => by
      -- A failure after this round would still be there at the end.
      have alive : ∀ r ∈ (round rs s).1, ¬ Failed r := by
        intro r member failed
        have still := failed_mem_rounds (n := n) (s := (round rs s).2) failed member
        exact ended.not_failed r still failed
      obtain ⟨next, state⟩ := joins.poll alive
      rw [← run_poll, state]
      exact next.run_of_rounds ended

/-- When rounds lead all routines to values, their join ends with those values in the routines' order,
    and in the state that the rounds lead to. -/
theorem run_tryAll_of_rounds {n : Nat} {rs : List (Routine σ (Except ε α))} {values : List α} {s : σ}
    (ended : Ended (rounds n rs s).1 values) : (tryAll rs).run s = (.ok values, (rounds n rs s).2) :=
  (joins_tryAll rs).run_of_rounds ended

/-! ### From a run back to rounds -/

/-- A routine that can only fail, whatever others do to the state meanwhile. -/
def Hopeless : Routine σ (Except ε α) → Prop
  | .done (.ok _) => False
  | .done (.error _) => True
  | .act _ next => ∀ s, (next s).Hopeless
  | .pause next => next.Hopeless

/-- What has failed can only fail. -/
theorem Failed.hopeless {r : Routine σ (Except ε α)} (failed : Failed r) : r.Hopeless := by
  obtain ⟨e, rfl⟩ := failed
  trivial

/-- A hopeless routine has no value when it is run. -/
theorem Hopeless.run {r : Routine σ (Except ε α)} (hopeless : r.Hopeless) (s : σ) (a : α) :
    (r.run s).1 ≠ .ok a := by
  induction r generalizing s with
  | done result =>
      cases result with
      | error e => nofun
      | ok a => exact hopeless.elim
  | act write next ih => exact ih s (hopeless s) (write s)
  | pause next ih => exact ih hopeless s

theorem Hopeless.bind_map {r : Routine σ (Except ε α)} (hopeless : r.Hopeless) (f : α → β) :
    (r.bind fun result => .done (result.map f)).Hopeless := by
  induction r with
  | done result =>
      cases result with
      | error e => trivial
      | ok a => exact hopeless.elim
  | act write next ih => exact fun s => ih s (hopeless s)
  | pause next ih => exact ih hopeless

/-- The turn of the second routine does not help a first one that is hopeless. -/
theorem hopeless_secondTurn {first : Routine σ (Except ε α)}
    {again : Routine σ (Except ε β) → Routine σ (Except ε (α × β))} {second : Routine σ (Except ε β)}
    (hopeless : first.Hopeless) (later : ∀ rest, (again rest).Hopeless) :
    (secondTurn first again second).Hopeless := by
  induction second with
  | done result =>
      cases result with
      | error e => trivial
      | ok b => exact hopeless.bind_map _
  | act write next ih => exact ih
  | pause next => exact later next

/-- A join with a hopeless first routine is hopeless. -/
theorem Hopeless.tryJoin_left {first : Routine σ (Except ε α)} (hopeless : first.Hopeless)
    (second : Routine σ (Except ε β)) : (tryJoin first second).Hopeless := by
  induction first generalizing second with
  | done result =>
      cases result with
      | error e => trivial
      | ok a => exact hopeless.elim
  | act write next ih => exact fun s => ih s (hopeless s) second
  | pause next ih => exact hopeless_secondTurn hopeless fun rest => ih hopeless rest

/-- The turn of a hopeless second routine, where the next round is known to be hopeless. -/
theorem Hopeless.secondTurn {second : Routine σ (Except ε β)} (hopeless : second.Hopeless)
    {first : Routine σ (Except ε α)} {again : Routine σ (Except ε β) → Routine σ (Except ε (α × β))}
    (later : ∀ {rest : Routine σ (Except ε β)}, rest.Hopeless → (again rest).Hopeless) :
    (secondTurn first again second).Hopeless := by
  induction second with
  | done result =>
      cases result with
      | error e => trivial
      | ok b => exact hopeless.elim
  | act write next ih => exact fun s => ih s (hopeless s)
  | pause next => exact later hopeless

/-- A join with a hopeless second routine is hopeless. -/
theorem Hopeless.tryJoin_right {second : Routine σ (Except ε β)} (hopeless : second.Hopeless)
    (first : Routine σ (Except ε α)) : (tryJoin first second).Hopeless := by
  induction first generalizing second with
  | done result =>
      cases result with
      | error e => trivial
      | ok a => exact hopeless.bind_map _
  | act write next ih => exact fun s => ih s hopeless
  | pause next ih => exact hopeless.secondTurn ih

/-- While the first routine is hopeless, the turn of the second cannot save the join. -/
theorem Hopeless.poll_secondTurn {first : Routine σ (Except ε α)} (hopeless : first.Hopeless)
    (second : Routine σ (Except ε β)) (s : σ) :
    ((Routine.secondTurn first (fun rest => tryJoin first rest) second).poll s).1.Hopeless := by
  induction second generalizing s with
  | done result =>
      cases result with
      | error e => trivial
      | ok b => exact hopeless.bind_map _
  | act write next ih => exact ih s (write s)
  | pause next => exact hopeless.tryJoin_left next

theorem hopeless_poll_secondTurn {second : Routine σ (Except ε β)} {s : σ}
    (hopeless : (second.poll s).1.Hopeless) (first : Routine σ (Except ε α)) :
    ((secondTurn first (fun rest => tryJoin first rest) second).poll s).1.Hopeless := by
  induction second generalizing s with
  | done result =>
      cases result with
      | error e => trivial
      | ok b => exact hopeless.elim
  | act write next ih => exact ih s hopeless
  | pause next => exact Hopeless.tryJoin_right hopeless first

/-- A join one of whose parts is hopeless after its turn is hopeless after the round. -/
theorem JoinsTwo.hopeless_of_first {joined : Routine σ (Except ε (α × β))} {first : Routine σ (Except ε α)}
    {second : Routine σ (Except ε β)} (joins : JoinsTwo joined first second) {s : σ}
    (hopeless : (first.poll s).1.Hopeless) : (joined.poll s).1.Hopeless := by
  rcases joins with rfl | ⟨b, rfl, rfl⟩
  · induction first generalizing s with
    | done result =>
        cases result with
        | error e => trivial
        | ok a => exact hopeless.elim
    | act write next ih => exact ih s hopeless
    | pause next => exact Hopeless.poll_secondTurn hopeless second s
  · rw [poll_finishFirst]
    exact hopeless.bind_map _

/-- Once the second can only fail, so can the join. -/
theorem JoinsTwo.hopeless_of_second {joined : Routine σ (Except ε (α × β))} {first : Routine σ (Except ε α)}
    {second : Routine σ (Except ε β)} (joins : JoinsTwo joined first second) {s : σ}
    (hopeless : (second.poll (first.poll s).2).1.Hopeless) : (joined.poll s).1.Hopeless := by
  rcases joins with rfl | ⟨b, rfl, rfl⟩
  · induction first generalizing s with
    | done result =>
        cases result with
        | error e => trivial
        | ok a =>
            show ((finishSecond a second).poll s).1.Hopeless
            rw [poll_finishSecond]
            exact hopeless.bind_map _
    | act write next ih => exact ih s hopeless
    | pause next => exact hopeless_poll_secondTurn hopeless next
  · exact hopeless.elim

/-- A join is hopeless after a round in which one of its parts fails. -/
theorem Joins.hopeless_of_round : ∀ {rs : List (Routine σ (Except ε α))}
    {joined : Routine σ (Except ε (List α))} {s : σ} {r : Routine σ (Except ε α)},
      Joins joined rs → r ∈ (round rs s).1 → Failed r → (joined.poll s).1.Hopeless
  | first :: rest, _, s, r, ⟨two, others, same, joinsTwo, joins⟩, member, failed => by
      subst same
      have twoHopeless : (two.poll s).1.Hopeless := by
        rcases List.mem_cons.1 member with rfl | later
        · exact joinsTwo.hopeless_of_first failed.hopeless
        · exact joinsTwo.hopeless_of_second (joins.hopeless_of_round later failed)
      have turn := poll_bind_done two (fun joined => joined.map fun (a, as) => a :: as) s
      rw [show ((two.bind gathered).poll s).1 = _ from congrArg Prod.fst turn]
      exact twoHopeless.bind_map _

/-- A join has ended with values only if both have. -/
theorem JoinsTwo.eq_done_of_done {a : α} {b : β} {first : Routine σ (Except ε α)}
    {second : Routine σ (Except ε β)} (joins : JoinsTwo (.done (.ok (a, b))) first second) :
    first = .done (.ok a) ∧ second = .done (.ok b) := by
  rcases joins with same | ⟨b', rfl, same⟩
  · match first, second with
    | .done (.error _), _ => cases same
    | .done (.ok _), .done (.error _) => cases same
    | .done (.ok _), .done (.ok _) =>
        cases same
        exact ⟨rfl, rfl⟩
    | .done (.ok _), .act _ _ => cases same
    | .done (.ok _), .pause _ => cases same
    | .act _ _, _ => cases same
    | .pause _, .done (.error _) => cases same
    | .pause _, .done (.ok _) => cases same
    | .pause _, .act _ _ => cases same
    | .pause _, .pause _ => cases same
  · match first with
    | .done (.error _) => cases same
    | .done (.ok _) =>
        cases same
        exact ⟨rfl, rfl⟩
    | .act _ _ => cases same
    | .pause _ => cases same

/-- When a join has ended with values, its parts have. -/
theorem Joins.ended : ∀ {values : List α} {rs : List (Routine σ (Except ε α))},
    Joins (.done (.ok values)) rs → Ended rs values
  | values, [], joins => by
      cases joins
      rfl
  | values, r :: rest, ⟨two, others, same, joinsTwo, joins⟩ => by
      match two, same with
      | .done (.ok (a, as)), same =>
          cases same
          obtain ⟨rfl, rfl⟩ := joinsTwo.eq_done_of_done
          exact congrArg (List.cons _) joins.ended
      | .done (.error _), same => cases same
      | .act _ _, same => cases same
      | .pause _, same => cases same

/-- How often a routine is suspended when it is run. -/
def suspensions : Routine σ α → σ → Nat
  | .done _, _ => 0
  | .act write next, s => (next s).suspensions (write s)
  | .pause next, s => next.suspensions s + 1

/-- What is not suspended runs to its end in one turn. -/
theorem poll_of_suspensions_eq_zero {r : Routine σ α} {s : σ} (none : r.suspensions s = 0) :
    r.poll s = (.done (r.run s).1, (r.run s).2) := by
  induction r generalizing s with
  | done a => rfl
  | act write next ih => exact ih s none
  | pause next => cases none

/-- A turn takes off one suspension. -/
theorem suspensions_poll {r : Routine σ α} {s : σ} {n : Nat} (more : r.suspensions s = n + 1) :
    (r.poll s).1.suspensions (r.poll s).2 = n := by
  induction r generalizing s with
  | done a => cases more
  | act write next ih => exact ih s more
  | pause next => exact Nat.succ.inj more

/-- If the join succeeds, nothing has failed after the first round. -/
theorem Joins.alive_of_run {rs : List (Routine σ (Except ε α))} {joined : Routine σ (Except ε (List α))} {s : σ}
    {values : List α} (joins : Joins joined rs) (runs : (joined.run s).1 = .ok values) :
    ∀ r ∈ (round rs s).1, ¬ Failed r := by
  intro r member failed
  have hopeless := joins.hopeless_of_round member failed
  refine hopeless.run (joined.poll s).2 values ?_
  rw [run_poll, runs]

/-- A join that ends with values has gone through rounds that lead its parts to those values. -/
theorem Joins.exists_rounds {values : List α} {last : σ} : ∀ (n : Nat) {rs : List (Routine σ (Except ε α))}
    {joined : Routine σ (Except ε (List α))} {s : σ}, Joins joined rs → joined.suspensions s = n →
      joined.run s = (.ok values, last) →
        Ended (rounds (n + 1) rs s).1 values ∧ (rounds (n + 1) rs s).2 = last := by
  intro n
  -- One round is spent on each suspension of the join, and a last one on what follows.
  induction n with
  | zero =>
      intro rs joined s joins atOnce runs
      obtain ⟨next, state⟩ := joins.poll (joins.alive_of_run (congrArg Prod.fst runs))
      rw [poll_of_suspensions_eq_zero atOnce, runs] at next state
      exact ⟨next.ended, state.symm⟩
  | succ n ih =>
      intro rs joined s joins more runs
      obtain ⟨next, state⟩ := joins.poll (joins.alive_of_run (congrArg Prod.fst runs))
      have rest := suspensions_poll more
      rw [← run_poll] at runs
      rw [state] at runs rest
      exact ih next rest runs

/-- A join of routines that ends with values has gone through rounds that lead them to those values. -/
theorem exists_rounds_of_run_tryAll {rs : List (Routine σ (Except ε α))} {values : List α} {s last : σ}
    (runs : (tryAll rs).run s = (.ok values, last)) :
    ∃ n, Ended (rounds n rs s).1 values ∧ (rounds n rs s).2 = last :=
  ⟨_, (joins_tryAll rs).exists_rounds _ rfl runs⟩

end Routine

end SassRenderLint
