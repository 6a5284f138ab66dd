/-
Module: SassRenderLint.Proofs.Assurance
Layer: Proofs
Purpose: What a routine gives its word for in the company of others. Between any two of its steps others
  may do to the state what they like, as long as they keep an invariant; the routine keeps it too, and
  ends with a result that is due. All ways of putting routines together pass this on: one after the
  other, on a part of the state, through lookups in a table whose entries obey a law, and in rounds. So
  it holds of any number of routines that take turns, in whatever order, and each of them comes to its
  end.
Main exports: Routine.Assures, Routine.Assures.bind, Routine.Assures.zoom, Memo.Obeys,
  Routine.Assures.tryLookup, Routine.Assures.lookup, Routine.Assures.tryAll, Routine.Assures.trySequence,
  Routine.Assures.interleave, Routine.exists_done, Routine.visits
-/
import SassRenderLint.Proofs.MemoInterleaving
import SassRenderLint.Routine.Join

namespace SassRenderLint

namespace Routine

variable {σ τ α β ε κ ν : Type} {inv : σ → Prop}

/-- Whenever it gets its turn in a state that obeys the invariant, the routine leaves such a state behind,
    and in the end its result is due. -/
def Assures (inv : σ → Prop) (due : α → Prop) : Routine σ α → Prop
  | .done a => due a
  | .act write next => ∀ s, inv s → inv (write s) ∧ (next s).Assures inv due
  | .pause next => next.Assures inv due

namespace Assures

/-- A weaker promise is kept too. -/
theorem mono {due due' : α → Prop} {r : Routine σ α} (assures : r.Assures inv due) (weaker : ∀ a, due a → due' a) :
    r.Assures inv due' := by
  induction r with
  | done a => exact weaker a assures
  | act write next ih =>
      intro s sound
      obtain ⟨keeps, rest⟩ := assures s sound
      exact ⟨keeps, ih s rest⟩
  | pause next ih => exact ih assures

/-- The second routine may rely on what is due of the first. -/
theorem bind {due : α → Prop} {due' : β → Prop} {r : Routine σ α} {k : α → Routine σ β}
    (first : r.Assures inv due) (second : ∀ a, due a → (k a).Assures inv due') : (r.bind k).Assures inv due' := by
  induction r with
  | done a => exact second a first
  | act write next ih =>
      intro s sound
      obtain ⟨keeps, rest⟩ := first s sound
      exact ⟨keeps, ih s rest⟩
  | pause next ih => exact ih first

/-- A result may be changed at the end. -/
theorem map {due : α → Prop} {due' : β → Prop} {r : Routine σ α} (assures : r.Assures inv due) {f : α → β}
    (changed : ∀ a, due a → due' (f a)) : (r.bind fun a => .done (f a)).Assures inv due' :=
  assures.bind changed

theorem modifyGet {due : α → Prop} {f : σ → α × σ} (each : ∀ s, inv s → due (f s).1 ∧ inv (f s).2) :
    (Routine.modifyGet f).Assures inv due := by
  intro s sound
  obtain ⟨result, keeps⟩ := each s sound
  exact ⟨keeps, result⟩

/-- A marked suspension promises nothing but to keep the invariant. -/
theorem pauses {mark : σ → σ} (keeps : ∀ s, inv s → inv (mark s)) (n : Nat) :
    (Routine.pauses mark n).Assures inv fun _ => True := by
  induction n with
  | zero => trivial
  | succ n ih => exact fun s sound => ⟨keeps s sound, ih⟩

/-- A routine on a part of the state, where the invariant of the whole gives one of the part. -/
theorem zoom {inner : τ → Prop} {slot : Slot σ τ} {due : α → Prop} {r : Routine τ α}
    (assures : r.Assures inner due) (get : ∀ s, inv s → inner (slot.get s))
    (set : ∀ s part, inv s → inner part → inv (slot.set part s)) : (r.zoom slot).Assures inv due := by
  induction r with
  | done a => exact assures
  | act write next ih =>
      intro s sound
      obtain ⟨keeps, rest⟩ := assures (slot.get s) (get s sound)
      exact ⟨set s _ sound keeps, ih _ rest⟩
  | pause next ih => exact ih assures

/-- Run alone, a routine keeps its word. -/
theorem run {due : α → Prop} {r : Routine σ α} (assures : r.Assures inv due) {s : σ} (sound : inv s) :
    due (r.run s).1 ∧ inv (r.run s).2 := by
  induction r generalizing s with
  | done a => exact ⟨assures, sound⟩
  | act write next ih =>
      obtain ⟨keeps, rest⟩ := assures s sound
      exact ih s rest keeps
  | pause next ih => exact ih assures sound

/-- One step keeps the invariant, and what is left gives its word for the same. -/
theorem step {due : α → Prop} {r : Routine σ α} (assures : r.Assures inv due) {s : σ} (sound : inv s) :
    (r.step s).1.Assures inv due ∧ inv (r.step s).2 := by
  cases r with
  | done a => exact ⟨assures, sound⟩
  | act write next => exact (assures s sound).symm
  | pause next => exact ⟨assures, sound⟩

end Assures

end Routine

/-! ### Lookups -/

namespace Memo

variable {κ ν : Type} [DecidableEq κ]

/-- Each value of the table stands in a relation to its key. -/
def Obeys (law : κ → ν → Prop) (m : Memo κ ν) : Prop := ∀ key value, m.get? key = some value → law key value

theorem obeys_empty (law : κ → ν → Prop) : (Memo.empty : Memo κ ν).Obeys law := by
  intro key value found
  cases found

/-- What is kept for the key when a value is stored obeys the law, whoever made it. -/
theorem Obeys.store {law : κ → ν → Prop} {m : Memo κ ν} (obeys : m.Obeys law) {key : κ} {value : ν}
    (lawful : law key value) : law key (m.store key value).1 ∧ (m.store key value).2.Obeys law := by
  have kept : law key (m.store key value).1 := by
    rw [store_fst]
    cases found : m.get? key with
    | some stored => exact obeys key stored found
    | none => exact lawful
  refine ⟨kept, ?_⟩
  intro other v found
  rw [get?_store] at found
  by_cases same : other = key
  · rw [if_pos same] at found
    cases found
    rw [same]
    exact kept
  · rw [if_neg same] at found
    exact obeys other v found

end Memo

namespace Routine

variable {σ α β ε κ ν : Type} {inv : σ → Prop}

namespace Assures

section

variable [DecidableEq κ] {slot : Slot σ (Memo κ ν)} {law : κ → ν → Prop}

/-- A lookup in a table that obeys a law: what it finds obeys it, and so does what it stores if what it
    computes does. -/
theorem tryLookup {due : Except ε ν → Prop} {key : κ} {compute : Routine σ (Except ε ν)}
    (get : ∀ s, inv s → (slot.get s).Obeys law) (set : ∀ s m, inv s → m.Obeys law → inv (slot.set m s))
    (lawful : ∀ value, law key value → due (.ok value))
    (computes : compute.Assures inv fun
      | .ok value => law key value
      | .error e => due (.error e)) :
    (Memo.tryLookup slot key compute).Assures inv due := by
  rw [Memo.tryLookup_eq]
  intro s sound
  refine ⟨sound, ?_⟩
  beta_reduce
  cases found : (slot.get s).get? key with
  | some value => exact lawful value (get s sound key value found)
  | none =>
      refine computes.bind ?_
      intro result computed
      cases result with
      | error e => exact computed
      | ok value =>
          intro s sound
          obtain ⟨kept, obeys⟩ := (get s sound).store computed
          exact ⟨set s _ sound obeys, lawful _ kept⟩

/-- A lookup keeps its word if its computation makes lawful values: a hit is lawful by the invariant of the
    table. -/
theorem lookup {due : ν → Prop} {key : κ} {compute : Routine σ ν}
    (get : ∀ s, inv s → (slot.get s).Obeys law) (set : ∀ s m, inv s → m.Obeys law → inv (slot.set m s))
    (lawful : ∀ value, law key value → due value) (computes : compute.Assures inv (law key)) :
    (Memo.lookup slot key compute).Assures inv due := by
  rw [Memo.lookup_eq_tryLookup]
  have tried : (Memo.tryLookup slot key (compute.bind fun value => .done (.ok value))).Assures inv
      fun result : Except Empty ν => ∀ value, result = .ok value → due value := by
    refine tryLookup get set ?_ (computes.map fun _ made => made)
    rintro value lawfully _ ⟨⟩
    exact lawful value lawfully
  refine tried.bind ?_
  intro result ends
  cases result with
  | error e => exact e.elim
  | ok value => exact ends value rfl

end

/-! ### Rounds -/

/-- What can come of two routines in rounds: both values, or the failure of either. -/
def DueJointly (first : Except ε α → Prop) (second : Except ε β → Prop) : Except ε (α × β) → Prop
  | .ok (a, b) => first (.ok a) ∧ second (.ok b)
  | .error e => first (.error e) ∨ second (.error e)

section

variable {due : Except ε α → Prop} {due' : Except ε β → Prop}

/-- The turn of the second routine, where the next round is known to keep its word. -/
theorem secondTurn {first : Routine σ (Except ε α)} {again : Routine σ (Except ε β) → Routine σ (Except ε (α × β))}
    {second : Routine σ (Except ε β)} (waiting : first.Assures inv due)
    (later : ∀ {rest : Routine σ (Except ε β)}, rest.Assures inv due' →
      (again rest).Assures inv (DueJointly due due'))
    (assures : second.Assures inv due') :
    (Routine.secondTurn first again second).Assures inv (DueJointly due due') := by
  induction second with
  | done result =>
      cases result with
      | error e => exact Or.inr assures
      | ok b =>
          refine waiting.map ?_
          intro result ends
          cases result with
          | error e => exact Or.inl ends
          | ok a => exact ⟨ends, assures⟩
  | act write next ih =>
      intro s sound
      obtain ⟨keeps, rest⟩ := assures s sound
      exact ⟨keeps, ih s rest⟩
  | pause next => exact later assures

/-- Two routines in rounds come to both values or to the failure of one, by induction on both. -/
theorem tryJoin {first : Routine σ (Except ε α)} {second : Routine σ (Except ε β)}
    (firstAssures : first.Assures inv due) (secondAssures : second.Assures inv due') :
    (Routine.tryJoin first second).Assures inv (DueJointly due due') := by
  induction first generalizing second with
  | done result =>
      cases result with
      | error e => exact Or.inl firstAssures
      | ok a =>
          refine secondAssures.map ?_
          intro result ends
          cases result with
          | error e => exact Or.inr ends
          | ok b => exact ⟨firstAssures, ends⟩
  | act write next ih =>
      intro s sound
      obtain ⟨keeps, rest⟩ := firstAssures s sound
      exact ⟨keeps, ih s rest secondAssures⟩
  | pause next ih => exact secondTurn firstAssures (ih firstAssures) secondAssures

end

/-- What can come of routines in rounds whose results are known: all their values, or one of their
    failures. -/
def DueOf (results : List (Except ε α)) : Except ε (List α) → Prop
  | .ok values => results = values.map .ok
  | .error e => .error e ∈ results

/-- Routines in rounds come to all their values, in their order, or to the failure of one of them. -/
theorem tryAll {ι : Type} {routine : ι → Routine σ (Except ε α)} {result : ι → Except ε α} :
    ∀ {items : List ι}, (∀ i ∈ items, (routine i).Assures inv (· = result i)) →
      (Routine.tryAll (items.map routine)).Assures inv (DueOf (items.map result))
  | [], _ => rfl
  | i :: rest, each => by
      have others := tryAll fun j member => each j (List.mem_cons_of_mem i member)
      refine ((each i List.mem_cons_self).tryJoin others).map ?_
      intro joined ends
      cases joined with
      | ok values =>
          obtain ⟨first, more⟩ := ends
          exact congrArg₂ List.cons first.symm more
      | error e =>
          rcases ends with first | later
          · exact List.mem_cons.2 (Or.inl first)
          · exact List.mem_cons_of_mem _ later

/-- Routines one after the other come to all their values, or to the first failure. -/
theorem trySequence {ι : Type} {routine : ι → Routine σ (Except ε α)} {result : ι → Except ε α} :
    ∀ {items : List ι}, (∀ i ∈ items, (routine i).Assures inv (· = result i)) →
      (Routine.trySequence (items.map routine)).Assures inv (· = items.mapM result)
  | [], _ => rfl
  | i :: rest, each => by
      have others := trySequence fun j member => each j (List.mem_cons_of_mem i member)
      refine (each i List.mem_cons_self).bind ?_
      rintro _ rfl
      rw [List.mapM_cons]
      cases result i with
      | error e => rfl
      | ok a =>
          refine others.map ?_
          rintro _ rfl
          cases rest.mapM result with
          | error e => rfl
          | ok values => rfl

end Assures

/-! ### Turns -/

/-- A turn replaces one routine by what is left of it after a step. -/
theorem turn_of_getElem? {rs : List (Routine σ α)} {i : Nat} {r : Routine σ α} (present : rs[i]? = some r) (s : σ) :
    turn i rs s = (rs.set i (r.step s).1, (r.step s).2) := by
  rw [turn, present]

/-- A turn changes the state only as a step of the routine does whose turn it is. -/
theorem turn_snd (j : Nat) (rs : List (Routine σ α)) (s : σ) :
    (turn j rs s).2 = s ∨ ∃ mover, rs[j]? = some mover ∧ (turn j rs s).2 = (mover.step s).2 := by
  cases present : rs[j]? with
  | none =>
      rw [turn, present]
      exact Or.inl rfl
  | some mover =>
      rw [turn_of_getElem? present]
      exact Or.inr ⟨mover, rfl, rfl⟩

theorem getElem?_turn_self (i : Nat) (rs : List (Routine σ α)) (s : σ) :
    (turn i rs s).1[i]? = rs[i]?.map fun r => (r.step s).1 := by
  cases present : rs[i]? with
  | none =>
      rw [turn, present]
      exact present
  | some r =>
      rw [turn_of_getElem? present]
      exact List.getElem?_set_self (List.getElem?_eq_some_iff.1 present).1

/-- A routine that has no turn is left as it is. -/
theorem getElem?_turn_of_ne {i j : Nat} (differ : i ≠ j) (rs : List (Routine σ α)) (s : σ) :
    (turn j rs s).1[i]? = rs[i]? := by
  rw [turn]
  split
  · rfl
  · exact List.getElem?_set_ne differ.symm

/-- After a turn the routine whose turn it was has taken a step, and the others stand where they stood. -/
theorem getElem?_turn {i j : Nat} {rs : List (Routine σ α)} {s : σ} {r : Routine σ α}
    (there : (turn j rs s).1[i]? = some r) :
    (i ≠ j ∧ rs[i]? = some r) ∨ (i = j ∧ ∃ mover, rs[i]? = some mover ∧ r = (mover.step s).1) := by
  by_cases same : i = j
  · subst same
    rw [getElem?_turn_self, Option.map_eq_some_iff] at there
    obtain ⟨mover, present, rfl⟩ := there
    exact Or.inr ⟨rfl, mover, present, rfl⟩
  · rw [getElem?_turn_of_ne same] at there
    exact Or.inl ⟨same, there⟩

/-- One turn of one routine keeps the word of all. -/
theorem Assures.turn {due : Nat → α → Prop} {rs : List (Routine σ α)}
    (each : ∀ (i : Nat) (r : Routine σ α), rs[i]? = some r → r.Assures inv (due i)) {s : σ} (sound : inv s) (j : Nat) :
    (∀ (i : Nat) (r : Routine σ α), (Routine.turn j rs s).1[i]? = some r → r.Assures inv (due i)) ∧
      inv (Routine.turn j rs s).2 := by
  constructor
  · intro i r there
    rcases getElem?_turn there with ⟨_, before⟩ | ⟨_, mover, present, rfl⟩
    · exact each i r before
    · exact ((each i mover present).step sound).1
  · rcases turn_snd j rs s with unchanged | ⟨mover, present, moved⟩
    · rw [unchanged]
      exact sound
    · rw [moved]
      exact ((each j mover present).step sound).2

/-- Routines that take turns in any order keep their word. -/
theorem Assures.interleave {due : Nat → α → Prop} (turns : List Nat) {rs : List (Routine σ α)}
    (each : ∀ (i : Nat) (r : Routine σ α), rs[i]? = some r → r.Assures inv (due i)) {s : σ} (sound : inv s) :
    (∀ (i : Nat) (r : Routine σ α), (Routine.interleave turns rs s).1[i]? = some r → r.Assures inv (due i)) ∧
      inv (Routine.interleave turns rs s).2 := by
  induction turns generalizing rs s with
  | nil => exact ⟨each, sound⟩
  | cons j turns ih =>
      obtain ⟨still, keeps⟩ := Assures.turn each sound j
      exact ih still keeps

theorem length_turn (i : Nat) (rs : List (Routine σ α)) (s : σ) : (turn i rs s).1.length = rs.length := by
  rw [turn]
  split
  · rfl
  · exact List.length_set

theorem length_interleave (turns : List Nat) (rs : List (Routine σ α)) (s : σ) :
    (interleave turns rs s).1.length = rs.length := by
  induction turns generalizing rs s with
  | nil => rfl
  | cons i turns ih => exact (ih _ _).trans (length_turn i rs s)

/-- A routine comes to its end when it gets enough turns. -/
theorem exists_done {rs : List (Routine σ α)} {i : Nat} {r : Routine σ α} (present : rs[i]? = some r) (s : σ) :
    ∃ n a, (interleave (List.replicate n i) rs s).1[i]? = some (.done a) := by
  have inside : i < rs.length := (List.getElem?_eq_some_iff.1 present).1
  have moved : ∀ rest : Routine σ α, (rs.set i rest)[i]? = some rest := fun rest => List.getElem?_set_self inside
  induction r generalizing rs s with
  | done a => exact ⟨0, a, present⟩
  | act write next ih =>
      obtain ⟨n, a, ends⟩ := ih s (moved _) (write s) (by rwa [List.length_set]) fun rest => by
        rw [List.set_set]
        exact moved rest
      refine ⟨n + 1, a, ?_⟩
      rw [List.replicate_succ, Routine.interleave, turn_of_getElem? present]
      exact ends
  | pause next ih =>
      obtain ⟨n, a, ends⟩ := ih (moved _) s (by rwa [List.length_set]) fun rest => by
        rw [List.set_set]
        exact moved rest
      refine ⟨n + 1, a, ?_⟩
      rw [List.replicate_succ, Routine.interleave, turn_of_getElem? present]
      exact ends

/-! ### From one suspension to the next -/

/-- One of some routines is continued until it is suspended or ends. -/
def visit (i : Nat) (rs : List (Routine σ α)) (s : σ) : List (Routine σ α) × σ :=
  match rs[i]? with
  | none => (rs, s)
  | some r => (rs.set i (r.poll s).1, (r.poll s).2)

/-- Routines are continued in a given order, each from one suspension to the next. -/
def visits : List Nat → List (Routine σ α) → σ → List (Routine σ α) × σ
  | [], rs, s => (rs, s)
  | i :: order, rs, s => visits order (visit i rs s).1 (visit i rs s).2

/-- To continue a routine to its next suspension is to give it some turns on end. -/
theorem exists_turns_of_visit (i : Nat) (rs : List (Routine σ α)) (s : σ) :
    ∃ n, interleave (List.replicate n i) rs s = visit i rs s := by
  cases present : rs[i]? with
  | none =>
      refine ⟨0, ?_⟩
      rw [visit, present]
      rfl
  | some r =>
      rw [visit, present]
      induction r generalizing rs s with
      | done a =>
          refine ⟨0, ?_⟩
          obtain ⟨inside, value⟩ := List.getElem?_eq_some_iff.1 present
          show (rs, s) = (rs.set i (.done a), s)
          rw [← value, List.set_getElem_self]
      | act write next ih =>
          have inside : i < rs.length := (List.getElem?_eq_some_iff.1 present).1
          obtain ⟨n, turns⟩ := ih s (rs.set i (next s)) (write s) (List.getElem?_set_self inside)
          refine ⟨n + 1, ?_⟩
          rw [List.replicate_succ, Routine.interleave, turn_of_getElem? present]
          simp only [step, turns, List.set_set]
          rfl
      | pause next =>
          refine ⟨1, ?_⟩
          show turn i rs s = _
          rw [turn_of_getElem? present]
          rfl

/-- Going on until a suspension is taking steps, so whatever holds of all turns holds of all visits. -/
theorem exists_turns_of_visits (order : List Nat) (rs : List (Routine σ α)) (s : σ) :
    ∃ turns, interleave turns rs s = visits order rs s := by
  induction order generalizing rs s with
  | nil => exact ⟨[], rfl⟩
  | cons i order ih =>
      obtain ⟨n, first⟩ := exists_turns_of_visit i rs s
      obtain ⟨rest, later⟩ := ih (visit i rs s).1 (visit i rs s).2
      refine ⟨List.replicate n i ++ rest, ?_⟩
      rw [interleave_append, first]
      exact later

end Routine

end SassRenderLint
