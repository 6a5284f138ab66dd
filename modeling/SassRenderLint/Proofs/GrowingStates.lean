/-
Module: SassRenderLint.Proofs.GrowingStates
Layer: Proofs
Purpose: Routines that share a state which only grows. Three things can be said of such a routine: what each of
  its steps does to the state and leaves to do, what its result has to do with the states that are met
  on the way, and that it takes some turns, changes nothing and has ended. Each of them holds in any
  company. For lookups in a table the three say that a step stores one value or none, that a lookup
  gives what the table has from then on, and that a key with a value is not computed.
Main exports: Routine.Acts, Routine.Ends, Routine.Idles, Routine.grown_interleave, Routine.Ends.interleave,
  Routine.Idles.interleave, Memo.acts_tryLookup, Memo.ends_tryLookup, Memo.idles_tryLookup
-/
import Mathlib.Order.Defs.PartialOrder
import SassRenderLint.Proofs.Assurance

namespace SassRenderLint

namespace Routine

variable {σ τ α β ε : Type}

/-! ### What each step does -/

/-- From whatever state it is taken, each step of the routine is as said of the state before, the state
    after and what is left of the routine. -/
def Acts (does : σ → σ → Routine σ α → Prop) : Routine σ α → Prop
  | .done _ => True
  | .act write next => ∀ s, does s (write s) (next s) ∧ (next s).Acts does
  | .pause next => next.Acts does

namespace Acts

variable {does does' : σ → σ → Routine σ α → Prop} {r : Routine σ α}

/-- What is said of the steps may be weakened. -/
theorem mono (acts : r.Acts does) (weaker : ∀ s s' rest, does s s' rest → does' s s' rest) : r.Acts does' := by
  induction r with
  | done a => trivial
  | act write next ih => exact fun s => ⟨weaker _ _ _ (acts s).1, ih s (acts s).2⟩
  | pause next ih => exact ih acts

/-- Two things that are said of the steps hold of them together. -/
theorem and (acts : r.Acts does) (acts' : r.Acts does') :
    r.Acts fun s s' rest => does s s' rest ∧ does' s s' rest := by
  induction r with
  | done a => trivial
  | act write next ih => exact fun s => ⟨⟨(acts s).1, (acts' s).1⟩, ih s (acts s).2 (acts' s).2⟩
  | pause next ih => exact ih acts acts'

/-- Steps of the first routine are steps of the whole, with the second one still to come. -/
theorem bind {then' : σ → σ → Routine σ β → Prop} {k : α → Routine σ β} (first : r.Acts does)
    (passes : ∀ s s' rest, does s s' rest → then' s s' (rest.bind k)) (second : ∀ a, (k a).Acts then') :
    (r.bind k).Acts then' := by
  induction r with
  | done a => exact second a
  | act write next ih => exact fun s => ⟨passes _ _ _ (first s).1, ih s (first s).2⟩
  | pause next ih => exact ih first

/-- A step does to the state what is said of it, or nothing. -/
theorem step (acts : r.Acts does) (s : σ) :
    ((r.step s).2 = s ∨ does s (r.step s).2 (r.step s).1) ∧ (r.step s).1.Acts does := by
  cases r with
  | done a => exact ⟨Or.inl rfl, trivial⟩
  | act write next => exact ⟨Or.inr (acts s).1, (acts s).2⟩
  | pause next => exact ⟨Or.inl rfl, acts⟩

end Acts

/-- No step of a quiet routine touches the part. -/
theorem Quiet.acts {slot : Slot σ τ} {r : Routine σ α} (quiet : r.Quiet slot) :
    r.Acts fun s s' _ => slot.get s' = slot.get s := by
  induction r with
  | done a => trivial
  | act write next ih => exact fun s => ⟨quiet.1 s, ih s (quiet.2 s)⟩
  | pause next ih => exact ih quiet

/-- What is said of the steps of each of some routines still holds when they have taken turns. -/
theorem Acts.interleave {does : Nat → σ → σ → Routine σ α → Prop} (turns : List Nat) {rs : List (Routine σ α)}
    (each : ∀ (i : Nat) (r : Routine σ α), rs[i]? = some r → r.Acts (does i)) (s : σ) :
    ∀ (i : Nat) (r : Routine σ α), (Routine.interleave turns rs s).1[i]? = some r → r.Acts (does i) := by
  induction turns generalizing rs s with
  | nil => exact each
  | cons j turns ih =>
      apply ih
      intro i r there
      rcases getElem?_turn there with ⟨_, before⟩ | ⟨_, mover, present, rfl⟩
      · exact each i r before
      · exact ((each i mover present).step s).2

/-- A routine that has ended stays so. -/
theorem interleave_of_done {rs : List (Routine σ α)} {i : Nat} {a : α} (ended : rs[i]? = some (.done a))
    (turns : List Nat) (s : σ) : (interleave turns rs s).1[i]? = some (.done a) := by
  induction turns generalizing rs s with
  | nil => exact ended
  | cons j turns ih =>
      apply ih
      by_cases same : i = j
      · subst same
        rw [getElem?_turn_self, ended]
        rfl
      · rw [getElem?_turn_of_ne same]
        exact ended

/-- A routine that has had no turn stands where it stood. -/
theorem interleave_of_notMem {turns : List Nat} {i : Nat} (never : i ∉ turns) (rs : List (Routine σ α)) (s : σ) :
    (interleave turns rs s).1[i]? = rs[i]? := by
  induction turns generalizing rs s with
  | nil => rfl
  | cons j turns ih =>
      rw [List.mem_cons, not_or] at never
      exact (ih never.2 _ _).trans (getElem?_turn_of_ne never.1 rs s)

/-! ### Growing states -/

section

variable {π : Type} [Preorder π] {view : σ → π} {rs : List (Routine σ α)} {s : σ}

/-- If each routine lets the view grow, so does a turn of any of them. -/
theorem grown_turn (grows : ∀ (i : Nat) (r : Routine σ α), rs[i]? = some r → r.Acts fun s s' _ => view s ≤ view s')
    (s : σ) (j : Nat) : view s ≤ view (turn j rs s).2 := by
  rcases turn_snd j rs s with unchanged | ⟨mover, present, moved⟩
  · rw [unchanged]
  · rw [moved]
    rcases ((grows j mover present).step s).1 with unchanged | grown
    · rw [unchanged]
    · exact grown

/-- Where each step of each routine makes what is seen of the state grow, so do all their turns. -/
theorem grown_interleave (turns : List Nat)
    (grows : ∀ (i : Nat) (r : Routine σ α), rs[i]? = some r → r.Acts fun s s' _ => view s ≤ view s') (s : σ) :
    view s ≤ view (interleave turns rs s).2 := by
  induction turns generalizing rs s with
  | nil => exact le_refl _
  | cons j turns ih => exact le_trans (grown_turn grows s j) (ih (Acts.interleave [j] grows s) _)

/-- Each result is due, as far as all states before and after a step are among those that are met. -/
def Ends (met : σ → Prop) (due : α → Prop) : Routine σ α → Prop
  | .done a => due a
  | .act write next => ∀ s, met s → met (write s) → (next s).Ends met due
  | .pause next => next.Ends met due

theorem Ends.of_forall {met : σ → Prop} {due : α → Prop} (all : ∀ a, due a) (r : Routine σ α) : r.Ends met due := by
  induction r with
  | done a => exact all a
  | act write next ih => exact fun s _ _ => ih s
  | pause next ih => exact ih

theorem Ends.mono {met : σ → Prop} {due due' : α → Prop} {r : Routine σ α} (ends : r.Ends met due)
    (weaker : ∀ a, due a → due' a) : r.Ends met due' := by
  induction r with
  | done a => exact weaker a ends
  | act write next ih => exact fun s before after => ih s (ends s before after)
  | pause next ih => exact ih ends

/-- The second routine may rely on what is due of the first. -/
theorem Ends.bind {met : σ → Prop} {due : α → Prop} {due' : β → Prop} {r : Routine σ α} {k : α → Routine σ β}
    (first : r.Ends met due) (second : ∀ a, due a → (k a).Ends met due') : (r.bind k).Ends met due' := by
  induction r with
  | done a => exact second a first
  | act write next ih => exact fun s before after => ih s (first s before after)
  | pause next ih => exact ih first

/-- A step from one state that is met to another keeps what is due at the end. -/
theorem Ends.step {met : σ → Prop} {due : α → Prop} {r : Routine σ α} (ends : r.Ends met due) {s : σ} (before : met s)
    (after : met (r.step s).2) : (r.step s).1.Ends met due := by
  cases r with
  | done a => exact ends
  | act write next => exact ends s before after
  | pause next => exact ends

/-- Routines that take turns in growing states: all states that are met lie below the last. -/
theorem Ends.interleave {due : Nat → α → Prop} {last : π} (turns : List Nat)
    (grows : ∀ (i : Nat) (r : Routine σ α), rs[i]? = some r → r.Acts fun s s' _ => view s ≤ view s')
    (reached : view (Routine.interleave turns rs s).2 ≤ last)
    (each : ∀ (i : Nat) (r : Routine σ α), rs[i]? = some r → r.Ends (fun s => view s ≤ last) (due i)) :
    ∀ (i : Nat) (r : Routine σ α), (Routine.interleave turns rs s).1[i]? = some r →
      r.Ends (fun s => view s ≤ last) (due i) := by
  induction turns generalizing rs s with
  | nil => exact each
  | cons j turns ih =>
      have still := Acts.interleave [j] grows s
      have after : view (Routine.turn j rs s).2 ≤ last := le_trans (grown_interleave turns still _) reached
      have before : view s ≤ last := le_trans (grown_turn grows s j) after
      apply ih still reached
      intro i r there
      rcases getElem?_turn there with ⟨_, stood⟩ | ⟨rfl, mover, present, rfl⟩
      · exact each i r stood
      · rw [turn_of_getElem? present] at after
        exact (each i mover present).step before after

/-- After so many turns at most, in any states that are met, the routine has ended with a result, and it
    has changed nothing. -/
def Idles (met : σ → Prop) (a : α) : Nat → Routine σ α → Prop
  | _, .done b => b = a
  | n, .act write next => ∀ s, met s → write s = s ∧ ∃ m, n = m + 1 ∧ (next s).Idles met a m
  | n, .pause next => ∃ m, n = m + 1 ∧ next.Idles met a m

/-- More turns than are needed do no harm. -/
theorem Idles.mono {met : σ → Prop} {a : α} {m n : Nat} {r : Routine σ α} (idles : r.Idles met a m)
    (longer : m ≤ n) : r.Idles met a n := by
  induction r generalizing m n with
  | done b => exact idles
  | act write next ih =>
      intro s before
      obtain ⟨unchanged, p, rfl, rest⟩ := idles s before
      exact ⟨unchanged, n - 1, by omega, ih s rest (by omega)⟩
  | pause next ih =>
      obtain ⟨p, rfl, rest⟩ := idles
      exact ⟨n - 1, by omega, ih rest (by omega)⟩

/-- The turns of two idle routines add up. -/
theorem Idles.bind {met : σ → Prop} {a : α} {b : β} {m n : Nat} {r : Routine σ α} {k : α → Routine σ β}
    (first : r.Idles met a m) (second : (k a).Idles met b n) : (r.bind k).Idles met b (m + n) := by
  induction r generalizing m with
  | done a' =>
      cases first
      exact second.mono (Nat.le_add_left n m)
  | act write next ih =>
      intro s before
      obtain ⟨unchanged, p, rfl, rest⟩ := first s before
      exact ⟨unchanged, p + n, Nat.add_right_comm p 1 n, ih s rest⟩
  | pause next ih =>
      obtain ⟨p, rfl, rest⟩ := first
      exact ⟨p + n, Nat.add_right_comm p 1 n, ih rest⟩

theorem Idles.map {met : σ → Prop} {a : α} {n : Nat} {r : Routine σ α} (idles : r.Idles met a n) (f : α → β) :
    (r.bind fun a => .done (f a)).Idles met (f a) n :=
  idles.bind (n := 0) rfl

/-- A turn of an idle routine changes nothing and brings it nearer to its end. -/
theorem Idles.step {met : σ → Prop} {a : α} {n : Nat} {r : Routine σ α} (idles : r.Idles met a n) {s : σ}
    (before : met s) : (r.step s).2 = s ∧ (r.step s).1.Idles met a (n - 1) := by
  cases r with
  | done b => exact ⟨rfl, idles⟩
  | act write next =>
      obtain ⟨unchanged, m, rfl, rest⟩ := idles s before
      exact ⟨unchanged, rest⟩
  | pause next =>
      obtain ⟨m, rfl, rest⟩ := idles
      exact ⟨rfl, rest⟩

/-- Alone, it leaves the state as it found it. -/
theorem Idles.run {met : σ → Prop} {a : α} {n : Nat} {r : Routine σ α} (idles : r.Idles met a n) {s : σ}
    (before : met s) : r.run s = (a, s) := by
  induction r generalizing n with
  | done b => rw [Routine.run, show b = a from idles]
  | act write next ih =>
      obtain ⟨unchanged, m, _, rest⟩ := idles s before
      rw [Routine.run, unchanged]
      exact ih s rest
  | pause next ih =>
      obtain ⟨m, _, rest⟩ := idles
      exact ih rest

/-- With no turns left to take, the routine has ended. -/
theorem Idles.eq_done {met : σ → Prop} {a : α} {r : Routine σ α} (idles : r.Idles met a 0) {s : σ} (before : met s) :
    r = .done a := by
  cases r with
  | done b => rw [show b = a from idles]
  | act write next =>
      obtain ⟨_, m, none, _⟩ := idles s before
      cases none
  | pause next =>
      obtain ⟨m, none, _⟩ := idles
      cases none

/-- It comes to the same in the company of others that make the state grow. -/
theorem Idles.interleave {known : π} {a : α} {n j : Nat} {r : Routine σ α} (turns : List Nat)
    (grows : ∀ (i : Nat) (r : Routine σ α), rs[i]? = some r → r.Acts fun s s' _ => view s ≤ view s')
    (present : rs[j]? = some r) (idles : r.Idles (fun s => known ≤ view s) a n) (knows : known ≤ view s) :
    ∃ rest, (Routine.interleave turns rs s).1[j]? = some rest ∧
      rest.Idles (fun s => known ≤ view s) a (n - turns.count j) := by
  induction turns generalizing rs s r n with
  | nil => exact ⟨r, present, idles⟩
  | cons i turns ih =>
      have knows' : known ≤ view (Routine.turn i rs s).2 := le_trans knows (grown_turn grows s i)
      have still := Acts.interleave [i] grows s
      by_cases same : j = i
      · subst same
        have moved : (Routine.turn j rs s).1[j]? = some (r.step s).1 := by
          rw [getElem?_turn_self, present]
          rfl
        obtain ⟨rest, there, left⟩ := ih still moved (idles.step knows).2 knows'
        rw [List.count_cons_self, Nat.add_comm, ← Nat.sub_sub]
        exact ⟨rest, there, left⟩
      · rw [List.count_cons_of_ne (Ne.symm same)]
        exact ih still ((getElem?_turn_of_ne same rs s).trans present) idles knows'

end

end Routine

/-! ### Lookups -/

namespace Memo

variable {σ κ ν ε : Type} [DecidableEq κ] {slot : Slot σ (Memo κ ν)} {key : κ} {compute : Routine σ (Except ε ν)}

/-- A table lies below another that has the same values for its keys. -/
instance : Preorder (Memo κ ν) where
  le m m' := ∀ key value, m.get? key = some value → m'.get? key = some value
  le_refl _ _ _ found := found
  le_trans _ _ _ first second key value found := second key value (first key value found)

/-- A store adds an entry or changes nothing. -/
theorem le_store (m : Memo κ ν) (key : κ) (value : ν) : m ≤ (m.store key value).2 := by
  intro other known found
  rw [get?_store]
  split
  · rename_i same
    rw [same] at found
    rw [store_fst, found, Option.getD_some]
  · exact found

/-- A step of a lookup leaves the table alone, or stores a value and ends the lookup. -/
theorem acts_tryLookup (lawful : slot.Lawful) (quiet : compute.Quiet slot) :
    (tryLookup slot key compute).Acts fun s s' rest =>
      slot.get s' = slot.get s ∨
        ∃ made, slot.get s' = ((slot.get s).store key made).2 ∧
          rest = .done (.ok ((slot.get s).store key made).1) := by
  rw [tryLookup_eq]
  intro s
  refine ⟨Or.inl rfl, ?_⟩
  beta_reduce
  cases (slot.get s).get? key with
  | some value => trivial
  | none =>
      apply quiet.acts.bind
      · intro s s' rest unchanged
        exact Or.inl unchanged
      · intro result
        cases result with
        | error e => trivial
        | ok made => exact fun s => ⟨Or.inr ⟨made, lawful.get_set _ _, rfl⟩, trivial⟩

/-- A lookup that succeeds gives what the table has from then on. -/
theorem ends_tryLookup (lawful : slot.Lawful) {last : Memo κ ν} {met : σ → Prop}
    (below : ∀ s, met s → slot.get s ≤ last) :
    (tryLookup slot key compute).Ends met fun result =>
      ∀ value, result = .ok value → last.get? key = some value := by
  rw [tryLookup_eq]
  intro s before _
  beta_reduce
  cases found : (slot.get s).get? key with
  | some value =>
      rintro _ ⟨⟩
      exact below s before key value found
  | none =>
      have computed : compute.Ends met fun _ => True := .of_forall (fun _ => trivial) compute
      apply computed.bind
      intro result _
      cases result with
      | error e => exact fun _ failed => nomatch failed
      | ok made =>
          rintro s _ after _ ⟨⟩
          apply below _ after key
          rw [lawful.get_set, get?_store, if_pos rfl]

/-- A lookup whose answer is known takes it. -/
theorem idles_tryLookup {met : σ → Prop} {value : ν} (known : ∀ s, met s → (slot.get s).get? key = some value) :
    (tryLookup slot key compute).Idles met (.ok value) 1 := by
  rw [tryLookup_eq]
  intro s before
  refine ⟨rfl, 0, rfl, ?_⟩
  beta_reduce
  rw [known s before]
  rfl

variable (slot) in
/-- A lookup of a key without a value turns to its computation. -/
theorem step_tryLookup_of_none {α : Type} {s : σ} (missing : (slot.get s).get? key = none)
    (k : Except ε ν → Routine σ α) :
    ((tryLookup slot key compute).bind k).step s = (compute.bind fun result => (conclude slot key result).bind k, s) := by
  rw [tryLookup_eq, Routine.bind, Routine.step, missing, Routine.bind_assoc]
  rfl

variable (slot) in
/-- A lookup that finds its key goes on with the value after one step, and computes nothing. -/
theorem step_tryLookup_of_some {α : Type} {s : σ} {value : ν} (found : (slot.get s).get? key = some value)
    (k : Except ε ν → Routine σ α) : ((tryLookup slot key compute).bind k).step s = (k (.ok value), s) := by
  rw [tryLookup_eq, Routine.bind, Routine.step, found]
  rfl

end Memo

end SassRenderLint
