/-
Module: SassRenderLint.Proofs.FailureAccounts
Layer: Proofs
Purpose: Routines that keep an account of their failures. Such a routine notes the failure with which it
  ends right before its end, and no other; what goes on before leaves the notes alone. Routines of this
  kind can be joined, in rounds or one after the other, and the whole is of the same kind: the first
  failure ends it, so a second one is never noted.
Main exports: Slot.reading, Routine.Quiet.run, Routine.Accounts, Routine.Accounts.run,
  Routine.Accounts.tryAll, Routine.Accounts.trySequence
-/
import SassRenderLint.Proofs.LookupMachine
import SassRenderLint.Routine.Join

namespace SassRenderLint

/-! ### What is left alone -/

/-- A part of the state that is only looked at. -/
def Slot.reading {σ τ : Type} (f : σ → τ) : Slot σ τ := ⟨f, fun _ s => s⟩

namespace Routine

variable {σ τ ς α β ε κ ν : Type}

/-- Run alone, a quiet routine leaves the part as it was. -/
theorem Quiet.run {slot : Slot σ τ} {r : Routine σ α} (quiet : r.Quiet slot) (s : σ) :
    slot.get (r.run s).2 = slot.get s := by
  induction r generalizing s with
  | done a => rfl
  | act write next ih => exact (ih s (quiet.2 s) (write s)).trans (quiet.1 s)
  | pause next ih => exact ih quiet s

theorem quiet_update {slot : Slot σ τ} {f : σ → σ} (same : ∀ s, slot.get (f s) = slot.get s) :
    (update f).Quiet slot :=
  ⟨same, fun _ => trivial⟩

theorem quiet_modifyGet {slot : Slot σ τ} {f : σ → α × σ} (same : ∀ s, slot.get (f s).2 = slot.get s) :
    (modifyGet f).Quiet slot :=
  ⟨same, fun _ => trivial⟩

/-- What a routine on a part leaves alone in the part, it leaves alone in the whole. -/
theorem Quiet.zoom {inner : Slot ς τ} {outer : Slot σ τ} {part : Slot σ ς}
    (inside : ∀ s, inner.get (part.get s) = outer.get s)
    (put : ∀ x s, outer.get (part.set x s) = inner.get x) {r : Routine ς α} (quiet : r.Quiet inner) :
    (r.zoom part).Quiet outer := by
  induction r with
  | done a => trivial
  | act write next ih =>
      refine ⟨?_, fun s => ih (part.get s) (quiet.2 _)⟩
      intro s
      rw [put, quiet.1, inside]
  | pause next ih => exact ih quiet

/-- Who leaves a part alone leaves everything alone that is computed from it. -/
theorem Quiet.comp {f : σ → τ} {r : Routine σ α} (quiet : r.Quiet (.reading f)) (g : τ → ς) :
    r.Quiet (.reading fun s => g (f s)) := by
  induction r with
  | done a => trivial
  | act write next ih => exact ⟨fun s => congrArg g (quiet.1 s), fun s => ih s (quiet.2 s)⟩
  | pause next ih => exact ih quiet

/-- A lookup in one table leaves another part alone if its computation does. -/
theorem quiet_lookup [DecidableEq κ] {slot : Slot σ (Memo κ ν)} {other : Slot σ τ}
    (apart : ∀ m s, other.get (slot.set m s) = other.get s) (key : κ) {compute : Routine σ ν}
    (quiet : compute.Quiet other) : (Memo.lookup slot key compute).Quiet other := by
  rw [Memo.lookup_eq_tryLookup]
  refine quiet_bind (Memo.quiet_tryLookup apart key (quiet_bind quiet fun _ => trivial)) ?_
  intro result
  cases result with
  | error e => exact e.elim
  | ok value => trivial

/-! ### Failures that are written down -/

/-- The failure in a result, if it is one. -/
def failureIn : Except ε α → List ε
  | .ok _ => []
  | .error e => [e]

theorem failureIn_map (f : α → β) (result : Except ε α) : failureIn (result.map f) = failureIn result := by
  cases result <;> rfl

/-- A routine that notes the failure with which it ends, right before its end, and no other. -/
def Accounts (noted : σ → List ε) : Routine σ (Except ε α) → Prop
  | .done (.ok _) => True
  | .done (.error _) => False
  | .act write next => ∀ s,
    noted (write s) = noted s ∧ (next s).Accounts noted ∨
      ∃ e, noted (write s) = noted s ++ [e] ∧ next s = .done (.error e)
  | .pause next => next.Accounts noted

namespace Accounts

variable {noted : σ → List ε}

/-- Run alone, a routine that accounts for itself has added its failure, or nothing if it has none. -/
theorem run {r : Routine σ (Except ε α)} (accounts : r.Accounts noted) (s : σ) :
    noted (r.run s).2 = noted s ++ failureIn (r.run s).1 := by
  induction r generalizing s with
  | done result =>
      cases result with
      | error e => exact accounts.elim
      | ok a => exact (List.append_nil _).symm
  | act write next ih =>
      simp only [Routine.run]
      rcases accounts s with ⟨same, rest⟩ | ⟨e, noting, ends⟩
      · rw [ih s rest, same]
      · rw [ends]
        exact noting
  | pause next ih => exact ih accounts s

/-- A routine that notes nothing may come before. -/
theorem of_quiet {r : Routine σ β} {k : β → Routine σ (Except ε α)} (quiet : r.Quiet (.reading noted))
    (rest : ∀ b, (k b).Accounts noted) : (r.bind k).Accounts noted := by
  induction r with
  | done b => exact rest b
  | act write next ih => exact fun s => Or.inl ⟨quiet.1 s, ih s (quiet.2 s)⟩
  | pause next ih => exact ih quiet

/-- What follows a success notes its own failure, and nothing follows a failure. -/
theorem andThen {r : Routine σ (Except ε α)} (accounts : r.Accounts noted)
    {k : Except ε α → Routine σ (Except ε β)} (failure : ∀ e, k (.error e) = .done (.error e))
    (success : ∀ a, (k (.ok a)).Accounts noted) : (r.bind k).Accounts noted := by
  induction r with
  | done result =>
      cases result with
      | error e => exact accounts.elim
      | ok a => exact success a
  | act write next ih =>
      intro s
      rcases accounts s with ⟨same, rest⟩ | ⟨e, noting, ends⟩
      · exact Or.inl ⟨same, ih s rest⟩
      · exact Or.inr ⟨e, noting, (congrArg (fun rest => rest.bind k) ends).trans (failure e)⟩
  | pause next ih => exact ih accounts

/-- Changing a success does not change the failures. -/
theorem map {r : Routine σ (Except ε α)} (accounts : r.Accounts noted) (f : α → β) :
    (r.bind fun result => .done (result.map f)).Accounts noted :=
  accounts.andThen (fun _ => rfl) fun _ => trivial

/-- The account may stand in a part of the state. -/
theorem zoom {part : Slot σ ς} (lawful : part.Lawful) {noted : ς → List ε} {r : Routine ς (Except ε α)}
    (accounts : r.Accounts noted) : (r.zoom part).Accounts fun s => noted (part.get s) := by
  induction r with
  | done result =>
      cases result with
      | error e => exact accounts.elim
      | ok a => trivial
  | act write next ih =>
      intro s
      simp only [lawful.get_set]
      rcases accounts (part.get s) with ⟨same, rest⟩ | ⟨e, noting, ends⟩
      · exact Or.inl ⟨same, ih _ rest⟩
      · refine Or.inr ⟨e, noting, ?_⟩
        rw [ends]
        rfl
  | pause next ih => exact ih accounts

/-- The turn of the second routine, where the next round is known to account for its failure. -/
theorem secondTurn {first : Routine σ (Except ε α)} {again : Routine σ (Except ε β) → Routine σ (Except ε (α × β))}
    {second : Routine σ (Except ε β)} (waiting : first.Accounts noted)
    (later : ∀ {rest : Routine σ (Except ε β)}, rest.Accounts noted → (again rest).Accounts noted)
    (accounts : second.Accounts noted) : (Routine.secondTurn first again second).Accounts noted := by
  induction second with
  | done result =>
      cases result with
      | error e => exact accounts.elim
      | ok b => exact waiting.map _
  | act write next ih =>
      intro s
      rcases accounts s with ⟨same, rest⟩ | ⟨e, noting, ends⟩
      · exact Or.inl ⟨same, ih s rest⟩
      · exact Or.inr ⟨e, noting, congrArg (Routine.secondTurn first again) ends⟩
  | pause next => exact later accounts

/-- Of two routines in rounds the first to fail ends both, so that one failure is noted at most. -/
theorem tryJoin {first : Routine σ (Except ε α)} {second : Routine σ (Except ε β)}
    (firstAccounts : first.Accounts noted) (secondAccounts : second.Accounts noted) :
    (Routine.tryJoin first second).Accounts noted := by
  induction first generalizing second with
  | done result =>
      cases result with
      | error e => exact firstAccounts.elim
      | ok a => exact secondAccounts.map _
  | act write next ih =>
      intro s
      rcases firstAccounts s with ⟨same, rest⟩ | ⟨e, noting, ends⟩
      · exact Or.inl ⟨same, ih s rest secondAccounts⟩
      · exact Or.inr ⟨e, noting, congrArg (fun rest => Routine.tryJoin rest second) ends⟩
  | pause next ih => exact secondTurn firstAccounts (ih firstAccounts) secondAccounts

/-- Any number of routines in rounds account for the one failure that ends them all. -/
theorem tryAll {ι : Type} {routine : ι → Routine σ (Except ε α)} (each : ∀ i, (routine i).Accounts noted) :
    ∀ items : List ι, (Routine.tryAll (items.map routine)).Accounts noted
  | [] => trivial
  | i :: rest => ((each i).tryJoin (tryAll each rest)).map _

/-- One after the other, the first failure is the only one, since nothing comes after it. -/
theorem trySequence {ι : Type} {routine : ι → Routine σ (Except ε α)} (each : ∀ i, (routine i).Accounts noted) :
    ∀ items : List ι, (Routine.trySequence (items.map routine)).Accounts noted
  | [] => trivial
  | i :: rest => (each i).andThen (fun _ => rfl) fun _ => (trySequence each rest).map _

end Accounts

end Routine

end SassRenderLint
