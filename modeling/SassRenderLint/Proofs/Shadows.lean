/-
Module: SassRenderLint.Proofs.Shadows
Layer: Proofs
Purpose: Routines that do the same but for something that is not looked at. A routine shadows another
  through a view of its state when it takes the same steps and is suspended at the same points, as far
  as the view shows, and besides changes only what the view does not show. All ways of putting routines
  together keep this, also turns in rounds, and so a run of the first shows a run of the second.
Main exports: Routine.Shadows, Routine.Shadows.run, Slot.Views, Routine.Shadows.bind,
  Routine.Shadows.zoom, Routine.Shadows.tryLookup, Routine.Shadows.tryAll, Routine.Shadows.trySequence
-/
import SassRenderLint.Proofs.LookupMachine
import SassRenderLint.Proofs.RoutineLaws
import SassRenderLint.Routine.Join

namespace SassRenderLint

/-- One part of a state is seen through one view as another part is through another. -/
structure Slot.Views {σ τ ς υ : Type} (view : σ → τ) (inner : ς → υ) (slot : Slot σ ς) (seen : Slot τ υ) : Prop where
  get (s : σ) : inner (slot.get s) = seen.get (view s)
  set (part : ς) (s : σ) : view (slot.set part s) = seen.set (inner part) (view s)

theorem Slot.shared_views {σ τ ς : Type} (view : σ → τ) :
    Slot.Views (Prod.map view (id : ς → ς)) view Slot.shared Slot.shared where
  get _ := rfl
  set _ _ := rfl

namespace Routine

variable {σ τ ς υ α β ε κ ν : Type} {view : σ → τ}

/-- The first routine does what the second does, as far as the view of its state shows. -/
inductive Shadows (view : σ → τ) : Routine σ α → Routine τ α → Prop where
  | done (a : α) : Shadows view (.done a) (.done a)
  /-- Both take a step. -/
  | act {write : σ → σ} {next : σ → Routine σ α} {write' : τ → τ} {next' : τ → Routine τ α}
      (same : ∀ s, view (write s) = write' (view s)) (rest : ∀ s, Shadows view (next s) (next' (view s))) :
      Shadows view (.act write next) (.act write' next')
  /-- The first takes a step that the view does not show. -/
  | unseen {write : σ → σ} {next : σ → Routine σ α} {r : Routine τ α}
      (same : ∀ s, view (write s) = view s) (rest : ∀ s, Shadows view (next s) r) :
      Shadows view (.act write next) r
  /-- Both are suspended. -/
  | pause {next : Routine σ α} {next' : Routine τ α} (rest : Shadows view next next') :
      Shadows view (.pause next) (.pause next')

namespace Shadows

/-- A run of the first routine shows the run of the second. -/
theorem run {r : Routine σ α} {r' : Routine τ α} (shadows : Shadows view r r') (s : σ) :
    ((r.run s).1, view (r.run s).2) = r'.run (view s) := by
  induction shadows generalizing s with
  | done a => rfl
  | act same rest ih =>
      simp only [Routine.run]
      rw [ih, same]
  | unseen same rest ih =>
      simp only [Routine.run]
      rw [ih, same]
  | pause rest ih => exact ih s

/-- Shadows follow one after the other. -/
theorem bind {r : Routine σ α} {r' : Routine τ α} {k : α → Routine σ β} {k' : α → Routine τ β}
    (first : Shadows view r r') (second : ∀ a, Shadows view (k a) (k' a)) :
    Shadows view (r.bind k) (r'.bind k') := by
  induction first with
  | done a => exact second a
  | act same rest ih => exact .act same ih
  | unseen same rest ih => exact .unseen same ih
  | pause rest ih => exact .pause ih

/-- A result may be changed on both sides at the end. -/
theorem map {r : Routine σ α} {r' : Routine τ α} (shadows : Shadows view r r') (f : α → β) :
    Shadows view (r.bind fun a => .done (f a)) (r'.bind fun a => .done (f a)) :=
  shadows.bind fun a => .done (f a)

/-- A single act is shadowed when its result and its effect are. -/
theorem modifyGet {f : σ → α × σ} {f' : τ → α × τ} (result : ∀ s, (f s).1 = (f' (view s)).1)
    (state : ∀ s, view (f s).2 = (f' (view s)).2) : Shadows view (.modifyGet f) (.modifyGet f') := by
  refine .act state ?_
  intro s
  rw [result]
  exact .done _

/-- A routine on a part of the state shadows the routine itself when the view shows that part. -/
theorem of_zoom {slot : Slot σ τ} (get : ∀ s, slot.get s = view s) (set : ∀ part s, view (slot.set part s) = part)
    (r : Routine τ α) : Shadows view (r.zoom slot) r := by
  induction r with
  | done a => exact .done a
  | act write next ih =>
      refine .act ?_ ?_
      · intro s
        rw [set, get]
      · intro s
        rw [get]
        exact ih (view s)
  | pause next ih => exact .pause ih

/-- On parts that are seen alike, a shadow of the part is a shadow of the whole. -/
theorem zoom {inner : ς → υ} {slot : Slot σ ς} {seen : Slot τ υ} (views : slot.Views view inner seen)
    (lawful : seen.Lawful) {r : Routine ς α} {r' : Routine υ α} (shadows : Shadows inner r r') :
    Shadows view (r.zoom slot) (r'.zoom seen) := by
  induction shadows with
  | done a => exact .done a
  | act same rest ih =>
      refine .act ?_ ?_
      · intro s
        rw [views.set, same, views.get]
      · intro s
        rw [← views.get]
        exact ih (slot.get s)
  | unseen same rest ih =>
      refine .unseen ?_ fun s => ih (slot.get s)
      intro s
      rw [views.set, same, views.get, lawful.set_get]
  | pause rest ih => exact .pause ih

/-- What is a routine's own may be seen as a whole: it is the same on both sides. -/
theorem withOwn {r : Routine (σ × ς) α} {r' : Routine (τ × ς) α} (shadows : Shadows (Prod.map view id) r r')
    (own : ς) : Shadows view (r.withOwn own) (r'.withOwn own) := by
  induction shadows generalizing own with
  | done a => exact .done (a, own)
  | act same rest ih =>
      refine .act (fun s => congrArg Prod.fst (same (s, own))) ?_
      intro s
      have kept := congrArg Prod.snd (same (s, own))
      exact kept ▸ ih (s, own) _
  | unseen same rest ih =>
      refine .unseen (fun s => congrArg Prod.fst (same (s, own))) ?_
      intro s
      have kept := congrArg Prod.snd (same (s, own))
      exact kept ▸ ih (s, own) _
  | pause rest ih => exact .pause (ih own)

/-! ### Lookups -/

section

variable [DecidableEq κ] {slot : Slot σ (Memo κ ν)} {seen : Slot τ (Memo κ ν)}

/-- A lookup hits and misses alike when the table is seen as it is. -/
theorem tryLookup (views : slot.Views view id seen) (key : κ) {compute : Routine σ (Except ε ν)}
    {compute' : Routine τ (Except ε ν)} (shadows : Shadows view compute compute') :
    Shadows view (Memo.tryLookup slot key compute) (Memo.tryLookup seen key compute') := by
  rw [Memo.tryLookup_eq, Memo.tryLookup_eq]
  refine .act (fun _ => rfl) ?_
  intro s
  have table : slot.get s = seen.get (view s) := views.get s
  simp only [table]
  cases (seen.get (view s)).get? key with
  | some value => exact .done _
  | none =>
      refine shadows.bind ?_
      intro result
      cases result with
      | error e => exact .done _
      | ok made =>
          refine .act ?_ ?_
          · intro s
            have table : slot.get s = seen.get (view s) := views.get s
            rw [views.set, table]
            rfl
          · intro s
            have table : slot.get s = seen.get (view s) := views.get s
            rw [table]
            exact .done _

theorem lookup (views : slot.Views view id seen) (key : κ) {compute : Routine σ ν} {compute' : Routine τ ν}
    (shadows : Shadows view compute compute') :
    Shadows view (Memo.lookup slot key compute) (Memo.lookup seen key compute') := by
  rw [Memo.lookup_eq_tryLookup, Memo.lookup_eq_tryLookup]
  refine (tryLookup views key (shadows.map _)).bind ?_
  intro result
  cases result with
  | error e => exact e.elim
  | ok value => exact .done value

end

/-! ### Rounds -/

/-- The turn of the second routine, where the next rounds are known to shadow each other. -/
theorem secondTurn {first : Routine σ (Except ε α)} {first' : Routine τ (Except ε α)}
    {again : Routine σ (Except ε β) → Routine σ (Except ε (α × β))}
    {again' : Routine τ (Except ε β) → Routine τ (Except ε (α × β))}
    {second : Routine σ (Except ε β)} {second' : Routine τ (Except ε β)}
    (waiting : Shadows view first first')
    (later : ∀ {rest rest'}, Shadows view rest rest' → Shadows view (again rest) (again' rest'))
    (shadows : Shadows view second second') :
    Shadows view (Routine.secondTurn first again second) (Routine.secondTurn first' again' second') := by
  induction shadows with
  | done result =>
      cases result with
      | error e => exact .done _
      | ok b => exact .pause (waiting.map _)
  | act same rest ih => exact .act same ih
  | unseen same rest ih => exact .unseen same ih
  | pause rest => exact .pause (later rest)

/-- Two routines in rounds are shadowed round by round. -/
theorem tryJoin {first : Routine σ (Except ε α)} {first' : Routine τ (Except ε α)}
    {second : Routine σ (Except ε β)} {second' : Routine τ (Except ε β)}
    (firstShadows : Shadows view first first') (secondShadows : Shadows view second second') :
    Shadows view (Routine.tryJoin first second) (Routine.tryJoin first' second') := by
  induction firstShadows generalizing second second' with
  | done result =>
      cases result with
      | error e => exact .done _
      | ok a => exact secondShadows.map _
  | act same rest ih => exact .act same fun s => ih s secondShadows
  | unseen same rest ih => exact .unseen same fun s => ih s secondShadows
  | pause rest ih => exact secondTurn rest ih secondShadows

/-- Any number of routines in rounds, each with its shadow. -/
theorem tryAll {ι : Type} {routine : ι → Routine σ (Except ε α)} {routine' : ι → Routine τ (Except ε α)}
    (each : ∀ i, Shadows view (routine i) (routine' i)) :
    ∀ items : List ι, Shadows view (Routine.tryAll (items.map routine)) (Routine.tryAll (items.map routine'))
  | [] => .done _
  | i :: rest => ((each i).tryJoin (tryAll each rest)).map _

/-- Routines one after the other, up to the first failure, which both sides have in common. -/
theorem trySequence {ι : Type} {routine : ι → Routine σ (Except ε α)} {routine' : ι → Routine τ (Except ε α)}
    (each : ∀ i, Shadows view (routine i) (routine' i)) :
    ∀ items : List ι,
      Shadows view (Routine.trySequence (items.map routine)) (Routine.trySequence (items.map routine'))
  | [] => .done _
  | i :: rest => by
      refine (each i).bind ?_
      intro result
      cases result with
      | error e => exact .done _
      | ok a => exact (trySequence each rest).map _

end Shadows

end Routine

end SassRenderLint
