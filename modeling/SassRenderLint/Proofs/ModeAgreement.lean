/-
Module: SassRenderLint.Proofs.ModeAgreement
Layer: Proofs
Purpose: Rendering in rounds and rendering one after the other. Where each renderer comes to the same result
  both ways, the two modes succeed together, with the same diagnostics in the order of the renderers, in
  whatever order the renderers end. When they fail, the first failing renderer decides in the one mode
  and some failing renderer in the other.
Main exports: Toolchain.assures_concurrent, Toolchain.assures_blocking, Toolchain.RendersAlike,
  Toolchain.modes_agree
-/
import SassRenderLint.Proofs.Assurance
import SassRenderLint.Render.Batch

namespace SassRenderLint

/-! ### The first failure of a list -/

section

variable {ι α ε : Type} {f : ι → Except ε α}

/-- Going through a list up to the first failure gives all values exactly if nothing fails. -/
theorem mapM_eq_ok_iff {items : List ι} {values : List α} :
    items.mapM f = .ok values ↔ items.map f = values.map .ok := by
  induction items generalizing values with
  | nil => cases values <;> simp [pure, Except.pure]
  | cons i rest ih =>
      rw [List.mapM_cons]
      cases values with
      | nil => cases f i <;> cases rest.mapM f <;> simp [bind, Except.bind, pure, Except.pure]
      | cons a values =>
          rw [List.map_cons, List.map_cons, List.cons.injEq, ← ih]
          cases f i <;> cases rest.mapM f <;> simp [bind, Except.bind, pure, Except.pure]

/-- Otherwise it gives the failure that has only values before it. -/
theorem mapM_eq_error_iff {items : List ι} {e : ε} :
    items.mapM f = .error e ↔
      ∃ before i after, items = before ++ i :: after ∧ (∀ j ∈ before, ∃ a, f j = .ok a) ∧ f i = .error e := by
  induction items with
  | nil => simp [pure, Except.pure]
  | cons first rest ih =>
      rw [List.mapM_cons]
      constructor
      · intro fails
        cases here : f first with
        | error e' =>
            rw [here] at fails
            cases fails
            exact ⟨[], first, rest, rfl, nofun, here⟩
        | ok a =>
            have later : rest.mapM f = .error e := by
              rw [here] at fails
              cases others : rest.mapM f <;> simp_all [bind, Except.bind, pure, Except.pure]
            obtain ⟨before, i, after, split, fine, failure⟩ := ih.1 later
            refine ⟨first :: before, i, after, congrArg (List.cons first) split, ?_, failure⟩
            simpa [here] using fine
      · rintro ⟨before, i, after, split, fine, failure⟩
        cases before with
        | nil =>
            cases split
            rw [failure]
            rfl
        | cons j before =>
            obtain ⟨rfl, tail⟩ := List.cons.inj split
            obtain ⟨a, here⟩ := fine first List.mem_cons_self
            have later : rest.mapM f = .error e :=
              ih.2 ⟨before, i, after, tail, fun k member => fine k (List.mem_cons_of_mem _ member), failure⟩
            rw [here, later]
            rfl

end

namespace Toolchain

variable {ω ρ : Type} {t : Toolchain ω ρ} {steady : ω → Prop} {options : CompilerOptions} {renderers : List ρ}
  {result : ρ → RenderResult}

/-! ### The two modes -/

/-- What can come of the renderers in rounds: the diagnostics of all, or the failure of one. -/
def DueTogether (results : List RenderResult) : RenderResult → Prop
  | .ok diagnostics => ∃ batches : List (List Diagnostic), results = batches.map .ok ∧ diagnostics = batches.flatten
  | .error e => .error e ∈ results

/-- Renderers in rounds, each of which has one result, in whatever order they end. -/
theorem assures_concurrent
    (each : ∀ r ∈ renderers, (t.render r options).Assures steady (· = result r)) :
    (t.renderAll renderers options .concurrent).Assures steady (DueTogether (renderers.map result)) := by
  have joined : (t.batches renderers options .concurrent).Assures steady (Routine.Assures.DueOf (renderers.map result)) :=
    .tryAll each
  refine joined.map ?_
  intro batches ends
  cases batches with
  | ok batches => exact ⟨batches, ends, rfl⟩
  | error e => exact ends

/-- Renderers one after the other, each of which has one result. -/
theorem assures_blocking
    (each : ∀ r ∈ renderers, ∀ env, steady env →
      (t.renderBlocking r options env).1 = result r ∧ steady (t.renderBlocking r options env).2) :
    (t.renderAll renderers options .blocking).Assures steady
      (· = (renderers.mapM result).map List.flatten) := by
  have inTurn : (t.batches renderers options .blocking).Assures steady (· = renderers.mapM result) :=
    .trySequence fun r member => .modifyGet (each r member)
  refine inTurn.map ?_
  rintro _ rfl
  rfl

/-- A renderer comes to one result, with suspensions and at once, as long as the surroundings are steady,
    and leaves them so. It may be suspended as often as it likes. -/
structure RendersAlike (t : Toolchain ω ρ) (steady : ω → Prop) (options : CompilerOptions) (renderer : ρ)
    (result : RenderResult) : Prop where
  concurrent : (t.render renderer options).Assures steady (· = result)
  blocking (env : ω) : steady env →
    (t.renderBlocking renderer options env).1 = result ∧ steady (t.renderBlocking renderer options env).2

/-- In turn, rendering succeeds exactly if each renderer does. -/
theorem blocking_eq_ok_iff {diagnostics : List Diagnostic} :
    (renderers.mapM result).map List.flatten = .ok diagnostics ↔
      ∃ batches : List (List Diagnostic), renderers.map result = batches.map .ok ∧ diagnostics = batches.flatten := by
  constructor
  · intro succeeds
    cases gathered : renderers.mapM result with
    | error e =>
        rw [gathered] at succeeds
        cases succeeds
    | ok batches =>
        rw [gathered] at succeeds
        cases succeeds
        exact ⟨batches, mapM_eq_ok_iff.1 gathered, rfl⟩
  · rintro ⟨batches, each, rfl⟩
    rw [mapM_eq_ok_iff.2 each]
    rfl

/-- In turn, the failure is that of the first renderer that fails. -/
theorem blocking_eq_error_iff {e : CompileError} :
    (renderers.mapM result).map List.flatten = .error e ↔
      ∃ before r after, renderers = before ++ r :: after ∧ (∀ q ∈ before, ∃ batch, result q = .ok batch) ∧
        result r = .error e := by
  rw [← mapM_eq_error_iff]
  cases renderers.mapM result <;> simp [Except.map]

/-- Where only one renderer fails, its failure is the only one to end with. -/
theorem dueTogether_of_onlyFailure {before after : List ρ} {r : ρ} {e : CompileError} {outcome : RenderResult}
    (due : DueTogether ((before ++ r :: after).map result) outcome) (failure : result r = .error e)
    (others : ∀ q ∈ before ++ after, ∃ batch, result q = .ok batch) : outcome = .error e := by
  have present : r ∈ before ++ r :: after := List.mem_append_right before List.mem_cons_self
  cases outcome with
  | ok diagnostics =>
      obtain ⟨batches, same, _⟩ := due
      have failed : .error e ∈ (before ++ r :: after).map result := List.mem_map.2 ⟨r, present, failure⟩
      rw [same] at failed
      simp at failed
  | error e' =>
      obtain ⟨q, member, failed⟩ := List.mem_map.1 due
      have only : q = r := by
        by_contra different
        have elsewhere : q ∈ before ++ after := by simpa [different] using member
        obtain ⟨batch, succeeded⟩ := others q elsewhere
        rw [succeeded] at failed
        cases failed
      rw [← failed, only, failure]

/-- Where nothing fails, there is no failure to end with. -/
theorem dueTogether_of_batches {batches : List (List Diagnostic)} {outcome : RenderResult}
    (due : DueTogether (batches.map .ok) outcome) : outcome = .ok batches.flatten := by
  cases outcome with
  | error e => simp [DueTogether] at due
  | ok diagnostics =>
      obtain ⟨others, same, rfl⟩ := due
      have injective : Function.Injective (Except.ok : List Diagnostic → RenderResult) := fun _ _ => Except.ok.inj
      rw [List.map_injective_iff.2 injective same]

/-! ### Agreement -/

/-- Each renderer comes to the same result with suspensions and without, however often it is suspended. Then
    the two modes succeed together, and with the same diagnostics: those of the renderers, in their order.
    One after the other they fail with the failure of the first renderer that fails, in rounds with the
    failure of one that fails; if only one does, both fail with that. -/
theorem modes_agree (t : Toolchain ω ρ) (renderers : List ρ) (options : CompilerOptions) (steady : ω → Prop)
    (result : ρ → RenderResult) (alike : ∀ r ∈ renderers, t.RendersAlike steady options r (result r)) (env : ω)
    (start : steady env) :
    let concurrent := ((t.renderAll renderers options .concurrent).run env).1
    let blocking := ((t.renderAll renderers options .blocking).run env).1
    ((∃ diagnostics, concurrent = .ok diagnostics) ↔ ∃ diagnostics, blocking = .ok diagnostics) ∧
    (∀ diagnostics, concurrent = .ok diagnostics ↔
      ∃ batches : List (List Diagnostic), renderers.map result = batches.map .ok ∧ diagnostics = batches.flatten) ∧
    (∀ diagnostics, blocking = .ok diagnostics ↔
      ∃ batches : List (List Diagnostic), renderers.map result = batches.map .ok ∧ diagnostics = batches.flatten) ∧
    (∀ e, blocking = .error e ↔
      ∃ before r after, renderers = before ++ r :: after ∧ (∀ q ∈ before, ∃ batch, result q = .ok batch) ∧
        result r = .error e) ∧
    (∀ e, concurrent = .error e → ∃ r ∈ renderers, result r = .error e) ∧
    ∀ before r after e, renderers = before ++ r :: after → result r = .error e →
      (∀ q ∈ before ++ after, ∃ batch, result q = .ok batch) → concurrent = .error e ∧ blocking = .error e := by
  intro concurrent blocking
  have together : DueTogether (renderers.map result) concurrent :=
    ((assures_concurrent fun r member => (alike r member).concurrent).run start).1
  have inTurn : blocking = (renderers.mapM result).map List.flatten :=
    ((assures_blocking fun r member => (alike r member).blocking).run start).1
  have succeeds : ∀ diagnostics, concurrent = .ok diagnostics ↔
      ∃ batches : List (List Diagnostic), renderers.map result = batches.map .ok ∧ diagnostics = batches.flatten := by
    intro diagnostics
    constructor
    · intro ends
      rw [ends] at together
      exact together
    · rintro ⟨batches, each, rfl⟩
      rw [each] at together
      exact dueTogether_of_batches together
  have fails : ∀ e, concurrent = .error e → ∃ r ∈ renderers, result r = .error e := by
    intro e ends
    rw [ends] at together
    exact List.mem_map.1 together
  rw [inTurn]
  refine ⟨?_, succeeds, fun _ => blocking_eq_ok_iff, fun _ => blocking_eq_error_iff, fails, ?_⟩
  · apply exists_congr
    intro diagnostics
    exact (succeeds diagnostics).trans blocking_eq_ok_iff.symm
  · intro before r after e split failure others
    have fineBefore : ∀ q ∈ before, ∃ batch, result q = .ok batch :=
      fun q member => others q (List.mem_append_left after member)
    constructor
    · rw [split] at together
      exact dueTogether_of_onlyFailure together failure others
    · exact blocking_eq_error_iff.2 ⟨before, r, after, split, fineBefore, failure⟩

/-- Renderers that are told how often to be suspended and what to come to. The surroundings count all
    suspensions. -/
def prompted : Toolchain Nat (Nat × RenderResult) where
  build _ env := ((0, .ok []), env)
  buildUndefined _ _ env := ((0, .ok []), env)
  render r _ := (Routine.pauses (· + 1) r.1).bind fun _ => .done r.2
  renderBlocking r _ env := (r.2, env)

/-- A renderer that is told what to come to comes to it in both modes. -/
theorem prompted_rendersAlike (options : CompilerOptions) (r : Nat × RenderResult) :
    prompted.RendersAlike (fun _ => True) options r r.2 where
  concurrent := (Routine.Assures.pauses (fun _ _ => trivial) r.1).bind fun _ _ => rfl
  blocking _ _ := ⟨rfl, trivial⟩

/-- The first of two failing renderers is suspended longer than the second, so that each mode fails with
    another one's failure. -/
theorem modes_agree_slowFirst :
    let renderers : List (Nat × RenderResult) := [(2, .error ⟨"slow", none, none⟩), (0, .ok []), (1, .error ⟨"fast", none, none⟩)]
    let options : CompilerOptions := ⟨[], .content ""⟩
    (∀ r ∈ renderers, prompted.RendersAlike (fun _ => True) options r r.2) ∧
      ((prompted.renderAll renderers options .blocking).run 0).1 = .error ⟨"slow", none, none⟩ ∧
      ((prompted.renderAll renderers options .concurrent).run 0).1 = .error ⟨"fast", none, none⟩ ∧
      ∃ r ∈ renderers, r.2 = .error ⟨"fast", none, none⟩ := by
  intro renderers options
  have alike : ∀ r ∈ renderers, prompted.RendersAlike (fun _ => True) options r r.2 :=
    fun r _ => prompted_rendersAlike options r
  obtain ⟨_, _, _, first, some, _⟩ :=
    modes_agree prompted renderers options (fun _ => True) Prod.snd alike 0 trivial
  have slow := (first ⟨"slow", none, none⟩).2 ⟨[], _, _, rfl, nofun, rfl⟩
  exact ⟨alike, slow, rfl, some ⟨"fast", none, none⟩ rfl⟩

end Toolchain

end SassRenderLint
