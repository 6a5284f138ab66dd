/-
Module: SassRenderLint.Proofs.Reporting
Layer: Proofs
Purpose: What a check tells its reporter. A check that has nobody beside it ends as its stages do, one after
  the other; whatever the reporter is, it has then been told what there is to say, one remark after the
  other, or nothing at all if the check fails. So a check whose reporter writes everything down shows
  what any other reporter is told.
Main exports: Rule.told, Rule.verdict, Rule.run_checkTelling, Rule.run_check, Rule.run_run
-/
import SassRenderLint.Proofs.RoutineLaws
import SassRenderLint.Rule.Check

namespace SassRenderLint

namespace RuleState

variable {ω ρ : Type}

theorem envSlot_lawful : (envSlot : Slot (RuleState ω ρ) ω).Lawful where
  get_set _ _ := rfl
  set_get _ := rfl
  set_set _ _ _ := rfl

theorem configSlot_lawful : (configSlot : Slot (RuleState ω ρ) (ConfigState ω)).Lawful where
  get_set _ _ := rfl
  set_get _ := rfl
  set_set _ _ _ := rfl

theorem renderSlot_lawful : (renderSlot : Slot (RuleState ω ρ) (RenderState ω ρ)).Lawful where
  get_set _ _ := rfl
  set_get _ := rfl
  set_set _ _ _ := rfl

end RuleState

namespace Rule

variable {ω ρ σ ο : Type} (tell : ο → Remark → ο)

/-! ### Reports -/

/-- What a reporter is left with: it is told all there is to say, and nothing if the check fails. -/
def told (reporter : ο) : Except CompileError (List Remark) → ο
  | .ok said => said.foldl tell reporter
  | .error _ => reporter

/-- Told one by one, a reporter has been told all, and the state is as before. -/
theorem run_reportAll (said : List Remark) (s : σ) (reporter : ο) :
    (reportAll tell said).run (s, reporter) = ((), s, said.foldl tell reporter) := by
  induction said generalizing reporter with
  | nil => rfl
  | cons remark rest ih => exact ih (tell reporter remark)

/-- What is written down is all that was told, in order. -/
theorem foldl_noted (said before : List Remark) : said.foldl noted before = before ++ said := by
  induction said generalizing before with
  | nil => exact (List.append_nil before).symm
  | cons remark rest ih => rw [List.foldl_cons, ih, noted, List.append_assoc, List.singleton_append]

/-! ### Checks -/

/-- How a check under accepted options ends that has nobody beside it: what there is to say, or the failure,
    and the state that is left. -/
def verdictWith (rule : Rule ω ρ) (options : RuleOptions) (host : Host) (s : RuleState ω ρ) :
    Except CompileError (List Remark) × RuleState ω ρ :=
  match (rule.resolver.resolve host.target host.content options.sassOptions).run ⟨s.env, s.tables⟩ with
  | (.error e, config) => (.ok [failureRemark host e], ⟨config.env, config.tables, s.renderers⟩)
  | (.ok resolved, config) =>
    let built := (rule.toolchain.renderers rule.compiler options.undefinedFunctions).run ⟨config.env, s.renderers⟩
    let rendered := (rule.toolchain.renderAll built.1 resolved.options options.renderMode).run built.2.env
    (rendered.1.map (remarks host resolved.attributedFile), ⟨rendered.2, config.tables, built.2.renderers⟩)

/-- The same under options as they are given. -/
def verdict (rule : Rule ω ρ) (given : Json) (host : Host) (s : RuleState ω ρ) :
    Except CompileError (List Remark) × RuleState ω ρ :=
  match RuleOptions.parse given with
  | .error e => (.ok [.invalidOption e.message], s)
  | .ok none => (.ok [], s)
  | .ok (some options) => rule.verdictWith options host s

/-- Resolving acts on the surroundings and on what the resolver remembers, not on the renderers. -/
theorem run_zoom_resolve (rule : Rule ω ρ) (options : RuleOptions) (host : Host) (s : RuleState ω ρ) :
    ((rule.resolver.resolve host.target host.content options.sassOptions).zoom RuleState.configSlot).run s =
      let resolved := (rule.resolver.resolve host.target host.content options.sassOptions).run ⟨s.env, s.tables⟩
      (resolved.1, ⟨resolved.2.env, resolved.2.tables, s.renderers⟩) :=
  Routine.run_zoom RuleState.configSlot_lawful _ s

/-- Rendering acts on the surroundings and on the renderers, not on what the resolver remembers. -/
theorem run_render (rule : Rule ω ρ) (options : RuleOptions) (resolved : ResolvedOptions) (s : RuleState ω ρ) :
    (rule.render options resolved).run s =
      let built := (rule.toolchain.renderers rule.compiler options.undefinedFunctions).run ⟨s.env, s.renderers⟩
      let rendered := (rule.toolchain.renderAll built.1 resolved.options options.renderMode).run built.2.env
      (rendered.1, ⟨rendered.2, s.tables, built.2.renderers⟩) := by
  rw [render, Routine.run_bind, Routine.run_zoom RuleState.renderSlot_lawful, Routine.run_zoom RuleState.envSlot_lawful]
  rfl

/-- Run alone, a check under accepted options ends as the verdict says, and has told its reporter what the
    verdict says. -/
theorem run_checkWith (rule : Rule ω ρ) (options : RuleOptions) (host : Host) (s : RuleState ω ρ) (reporter : ο) :
    (rule.checkWith tell options host).run (s, reporter) =
      let ended := rule.verdictWith options host s
      (ended.1.map fun _ => (), ended.2, told tell reporter ended.1) := by
  rw [checkWith, Routine.run_bind, Routine.run_zoom_shared, run_zoom_resolve, verdictWith]
  cases resolving : (rule.resolver.resolve host.target host.content options.sassOptions).run ⟨s.env, s.tables⟩ with
  | mk result config =>
      cases result with
      | error e => rfl
      | ok resolved =>
          simp only [Routine.run_bind, Routine.run_zoom_shared, run_render]
          -- Only here can the check fail, and the reporter has not been told anything yet.
          cases (rule.toolchain.renderAll ((rule.toolchain.renderers rule.compiler options.undefinedFunctions).run
              ⟨config.env, s.renderers⟩).1 resolved.options options.renderMode).run _ with
          | mk rendered last =>
              cases rendered with
              | error e => rfl
              | ok diagnostics =>
                  simp only [Routine.run_bind, run_reportAll]
                  rfl

/-- A check ends as its stages do, and has told its reporter what there is to say unless it fails. -/
theorem run_checkTelling (rule : Rule ω ρ) (given : Json) (host : Host) (s : RuleState ω ρ) (reporter : ο) :
    (rule.checkTelling tell given host).run (s, reporter) =
      ((rule.verdict given host s).1.map fun _ => (), (rule.verdict given host s).2,
        told tell reporter (rule.verdict given host s).1) := by
  rw [checkTelling, verdict]
  cases RuleOptions.parse given with
  | error e => rfl
  | ok enabled =>
      cases enabled with
      | none => rfl
      | some options => exact rule.run_checkWith tell options host s reporter

/-- With a reporter that writes everything down, the check gives the verdict itself. -/
theorem run_check (rule : Rule ω ρ) (given : Json) (host : Host) (s : RuleState ω ρ) :
    (rule.check given host).run s = rule.verdict given host s := by
  rw [check, Routine.run_bind, Routine.run_withOwn, run_checkTelling]
  cases ended : rule.verdict given host s with
  | mk result after =>
      cases result with
      | error e => rfl
      | ok said =>
          have all : told noted [] (.ok said) = said := foldl_noted said []
          simp only [Except.map, all]
          rfl

/-- A run gives what a collector makes of the verdict. -/
theorem run_run (rule : Rule ω ρ) (given : Json) (host : Host) (s : RuleState ω ρ) :
    (rule.run given host).run s =
      ((rule.verdict given host s).1.map fun said =>
          ((Collector.start host.wordSource).recordAll said).result host.target.identifier,
        (rule.verdict given host s).2) := by
  rw [run, Routine.run_bind, Routine.run_withOwn, run_checkTelling]
  cases ended : rule.verdict given host s with
  | mk result after => cases result <;> rfl

end Rule

end SassRenderLint
