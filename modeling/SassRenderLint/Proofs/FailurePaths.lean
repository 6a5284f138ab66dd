/-
Module: SassRenderLint.Proofs.FailurePaths
Layer: Proofs
Purpose: How a check can end. The rule is off, or its options are refused, and nothing is called; or the
  compiler options cannot be resolved, which is said once, at the root, without a call of the
  toolchain and with what is remembered of imports and renderers left as it was; or a renderer fails,
  and with it the check, with the renderer's own error and with the reporter as it was before; or the
  check goes through. There is no other way.
Main exports: Rule.Unresolved, Resolver.imports_of_failed_resolve, Toolchain.exists_allSucceed,
  Rule.outcome_cases, Rule.reporter_of_failure, Rule.check_outcomes
-/
import SassRenderLint.Proofs.MemoClearing
import SassRenderLint.Proofs.Watching
import SassRenderLint.Proofs.WordPositions

namespace SassRenderLint

/-! ### Failed lookups -/

/-- A lookup that fails leaves behind what its computation leaves behind. -/
theorem Memo.run_tryLookup_error {σ κ ν ε : Type} [DecidableEq κ] {slot : Slot σ (Memo κ ν)} {key : κ}
    {compute : Routine σ (Except ε ν)} {s t : σ} {e : ε}
    (fails : (tryLookup slot key compute).run s = (.error e, t)) : compute.run s = (.error e, t) := by
  rw [tryLookup_eq] at fails
  simp only [Routine.run, id] at fails
  cases known : (slot.get s).get? key with
  | some value => simp [known, Routine.run] at fails
  | none =>
      simp only [known, Routine.run_bind] at fails
      cases computed : compute.run s with
      | mk result after =>
          rw [computed] at fails
          cases result with
          | error e' => exact fails
          | ok value => simp [conclude, Routine.run] at fails

namespace Resolver

variable {ω : Type}

/-- Looking for a location leaves the imports alone. -/
theorem imports_location (r : Resolver ω) (specifier : String) (s : ConfigState ω) :
    ((r.location specifier).run s).2.tables.imports = s.tables.imports :=
  (r.quiet_location specifier).run s

/-- A failed import is not remembered. -/
theorem imports_of_failed_importModule {r : Resolver ω} {path : Path} {s t : ConfigState ω} {e : ConfigError}
    (fails : (r.importModule path).run s = (.error e, t)) : t.tables.imports = s.tables.imports := by
  have loading := Memo.run_tryLookup_error fails
  rw [Routine.run_zoom ConfigState.envSlot_lawful] at loading
  obtain ⟨-, rfl⟩ := Prod.mk.inj loading
  rfl

/-- A failure to resolve leaves the remembered imports as they were. -/
theorem imports_of_failed_resolve {r : Resolver ω} {target : Target} {content : String} {config : CompilerConfig}
    {s t : ConfigState ω} {e : ConfigError} (fails : (r.resolve target content config).run s = (.error e, t)) :
    t.tables.imports = s.tables.imports := by
  rw [resolve, Routine.run_bind] at fails
  simp only [Routine.run, Prod.mk.injEq] at fails
  obtain ⟨result, rfl⟩ := fails
  cases config with
  | inline fields => cases result
  | fromModule specifier =>
      have before := r.imports_location specifier s
      rw [baseOptions, Routine.run_bind] at result ⊢
      cases found : ((r.location specifier).run s).1 with
      | error e' => exact before
      | ok path =>
          simp only [found] at result
          show ((r.importModule path).run _).2.tables.imports = _
          cases imported : (r.importModule path).run ((r.location specifier).run s).2 with
          | mk answer after =>
              rw [imported] at result
              cases answer with
              | ok fields => cases result
              | error e' => exact (imports_of_failed_importModule imported).trans before

end Resolver

/-! ### Renderers that all succeed -/

/-- Where a failure ends the whole, a success of the whole goes back to one of its beginning. -/
theorem Routine.exists_run_of_bind_ok {σ α β ε : Type} {r : Routine σ (Except ε α)}
    {k : Except ε α → Routine σ (Except ε β)} {s t : σ} {b : β} (runs : (r.bind k).run s = (.ok b, t))
    (failure : ∀ e, k (.error e) = .done (.error e)) :
    ∃ a u, r.run s = (.ok a, u) ∧ (k (.ok a)).run u = (.ok b, t) := by
  rw [run_bind] at runs
  cases ended : r.run s with
  | mk result u =>
      rw [ended] at runs
      cases result with
      | error e =>
          simp only [failure] at runs
          cases runs
      | ok a => exact ⟨a, u, rfl, runs⟩

namespace Toolchain

variable {ω ρ : Type}

/-- Batches come of rendering in turn only if each renderer has succeeded with its own. -/
theorem succeedInTurn_of_run {t : Toolchain ω ρ} {options : CompilerOptions} {last : ω} :
    ∀ {renderers : List ρ} {env : ω} {batches : List (List Diagnostic)},
      (Routine.trySequence (renderers.map fun r => .modifyGet (t.renderBlocking r options))).run env =
          (.ok batches, last) →
        t.SucceedInTurn options renderers env batches last
  | [], _, _, runs => by
      cases runs
      rfl
  | r :: rest, env, batches, runs => by
      rw [List.map_cons, Routine.trySequence] at runs
      obtain ⟨batch, next, rendered, others⟩ := Routine.exists_run_of_bind_ok runs fun _ => rfl
      obtain ⟨more, after, succeeded, ends⟩ := Routine.exists_run_of_bind_ok others fun _ => rfl
      cases ends
      exact ⟨next, rendered, succeedInTurn_of_run succeeded⟩

/-- Rendering ends with diagnostics only if all renderers succeed, and those are theirs. -/
theorem exists_allSucceed {t : Toolchain ω ρ} {renderers : List ρ} {options : CompilerOptions} {mode : RenderMode}
    {env last : ω} {diagnostics : List Diagnostic}
    (runs : (t.renderAll renderers options mode).run env = (.ok diagnostics, last)) :
    ∃ batches, t.AllSucceed renderers options mode env batches last := by
  rw [renderAll] at runs
  obtain ⟨batches, after, gathered, ends⟩ := Routine.exists_run_of_bind_ok runs fun _ => rfl
  cases ends
  refine ⟨batches, ?_⟩
  cases mode with
  | concurrent => exact Routine.exists_rounds_of_run_tryAll gathered
  | blocking => exact succeedInTurn_of_run gathered

end Toolchain

namespace Rule

variable {ω ρ : Type}

/-- The options are accepted, but resolving the compiler options fails. -/
def Unresolved (rule : Rule ω ρ) (given : Json) (host : Host) (s : RuleState ω ρ) (e : ConfigError)
    (config : ConfigState ω) : Prop :=
  ∃ options, RuleOptions.parse given = .ok (some options) ∧
    (rule.resolver.resolve host.target host.content options.sassOptions).run ⟨s.env, s.tables⟩ = (.error e, config)

/-- A failure to resolve is the one remark of its check, and no renderer is built. -/
theorem check_of_unresolved {rule : Rule ω ρ} {given : Json} {host : Host} {s : RuleState ω ρ} {e : ConfigError}
    {config : ConfigState ω} (unresolved : rule.Unresolved given host s e config) :
    (rule.check given host).run s = (.ok [failureRemark host e], ⟨config.env, config.tables, s.renderers⟩) := by
  obtain ⟨options, accepted, fails⟩ := unresolved
  simp only [run_check, verdict, accepted, verdictWith, fails]

/-- A check that is resolved and does not fail goes through. -/
theorem exists_passage {rule : Rule ω ρ} {given : Json} {host : Host} {s : RuleState ω ρ} {options : RuleOptions}
    {resolved : ResolvedOptions} {config : ConfigState ω} {said : List Remark}
    (accepted : RuleOptions.parse given = .ok (some options))
    (resolves : (rule.resolver.resolve host.target host.content options.sassOptions).run ⟨s.env, s.tables⟩ =
      (.ok resolved, config))
    (checked : ((rule.check given host).run s).1 = .ok said) : Nonempty (rule.Passage given host s) := by
  rw [check_of_resolved accepted resolves] at checked
  cases builds : (rule.toolchain.renderers rule.compiler options.undefinedFunctions).run
      ⟨config.env, s.renderers⟩ with
  | mk renderers rendering =>
      simp only [builds] at checked
      cases renders : (rule.toolchain.renderAll renderers resolved.options options.renderMode).run rendering.env with
      | mk result last =>
          rw [renders] at checked
          cases result with
          | error e => cases checked
          | ok diagnostics =>
              obtain ⟨batches, succeed⟩ := Toolchain.exists_allSucceed renders
              exact ⟨⟨options, resolved, config, renderers, rendering, batches, last, accepted, resolves, builds,
                succeed⟩⟩

/-- Where resolving fails it also fails watched, and no call of the toolchain is written down. -/
theorem Unresolved.exists_watched {rule : Rule ω ρ} {given : Json} {host : Host} {s : RuleState ω ρ}
    {e : ConfigError} {config : ConfigState ω} (unresolved : rule.Unresolved given host s e config) :
    ∃ watched, rule.watched.Unresolved given host s.watched e watched ∧ watched.env.toolCalls = [] := by
  obtain ⟨options, accepted, fails⟩ := unresolved
  let start : ConfigState (Watched ω ρ) := ⟨⟨s.env, [], []⟩, s.tables⟩
  have same := (rule.resolver.shadows_watched_resolve host.target host.content options.sassOptions).run start
  have quiet := (rule.resolver.quiet_watched_resolve host.target host.content options.sassOptions).run start
  have failsToo := congrArg Prod.fst (same.trans fails)
  exact ⟨_, ⟨options, accepted, Prod.ext failsToo rfl⟩, quiet⟩

/-- Nor is anything asked of the toolchain. -/
theorem toolCalls_of_unresolved {rule : Rule ω ρ} {given : Json} {host : Host} {s : RuleState ω ρ}
    {e : ConfigError} {config : ConfigState ω} (unresolved : rule.Unresolved given host s e config) :
    (rule.watch given host s).toolCalls = [] := by
  obtain ⟨watched, failsToo, noCalls⟩ := unresolved.exists_watched
  rw [watch, check_of_unresolved failsToo]
  exact noCalls

/-- A failure to resolve is recorded once, without a width, on the first line. -/
theorem run_of_unresolved {rule : Rule ω ρ} {given : Json} {host : Host} {s : RuleState ω ρ} {e : ConfigError}
    {config : ConfigState ω} (unresolved : rule.Unresolved given host s e config) :
    ((rule.run given host).run s).1 =
      let place : Position := ⟨1, (host.root.start.map Position.column).getD 1⟩
      .ok ⟨host.target.identifier, [⟨place, place, ruleName, .error, ruleMessage e.message⟩], [], 1, 0⟩ := by
  have recorded : Collector.warningOf host.wordSource host.root 1 none (ruleMessage e.message) .error =
      ⟨Collector.emptyPlace host.root 1, Collector.emptyPlace host.root 1, ruleName, .error,
        ruleMessage e.message⟩ := by
    rw [Collector.warningOf, Collector.place_none]
  rw [run_run, ← run_check, check_of_unresolved unresolved]
  simp only [Except.map, failureRemark, Collector.recordAll, List.foldl, Collector.record, Collector.start, recorded]
  rfl

/-- A renderer's failure is written down exactly if the check fails with it. -/
theorem exists_failed_iff (rule : Rule ω ρ) (given : Json) (host : Host) (s : RuleState ω ρ) (e : CompileError) :
    (∃ renderer, .failed renderer e ∈ (rule.watch given host s).toolCalls) ↔
      ((rule.check given host).run s).1 = .error e := by
  rw [← ToolCall.mem_failures]
  show e ∈ (rule.watch given host s).failures ↔ _
  rw [failures_watch]
  cases ((rule.check given host).run s).1 with
  | ok said => simp [Routine.failureIn]
  | error e' => simp [Routine.failureIn, eq_comm]

/-- A failed check is a failed run, whatever the collector has recorded. -/
theorem run_of_check_error {rule : Rule ω ρ} {given : Json} {host : Host} {s : RuleState ω ρ} {e : CompileError}
    (fails : ((rule.check given host).run s).1 = .error e) : ((rule.run given host).run s).1 = .error e := by
  rw [run_check] at fails
  rw [run_run, fails]
  rfl

section

variable {ο : Type} {tell : ο → Remark → ο} {rule : Rule ω ρ} {given : Json} {host : Host} {s : RuleState ω ρ}
  {reporter : ο}

/-- The check of one reporter shows that of any other. -/
theorem checkTelling_eq_check :
    (rule.checkTelling tell given host).run (s, reporter) =
      (((rule.check given host).run s).1.map fun _ => (), ((rule.check given host).run s).2,
        told tell reporter ((rule.check given host).run s).1) := by
  rw [run_checkTelling, run_check]

/-- A check fails with one reporter exactly if it does with any other. -/
theorem checkTelling_error_iff {e : CompileError} :
    ((rule.checkTelling tell given host).run (s, reporter)).1 = .error e ↔
      ((rule.check given host).run s).1 = .error e := by
  rw [checkTelling_eq_check]
  cases ((rule.check given host).run s).1 <;> simp [Except.map]

/-- A check that fails has not told its reporter anything. -/
theorem reporter_of_failure {e : CompileError}
    (fails : ((rule.checkTelling tell given host).run (s, reporter)).1 = .error e) :
    ((rule.checkTelling tell given host).run (s, reporter)).2.2 = reporter := by
  have checked := checkTelling_error_iff.1 fails
  rw [checkTelling_eq_check, checked]
  rfl

end

/-- There are five ways for a check to end. -/
theorem outcome_cases (rule : Rule ω ρ) (given : Json) (host : Host) (s : RuleState ω ρ) :
    RuleOptions.parse given = .ok none ∨ (∃ e, RuleOptions.parse given = .error e) ∨
      (∃ e config, rule.Unresolved given host s e config) ∨
      (∃ e, ((rule.check given host).run s).1 = .error e) ∨ Nonempty (rule.Passage given host s) := by
  cases accepted : RuleOptions.parse given with
  | error e => exact .inr (.inl ⟨e, rfl⟩)
  | ok enabled =>
      cases enabled with
      | none => exact .inl rfl
      | some options =>
          refine .inr (.inr ?_)
          cases resolving : (rule.resolver.resolve host.target host.content options.sassOptions).run
              ⟨s.env, s.tables⟩ with
          | mk result config =>
              cases result with
              | error e => exact .inl ⟨e, config, options, accepted, resolving⟩
              | ok resolved =>
                  refine .inr ?_
                  cases checked : ((rule.check given host).run s).1 with
                  | error e => exact .inl ⟨e, rfl⟩
                  | ok said => exact .inr (exists_passage accepted resolving checked)

/-- How a check ends, whatever reporter it has. A rule that is off tells the reporter nothing, and refused options
    are told once and as such: both without a call, and with nothing changed. A failure to resolve the compiler
    options is told once, as an error without a word on the first line of the root: no renderer is built or
    called, what is remembered of renderers and imports stays, and it is recorded without a width. A check fails
    exactly with a failure that one of the renderers came to, and then the reporter has not been told anything.
    Otherwise it goes through. A check whose reporter writes everything down shows what any other is told. -/
theorem check_outcomes {ο : Type} (tell : ο → Remark → ο) (rule : Rule ω ρ) (given : Json) (host : Host)
    (s : RuleState ω ρ) (reporter : ο) :
    let ended := (rule.checkTelling tell given host).run (s, reporter)
    let watched := (rule.watched.checkTelling tell given host).run (s.watched, reporter)
    ended = (watched.1, watched.2.1.unwatched, watched.2.2) ∧ watched.2.1.env = rule.watch given host s ∧
    (RuleOptions.parse given = .ok none →
      ended = (.ok (), s, reporter) ∧ rule.watch given host s = ⟨s.env, [], []⟩) ∧
    (∀ e, RuleOptions.parse given = .error e →
      ended = (.ok (), s, tell reporter (.invalidOption e.message)) ∧ rule.watch given host s = ⟨s.env, [], []⟩) ∧
    (∀ e config, rule.Unresolved given host s e config →
      ended = (.ok (), ⟨config.env, config.tables, s.renderers⟩,
          tell reporter (.finding ⟨0, host.root⟩ 1 none (ruleMessage e.message) .error)) ∧
        config.tables.imports = s.tables.imports ∧ (rule.watch given host s).toolCalls = [] ∧
        ((rule.run given host).run s).1 =
          let place : Position := ⟨1, (host.root.start.map Position.column).getD 1⟩
          .ok ⟨host.target.identifier, [⟨place, place, ruleName, .error, ruleMessage e.message⟩], [], 1, 0⟩) ∧
    (∀ e, (∃ renderer, .failed renderer e ∈ (rule.watch given host s).toolCalls) ↔ ended.1 = .error e) ∧
    (∀ e, ended.1 = .error e → ended.2.2 = reporter ∧ ((rule.run given host).run s).1 = .error e) ∧
    (∀ said after, (rule.check given host).run s = (.ok said, after) →
      ended = (.ok (), after, said.foldl tell reporter)) ∧
    (∀ e after, (rule.check given host).run s = (.error e, after) → ended = (.error e, after, reporter)) ∧
    (RuleOptions.parse given = .ok none ∨ (∃ e, RuleOptions.parse given = .error e) ∨
      (∃ e config, rule.Unresolved given host s e config) ∨ (∃ e, ended.1 = .error e) ∨
      Nonempty (rule.Passage given host s)) := by
  intro ended watched
  refine ⟨?_, rule.env_watched_checkTelling tell given host s reporter, ?_, ?_, ?_, ?_, ?_, ?_, ?_, ?_⟩
  · exact ((rule.shadows_watched_checkTelling tell given host).run (s.watched, reporter)).symm
  · intro off
    rw [← rule.env_watched_checkTelling tell given host s reporter]
    simp only [ended, checkTelling, off]
    exact ⟨rfl, rfl⟩
  · intro e refused
    rw [← rule.env_watched_checkTelling tell given host s reporter]
    simp only [ended, checkTelling, refused]
    exact ⟨rfl, rfl⟩
  · intro e config unresolved
    have kept : config.tables.imports = s.tables.imports := by
      obtain ⟨options, _, fails⟩ := unresolved
      exact Resolver.imports_of_failed_resolve fails
    have once : ended = (.ok (), ⟨config.env, config.tables, s.renderers⟩, tell reporter (failureRemark host e)) := by
      simp only [ended, checkTelling_eq_check, check_of_unresolved unresolved]
      rfl
    exact ⟨once, kept, toolCalls_of_unresolved unresolved, run_of_unresolved unresolved⟩
  · intro e
    rw [exists_failed_iff]
    exact checkTelling_error_iff.symm
  · intro e fails
    exact ⟨reporter_of_failure fails, run_of_check_error (checkTelling_error_iff.1 fails)⟩
  · intro said after succeeds
    simp only [ended, checkTelling_eq_check, succeeds]
    rfl
  · intro e after fails
    simp only [ended, checkTelling_eq_check, fails]
    rfl
  · simp only [ended, checkTelling_error_iff]
    exact rule.outcome_cases given host s

/-- No module is found, and the second renderer fails while the first is suspended. -/
def brittle : Rule Unit Bool where
  compiler := ⟨0⟩
  toolchain := {
    build := fun _ env => (false, env)
    buildUndefined := fun _ _ env => (true, env)
    render := fun
      | false, _ => .pause (.done (.error ⟨"late", none, none⟩))
      | true, _ => .done (.error ⟨"early", none, none⟩)
    renderBlocking := fun _ _ env => (.ok [], env) }
  resolver := ⟨.ofString "/p", ⟨fun _ env => (none, env),
    fun base specifier env => (.error (.moduleNotFound specifier base), env),
    fun _ => .done (.ok (.inline (.obj [])))⟩⟩

/-- The reporter has written something down before. In the last case both renderers fail, one of them first, and it
    has written down nothing more. -/
theorem check_outcomes_brittle :
    let s : RuleState Unit Bool := ⟨(), .empty, .empty⟩
    let before : List Remark := [.invalidOption "earlier"]
    let missing : ConfigError := .moduleNotFound "conf" (.ofString "/")
    let misled : Json := .obj [("sassOptions", .str "conf")]
    let both : Json := .obj [("checkUndefinedFunctions", .bool true)]
    (RuleOptions.parse (.bool false) = .ok none ∧
      (brittle.checkTelling noted (.bool false) twoLines).run (s, before) = (.ok (), s, before)) ∧
    (RuleOptions.parse (.str "yes") = .error (.unexpectedType "string") ∧
      brittle.watch (.str "yes") twoLines s = ⟨(), [], []⟩) ∧
    (brittle.Unresolved misled twoLines s missing ⟨(), .empty⟩ ∧
      (brittle.watch misled twoLines s).toolCalls = [] ∧
      ∃ result, ((brittle.run misled twoLines).run s).1 = .ok result ∧ result.errorCount = 1) ∧
    (.failed true ⟨"early", none, none⟩ ∈ (brittle.watch both twoLines s).toolCalls ∧
      ((brittle.checkTelling noted both twoLines).run (s, before)).1 = .error ⟨"early", none, none⟩ ∧
      ((brittle.checkTelling noted both twoLines).run (s, before)).2.2 = before ∧
      ((brittle.run both twoLines).run s).1 = .error ⟨"early", none, none⟩) := by
  intro s before missing misled both
  obtain ⟨_, _, off, _⟩ := check_outcomes noted brittle (.bool false) twoLines s before
  obtain ⟨_, _, _, refused, _⟩ := check_outcomes noted brittle (.str "yes") twoLines s before
  obtain ⟨_, _, _, _, unresolved, _⟩ := check_outcomes noted brittle misled twoLines s before
  obtain ⟨_, _, _, _, _, failed, fails, _⟩ := check_outcomes noted brittle both twoLines s before
  have fruitless : brittle.Unresolved misled twoLines s missing ⟨(), .empty⟩ :=
    ⟨⟨false, .fromModule "conf", false, [], []⟩, rfl, rfl⟩
  have written : .failed true ⟨"early", none, none⟩ ∈ (brittle.watch both twoLines s).toolCalls := by decide
  have ends := (failed _).1 ⟨true, written⟩
  obtain ⟨silent, runs⟩ := fails _ ends
  obtain ⟨_, _, noCalls, recorded⟩ := unresolved _ _ fruitless
  exact ⟨⟨rfl, (off rfl).1⟩, ⟨rfl, (refused _ rfl).2⟩, ⟨fruitless, noCalls, _, recorded, rfl⟩,
    ⟨written, ends, silent, runs⟩⟩

end Rule

end SassRenderLint
