/-
Module: SassRenderLint.Proofs.Reprojection
Layer: Proofs
Purpose: What a check says when everything goes well. A `Passage` is a check whose options are accepted,
  whose compiler options are resolved and whose renderers all succeed, in rounds or one after the other;
  it holds what each stage gives and nothing about how the stages are put together. The check then says
  one thing of each distinct diagnostic that concerns the target, in the order of first occurrence, at
  the nearest node of the shifted position, and the recorded counts follow.
Main exports: Toolchain.AllSucceed, Rule.Passage, Rule.Reprojects, Collector.recordAll_eq,
  Rule.check_of_passage, Rule.check_reprojects
-/
import Mathlib.Data.List.Forall2
import SassRenderLint.Proofs.DistinctFindings
import SassRenderLint.Proofs.NearestNode
import SassRenderLint.Proofs.Reporting
import SassRenderLint.Proofs.Rounds

namespace SassRenderLint

/-! ### Stages -/

/-- What is recorded for a target is its path as it is shown. -/
theorem Resolver.attributedFile_of_resolve {ω : Type} {r : Resolver ω} {target : Target} {content : String}
    {config : CompilerConfig} {s t : ConfigState ω} {resolved : ResolvedOptions}
    (resolves : (r.resolve target content config).run s = (.ok resolved, t)) :
    resolved.attributedFile = target.path?.map Path.shown := by
  rw [resolve, Routine.run_bind] at resolves
  cases base : ((r.baseOptions config).run s).1 with
  | error e => simp [base, Routine.run, Except.map] at resolves
  | ok fields =>
      simp only [base, Routine.run, Except.map, Prod.mk.injEq, Except.ok.injEq] at resolves
      rw [← resolves.1]

namespace Toolchain

variable {ω ρ : Type}

/-- Rendering at once, one renderer after the other, each succeeds. -/
def SucceedInTurn (t : Toolchain ω ρ) (options : CompilerOptions) :
    List ρ → ω → List (List Diagnostic) → ω → Prop
  | [], env, [], last => env = last
  | r :: rest, env, batch :: batches, last =>
    ∃ next, t.renderBlocking r options env = (.ok batch, next) ∧ t.SucceedInTurn options rest next batches last
  | _, _, _, _ => False

/-- All renderers succeed, each with its batch of diagnostics. -/
def AllSucceed (t : Toolchain ω ρ) (renderers : List ρ) (options : CompilerOptions) :
    RenderMode → ω → List (List Diagnostic) → ω → Prop
  | .concurrent, env, batches, last => ∃ n,
    let rounds := Routine.rounds n (renderers.map fun r => t.render r options) env
    Routine.Ended rounds.1 batches ∧ rounds.2 = last
  | .blocking, env, batches, last => t.SucceedInTurn options renderers env batches last

/-- Renderers that succeed in turn give their batches in turn. -/
theorem run_trySequence_of_succeedInTurn {t : Toolchain ω ρ} {options : CompilerOptions} :
    ∀ {renderers : List ρ} {env last : ω} {batches : List (List Diagnostic)},
      t.SucceedInTurn options renderers env batches last →
        (Routine.trySequence (renderers.map fun r => .modifyGet (t.renderBlocking r options))).run env =
          (.ok batches, last)
  | [], _, _, [], succeed => by
      cases succeed
      rfl
  | r :: rest, env, last, batch :: batches, ⟨next, renders, succeed⟩ => by
      have others := run_trySequence_of_succeedInTurn succeed
      simp only [List.map_cons, Routine.trySequence, Routine.run_bind, Routine.run_modifyGet, renders, others]
      rfl

/-- When all renderers succeed, rendering gives their batches one after the other. -/
theorem run_renderAll {t : Toolchain ω ρ} {renderers : List ρ} {options : CompilerOptions} {mode : RenderMode}
    {env last : ω} {batches : List (List Diagnostic)}
    (succeed : t.AllSucceed renderers options mode env batches last) :
    (t.renderAll renderers options mode).run env = (.ok batches.flatten, last) := by
  have gathered : (t.batches renderers options mode).run env = (.ok batches, last) := by
    cases mode with
    | concurrent =>
        obtain ⟨n, ended, rfl⟩ := succeed
        exact Routine.run_tryAll_of_rounds ended
    | blocking => exact run_trySequence_of_succeedInTurn succeed
  rw [renderAll, Routine.run_bind, gathered]
  rfl

end Toolchain

namespace Rule

variable {ω ρ : Type}

/-- A check that goes through: the options are accepted, the compiler options are resolved, and all
    renderers succeed. -/
structure Passage (rule : Rule ω ρ) (given : Json) (host : Host) (s : RuleState ω ρ) where
  options : RuleOptions
  resolved : ResolvedOptions
  /-- What the resolver leaves behind. -/
  config : ConfigState ω
  renderers : List ρ
  /-- What building the renderers leaves behind. -/
  rendering : RenderState ω ρ
  /-- The diagnostics of each renderer. -/
  batches : List (List Diagnostic)
  /-- The surroundings after rendering. -/
  last : ω
  accepted : RuleOptions.parse given = .ok (some options)
  resolves : (rule.resolver.resolve host.target host.content options.sassOptions).run ⟨s.env, s.tables⟩ =
    (.ok resolved, config)
  builds : (rule.toolchain.renderers rule.compiler options.undefinedFunctions).run ⟨config.env, s.renderers⟩ =
    (renderers, rendering)
  succeed : rule.toolchain.AllSucceed renderers resolved.options options.renderMode rendering.env batches last

/-- What a passage is to say something of: the distinct diagnostics of all renderers that concern the
    target. -/
def Passage.survivors {rule : Rule ω ρ} {given : Json} {host : Host} {s : RuleState ω ρ}
    (passage : rule.Passage given host s) : List Diagnostic :=
  Diagnostic.survivors host.target passage.batches.flatten

/-- What a check comes to once the compiler options are resolved: renderers are built, and then render. -/
theorem check_of_resolved {rule : Rule ω ρ} {given : Json} {host : Host} {s : RuleState ω ρ} {options : RuleOptions}
    {resolved : ResolvedOptions} {config : ConfigState ω}
    (accepted : RuleOptions.parse given = .ok (some options))
    (resolves : (rule.resolver.resolve host.target host.content options.sassOptions).run ⟨s.env, s.tables⟩ =
      (.ok resolved, config)) :
    (rule.check given host).run s =
      let built := (rule.toolchain.renderers rule.compiler options.undefinedFunctions).run ⟨config.env, s.renderers⟩
      let rendered := (rule.toolchain.renderAll built.1 resolved.options options.renderMode).run built.2.env
      (rendered.1.map (remarks host resolved.attributedFile), ⟨rendered.2, config.tables, built.2.renderers⟩) := by
  simp only [run_check, verdict, accepted, verdictWith, resolves]

/-- A check that goes through makes one remark of each surviving diagnostic. -/
theorem check_of_passage {rule : Rule ω ρ} {given : Json} {host : Host} {s : RuleState ω ρ}
    (passage : rule.Passage given host s) :
    ((rule.check given host).run s).1 = .ok (passage.survivors.map (diagnosticRemark host)) := by
  have recorded := Resolver.attributedFile_of_resolve passage.resolves
  rw [check_of_resolved passage.accepted passage.resolves]
  simp only [passage.builds, Toolchain.run_renderAll passage.succeed, Except.map, remarks, recorded,
    Diagnostic.retainFor_unique]
  rfl

/-! ### Remarks -/

/-- The line of the document on which a diagnostic starts. -/
def documentLine (host : Host) (d : Diagnostic) : UInt32 :=
  saturatingAdd d.source.start.line (host.root.lineOffset host.target.isStyleFile)

/-- The remark says of a diagnostic what it is and where in the document it belongs: at the root, or at
    a node below the root that starts on the diagnostic's line. -/
def Reprojects (host : Host) (d : Diagnostic) (remark : Remark) : Prop :=
  ∃ (place : Located) (line : UInt32) (severity : Severity),
    remark = .finding place line (some d.source.pattern) (ruleMessage d.message) severity ∧
      line = (place.node.start.map Position.line).getD d.source.start.line ∧
      (severity = .error ↔ d.kind = .error) ∧
      place = host.root.nearest ⟨documentLine host d, d.source.start.column⟩ ∧
      (place = ⟨0, host.root⟩ ∨
        place ∈ host.root.located ∧ host.root.Below place.node ∧
          ∃ start, place.node.start = some start ∧ start.line = documentLine host d)

/-- Only errors are reported as errors. -/
theorem severity_eq_error_iff (d : Diagnostic) : d.severity = .error ↔ d.kind = .error := by
  cases kind : d.kind <;> simp [Diagnostic.severity, kind]

/-- The remark on a diagnostic names the nearest node of its line in the document, or the root when there is
    none. -/
theorem reprojects_diagnosticRemark (host : Host) (d : Diagnostic) :
    Reprojects host d (diagnosticRemark host d) := by
  refine ⟨_, _, _, rfl, rfl, severity_eq_error_iff d, rfl, ?_⟩
  rcases Node.nearest_cases host.root ⟨documentLine host d, d.source.start.column⟩ with atRoot | candidate
  · exact Or.inl atRoot
  · obtain ⟨visited, start⟩ := Node.mem_startingOn.1 candidate
    have below := Node.below_of_mem_descendants (Node.mem_descendants_of_mem_located visited)
    exact Or.inr ⟨visited, below, start⟩

end Rule

/-! ### Recording -/

namespace Collector

/-- The warning that a remark is recorded as, if it is a finding. -/
def warningFor (document : Option String) : Remark → Option Warning
  | .invalidOption _ => none
  | .finding found line word message severity => some (warningOf document found.node line word message severity)

def refusal : Remark → Option String
  | .invalidOption message => some message
  | .finding .. => none

/-- Recording remarks appends their warnings and refusals, each in order. -/
theorem recordAll_eq (c : Collector) (said : List Remark) :
    c.recordAll said =
      ⟨c.document, c.warnings ++ said.filterMap (warningFor c.document),
        c.invalidOptions ++ said.filterMap refusal⟩ := by
  induction said generalizing c with
  | nil => simp [recordAll]
  | cons remark rest ih =>
      have step : c.recordAll (remark :: rest) = (c.record remark).recordAll rest := rfl
      rw [step, ih]
      cases remark <;> simp [record, warningFor, refusal, List.filterMap_cons]

/-- All recorded warnings are counted, as errors or as others. -/
theorem result_counts (c : Collector) (filename : String) :
    (c.result filename).errorCount + (c.result filename).warningCount = (c.result filename).warnings.length := by
  have most := List.countP_le_length (p := fun w : Warning => decide (w.severity = .error)) (l := c.warnings)
  simp only [result]
  omega

end Collector

namespace Rule

variable {ω ρ : Type}

/-- What is recorded of the remarks on diagnostics. -/
def recorded (host : Host) (ds : List Diagnostic) : Collector :=
  (Collector.start host.wordSource).recordAll (ds.map (diagnosticRemark host))

/-- Remarks on diagnostics refuse no options. -/
theorem invalidOptions_recorded (host : Host) (ds : List Diagnostic) : (recorded host ds).invalidOptions = [] := by
  rw [recorded, Collector.recordAll_eq]
  refine List.filterMap_eq_nil_iff.2 ?_
  intro remark said
  obtain ⟨d, _, rfl⟩ := List.mem_map.1 said
  rfl

/-- Each diagnostic is recorded once, with its severity. -/
theorem severities_recorded (host : Host) (ds : List Diagnostic) :
    (recorded host ds).warnings.map Warning.severity = ds.map Diagnostic.severity := by
  rw [recorded, Collector.recordAll_eq]
  show ((ds.map (diagnosticRemark host)).filterMap (Collector.warningFor host.wordSource)).map _ = _
  have each : Option.map Warning.severity ∘ Collector.warningFor host.wordSource ∘ diagnosticRemark host =
      some ∘ Diagnostic.severity := rfl
  rw [List.filterMap_map, List.map_filterMap]
  exact (congrFun (congrArg List.filterMap each) ds).trans (congrFun List.filterMap_eq_map ds)

/-- The errors that are counted are the diagnostics of that kind. -/
theorem errorCount_recorded (host : Host) (ds : List Diagnostic) (filename : String) :
    ((recorded host ds).result filename).errorCount = ds.countP (fun d => d.kind = .error) := by
  have counted := congrArg (List.countP fun severity => decide (severity = .error)) (severities_recorded host ds)
  rw [List.countP_map, List.countP_map] at counted
  refine counted.trans (List.countP_congr ?_)
  intro d _
  simpa using severity_eq_error_iff d

/-- A check that goes through says exactly one thing of each distinct diagnostic that concerns the
    target, in the order of first occurrence; the run that records it counts the errors among them. -/
theorem check_reprojects (rule : Rule ω ρ) (given : Json) (host : Host) (s : RuleState ω ρ)
    (passage : rule.Passage given host s) :
    (∃ said, ((rule.check given host).run s).1 = .ok said ∧
      List.Forall₂ (Reprojects host) passage.survivors said) ∧
    ∃ result, ((rule.run given host).run s).1 = .ok result ∧
      result.invalidOptions = [] ∧
      result.errorCount = passage.survivors.countP (fun d => d.kind = .error) ∧
      result.errorCount + result.warningCount = result.warnings.length ∧
      result.warnings.length = passage.survivors.length := by
  have checked := check_of_passage passage
  constructor
  · refine ⟨_, checked, ?_⟩
    rw [List.forall₂_map_right_iff]
    exact List.forall₂_same.2 fun d _ => reprojects_diagnosticRemark host d
  · have runs : ((rule.run given host).run s).1 =
        .ok ((recorded host passage.survivors).result host.target.identifier) := by
      rw [run_check] at checked
      rw [run_run, checked]
      rfl
    have oneEach := congrArg List.length (severities_recorded host passage.survivors)
    rw [List.length_map, List.length_map] at oneEach
    exact ⟨_, runs, invalidOptions_recorded host _, errorCount_recorded host _ _, Collector.result_counts _ _,
      oneEach⟩

def missingMixin : Diagnostic := ⟨"stdin", "Undefined mixin.", .error, ⟨"@include x", ⟨2, 3⟩, ⟨2, 13⟩⟩, none⟩

def elsewhere : Diagnostic := ⟨"/lib/b.scss", "Deprecated.", .deprecation, ⟨"lighten(", ⟨1, 1⟩, ⟨1, 9⟩⟩, none⟩

def unknownFunction : Diagnostic :=
  ⟨"stdin", "Undefined function.", .undefinedFunction, ⟨"becky(", ⟨1, 8⟩, ⟨1, 14⟩⟩, none⟩

/-- Two renderers that find the same error, the second with a stack. The first is suspended once. -/
def sharedFinding : Rule Unit Bool where
  compiler := ⟨0⟩
  toolchain := {
    build := fun _ env => (false, env)
    buildUndefined := fun _ _ env => (true, env)
    render := fun
      | false, _ => .pause (.done (.ok [missingMixin, elsewhere]))
      | true, _ => .done (.ok [{ missingMixin with stack := some "at 2:3" }, unknownFunction])
    renderBlocking := fun _ _ env => (.ok [], env) }
  resolver := ⟨.ofString "/p", ⟨fun _ env => (none, env), fun base _ env => (.ok base, env),
    fun _ => .done (.ok (.inline (.obj [])))⟩⟩

/-- Text from standard input whose second line is a rule of its own. -/
def twoLines : Host :=
  ⟨.stdin, "a \x7b b: becky(1) \x7d\nc \x7b @include x \x7d",
    .sheet [.leaf (.rule "a") (some ⟨some ⟨1, 1⟩, none⟩), .leaf (.rule "c") (some ⟨some ⟨2, 1⟩, none⟩)], none⟩

/-- Two renderers find one error; it is reported once, beside the undefined function. -/
theorem check_reprojects_sharedFinding :
    ∃ passage : sharedFinding.Passage (.obj [("checkUndefinedFunctions", .bool true)]) twoLines
        ⟨(), .empty, .empty⟩,
      passage.batches.length = 2 ∧ passage.survivors = [missingMixin, unknownFunction] ∧
        (∃ said, List.Forall₂ (Reprojects twoLines) passage.survivors said) ∧
        ∃ result, ((sharedFinding.run (.obj [("checkUndefinedFunctions", .bool true)]) twoLines).run
            ⟨(), .empty, .empty⟩).1 = .ok result ∧
          result.errorCount = 1 ∧ result.warnings.length = 2 := by
  let passage : sharedFinding.Passage (.obj [("checkUndefinedFunctions", .bool true)]) twoLines
      ⟨(), .empty, .empty⟩ := {
    options := ⟨false, .inline [], true, [], []⟩
    resolved := ⟨⟨[], .content twoLines.content⟩, none⟩
    config := ⟨(), .empty⟩
    renderers := [false, true]
    rendering := _
    batches := [[missingMixin, elsewhere], [{ missingMixin with stack := some "at 2:3" }, unknownFunction]]
    last := ()
    accepted := rfl
    resolves := rfl
    builds := rfl
    succeed := ⟨1, rfl, rfl⟩ }
  have survive : passage.survivors = [missingMixin, unknownFunction] := by decide
  obtain ⟨⟨said, _, reprojected⟩, result, runs, _, errors, _, warnings⟩ :=
    check_reprojects sharedFinding _ twoLines _ passage
  rw [survive] at errors warnings
  exact ⟨passage, rfl, survive, ⟨said, reprojected⟩, result, runs, errors, warnings⟩

end Rule

end SassRenderLint
