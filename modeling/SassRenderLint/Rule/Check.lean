/-
Module: SassRenderLint.Rule.Check
Layer: Rule
Purpose: The rule: reads its options, resolves the compiler options, renders, and says of each distinct
  diagnostic of the target at which node of the tree it belongs. Refused options and failures to
  resolve are remarks; a failure to render ends the run. A check has a reporter of its own, any type
  with a way to take remarks, which it tells one remark at a time.
Program names: Rule is SassRenderErrors; checkTelling is check, with `tell` for the Reporter; run is
  run. check is check with a reporter that keeps everything.
Main exports: Rule, RuleState, Rule.remarks, Rule.checkTelling, Rule.check, Rule.run, Rule.shown
-/
import SassRenderLint.Config.Resolver
import SassRenderLint.Diagnostic.Merge
import SassRenderLint.Render.Batch
import SassRenderLint.Render.Cache
import SassRenderLint.Report.Warning
import SassRenderLint.Rule.Host
import SassRenderLint.Sheet.Nearest

namespace SassRenderLint

/-- The rule, with what it works with. -/
structure Rule (ω ρ : Type) where
  compiler : Compiler
  toolchain : Toolchain ω ρ
  resolver : Resolver ω

/-- The surroundings of the rule, and all that it remembers. -/
structure RuleState (ω ρ : Type) where
  env : ω
  tables : ConfigTables
  renderers : RendererTables ρ

namespace RuleState

variable {ω ρ : Type}

def envSlot : Slot (RuleState ω ρ) ω where
  get s := s.env
  set env s := { s with env := env }

/-- What the resolver sees. -/
def configSlot : Slot (RuleState ω ρ) (ConfigState ω) where
  get s := ⟨s.env, s.tables⟩
  set part s := { s with env := part.env, tables := part.tables }

/-- What the toolchain sees. -/
def renderSlot : Slot (RuleState ω ρ) (RenderState ω ρ) where
  get s := ⟨s.env, s.renderers⟩
  set part s := { s with env := part.env, renderers := part.renderers }

end RuleState

namespace Rule

variable {ω ρ : Type}

/-- What is said of a failure to resolve the compiler options. -/
def failureRemark (host : Host) (e : ConfigError) : Remark :=
  .finding ⟨0, host.root⟩ 1 none (ruleMessage e.message) .error

/-- What is said of a diagnostic: it belongs to the nearest node of the document. Positions in a
    fragment are lines further down in its document. -/
def diagnosticRemark (host : Host) (d : Diagnostic) : Remark :=
  let offset := host.root.lineOffset host.target.isStyleFile
  let start := d.source.start
  let found := host.root.nearest (start.shiftedBy offset)
  let line := (found.node.start.map Position.line).getD start.line
  .finding found line (some d.source.pattern) (ruleMessage d.message) d.severity

/-- What is said of the diagnostics of a run. -/
def remarks (host : Host) (attributedFile : Option String) (diagnostics : List Diagnostic) : List Remark :=
  (Diagnostic.retainFor (Diagnostic.unique diagnostics) host.target attributedFile).map (diagnosticRemark host)

def render (rule : Rule ω ρ) (options : RuleOptions) (resolved : ResolvedOptions) :
    Routine (RuleState ω ρ) RenderResult :=
  ((rule.toolchain.renderers rule.compiler options.undefinedFunctions).zoom RuleState.renderSlot).bind
    fun renderers =>
      (rule.toolchain.renderAll renderers resolved.options options.renderMode).zoom RuleState.envSlot

section

variable {σ ο : Type} (tell : ο → Remark → ο)

def report (remark : Remark) : Routine (σ × ο) Unit := .update fun (s, reporter) => (s, tell reporter remark)

/-- Tells the reporter one thing after the other. -/
def reportAll : List Remark → Routine (σ × ο) Unit
  | [] => .done ()
  | remark :: rest => (report tell remark).bind fun _ => reportAll rest

/-- Checks a host under options that were accepted. -/
def checkWith (rule : Rule ω ρ) (options : RuleOptions) (host : Host) :
    Routine (RuleState ω ρ × ο) (Except CompileError Unit) :=
  (((rule.resolver.resolve host.target host.content options.sassOptions).zoom RuleState.configSlot).zoom .shared).bind
    fun
    | .error e => (report tell (failureRemark host e)).bind fun _ => .done (.ok ())
    | .ok resolved =>
      ((rule.render options resolved).zoom .shared).bind fun
        | .error e => .done (.error e)
        | .ok diagnostics =>
          (reportAll tell (remarks host resolved.attributedFile diagnostics)).bind fun _ => .done (.ok ())

/-- Checks a host under options as they are given. The reporter belongs to the check: it is told what there
    is to say, one remark at a time, in the course of it. -/
def checkTelling (rule : Rule ω ρ) (given : Json) (host : Host) :
    Routine (RuleState ω ρ × ο) (Except CompileError Unit) :=
  match RuleOptions.parse given with
  | .error e => (report tell (.invalidOption e.message)).bind fun _ => .done (.ok ())
  | .ok none => .done (.ok ())
  | .ok (some options) => rule.checkWith tell options host

end

/-- A reporter that writes down what it is told. -/
def noted (said : List Remark) (remark : Remark) : List Remark := said ++ [remark]

/-- Checks a host with such a reporter, and gives what it has written down. -/
def check (rule : Rule ω ρ) (given : Json) (host : Host) :
    Routine (RuleState ω ρ) (Except CompileError (List Remark)) :=
  ((rule.checkTelling noted given host).withOwn []).bind fun (ended, said) => .done (ended.map fun _ => said)

/-- Checks a host with a collector as the reporter, and gives what it has recorded. -/
def run (rule : Rule ω ρ) (given : Json) (host : Host) :
    Routine (RuleState ω ρ) (Except CompileError LintResult) :=
  ((rule.checkTelling Collector.record given host).withOwn (Collector.start host.wordSource)).bind
    fun (ended, collector) => .done (ended.map fun _ => collector.result host.target.identifier)

def shown (rule : Rule ω ρ) (tables : ConfigTables) (renderers : RendererTables ρ) : String :=
  "SassRenderErrors \x7b resolver: " ++ rule.resolver.shown tables ++ ", renderers: " ++ renderers.shown ++ ", .. \x7d"

end Rule

end SassRenderLint
