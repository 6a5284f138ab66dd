/-
Module: SassRenderLint.Proofs.ReportedLines
Layer: Proofs
Purpose: On which line of the document a diagnostic of a fragment is reported. Where the located node has a
  start, that is the line, and for a node below the root it is the line on which the diagnostic starts
  in the document. A root of which no start is known has none to give; the line is then the
  diagnostic's own, counted from the top of the fragment, and it is a line of the document only if
  nothing of the document comes before the fragment.
Main exports: Rule.dueLine, Rule.ReportsLine, Rule.reported_lines, Rule.line_counted_from_fragment
-/
import SassRenderLint.Proofs.Reprojection

namespace SassRenderLint

/-- A sum is its first number if nothing is added, or if there is no greater number. -/
theorem saturatingAdd_eq_left_iff (a b : UInt32) :
    saturatingAdd a b = a ↔ b = 0 ∨ a.toNat + 1 = UInt32.size := by
  have small : a.toNat < UInt32.size := UInt32.toNat_lt a
  have zero : b = 0 ↔ b.toNat = 0 := UInt32.toNat_inj.symm
  rw [zero, ← UInt32.toNat_inj, saturatingAdd]
  split
  · rename_i fits
    rw [UInt32.toNat_add, Nat.mod_eq_of_lt fits]
    omega
  · rename_i beyond
    rw [UInt32.toNat_ofNat_of_lt' (by decide)]
    omega

theorem Host.isStyleFile_of_isFragment {host : Host} (fragment : host.isFragment = true) :
    host.target.isStyleFile = false := by
  rw [isFragment, Bool.and_eq_true] at fragment
  simpa using fragment.2

namespace Rule

variable {ω ρ : Type}

/-- The line of the document that a diagnostic is to be reported on: that of the located node, or that of
    the diagnostic itself when no start of the node is known. -/
def dueLine (host : Host) (d : Diagnostic) (found : Located) : UInt32 :=
  (found.node.start.map Position.line).getD (documentLine host d)

/-- The line of a remark on a diagnostic of a fragment. It is the due one, except that at a root without a
    start it is counted from the top of the fragment. -/
def ReportsLine (host : Host) (d : Diagnostic) (remark : Remark) : Prop :=
  ∃ (found : Located) (line : UInt32),
    remark = .finding found line (some d.source.pattern) (ruleMessage d.message) d.severity ∧
      found = host.root.nearest ⟨documentLine host d, d.source.start.column⟩ ∧
      (found = ⟨0, host.root⟩ ∨ host.root.Below found.node ∧ line = documentLine host d) ∧
      (found.node.start = none → found = ⟨0, host.root⟩ ∧ line = d.source.start.line) ∧
      (line = dueLine host d found ↔
        found.node.start.isSome ∨ host.root.lineOffset false = 0 ∨ d.source.start.line.toNat + 1 = UInt32.size)

/-- The remark on a diagnostic of a fragment is on the due line, or on the line that the diagnostic gives. -/
theorem reportsLine_diagnosticRemark {host : Host} (fragment : host.isFragment = true) (d : Diagnostic) :
    ReportsLine host d (diagnosticRemark host d) := by
  obtain ⟨found, line, severity, said, lineEq, -, foundEq, located⟩ := reprojects_diagnosticRemark host d
  have severityEq : severity = d.severity := (Remark.finding.inj said).2.2.2.2.symm
  subst severityEq
  have offset : documentLine host d = saturatingAdd d.source.start.line (host.root.lineOffset false) := by
    rw [documentLine, Host.isStyleFile_of_isFragment fragment]
  refine ⟨found, line, said, foundEq, ?_, ?_, ?_⟩
  · rcases located with atRoot | ⟨-, below, start, starts, onLine⟩
    · exact Or.inl atRoot
    · refine Or.inr ⟨below, ?_⟩
      rw [lineEq, starts]
      exact onLine
  · intro unknown
    rcases located with atRoot | ⟨-, -, start, starts, -⟩
    · refine ⟨atRoot, ?_⟩
      rw [lineEq, unknown]
      rfl
    · cases unknown.symm.trans starts
  · rw [lineEq, dueLine]
    cases known : found.node.start with
    | some start => simp
    | none =>
        simp only [Option.map_none, Option.getD_none, Option.isSome_none, Bool.false_eq_true, false_or]
        rw [offset, eq_comm, saturatingAdd_eq_left_iff]

/-- Of the diagnostics of a fragment, those located at a node with a start are reported on its line; the
    others are reported at the root, on the due line only if the fragment starts at the top. -/
theorem reported_lines (rule : Rule ω ρ) (given : Json) (host : Host) (s : RuleState ω ρ)
    (passage : rule.Passage given host s) (fragment : host.isFragment = true) :
    ∃ said, ((rule.check given host).run s).1 = .ok said ∧
      List.Forall₂ (ReportsLine host) passage.survivors said := by
  refine ⟨_, check_of_passage passage, ?_⟩
  rw [List.forall₂_map_right_iff]
  exact List.forall₂_same.2 fun d _ => reportsLine_diagnosticRemark fragment d

/-- An unknown function on the second line of a declaration. -/
def insideValue : Diagnostic :=
  ⟨"stdin", "Undefined function.", .undefinedFunction, ⟨"becky(", ⟨3, 5⟩, ⟨3, 11⟩⟩, none⟩

/-- One renderer that finds an unknown function inside a declaration. -/
def valueFinding : Rule Unit Unit where
  compiler := ⟨0⟩
  toolchain := {
    build := fun _ env => ((), env)
    buildUndefined := fun _ _ env => ((), env)
    render := fun _ _ => .done (.ok [insideValue])
    renderBlocking := fun _ _ env => (.ok [insideValue], env) }
  resolver := ⟨.ofString "/p", ⟨fun _ env => (none, env), fun base _ env => (.ok base, env),
    fun _ => .done (.ok (.inline (.obj [])))⟩⟩

/-- A component whose style starts on the third line. The value of its declaration takes three lines, and
    no node starts on the second of them. -/
def component : Host :=
  ⟨.path (.ofString "/p/App.vue"), ".a \x7b\n  width: calc(\n    becky(1px)\n  );\n\x7d\n",
    .sheet [⟨.rule ".a", some (.between ⟨3, 1⟩ ⟨7, 1⟩),
      [.leaf (.declaration "width" "calc(\n    becky(1px)\n  )") (some (.between ⟨4, 3⟩ ⟨6, 4⟩))]⟩], none⟩

/-- The check of the component goes through. -/
def componentPassage : valueFinding.Passage (.bool true) component ⟨(), .empty, .empty⟩ where
  options := .defaults
  resolved := ⟨⟨[], .content component.content⟩, component.target.path?.map Path.shown⟩
  config := ⟨(), .empty⟩
  renderers := [()]
  rendering := _
  batches := [[insideValue]]
  last := ()
  accepted := rfl
  resolves := rfl
  builds := rfl
  succeed := ⟨0, rfl, rfl⟩

theorem survivors_componentPassage : componentPassage.survivors = [insideValue] := by decide

/-- In the component, no node starts on the line of the diagnostic, and the root has no start. -/
theorem reported_lines_component :
    component.isFragment = true ∧ componentPassage.survivors = [insideValue] ∧
      ∃ remark, ((valueFinding.check (.bool true) component).run ⟨(), .empty, .empty⟩).1 = .ok [remark] ∧
        ReportsLine component insideValue remark := by
  have fragment : component.isFragment = true := by decide
  obtain ⟨said, checked, lines⟩ := reported_lines valueFinding (.bool true) component _ componentPassage fragment
  rw [survivors_componentPassage] at lines
  cases lines with
  | cons reports rest =>
      cases rest
      exact ⟨fragment, survivors_componentPassage, _, checked, reports⟩

/-- The function stands on the fifth line of the component and is reported on the third, as if the
    component started where its style does. -/
theorem line_counted_from_fragment :
    component.isFragment = true ∧
      ((valueFinding.check (.bool true) component).run ⟨(), .empty, .empty⟩).1 =
        .ok [.finding ⟨0, component.root⟩ 3 (some "becky(") (ruleMessage "Undefined function.") .warning] ∧
      component.root.lineOffset false = 2 ∧ component.root.start = none ∧
      dueLine component insideValue ⟨0, component.root⟩ = 5 := by
  have remark : diagnosticRemark component insideValue =
      .finding ⟨0, component.root⟩ 3 (some "becky(") (ruleMessage "Undefined function.") .warning := by decide
  have checked := check_of_passage componentPassage
  rw [survivors_componentPassage, List.map_singleton, remark] at checked
  exact ⟨by decide, checked, by decide, by decide, by decide⟩

end Rule

end SassRenderLint
