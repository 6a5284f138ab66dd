/-
Module: SassRenderLint.Proofs.ExactHits
Layer: Proofs
Purpose: Diagnostics that start just where a node starts. The nearest node of such a position has no distance
  from it, so one of its ends is there; an end that is not known counts as being at its stand-in. What is
  looked up is the diagnostic's own position as long as no lines come before the sheet. That holds of style
  files, and of text from standard input only if its first node starts at the top: text that starts lower
  is looked up further down, although its words are looked for in the text itself.
Main exports: Distance.root_eq_zero_iff, Node.EndsAt, Node.nearest_endsAt, Node.lineOffset_eq_zero_iff,
  Rule.HitsExactly, Rule.exact_hits, Rule.hits_missed
-/
import SassRenderLint.Proofs.ClosestNode
import SassRenderLint.Proofs.ReportedLines

namespace SassRenderLint

/-! ### No distance -/

/-- Rounding makes no distance zero that is not. -/
theorem Distance.root_eq_zero_iff (n : Nat) : Distance.root n = 0 ↔ n = 0 := by
  constructor
  · intro none
    rw [root_eq] at none
    have noRoot : scaledRoot n = 0 := by
      by_contra positive
      have large := pow_le_roundBits positive (scaledRoot n * scaledRoot n != n * 2 ^ 128)
      rw [none] at large
      exact Nat.not_le_of_lt (Nat.two_pow_pos _) large
    have scaled : n * 2 ^ 128 = 0 := Nat.sqrt_eq_zero.1 noRoot
    omega
  · rintro rfl
    decide

namespace Position

theorem gap_eq_zero_iff (a b : UInt32) : gap a b = 0 ↔ a = b := by
  rw [gap, ← UInt32.toNat_inj]
  omega

/-- Only a position itself is at no distance from it. -/
theorem distance_eq_zero_iff (p q : Position) : p.distance q = 0 ↔ p = q := by
  rw [distance, Distance.root_eq_zero_iff, squaredDistance, Nat.add_eq_zero_iff]
  simp only [Nat.mul_eq_zero, or_self, gap_eq_zero_iff]
  cases p
  cases q
  rw [mk.injEq]

theorem shiftedBy_zero (p : Position) : p.shiftedBy 0 = p := by
  rw [shiftedBy, (saturatingAdd_eq_left_iff p.line 0).2 (Or.inl rfl)]

end Position

namespace Node

/-- An end of the node is at the position. An end that is not known is at its stand-in. -/
def EndsAt (node : Node) (p : Position) : Prop :=
  node.start = some p ∨ node.stop = some p ∨ node.stop = none ∧ p = .standIn

/-- An end is at no distance when it is there, or when it is unknown and its stand-in is there. -/
theorem endDistance_eq_zero_iff (target : Position) (place : Option Position) :
    endDistance target place = 0 ↔ place = some target ∨ place = none ∧ target = .standIn := by
  rw [endDistance, Position.distance_eq_zero_iff]
  cases place <;> simp [eq_comm]

/-- A node that starts at a position has the best score there can be. -/
theorem score_of_start {node : Node} {target : Position} (starts : node.start = some target) :
    node.score target = 0 := by
  have none : endDistance target node.start = 0 := (endDistance_eq_zero_iff _ _).2 (Or.inl starts)
  rw [score, none, Nat.zero_min]

/-- Conversely, a node with that score has an end at the position. -/
theorem endsAt_of_score {node : Node} {target : Position} (starts : node.start.isSome)
    (none : node.score target = 0) : node.EndsAt target := by
  rcases Nat.min_eq_zero_iff.1 none with atStart | atStop
  · rcases (endDistance_eq_zero_iff _ _).1 atStart with here | ⟨unknown, -⟩
    · exact Or.inl here
    · simp [unknown] at starts
  · exact Or.inr ((endDistance_eq_zero_iff _ _).1 atStop)

/-- Where a node starts, the nearest node has an end, and it is one of the nodes below the root. -/
theorem nearest_endsAt {root node : Node} {target : Position} (visited : node ∈ root.preorder)
    (starts : node.start = some target) :
    root.nearest target ∈ root.located ∧ (root.nearest target).node.EndsAt target := by
  have onLine : ∃ start ∈ node.start, start.line = target.line := ⟨target, starts, rfl⟩
  obtain ⟨hit, candidate, rfl⟩ := exists_mem_startingOn visited onLine
  rcases nearest_firstLeast root target with ⟨nothing, -⟩ | least
  · rw [nothing] at candidate
    exact absurd candidate List.not_mem_nil
  · obtain ⟨located, start, known, -⟩ := mem_startingOn.1 least.mem
    have none : (root.nearest target).node.score target = 0 := by
      have atMost := least.le candidate
      rw [score_of_start starts] at atMost
      exact Nat.le_zero.1 atMost
    exact ⟨located, endsAt_of_score (by rw [known]; rfl) none⟩

/-! ### Lines before the sheet -/

/-- The first node of the sheet, if its start is known, starts no lower than on the first line. -/
def StartsAtOnce (root : Node) : Prop := ∀ start ∈ root.firstChild.bind Node.start, start.line ≤ 1

instance (root : Node) : Decidable root.StartsAtOnce :=
  inferInstanceAs (Decidable (∀ start ∈ root.firstChild.bind Node.start, start.line ≤ 1))

/-- A sheet is moved down unless it starts on the first line, or on line zero. -/
theorem saturatingSub_one_eq_zero_iff (a : UInt32) : saturatingSub a 1 = 0 ↔ a ≤ 1 := by
  rw [saturatingSub]
  split
  · rename_i positive
    rw [← UInt32.toNat_inj, UInt32.toNat_sub_of_le _ _ positive, UInt32.le_iff_toNat_le]
    exact Nat.sub_eq_zero_iff_le
  · rename_i zero
    exact iff_of_true rfl ((UInt32.le_total 1 a).resolve_left zero)

/-- No lines are counted before the sheet of a style file, nor before one that starts at once. -/
theorem lineOffset_eq_zero_iff (root : Node) (isStyleFile : Bool) :
    root.lineOffset isStyleFile = 0 ↔ isStyleFile = true ∨ root.StartsAtOnce := by
  cases isStyleFile with
  | true => exact iff_of_true rfl (Or.inl rfl)
  | false =>
      simp only [lineOffset, StartsAtOnce, Bool.false_eq_true, ↓reduceIte, false_or]
      cases root.firstChild.bind Node.start with
      | none => simp
      | some start => simpa using saturatingSub_one_eq_zero_iff start.line

end Node

/-- What is no fragment is its own document. -/
theorem Host.wordSource_of_whole {host : Host} (whole : host.isFragment = false) (noDocument : host.document = none) :
    host.wordSource = some host.content := by
  rw [wordSource, noDocument, whole]
  rfl

theorem RuleOptions.parse_true : parse (.bool true) = .ok (some .defaults) := rfl

namespace Rule

variable {ω ρ : Type}

/-- If a diagnostic starts where a node below the root starts, the remark on it is about a node below the root
    that has an end there. -/
def HitsExactly (host : Host) (d : Diagnostic) (remark : Remark) : Prop :=
  (∃ node ∈ host.root.preorder, node.start = some d.source.start) →
    ∃ (found : Located) (line : UInt32),
      remark = .finding found line (some d.source.pattern) (ruleMessage d.message) d.severity ∧
        found ∈ host.root.located ∧ found.node.EndsAt d.source.start

/-- Where positions are not moved, a diagnostic at the start of a node is reported at a node that has an end
    there. -/
theorem hitsExactly_diagnosticRemark {host : Host} (unmoved : host.root.lineOffset host.target.isStyleFile = 0)
    (d : Diagnostic) : HitsExactly host d (diagnosticRemark host d) := by
  rintro ⟨node, visited, starts⟩
  obtain ⟨located, ends⟩ := Node.nearest_endsAt visited starts
  have inPlace : d.source.start.shiftedBy (host.root.lineOffset host.target.isStyleFile) = d.source.start := by
    rw [unmoved, Position.shiftedBy_zero]
  refine ⟨_, _, rfl, ?_⟩
  rw [inPlace]
  exact ⟨located, ends⟩

/-- Of a host that is no fragment, the words are looked for in the style text itself, and no lines are counted
    before it exactly if it is a style file or starts at once. If so, each surviving diagnostic that starts where
    a node starts is reported at a node that has an end there. -/
theorem exact_hits (rule : Rule ω ρ) (given : Json) (host : Host) (s : RuleState ω ρ)
    (passage : rule.Passage given host s) (whole : host.isFragment = false) :
    (host.document = none → host.wordSource = some host.content) ∧
    (host.root.lineOffset host.target.isStyleFile = 0 ↔
      host.target.isStyleFile = true ∨ host.root.StartsAtOnce) ∧
    (host.target.isStyleFile = true ∨ host.root.StartsAtOnce →
      ∃ said, ((rule.check given host).run s).1 = .ok said ∧
        List.Forall₂ (HitsExactly host) passage.survivors said) := by
  have offset := Node.lineOffset_eq_zero_iff host.root host.target.isStyleFile
  refine ⟨Host.wordSource_of_whole whole, offset, fun unshifted => ⟨_, check_of_passage passage, ?_⟩⟩
  rw [List.forall₂_map_right_iff]
  exact List.forall₂_same.2 fun d _ => hitsExactly_diagnosticRemark (offset.2 unshifted) d

/-- One renderer that always finds the same. -/
def finding (ds : List Diagnostic) : Rule Unit Unit where
  compiler := ⟨0⟩
  toolchain := {
    build := fun _ env => ((), env)
    buildUndefined := fun _ _ env => ((), env)
    render := fun _ _ => .done (.ok ds)
    renderBlocking := fun _ _ env => (.ok ds, env) }
  resolver := ⟨.ofString "/p", ⟨fun _ env => (none, env), fun base _ env => (.ok base, env),
    fun _ => .done (.ok (.inline (.obj [])))⟩⟩

/-- Its check goes through for any host. -/
def findingPassage (ds : List Diagnostic) (host : Host) :
    (finding ds).Passage (.bool true) host ⟨(), .empty, .empty⟩ where
  options := .defaults
  resolved := ⟨⟨[], Resolver.inputFor host.target host.content⟩, host.target.path?.map Path.shown⟩
  config := ⟨(), .empty⟩
  renderers := [()]
  rendering := _
  batches := [ds]
  last := ()
  accepted := RuleOptions.parse_true
  resolves := rfl
  builds := rfl
  succeed := ⟨0, rfl, rfl⟩

/-- A deprecation at a declaration on the third line. -/
def oldName (file : String) : Diagnostic :=
  ⟨file, "Deprecated.", .deprecation, ⟨"width", ⟨3, 6⟩, ⟨3, 11⟩⟩, none⟩

/-- A sheet with two empty lines, and a rule with a declaration on the third. -/
def lateSheet : Node :=
  .sheet [⟨.rule ".a", some (.between ⟨3, 1⟩ ⟨3, 18⟩),
    [.leaf (.declaration "width" "1px") (some (.between ⟨3, 6⟩ ⟨3, 16⟩))]⟩]

/-- A style file, or text from standard input, with two empty lines in front. -/
def lateHost (target : Target) : Host := ⟨target, "\n\n.a \x7b width: 1px; \x7d\n", lateSheet, none⟩

/-- A style file with empty lines in front: its positions are not moved, and the declaration is hit. -/
theorem exact_hits_lateHost :
    let host := lateHost (.path (.ofString "/p/a.scss"))
    let found := oldName "/p/a.scss"
    host.isFragment = false ∧ (findingPassage [found] host).survivors = [found] ∧
      (∃ node ∈ host.root.preorder, node.start = some found.source.start) ∧
      ∃ remark, (((finding [found]).check (.bool true) host).run ⟨(), .empty, .empty⟩).1 = .ok [remark] ∧
        HitsExactly host found remark := by
  intro host found
  have whole : host.isFragment = false := by decide
  have survive : (findingPassage [found] host).survivors = [found] := by decide
  have starts : ∃ node ∈ host.root.preorder, node.start = some found.source.start := by decide
  obtain ⟨-, -, hits⟩ := exact_hits (finding [found]) (.bool true) host _ (findingPassage [found] host) whole
  obtain ⟨said, checked, exactly⟩ := hits (Or.inl (by decide))
  rw [survive] at exactly
  cases exactly with
  | cons hit rest =>
      cases rest
      exact ⟨whole, survive, starts, _, checked, hit⟩

/-- The host is no fragment, and the diagnostic, which starts where a node starts, is reported at a node of which
    neither end is there. -/
def Misses (host : Host) (d : Diagnostic) (found : Located) : Prop :=
  host.isFragment = false ∧ (findingPassage [d] host).survivors = [d] ∧
    (∃ node ∈ host.root.preorder, node.start = some d.source.start) ∧
    (∃ line, (((finding [d]).check (.bool true) host).run ⟨(), .empty, .empty⟩).1 =
      .ok [.finding found line (some d.source.pattern) (ruleMessage d.message) d.severity]) ∧
    found.node.start ≠ some d.source.start ∧ found.node.stop ≠ some d.source.start

/-- A remark at a node without an end at the diagnostic is a miss, once the check is known to go through. -/
theorem misses_of_remark {host : Host} {d : Diagnostic} {found : Located} (line : UInt32)
    (whole : host.isFragment = false) (survive : (findingPassage [d] host).survivors = [d])
    (starts : ∃ node ∈ host.root.preorder, node.start = some d.source.start)
    (remark : diagnosticRemark host d =
      .finding found line (some d.source.pattern) (ruleMessage d.message) d.severity)
    (elsewhere : found.node.start ≠ some d.source.start ∧ found.node.stop ≠ some d.source.start) :
    Misses host d found := by
  have checked := check_of_passage (findingPassage [d] host)
  rw [survive, List.map_singleton, remark] at checked
  exact ⟨whole, survive, starts, ⟨line, checked⟩, elsewhere⟩

/-- A declaration whose end is not known. -/
def openDeclaration : Node := .leaf (.declaration "a" "0") (some (.startingAt ⟨1, 6⟩))

/-- A style file that holds a declaration from column zero on, and before it in the tree an open one. -/
def openHost : Host :=
  ⟨.path (.ofString "/p/a.scss"), "b: 0; a: 0",
    .sheet [openDeclaration, .leaf (.declaration "b" "0") (some (.between ⟨1, 0⟩ ⟨1, 4⟩))], none⟩

/-- An error at column zero of the first line. -/
def atStandIn : Diagnostic := ⟨"/p/a.scss", "Broken.", .error, ⟨"b", ⟨1, 0⟩, ⟨1, 1⟩⟩, none⟩

/-- Text from standard input that starts below the first line is looked up too low, and a node whose end is not
    known can take what starts at the stand-in of that end. -/
theorem hits_missed :
    Misses (lateHost .stdin) (oldName "stdin") ⟨0, lateSheet⟩ ∧ Misses openHost atStandIn ⟨1, openDeclaration⟩ := by
  constructor
  · exact misses_of_remark 3 (by decide) (by decide) (by decide) (by decide) (by decide)
  · exact misses_of_remark 1 (by decide) (by decide) (by decide) (by decide +kernel) (by decide)

end Rule

end SassRenderLint
