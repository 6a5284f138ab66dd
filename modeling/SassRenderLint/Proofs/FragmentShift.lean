/-
Module: SassRenderLint.Proofs.FragmentShift
Layer: Proofs
Purpose: A sheet may stand on its own or further down in a document. Lowering a tree adds the same number
  of lines to all ends in it. The lines before the sheet are then found again from its first node, and
  the nearest node of a position that is moved down as well keeps its number in the walk: distances
  depend on differences of lines only, as long as no end is a stand-in.
Main exports: Node.lowered, Node.descendants_lowered, Node.score_lowered, Node.nearest_lowered,
  Rule.fragment_locates_same_node
-/
import SassRenderLint.Proofs.NearestNode
import SassRenderLint.Rule.Check

namespace SassRenderLint

/-! ### Lowering -/

namespace Position

/-- The position so many lines further down. -/
def lowered (k : UInt32) (p : Position) : Position := ⟨p.line + k, p.column⟩

/-- The lines from the position down to the last one are enough to lower it. -/
def Lowers (k : UInt32) (p : Position) : Prop := p.line.toNat + k.toNat < UInt32.size

instance (k : UInt32) (p : Position) : Decidable (p.Lowers k) :=
  inferInstanceAs (Decidable (p.line.toNat + k.toNat < UInt32.size))

/-- With room below, a line is lowered without wrapping round. -/
theorem toNat_line_lowered {k : UInt32} {p : Position} (room : p.Lowers k) :
    (p.lowered k).line.toNat = p.line.toNat + k.toNat := by
  rw [lowered, UInt32.toNat_add]
  exact Nat.mod_eq_of_lt room

/-- With room below, the sum that stops at the greatest line is the plain one. -/
theorem shiftedBy_eq_lowered {k : UInt32} {p : Position} (room : p.Lowers k) : p.shiftedBy k = p.lowered k := by
  have below : p.line.toNat + k.toNat < UInt32.size := room
  rw [shiftedBy, lowered, saturatingAdd, if_pos below]

/-- Two positions that are lowered together stay as far apart as they were. -/
theorem distance_lowered {k : UInt32} {p q : Position} (first : p.Lowers k) (second : q.Lowers k) :
    (p.lowered k).distance (q.lowered k) = p.distance q := by
  have lines : gap (p.lowered k).line (q.lowered k).line = gap p.line q.line := by
    rw [gap, gap, toNat_line_lowered first, toNat_line_lowered second]
    omega
  rw [distance, distance, squaredDistance, squaredDistance, lines]
  rfl

end Position

def Span.lowered (k : UInt32) (span : Span) : Span :=
  ⟨span.start.map (Position.lowered k), span.stop.map (Position.lowered k)⟩

namespace Node

mutual

/-- The tree with all ends so many lines further down. -/
def lowered (k : UInt32) : Node → Node
  | ⟨kind, span, children⟩ => ⟨kind, span.map (Span.lowered k), loweredList k children⟩

def loweredList (k : UInt32) : List Node → List Node
  | [] => []
  | x :: xs => lowered k x :: loweredList k xs

end

/-- A list of trees is lowered tree by tree. -/
theorem loweredList_eq_map (k : UInt32) (nodes : List Node) : loweredList k nodes = nodes.map (lowered k) := by
  induction nodes with
  | nil => rfl
  | cons node rest ih => rw [loweredList, ih, List.map_cons]

@[simp] theorem children_lowered (k : UInt32) (node : Node) :
    (node.lowered k).children = node.children.map (lowered k) := by
  cases node
  rw [lowered, loweredList_eq_map]

/-- An unknown start stays unknown, a known one is lowered. -/
@[simp] theorem start_lowered (k : UInt32) (node : Node) :
    (node.lowered k).start = node.start.map (Position.lowered k) := by
  obtain ⟨kind, span, children⟩ := node
  cases span <;> rfl

@[simp] theorem stop_lowered (k : UInt32) (node : Node) :
    (node.lowered k).stop = node.stop.map (Position.lowered k) := by
  obtain ⟨kind, span, children⟩ := node
  cases span <;> rfl

mutual

/-- Lowering does not change how long the walk is. -/
theorem size_lowered (k : UInt32) : ∀ node : Node, (node.lowered k).size = node.size
  | ⟨_, _, children⟩ => by rw [lowered, size, size, sizeList_loweredList k children]

theorem sizeList_loweredList (k : UInt32) : ∀ nodes : List Node, sizeList (loweredList k nodes) = sizeList nodes
  | [] => rfl
  | node :: rest => by rw [loweredList, sizeList, sizeList, size_lowered k node, sizeList_loweredList k rest]

end

end Node

/-- A walk over lowered trees visits what the walk over the trees visits, lowered. -/
theorem Walk.take_lowered (k : UInt32) (steps : Nat) (stack : List Node) :
    Walk.take steps ⟨stack.map (Node.lowered k)⟩ = (Walk.take steps ⟨stack⟩).map (Node.lowered k) := by
  induction steps generalizing stack with
  | zero => rfl
  | succ steps ih =>
      cases stack with
      | nil => rfl
      | cons node rest =>
          have next := ih (node.children ++ rest)
          rw [List.map_append, ← Node.children_lowered] at next
          exact congrArg (List.cons (node.lowered k)) next

namespace Node

/-- The walk visits the lowered nodes in the same order. -/
theorem descendants_lowered (k : UInt32) (node : Node) :
    (node.lowered k).descendants = node.descendants.map (lowered k) := by
  rw [descendants, descendants, Walk.below, size_lowered, children_lowered]
  exact Walk.take_lowered k _ _

end Node

def Located.lowered (k : UInt32) (found : Located) : Located := ⟨found.index, found.node.lowered k⟩

namespace Node

/-- Lowering a tree keeps the number of every node in the walk. -/
theorem located_lowered (k : UInt32) (node : Node) :
    (node.lowered k).located = node.located.map (Located.lowered k) := by
  rw [located, located, descendants_lowered, List.zipIdx_map, List.map_map, List.map_map]
  rfl

/-! ### The nearest node -/

/-- Lines move together with the nodes that start on them. Wrapping round is injective, so no room is needed
    here. -/
theorem startsOn_lowered (k : UInt32) (node : Node) (line : UInt32) :
    (node.lowered k).startsOn (line + k) = node.startsOn line := by
  rw [startsOn, startsOn, start_lowered]
  cases node.start with
  | none => rfl
  | some start => simp [Position.lowered]

/-- The candidates for a lowered line are the lowered candidates, under their old numbers. -/
theorem startingOn_lowered (k : UInt32) (root : Node) (line : UInt32) :
    (root.lowered k).startingOn (line + k) = (root.startingOn line).map (Located.lowered k) := by
  rw [startingOn, startingOn, located_lowered, List.filter_map]
  refine congrArg _ (List.filter_congr ?_)
  intro found _
  exact startsOn_lowered k found.node line

/-- Both ends of a node, as far as they are known. -/
def ends (node : Node) : List Position := node.start.toList ++ node.stop.toList

/-- A node of which both ends are known is as far from a position as it was when both are lowered. The
    stand-in for an unknown end would stay where it is. -/
theorem score_lowered {k : UInt32} {node : Node} {target : Position} (starts : node.start.isSome)
    (stops : node.stop.isSome) (fits : ∀ place ∈ node.ends, place.Lowers k) (room : target.Lowers k) :
    (node.lowered k).score (target.lowered k) = node.score target := by
  obtain ⟨start, starts⟩ := Option.isSome_iff_exists.1 starts
  obtain ⟨stop, stops⟩ := Option.isSome_iff_exists.1 stops
  have startFits : start.Lowers k := fits start (by simp [ends, starts])
  have stopFits : stop.Lowers k := fits stop (by simp [ends, stops])
  rw [score, score, start_lowered, stop_lowered, starts, stops]
  simp only [Option.map_some, endDistance, Option.getD_some]
  rw [Position.distance_lowered room startFits, Position.distance_lowered room stopFits]

/-- Choosing among lowered nodes is choosing among the nodes, when every score is kept. -/
theorem foldl_better_lowered {k : UInt32} {target : Position} (candidates : List Located) (best : Option Located)
    (kept : ∀ found, found ∈ candidates ∨ best = some found →
      (found.node.lowered k).score (target.lowered k) = found.node.score target) :
    (candidates.map (Located.lowered k)).foldl (better (target.lowered k)) (best.map (Located.lowered k)) =
      (candidates.foldl (better target) best).map (Located.lowered k) := by
  induction candidates generalizing best with
  | nil => rfl
  | cons next rest ih =>
      have nextKept := kept next (Or.inl List.mem_cons_self)
      have step : better (target.lowered k) (best.map (Located.lowered k)) (next.lowered k) =
          (better target best next).map (Located.lowered k) := by
        cases best with
        | none => rfl
        | some found =>
            have foundKept := kept found (Or.inr rfl)
            simp only [Option.map_some, better, Located.lowered, nextKept, foundKept]
            split <;> rfl
      rw [List.map_cons, List.foldl_cons, List.foldl_cons, step]
      refine ih _ ?_
      intro found known
      rcases known with member | same
      · exact kept found (Or.inl (List.mem_cons_of_mem _ member))
      · -- The better of two nodes is one of them.
        rcases foldl_better_cases target [next] best with before | ⟨chosen, member, now⟩
        · exact kept found (Or.inr (before.symm.trans same))
        · cases List.mem_singleton.1 member
          cases now.symm.trans same
          exact nextKept

/-- When every node that starts somewhere also ends somewhere, a tree and a position that are lowered
    together have their nearest node at the same place of the walk. -/
theorem nearest_lowered {k : UInt32} {root : Node} {target : Position}
    (closed : ∀ node ∈ root.descendants, node.start.isSome → node.stop.isSome)
    (fits : ∀ node ∈ root.descendants, ∀ place ∈ node.ends, place.Lowers k) (room : target.Lowers k) :
    (root.lowered k).nearest (target.lowered k) = (root.nearest target).lowered k := by
  have kept : ∀ found, found ∈ root.startingOn target.line ∨ none = some found →
      (found.node.lowered k).score (target.lowered k) = found.node.score target := by
    rintro found (candidate | ⟨⟨⟩⟩)
    obtain ⟨visited, start, starts, -⟩ := mem_startingOn.1 candidate
    have member := mem_descendants_of_mem_located visited
    have started : found.node.start.isSome := by rw [starts]; rfl
    exact score_lowered started (closed _ member started) (fits _ member) room
  have chosen := foldl_better_lowered (root.startingOn target.line) none kept
  rw [nearest, nearest, Position.lowered, startingOn_lowered]
  refine (congrArg (fun best => Option.getD best _) chosen).trans ?_
  cases (root.startingOn target.line).foldl (better target) none <;> rfl

/-! ### The lines before the sheet -/

/-- The node that the offset is read off is among those that the walk visits. -/
theorem mem_descendants_of_firstChild {root child : Node} (first : root.firstChild = some child) :
    child ∈ root.descendants := by
  obtain ⟨kind, span, children⟩ := root
  cases children with
  | nil => cases first
  | cons node rest =>
      cases first
      rw [descendants, size, Nat.add_comm]
      exact List.mem_cons_self

/-- The sheet's first node starts on its first line. -/
def StartsAtTop (root : Node) : Prop :=
  ∃ child start, root.firstChild = some child ∧ child.start = some start ∧ start.line = 1

/-- As many lines come before a lowered sheet as it was lowered by. -/
theorem lineOffset_lowered {k : UInt32} {root : Node} (top : root.StartsAtTop)
    (fits : ∀ node ∈ root.descendants, ∀ place ∈ node.ends, place.Lowers k) :
    (root.lowered k).lineOffset false = k := by
  obtain ⟨child, start, first, starts, line⟩ := top
  have startFits : start.Lowers k :=
    fits child (mem_descendants_of_firstChild first) start (by simp [ends, starts])
  have loweredFirst : (root.lowered k).firstChild = some (child.lowered k) := by
    rw [firstChild, children_lowered, List.head?_map]
    exact congrArg _ first
  have lines := Position.toNat_line_lowered startFits
  simp only [lineOffset, loweredFirst, Option.bind_some, start_lowered, starts, Option.map_some]
  have below : 1 ≤ (start.lowered k).line := by
    rw [UInt32.le_iff_toNat_le, lines, line]
    exact Nat.le_add_right 1 _
  rw [if_neg (by decide), saturatingSub, if_pos below, ← UInt32.toNat_inj, UInt32.toNat_sub_of_le _ _ below, lines, line]
  exact Nat.add_sub_cancel_left 1 _

/-- A sheet that starts at the top is not moved, be it a style file or not. -/
theorem lineOffset_of_startsAtTop {root : Node} (top : root.StartsAtTop) (isStyleFile : Bool) :
    root.lineOffset isStyleFile = 0 := by
  obtain ⟨child, start, first, starts, line⟩ := top
  cases isStyleFile with
  | true => rfl
  | false =>
      simp only [lineOffset, first, Option.bind_some, starts, line]
      rfl

end Node

/-! ### Fragments -/

namespace Rule

/-- A sheet that stands further down in a document is linted as it is on its own: the lines before it are
    counted right, and a diagnostic is located at the same node, by its number in the walk. -/
theorem fragment_locates_same_node (sheet : Node) (k : UInt32) (top : sheet.StartsAtTop)
    (closed : ∀ node ∈ sheet.descendants, node.start.isSome → node.stop.isSome)
    (fits : ∀ node ∈ sheet.descendants, ∀ place ∈ node.ends, place.Lowers k)
    (p : Position) (room : p.Lowers k) :
    (sheet.lowered k).lineOffset false = k ∧
    ((sheet.lowered k).nearest (p.shiftedBy k)).index = (sheet.nearest p).index ∧
    ((sheet.lowered k).nearest (p.shiftedBy k)).node = (sheet.nearest p).node.lowered k ∧
    ∀ (fragment alone : Host) (d : Diagnostic), fragment.root = sheet.lowered k →
      fragment.target.isStyleFile = false → alone.root = sheet → d.source.start = p →
        ∃ (found : Located) (line documentLine : UInt32),
          diagnosticRemark alone d =
            .finding found line (some d.source.pattern) (ruleMessage d.message) d.severity ∧
          diagnosticRemark fragment d =
            .finding (found.lowered k) documentLine (some d.source.pattern) (ruleMessage d.message) d.severity ∧
          (found.node.start.isSome → documentLine = line + k) := by
  have offset := Node.lineOffset_lowered top fits
  have nearest : (sheet.lowered k).nearest (p.shiftedBy k) = (sheet.nearest p).lowered k := by
    rw [Position.shiftedBy_eq_lowered room]
    exact Node.nearest_lowered closed fits room
  refine ⟨offset, by rw [nearest]; rfl, by rw [nearest]; rfl, ?_⟩
  rintro fragment alone d inDocument notStyle onItsOwn rfl
  have unmoved : d.source.start.shiftedBy 0 = d.source.start := by
    have nothing : d.source.start.Lowers 0 := UInt32.toNat_lt _
    rw [Position.shiftedBy_eq_lowered nothing, Position.lowered, UInt32.add_zero]
  let found := sheet.nearest d.source.start
  let lineOf := fun node : Node => (node.start.map Position.line).getD d.source.start.line
  refine ⟨found, lineOf found.node, lineOf (found.node.lowered k), ?_, ?_, ?_⟩
  · rw [diagnosticRemark, onItsOwn, Node.lineOffset_of_startsAtTop top, unmoved]
  · rw [diagnosticRemark, inDocument, notStyle, offset, nearest]
    rfl
  · intro starts
    obtain ⟨start, starts⟩ := Option.isSome_iff_exists.1 starts
    simp only [lineOf, Node.start_lowered, starts, Option.map_some, Option.getD_some]
    rfl

/-- A rule with one declaration, as it stands at the top of a sheet. -/
def ruleAtTop : Node :=
  .sheet [⟨.rule ".a", some (.between ⟨1, 1⟩ ⟨3, 1⟩),
    [.leaf (.declaration "width" "becky(1px)") (some (.between ⟨2, 3⟩ ⟨2, 20⟩))]⟩]

/-- Two lines further down, the declaration is found as the same node of the walk. -/
theorem fragment_locates_same_node_ruleAtTop :
    ruleAtTop.StartsAtTop ∧
      (∀ node ∈ ruleAtTop.descendants, node.start.isSome → node.stop.isSome) ∧
      (∀ node ∈ ruleAtTop.descendants, ∀ place ∈ node.ends, place.Lowers 2) ∧
      Position.Lowers 2 ⟨2, 10⟩ ∧
      (ruleAtTop.lowered 2).lineOffset false = 2 ∧
      ((ruleAtTop.lowered 2).nearest ⟨4, 10⟩).index = 2 ∧
      (ruleAtTop.nearest ⟨2, 10⟩).index = 2 := by
  have top : ruleAtTop.StartsAtTop := ⟨_, _, rfl, rfl, rfl⟩
  have closed : ∀ node ∈ ruleAtTop.descendants, node.start.isSome → node.stop.isSome := by decide
  have fits : ∀ node ∈ ruleAtTop.descendants, ∀ place ∈ node.ends, place.Lowers 2 := by decide
  have room : Position.Lowers 2 ⟨2, 10⟩ := by decide
  have index : (ruleAtTop.nearest ⟨2, 10⟩).index = 2 := by decide
  obtain ⟨offset, same, -, -⟩ := fragment_locates_same_node ruleAtTop 2 top closed fits ⟨2, 10⟩ room
  exact ⟨top, closed, fits, room, offset, same.trans index, index⟩

end Rule

end SassRenderLint
