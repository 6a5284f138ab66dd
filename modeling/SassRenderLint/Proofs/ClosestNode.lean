/-
Module: SassRenderLint.Proofs.ClosestNode
Layer: Proofs
Purpose: Which node is the nearest one. The walk visits the nodes below a node in the order in which the
  tree is written: each child, then what is below it. Of the nodes that start on a position's line, the
  nearest is the first in that order whose nearer end is closest to the position. Distances are compared
  after rounding; where rounding orders them as they are, the choice is that of the exact distances.
Main exports: Node.preorder, Node.descendants_eq_preorder, Node.FirstLeast, Node.nearest_firstLeast,
  Node.squaredScore, Node.OrdersExactly, Node.ordersExactly_of_near, Node.nearest_is_first_closest
-/
import SassRenderLint.Proofs.DistanceOrder
import SassRenderLint.Proofs.NearestNode

namespace SassRenderLint

namespace Node

/-! ### Written order -/

mutual

/-- The nodes below a node in written order. -/
def preorder : Node → List Node
  | ⟨_, _, children⟩ => preorderList children

/-- The trees of a list, each followed by the nodes below it. -/
def preorderList : List Node → List Node
  | [] => []
  | node :: rest => node :: (preorder node ++ preorderList rest)

end

theorem preorder_eq (node : Node) : node.preorder = preorderList node.children := by
  cases node
  rw [preorder]

theorem size_eq (node : Node) : node.size = 1 + sizeList node.children := by
  cases node
  rw [size]

/-- Written order goes through one list of trees and then through the other. -/
theorem preorderList_append (xs ys : List Node) : preorderList (xs ++ ys) = preorderList xs ++ preorderList ys := by
  induction xs with
  | nil => rfl
  | cons node rest ih => rw [List.cons_append, preorderList, preorderList, ih, List.cons_append, List.append_assoc]

theorem sizeList_append (xs ys : List Node) : sizeList (xs ++ ys) = sizeList xs + sizeList ys := by
  induction xs with
  | nil => exact (Nat.zero_add _).symm
  | cons node rest ih => rw [List.cons_append, sizeList, sizeList, ih, Nat.add_assoc]

end Node

/-- With enough steps, a walk visits the trees on its stack in written order. -/
theorem Walk.take_eq_preorderList {steps : Nat} {stack : List Node} (enough : Node.sizeList stack ≤ steps) :
    Walk.take steps ⟨stack⟩ = Node.preorderList stack := by
  induction steps generalizing stack with
  | zero =>
      cases stack with
      | nil => rfl
      | cons node rest =>
          rw [Node.sizeList, Node.size_eq] at enough
          omega
  | succ steps ih =>
      cases stack with
      | nil => rfl
      | cons node rest =>
          -- Visiting a node takes it off and puts its children on, so one node less is left.
          have left : Node.sizeList (node.children ++ rest) ≤ steps := by
            rw [Node.sizeList, Node.size_eq] at enough
            rw [Node.sizeList_append]
            omega
          rw [Node.preorderList, Node.preorder_eq, ← Node.preorderList_append, ← ih left]
          rfl

namespace Node

/-- The walk with a stack visits the nodes in written order. -/
theorem descendants_eq_preorder (node : Node) : node.descendants = node.preorder := by
  rw [preorder_eq]
  refine Walk.take_eq_preorderList ?_
  rw [size_eq]
  exact Nat.le_add_left _ _

/-- Numbering the nodes leaves their order alone. -/
theorem map_node_located (root : Node) : root.located.map Located.node = root.preorder := by
  rw [located, List.map_map, ← descendants_eq_preorder]
  exact List.zipIdx_map_fst 0 _

/-- The number of a node is its place in written order. -/
theorem preorder_of_located {root : Node} {before after : List Located} {found : Located}
    (split : root.located = before ++ found :: after) :
    root.preorder = before.map Located.node ++ found.node :: after.map Located.node ∧
      found = ⟨before.length + 1, found.node⟩ := by
  constructor
  · rw [← map_node_located, split, List.map_append, List.map_cons]
  · have here : root.located[before.length]? = some found := by
      rw [split, List.getElem?_append_right (Nat.le_refl _), Nat.sub_self]
      rfl
    simp only [located, List.getElem?_map, List.getElem?_zipIdx, Option.map_map, Option.map_eq_some_iff] at here
    obtain ⟨node, -, rfl⟩ := here
    simp

/-! ### The first of the least -/

/-- The first of the candidates with the least score. -/
def FirstLeast (score : Node → Nat) (candidates : List Located) (found : Located) : Prop :=
  ∃ before after, candidates = before ++ found :: after ∧
    (∀ other ∈ before, score found.node < score other.node) ∧ ∀ other ∈ after, score found.node ≤ score other.node

namespace FirstLeast

variable {score : Node → Nat} {candidates : List Located} {found first next : Located}

theorem mem (least : FirstLeast score candidates found) : found ∈ candidates := by
  obtain ⟨before, after, rfl, -, -⟩ := least
  exact List.mem_append_right _ List.mem_cons_self

theorem le (least : FirstLeast score candidates found) {other : Located} (member : other ∈ candidates) :
    score found.node ≤ score other.node := by
  obtain ⟨before, after, rfl, earlier, later⟩ := least
  rcases List.mem_append.1 member with inBefore | inRest
  · exact Nat.le_of_lt (earlier other inBefore)
  · rcases List.mem_cons.1 inRest with rfl | inAfter
    · exact Nat.le_refl _
    · exact later other inAfter

/-- A candidate that is worse than the one after it can be put in front. -/
theorem cons_of_lt (least : FirstLeast score (next :: candidates) found)
    (worse : score next.node < score first.node) : FirstLeast score (first :: next :: candidates) found := by
  have below : score found.node < score first.node := Nat.lt_of_le_of_lt (least.le List.mem_cons_self) worse
  obtain ⟨before, after, same, earlier, later⟩ := least
  refine ⟨first :: before, after, by rw [same, List.cons_append], ?_, later⟩
  intro other member
  rcases List.mem_cons.1 member with rfl | inBefore
  · exact below
  · exact earlier other inBefore

/-- A candidate that is no better than the one before it can be put behind that one. -/
theorem cons_of_le (least : FirstLeast score (first :: candidates) found)
    (noBetter : score first.node ≤ score next.node) : FirstLeast score (first :: next :: candidates) found := by
  obtain ⟨before, after, same, earlier, later⟩ := least
  cases before with
  | nil =>
      obtain ⟨rfl, rfl⟩ := List.cons.inj same
      refine ⟨[], next :: candidates, rfl, fun _ member => absurd member List.not_mem_nil, ?_⟩
      intro other member
      rcases List.mem_cons.1 member with rfl | inAfter
      · exact noBetter
      · exact later other inAfter
  | cons head before =>
      obtain ⟨rfl, rfl⟩ := List.cons.inj same
      have below : score found.node < score first.node := earlier first List.mem_cons_self
      refine ⟨first :: next :: before, after, rfl, ?_, later⟩
      intro other member
      rcases List.mem_cons.1 member with rfl | inRest
      · exact below
      · rcases List.mem_cons.1 inRest with rfl | inBefore
        · exact Nat.lt_of_lt_of_le below noBetter
        · exact earlier other (List.mem_cons_of_mem _ inBefore)

/-- Only the order of the candidates' scores counts. -/
theorem congr {score' : Node → Nat} (least : FirstLeast score candidates found)
    (sameOrder : ∀ a ∈ candidates, ∀ b ∈ candidates,
      score a.node < score b.node ↔ score' a.node < score' b.node) :
    FirstLeast score' candidates found := by
  have here := least.mem
  obtain ⟨before, after, rfl, earlier, later⟩ := least
  refine ⟨before, after, rfl, ?_, ?_⟩
  · intro other member
    exact (sameOrder found here other (List.mem_append_left _ member)).1 (earlier other member)
  · intro other member
    have there : other ∈ before ++ found :: after := List.mem_append_right _ (List.mem_cons_of_mem _ member)
    refine Nat.le_of_not_lt fun less => ?_
    exact Nat.not_lt_of_le (later other member) ((sameOrder other there found here).2 less)

end FirstLeast

/-- Going through candidates with the best so far ends with the first of the best. -/
theorem foldl_better_firstLeast (target : Position) (candidates : List Located) (first : Located) :
    ∃ found, candidates.foldl (better target) (some first) = some found ∧
      FirstLeast (fun node => node.score target) (first :: candidates) found := by
  induction candidates generalizing first with
  | nil =>
      exact ⟨first, rfl, [], [], rfl, fun _ member => absurd member List.not_mem_nil,
        fun _ member => absurd member List.not_mem_nil⟩
  | cons next rest ih =>
      rw [List.foldl_cons, better]
      split
      · rename_i improves
        obtain ⟨found, same, least⟩ := ih next
        exact ⟨found, same, least.cons_of_lt improves⟩
      · rename_i stays
        obtain ⟨found, same, least⟩ := ih first
        exact ⟨found, same, least.cons_of_le (Nat.le_of_not_lt stays)⟩

/-- The nearest node is the root when there is no candidate, and else the first of the best candidates. -/
theorem nearest_firstLeast (root : Node) (target : Position) :
    (root.startingOn target.line = [] ∧ root.nearest target = ⟨0, root⟩) ∨
      FirstLeast (fun node => node.score target) (root.startingOn target.line) (root.nearest target) := by
  cases candidates : root.startingOn target.line with
  | nil => exact Or.inl ⟨rfl, by rw [nearest, candidates]; rfl⟩
  | cons first rest =>
      obtain ⟨found, same, least⟩ := foldl_better_firstLeast target rest first
      have chosen : root.nearest target = found := by
        rw [nearest, candidates, List.foldl_cons, better, same]
        rfl
      exact Or.inr (chosen ▸ least)

/-! ### Exact distances -/

/-- The ends of a node, with the stand-in for one that is not known. -/
def places (node : Node) : List Position := [node.start.getD Position.standIn, node.stop.getD Position.standIn]

/-- The square of the exact distance of a node from a position: that of its nearer end. -/
def squaredScore (node : Node) (target : Position) : Nat :=
  min (target.squaredDistance (node.start.getD Position.standIn))
    (target.squaredDistance (node.stop.getD Position.standIn))

/-- For the ends of the nodes that start on a position's line, rounded distances from the position are in the
    order of the exact ones, and equal only where those are. -/
def OrdersExactly (root : Node) (target : Position) : Prop :=
  ∀ a ∈ root.preorder, ∀ b ∈ root.preorder,
    (∃ start ∈ a.start, start.line = target.line) → (∃ start ∈ b.start, start.line = target.line) →
      ∀ p ∈ a.places, ∀ q ∈ b.places,
        (target.distance p < target.distance q ↔ target.squaredDistance p < target.squaredDistance q)

/-- Rounding orders the ends exactly wherever lines and columns are below `2 ^ 24`. -/
theorem ordersExactly_of_near {root : Node} {target : Position} (near : target.Near)
    (alsoNear : ∀ node ∈ root.preorder, ∀ p ∈ node.places, p.Near) : root.OrdersExactly target := by
  intro _ _ b visited _ _ p _ q place
  exact Position.distance_lt_iff near (alsoNear b visited q place)

/-- The score of a node and its exact square come from one and the same end. -/
theorem exists_place_squaredScore (node : Node) (target : Position) :
    ∃ p ∈ node.places, node.squaredScore target = target.squaredDistance p ∧ node.score target = target.distance p := by
  rcases Nat.le_total (target.squaredDistance (node.start.getD Position.standIn))
    (target.squaredDistance (node.stop.getD Position.standIn)) with startNearer | stopNearer
  · exact ⟨_, List.mem_cons_self, Nat.min_eq_left startNearer,
      Nat.min_eq_left (Position.distance_le_of_le startNearer)⟩
  · exact ⟨_, List.mem_cons_of_mem _ List.mem_cons_self, Nat.min_eq_right stopNearer,
      Nat.min_eq_right (Position.distance_le_of_le stopNearer)⟩

theorem mem_preorder_iff {root node : Node} : node ∈ root.preorder ↔ ∃ found ∈ root.located, found.node = node := by
  rw [← map_node_located, List.mem_map]

/-- A node that starts on a line is one of the candidates there. -/
theorem exists_mem_startingOn {root node : Node} {line : UInt32} (visited : node ∈ root.preorder)
    (starts : ∃ start ∈ node.start, start.line = line) : ∃ found ∈ root.startingOn line, found.node = node := by
  obtain ⟨found, member, rfl⟩ := mem_preorder_iff.1 visited
  exact ⟨found, mem_startingOn.2 ⟨member, starts⟩, rfl⟩

/-- Where rounding is harmless, the nodes on a line are in the exact order by their scores. -/
theorem OrdersExactly.score_lt_iff {root : Node} {target : Position} (exactly : root.OrdersExactly target)
    {a b : Located} (first : a ∈ root.startingOn target.line) (second : b ∈ root.startingOn target.line) :
    a.node.score target < b.node.score target ↔ a.node.squaredScore target < b.node.squaredScore target := by
  obtain ⟨visited, starts⟩ := mem_startingOn.1 first
  obtain ⟨alsoVisited, alsoStarts⟩ := mem_startingOn.1 second
  obtain ⟨p, placeA, squared, rounded⟩ := exists_place_squaredScore a.node target
  obtain ⟨q, placeB, alsoSquared, alsoRounded⟩ := exists_place_squaredScore b.node target
  rw [squared, rounded, alsoSquared, alsoRounded]
  exact exactly _ (mem_preorder_iff.2 ⟨a, visited, rfl⟩) _ (mem_preorder_iff.2 ⟨b, alsoVisited, rfl⟩) starts alsoStarts
    p placeA q placeB

/-! ### The nearest node in written order -/

/-- Being first among the candidates is being first in written order among the nodes that start on the line. -/
theorem FirstLeast.before_in_preorder {root : Node} {line : UInt32} {score : Node → Nat} {found : Located}
    (least : FirstLeast score (root.startingOn line) found) :
    ∃ before after, root.preorder = before ++ found.node :: after ∧ found = ⟨before.length + 1, found.node⟩ ∧
      ∀ other ∈ before, (∃ start ∈ other.start, start.line = line) → score found.node < score other := by
  obtain ⟨earlierOnes, laterOnes, split, earlier, -⟩ := least
  obtain ⟨passed, rest, located, passedOnes, restOnes⟩ := List.filter_eq_append_iff.1 split
  obtain ⟨skipped, after, rfl, noneSkipped, -, -⟩ := List.filter_eq_cons_iff.1 restOnes
  rw [← List.append_assoc] at located
  obtain ⟨order, index⟩ := preorder_of_located located
  refine ⟨(passed ++ skipped).map Located.node, after.map Located.node, order, by simpa using index, ?_⟩
  intro other member starts
  obtain ⟨candidate, visited, rfl⟩ := List.mem_map.1 member
  have onLine : candidate ∈ root.startingOn line := by
    refine mem_startingOn.2 ⟨?_, starts⟩
    rw [located]
    exact List.mem_append_left _ visited
  have passes := (List.mem_filter.1 onLine).2
  refine earlier candidate ?_
  rw [← passedOnes]
  rcases List.mem_append.1 visited with inPassed | inSkipped
  · exact List.mem_filter.2 ⟨inPassed, passes⟩
  · exact absurd passes (noneSkipped candidate inSkipped)

/-- A position belongs to the root exactly when no node below it starts on the position's line. Otherwise it
    belongs to one that does, at its number in written order. Where rounding orders distances exactly, that
    node's nearer end is as close to the position as that of any other such node, and closer than that of each
    one before it. -/
theorem nearest_is_first_closest (root : Node) (target : Position) :
    (root.nearest target = ⟨0, root⟩ ↔
      ∀ node ∈ root.preorder, ¬ ∃ start ∈ node.start, start.line = target.line) ∧
    ((∃ node ∈ root.preorder, ∃ start ∈ node.start, start.line = target.line) →
      ∃ before node after, root.preorder = before ++ node :: after ∧
        root.nearest target = ⟨before.length + 1, node⟩ ∧ (∃ start ∈ node.start, start.line = target.line) ∧
        (root.OrdersExactly target →
          (∀ other ∈ root.preorder, (∃ start ∈ other.start, start.line = target.line) →
            node.squaredScore target ≤ other.squaredScore target) ∧
          ∀ other ∈ before, (∃ start ∈ other.start, start.line = target.line) →
            node.squaredScore target < other.squaredScore target)) := by
  rcases nearest_firstLeast root target with ⟨nothing, same⟩ | least
  · have absent : ∀ node ∈ root.preorder, ¬ ∃ start ∈ node.start, start.line = target.line := by
      intro node visited starts
      obtain ⟨found, member, -⟩ := exists_mem_startingOn visited starts
      rw [nothing] at member
      exact List.not_mem_nil member
    refine ⟨⟨fun _ => absent, fun _ => same⟩, ?_⟩
    rintro ⟨node, visited, starts⟩
    exact absurd starts (absent node visited)
  · obtain ⟨before, after, order, index, -⟩ := least.before_in_preorder
    obtain ⟨visited, starts⟩ := mem_startingOn.1 least.mem
    refine ⟨⟨?_, ?_⟩, ?_⟩
    · intro atRoot
      rw [atRoot] at index
      cases index
    · intro absent
      exact absurd starts (absent _ (mem_preorder_iff.2 ⟨_, visited, rfl⟩))
    · intro _
      refine ⟨before, _, after, order, index, starts, fun exactly => ?_⟩
      have closest : FirstLeast (fun node => node.squaredScore target) (root.startingOn target.line)
          (root.nearest target) := least.congr fun a first b second => exactly.score_lt_iff first second
      obtain ⟨sameBefore, _, sameOrder, sameIndex, strictly⟩ := closest.before_in_preorder
      -- Both times the node has one number, so the same nodes come before it.
      have length : before.length = sameBefore.length := by
        have numbers := index.symm.trans sameIndex
        injection numbers with number
        exact Nat.succ.inj number
      rw [List.append_inj_left (order.symm.trans sameOrder) length]
      refine ⟨?_, strictly⟩
      intro other alsoVisited alsoStarts
      obtain ⟨found, member, rfl⟩ := exists_mem_startingOn alsoVisited alsoStarts
      exact closest.le member

/-- A sheet whose second line holds a declaration with an unknown end and a rule with two declarations that are
    equally far from the seventh column. -/
def crowdedLine : Node :=
  .sheet [.leaf (.declaration "open" "0") (some (.startingAt ⟨2, 1⟩)),
    ⟨.rule ".a", some (.between ⟨2, 1⟩ ⟨2, 40⟩), [
      .leaf (.declaration "left" "0") (some (.between ⟨2, 1⟩ ⟨2, 5⟩)),
      .leaf (.declaration "right" "0") (some (.between ⟨2, 9⟩ ⟨2, 13⟩))]⟩]

/-- On the crowded line two declarations are equally near, and the one that comes first is taken. -/
theorem nearest_is_first_closest_crowdedLine :
    (∃ node ∈ crowdedLine.preorder, ∃ start ∈ node.start, start.line = 2) ∧ crowdedLine.OrdersExactly ⟨2, 7⟩ ∧
      ∃ before node after, crowdedLine.preorder = before ++ node :: after ∧
        crowdedLine.nearest ⟨2, 7⟩ = ⟨before.length + 1, node⟩ ∧
        (∀ other ∈ crowdedLine.preorder, (∃ start ∈ other.start, start.line = 2) →
          node.squaredScore ⟨2, 7⟩ ≤ other.squaredScore ⟨2, 7⟩) ∧
        ∀ other ∈ before, (∃ start ∈ other.start, start.line = 2) →
          node.squaredScore ⟨2, 7⟩ < other.squaredScore ⟨2, 7⟩ := by
  have starts : ∃ node ∈ crowdedLine.preorder, ∃ start ∈ node.start, start.line = 2 :=
    ⟨.leaf (.declaration "open" "0") (some (.startingAt ⟨2, 1⟩)), by decide, ⟨2, 1⟩, rfl, rfl⟩
  have exactly : crowdedLine.OrdersExactly ⟨2, 7⟩ := ordersExactly_of_near (by decide) (by decide)
  obtain ⟨before, node, after, order, found, -, closest⟩ := (nearest_is_first_closest crowdedLine ⟨2, 7⟩).2 starts
  exact ⟨starts, exactly, before, node, after, order, found, closest exactly⟩

end Node

end SassRenderLint
