/-
Module: SassRenderLint.Proofs.NearestNode
Layer: Proofs
Purpose: Where a position can be found in a tree. The walk visits only nodes that stand below its
  starting node, at any depth, and the nearest node of a position is one of those that start on the
  position's line, or the starting node when there is none.
Main exports: Node.Below, Node.below_of_mem_descendants, Node.nearest_cases
-/
import SassRenderLint.Sheet.Nearest

namespace SassRenderLint

namespace Node

/-- A node stands below another, as its child or deeper. -/
inductive Below (top : Node) : Node → Prop where
  | child {node : Node} (member : node ∈ top.children) : Below top node
  | deeper {parent node : Node} (above : Below top parent) (member : node ∈ parent.children) : Below top node

end Node

/-- What a walk visits stands below the starting node if all that it still has to visit does. -/
theorem Walk.below_of_mem_take {top : Node} : ∀ {steps : Nat} {walk : Walk},
    (∀ node ∈ walk.stack, top.Below node) → ∀ node ∈ walk.take steps, top.Below node
  | 0, _, _, _, member => by simp [Walk.take] at member
  | steps + 1, ⟨[]⟩, _, _, member => by simp [Walk.take, Walk.next?] at member
  | steps + 1, ⟨first :: rest⟩, stacked, node, member => by
      simp only [Walk.take, Walk.next?, List.mem_cons] at member
      have firstBelow : top.Below first := stacked first List.mem_cons_self
      rcases member with rfl | later
      · exact firstBelow
      · refine Walk.below_of_mem_take ?_ node later
        intro waiting stackedNext
        rcases List.mem_append.1 stackedNext with inside | beside
        · exact .deeper firstBelow inside
        · exact stacked waiting (List.mem_cons_of_mem _ beside)

namespace Node

/-- The walk visits only nodes below its start. -/
theorem below_of_mem_descendants {top node : Node} (member : node ∈ top.descendants) : top.Below node :=
  Walk.below_of_mem_take (fun _ child => .child child) node member

theorem mem_descendants_of_mem_located {top : Node} {found : Located} (member : found ∈ top.located) :
    found.node ∈ top.descendants := by
  simp only [located, List.mem_map, Prod.exists] at member
  obtain ⟨node, index, visited, rfl⟩ := member
  exact List.fst_mem_of_mem_zipIdx visited

/-- The candidates for a line are the numbered nodes with a known start on it. -/
theorem mem_startingOn {top : Node} {line : UInt32} {found : Located} :
    found ∈ top.startingOn line ↔
      found ∈ top.located ∧ ∃ start, found.node.start = some start ∧ start.line = line := by
  rw [startingOn, List.mem_filter, startsOn]
  cases found.node.start <;> simp

/-- The best of some nodes is one of them, or the best that was known before. -/
theorem foldl_better_cases (target : Position) (candidates : List Located) (best : Option Located) :
    candidates.foldl (better target) best = best ∨
      ∃ found ∈ candidates, candidates.foldl (better target) best = some found := by
  induction candidates generalizing best with
  | nil => exact Or.inl rfl
  | cons next rest ih =>
      rcases ih (better target best next) with same | ⟨found, member, same⟩
      · have kept : better target best next = best ∨ better target best next = some next := by
          unfold better
          split
          · exact Or.inr rfl
          · split
            · exact Or.inr rfl
            · exact Or.inl rfl
        rcases kept with before | head
        · exact Or.inl (same.trans before)
        · exact Or.inr ⟨next, List.mem_cons_self, same.trans head⟩
      · exact Or.inr ⟨found, List.mem_cons_of_mem _ member, same⟩

/-- The nearest node is the starting node, or one that starts on the position's line. -/
theorem nearest_cases (root : Node) (target : Position) :
    root.nearest target = ⟨0, root⟩ ∨ root.nearest target ∈ root.startingOn target.line := by
  rcases foldl_better_cases target (root.startingOn target.line) none with nothing | ⟨found, member, same⟩
  · left
    rw [nearest, nothing]
    rfl
  · right
    rw [nearest, same]
    exact member

end Node

end SassRenderLint
