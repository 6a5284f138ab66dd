/-
Module: SassRenderLint.Proofs.WalkOrder
Layer: Proofs
Purpose: What a walk visits when it is asked for the next node until there is none. Each step leaves one node less
  on the stack, counted with all that is below the stacked nodes, so every walk ends; and the step from a stacked
  node to its children is the step of written order from a node to what is below it. Addresses tell apart nodes that
  look alike: a node is reached by the numbers of the children on the way down. Written order is the order of
  addresses, number by number, and each address but the empty one comes up once.
Main exports: Walk.Yields, Walk.yields_iff, Walk.ofPile, Node.at?, Node.addresses, Node.map_at?_addresses,
  Node.pairwise_addresses, Node.mem_addresses, Walk.visits_in_written_order
-/
import SassRenderLint.Proofs.ClosestNode

namespace SassRenderLint

/-! ### Asking until there is none -/

/-- Each tree of a list is followed by the nodes below it. -/
theorem Node.preorderList_eq_flatMap (trees : List Node) :
    preorderList trees = trees.flatMap fun tree => tree :: tree.preorder := by
  induction trees with
  | nil => rfl
  | cons tree rest ih => rw [preorderList, ih, List.flatMap_cons, List.cons_append]

namespace Walk

/-- Asking a walk for the next node until there is none gives these nodes. -/
inductive Yields : Walk → List Node → Prop where
  | finish {walk : Walk} (none : walk.next? = none) : Yields walk []
  | visit {walk rest : Walk} {node : Node} {later : List Node} (next : walk.next? = some (node, rest))
      (goesOn : Yields rest later) : Yields walk (node :: later)

/-- A walk gives the same nodes each time. -/
theorem Yields.unique {walk : Walk} {nodes others : List Node} (yields : walk.Yields nodes)
    (also : walk.Yields others) : nodes = others := by
  induction yields generalizing others with
  | finish none =>
      cases also with
      | finish => rfl
      | visit next => cases none.symm.trans next
  | visit next _ ih =>
      cases also with
      | finish none => cases none.symm.trans next
      | visit alsoNext goesOn =>
          cases next.symm.trans alsoNext
          rw [ih goesOn]

/-- A walk ends, having visited the trees on its stack in written order. -/
theorem yields_preorderList : ∀ stack : List Node, Yields ⟨stack⟩ (Node.preorderList stack)
  | [] => .finish rfl
  | node :: rest => by
      have goesOn := yields_preorderList (node.children ++ rest)
      rw [Node.preorderList_append, ← Node.preorder_eq] at goesOn
      exact .visit rfl goesOn
termination_by stack => Node.sizeList stack
decreasing_by
  rw [Node.sizeList_append, Node.sizeList, Node.size_eq]
  omega

/-- What a walk has still to give, whatever is on its stack. -/
theorem yields_iff {walk : Walk} {nodes : List Node} :
    walk.Yields nodes ↔ nodes = walk.stack.flatMap fun tree => tree :: tree.preorder := by
  have yields := yields_preorderList walk.stack
  rw [Node.preorderList_eq_flatMap] at yields
  constructor
  · intro also
    exact also.unique yields
  · rintro rfl
    exact yields

/-- The walk over the trees of a pile, the topmost of which is the last one. -/
def ofPile (pile : List Node) : Walk := ⟨pile.reverse⟩

/-- A visit takes the topmost tree off the pile and puts its children on, the last one first. -/
theorem next?_ofPile (pile : List Node) (top : Node) :
    (ofPile (pile ++ [top])).next? = some (top, ofPile (pile ++ top.children.reverse)) := by
  simp [ofPile, next?]

end Walk

namespace Node

/-! ### Addresses -/

/-- The node that is reached by going down to the children with these numbers. -/
def at? : Node → List Nat → Option Node
  | node, [] => some node
  | node, number :: deeper => node.children[number]?.bind fun child => at? child deeper

mutual

/-- The addresses of the nodes below a node, in written order. -/
def addresses : Node → List (List Nat)
  | ⟨_, _, children⟩ => addressesFrom 0 children

/-- The addresses of children, the first of which has this number, and of the nodes below them. -/
def addressesFrom (number : Nat) : List Node → List (List Nat)
  | [] => []
  | child :: rest => ([] :: addresses child).map (number :: ·) ++ addressesFrom (number + 1) rest

end

mutual

/-- At the addresses below a node stand the nodes below it. -/
theorem map_at?_addresses : ∀ node : Node, node.addresses.map node.at? = node.preorder.map some
  | ⟨_, _, children⟩ => map_at?_addressesFrom _ 0 children rfl

/-- The same for the last children of a node. -/
theorem map_at?_addressesFrom (node : Node) :
    ∀ (number : Nat) (children : List Node), node.children.drop number = children →
      (addressesFrom number children).map node.at? = (preorderList children).map some
  | _, [], _ => rfl
  | number, child :: rest, last => by
      have here : node.children[number]? = some child := by
        rw [← List.head?_drop, last, List.head?_cons]
      have after : node.children.drop (number + 1) = rest := by
        rw [← List.tail_drop, last, List.tail_cons]
      rw [addressesFrom, preorderList, List.map_append, List.map_map, List.map_cons, List.map_cons, List.map_append,
        map_at?_addressesFrom node (number + 1) rest after, ← map_at?_addresses child]
      simp [Function.comp_def, at?, here]

end

/-- One address comes before another: it is a beginning of it, or the first number in which they differ is less. -/
abbrev Earlier : List Nat → List Nat → Prop := List.Lex (· < ·)

/-- An address starts with the number of one of the children. -/
theorem head_of_mem_addressesFrom {number : Nat} {children : List Node} {address : List Nat}
    (member : address ∈ addressesFrom number children) :
    ∃ first deeper, address = first :: deeper ∧ number ≤ first := by
  induction children generalizing number with
  | nil => cases member
  | cons child rest ih =>
      rw [addressesFrom, List.mem_append] at member
      rcases member with inside | later
      · obtain ⟨deeper, -, rfl⟩ := List.mem_map.1 inside
        exact ⟨number, deeper, rfl, Nat.le_refl _⟩
      · obtain ⟨first, deeper, rfl, less⟩ := ih later
        exact ⟨first, deeper, rfl, Nat.le_of_succ_le less⟩

mutual

/-- Written order is the order of addresses. -/
theorem pairwise_addresses : ∀ node : Node, node.addresses.Pairwise Earlier
  | ⟨_, _, children⟩ => pairwise_addressesFrom 0 children

/-- Addresses come in increasing order: a child before what is below it, and all of that before the next child.
    -/
theorem pairwise_addressesFrom :
    ∀ (number : Nat) (children : List Node), (addressesFrom number children).Pairwise Earlier
  | _, [] => .nil
  | number, child :: rest => by
      refine List.pairwise_append.2 ⟨?_, pairwise_addressesFrom (number + 1) rest, ?_⟩
      · -- The child comes before the nodes below it.
        have below : ([] :: child.addresses).Pairwise Earlier := by
          refine List.pairwise_cons.2 ⟨?_, pairwise_addresses child⟩
          obtain ⟨_, _, children⟩ := child
          intro address member
          obtain ⟨first, deeper, rfl, -⟩ := head_of_mem_addressesFrom member
          exact .nil
        exact below.map _ fun _ _ earlier => .cons earlier
      · intro address inside other later
        obtain ⟨deeper, -, rfl⟩ := List.mem_map.1 inside
        obtain ⟨first, _, rfl, less⟩ := head_of_mem_addressesFrom later
        exact .rel less

end

mutual

/-- Every node below a node has its address among those listed, and nothing else has. -/
theorem mem_addresses : ∀ (node : Node) (address : List Nat),
    address ∈ node.addresses ↔ address ≠ [] ∧ (node.at? address).isSome
  | ⟨_, _, children⟩, [] => by
      rw [addresses]
      refine iff_of_false (fun member => ?_) fun proper => proper.1 rfl
      obtain ⟨_, _, same, -⟩ := head_of_mem_addressesFrom member
      cases same
  | ⟨_, _, children⟩, number :: deeper => by
      have listed := mem_addressesFrom 0 children number deeper
      rw [Nat.zero_add] at listed
      rw [addresses, listed, at?]
      simp

/-- The addresses are those that lead to a node. -/
theorem mem_addressesFrom : ∀ (number : Nat) (children : List Node) (further : Nat) (deeper : List Nat),
    (number + further) :: deeper ∈ addressesFrom number children ↔
      (children[further]?.bind fun child => child.at? deeper).isSome
  | _, [], _, _ => by simp [addressesFrom]
  | number, child :: rest, 0, deeper => by
      have absent : number :: deeper ∉ addressesFrom (number + 1) rest := by
        intro member
        obtain ⟨first, _, same, less⟩ := head_of_mem_addressesFrom member
        obtain ⟨rfl, -⟩ := List.cons.inj same
        exact Nat.not_succ_le_self number less
      have inside := mem_addresses child deeper
      cases deeper with
      | nil => simp [addressesFrom, at?]
      | cons next deeper => simp [addressesFrom, absent, inside]
  | number, child :: rest, further + 1, deeper => by
      have later := mem_addressesFrom (number + 1) rest further deeper
      rw [Nat.add_right_comm, Nat.add_assoc] at later
      simp [addressesFrom, later]

end

/-! ### The starting node -/

mutual

/-- A node below another is a smaller tree, so no tree is below itself. -/
theorem size_lt_of_mem_preorder : ∀ {node below : Node}, below ∈ node.preorder → below.size < node.size
  | ⟨_, _, children⟩, below, member => by
      have small := size_le_of_mem_preorderList (show below ∈ preorderList children from member)
      rw [size]
      omega

theorem size_le_of_mem_preorderList : ∀ {trees : List Node} {node : Node},
    node ∈ preorderList trees → node.size ≤ sizeList trees
  | [], _, member => by cases member
  | tree :: rest, node, member => by
      rw [preorderList, List.mem_cons, List.mem_append] at member
      rw [sizeList]
      rcases member with rfl | inside | later
      · exact Nat.le_add_right _ _
      · have small := size_lt_of_mem_preorder inside
        omega
      · have small := size_le_of_mem_preorderList later
        omega

end

end Node

/-! ### The whole walk -/

namespace Walk

open Node

/-- A walk asked for nodes until there is none gives, from the top of its stack down, each stacked node and the nodes
    below it; so the walk below a node ends, and has then given the children one by one, each with what is below it
    before the next. The nodes given are those at the addresses below the starting node, each once and in the order
    of addresses. The starting node is not among them. Seen as a pile that grows at its end, the stack gets the
    children of a visited node in reverse. -/
theorem visits_in_written_order (node : Node) :
    (∀ nodes, (below node).Yields nodes ↔ nodes = node.preorder) ∧
    node.descendants = node.preorder ∧
    node.preorder = node.children.flatMap (fun child => child :: child.preorder) ∧
    node.addresses.map node.at? = node.preorder.map some ∧
    (∀ address, address ∈ node.addresses ↔ address ≠ [] ∧ (node.at? address).isSome) ∧
    node.addresses.Pairwise Earlier ∧ node.addresses.Nodup ∧ node ∉ node.preorder ∧
    (∀ (walk : Walk) (nodes : List Node),
      walk.Yields nodes ↔ nodes = walk.stack.flatMap fun stacked => stacked :: stacked.preorder) ∧
    below node = ofPile node.children.reverse ∧
    ∀ (pile : List Node) (top : Node),
      (ofPile (pile ++ [top])).next? = some (top, ofPile (pile ++ top.children.reverse)) := by
  have children : node.preorder = node.children.flatMap (fun child => child :: child.preorder) := by
    rw [preorder_eq, preorderList_eq_flatMap]
  refine ⟨?_, descendants_eq_preorder node, children, map_at?_addresses node, mem_addresses node,
    pairwise_addresses node, ?_, ?_, fun _ _ => yields_iff, ?_, next?_ofPile⟩
  · intro nodes
    rw [children]
    exact yields_iff
  · refine (pairwise_addresses node).imp ?_
    rintro address _ earlier rfl
    exact List.lex_irrefl Nat.lt_irrefl address earlier
  · intro member
    exact Nat.lt_irrefl _ (size_lt_of_mem_preorder member)
  · rw [ofPile, List.reverse_reverse, below]

end Walk

end SassRenderLint
