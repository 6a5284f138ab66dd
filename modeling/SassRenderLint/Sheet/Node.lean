/-
Module: SassRenderLint.Sheet.Node
Layer: Sheet
Purpose: Style sheets as trees of nodes, and the walk over the nodes below one. The walk keeps a stack
  whose top is visited next; a visited node is replaced by its children. Nodes are numbered by the
  walk from one, and the starting node is number zero.
Program names: Node is StyleNode, start, stop, firstChild and descendants are start, end, first_child
  and descendants of SyntaxNode, Walk is Descendants and next? its next, leaf is new, sheet is root,
  withChildren is with_children.
Main exports: NodeKind, Node, Node.size, Walk, Node.descendants, Node.located
-/
import SassRenderLint.Text.Position

namespace SassRenderLint

/-- What a node stands for. -/
inductive NodeKind where
  | root
  | rule (selector : String)
  | atRule (name params : String)
  | declaration (property value : String)
  | comment (text : String)
deriving DecidableEq, Repr, Inhabited

/-- A node with its place in the text and the nodes inside it. -/
structure Node where
  kind : NodeKind
  span : Option Span
  children : List Node
deriving Repr, Inhabited

namespace Node

mutual

def decEq : (a b : Node) → Decidable (a = b)
  | ⟨k, s, xs⟩, ⟨l, t, ys⟩ =>
    match decEqList xs ys with
    | isTrue h => decidable_of_iff (k = l ∧ s = t) (by simp [h])
    | isFalse h => isFalse (by simp [h])

def decEqList : (a b : List Node) → Decidable (a = b)
  | [], [] => isTrue rfl
  | [], _ :: _ => isFalse nofun
  | _ :: _, [] => isFalse nofun
  | x :: xs, y :: ys =>
    match decEq x y, decEqList xs ys with
    | isTrue h, isTrue hs => isTrue (by rw [h, hs])
    | isFalse h, _ => isFalse fun e => h (List.cons.inj e).1
    | _, isFalse hs => isFalse fun e => hs (List.cons.inj e).2

end

instance : DecidableEq Node := decEq

/-- Whether the node is a whole sheet. -/
def isRoot (node : Node) : Bool := node.kind = .root

/-- Where the node starts, if that is known. -/
def start (node : Node) : Option Position := node.span.bind Span.start

/-- Where the node ends, if that is known. -/
def stop (node : Node) : Option Position := node.span.bind Span.stop

def firstChild (node : Node) : Option Node := node.children.head?

def leaf (kind : NodeKind) (span : Option Span) : Node := ⟨kind, span, []⟩

/-- A sheet. It has no place of its own. -/
def sheet (children : List Node) : Node := ⟨.root, none, children⟩

def withChildren (node : Node) (children : List Node) : Node := { node with children }

mutual

/-- The number of nodes of a tree, its top included. -/
def size : Node → Nat
  | ⟨_, _, children⟩ => 1 + sizeList children

/-- The number of nodes of a list of trees. -/
def sizeList : List Node → Nat
  | [] => 0
  | x :: xs => size x + sizeList xs

end

end Node

/-- A walk under way: the trees still to visit, the next one first. -/
structure Walk where
  stack : List Node
deriving DecidableEq, Repr, Inhabited

namespace Walk

/-- The walk over the nodes below `node`. -/
def below (node : Node) : Walk := ⟨node.children⟩

/-- Visits a node: its children come next. -/
def next? (walk : Walk) : Option (Node × Walk) :=
  match walk.stack with
  | [] => none
  | node :: rest => some (node, ⟨node.children ++ rest⟩)

/-- The next `n` nodes, or all there are. -/
def take : Nat → Walk → List Node
  | 0, _ => []
  | n + 1, walk =>
    match walk.next? with
    | none => []
    | some (node, walk) => node :: take n walk

end Walk

namespace Node

/-- The nodes below a node, in the order of the walk. The walk visits each once, so it is over after
    as many steps as the tree has nodes. -/
def descendants (node : Node) : List Node := (Walk.below node).take node.size

end Node

/-- A node together with its number in the walk. -/
structure Located where
  index : Nat
  node : Node
deriving DecidableEq, Repr, Inhabited

namespace Node

/-- The nodes below a node with their numbers. -/
def located (node : Node) : List Located :=
  node.descendants.zipIdx.map fun (n, i) => ⟨i + 1, n⟩

end Node

end SassRenderLint
