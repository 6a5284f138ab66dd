/-
Module: SassRenderLint.Sheet.Nearest
Layer: Sheet
Purpose: Which node of a tree a position belongs to. Only nodes that start on the position's line come
  into question; of those the one with the nearest end wins, the first of equals. Sheets cut out of a
  host document start below its first line, and positions inside them are moved down by that much.
Program names: lineOffset is line_offset, shiftedBy is document_position, startingOn is
  candidates_on_line, endDistance is endpoint_distance, score is node_score, nearest is closest_node,
  standIn is MISSING_ENDPOINT.
Main exports: Node.lineOffset, Position.shiftedBy, Node.startingOn, Node.score, Node.nearest
-/
import SassRenderLint.Sheet.Distance
import SassRenderLint.Sheet.Node

namespace SassRenderLint

namespace Position

/-- The position `offset` lines further down. -/
def shiftedBy (p : Position) (offset : UInt32) : Position := ⟨saturatingAdd p.line offset, p.column⟩

/-- Where an unknown end is taken to be. -/
def standIn : Position := ⟨1, 0⟩

end Position

namespace Node

/-- How many lines of the document come before the sheet. A style file starts at its own first line;
    anything else starts where its first node starts. -/
def lineOffset (root : Node) (isStyleFile : Bool) : UInt32 :=
  if isStyleFile then 0
  else
    match root.firstChild.bind Node.start with
    | none => 0
    | some start => saturatingSub start.line 1

def startsOn (node : Node) (line : UInt32) : Bool :=
  match node.start with
  | none => false
  | some start => start.line = line

/-- The nodes below a node that start on a line, in the order of the walk. -/
def startingOn (root : Node) (line : UInt32) : List Located :=
  root.located.filter fun found => found.node.startsOn line

/-- The distance of an end from a position. -/
def endDistance (target : Position) (place : Option Position) : Distance :=
  target.distance (place.getD Position.standIn)

/-- The distance of a node from a position: that of its nearer end. -/
def score (node : Node) (target : Position) : Distance :=
  min (endDistance target node.start) (endDistance target node.stop)

/-- Keeps the better of the best so far and the next node. -/
def better (target : Position) (best : Option Located) (next : Located) : Option Located :=
  match best with
  | none => some next
  | some found => if next.node.score target < found.node.score target then some next else some found

/-- The node that a position belongs to, or the root when no node starts on its line. -/
def nearest (root : Node) (target : Position) : Located :=
  ((root.startingOn target.line).foldl (better target) none).getD ⟨0, root⟩

end Node

end SassRenderLint
