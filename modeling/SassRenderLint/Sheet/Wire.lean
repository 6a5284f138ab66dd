/-
Module: SassRenderLint.Sheet.Wire
Layer: Sheet
Purpose: The JSON form of positions, spans and trees. A node is one object that holds its kind's name
  under `type`, the kind's own texts, and the span and the children unless there is nothing to say.
Program names: the serialized forms of Position, SourceSpan (Span) and StyleNode (Node).
Main exports: Position.toJson, Position.ofJson, Span.toJson, Span.ofJson, Node.toJson, Node.ofJson
-/
import SassRenderLint.Json.Decode
import SassRenderLint.Sheet.Node

namespace SassRenderLint

namespace Position

/-- Line, then column. -/
def toJson (p : Position) : Json :=
  .obj [("line", .ofNat p.line.toNat), ("column", .ofNat p.column.toNat)]

def ofJson : Json.Decoder Position
  | .obj fields => do
    let column ← Json.field? fields "column" Json.asUInt32
    let line ← Json.field? fields "line" Json.asUInt32
    let line ← Json.required "line" line
    let column ← Json.required "column" column
    pure ⟨line, column⟩
  | .arr [] => .error (.invalidLength 0 "struct Position with 2 elements")
  | .arr [line] => do
    let _ ← Json.asUInt32 line
    .error (.invalidLength 1 "struct Position with 2 elements")
  | .arr (line :: column :: rest) => do
    let line ← Json.asUInt32 line
    let column ← Json.asUInt32 column
    if rest.isEmpty then pure ⟨line, column⟩
    else .error (.invalidLength (rest.length + 2) "fewer elements in array")
  | v => .error (.invalidType v "struct Position")

end Position

namespace Span

/-- Both ends, unknown ones as `null`. -/
def toJson (span : Span) : Json :=
  .obj [("start", .ofOption Position.toJson span.start), ("end", .ofOption Position.toJson span.stop)]

/-- Reads a span. In an object an end may be left out. -/
def ofJson : Json.Decoder Span
  | .obj fields => do
    let stop ← Json.field? fields "end" (Json.asOption Position.ofJson)
    let start ← Json.field? fields "start" (Json.asOption Position.ofJson)
    pure ⟨start.join, stop.join⟩
  | .arr [] => .error (.invalidLength 0 "struct SourceSpan with 2 elements")
  | .arr [start] => do
    let _ ← Json.asOption Position.ofJson start
    .error (.invalidLength 1 "struct SourceSpan with 2 elements")
  | .arr (start :: stop :: rest) => do
    let start ← Json.asOption Position.ofJson start
    let stop ← Json.asOption Position.ofJson stop
    if rest.isEmpty then pure ⟨start, stop⟩
    else .error (.invalidLength (rest.length + 2) "fewer elements in array")
  | v => .error (.invalidType v "struct SourceSpan")

end Span

namespace NodeKind

def names : List String := ["root", "rule", "at-rule", "declaration", "comment"]

/-- The name and the texts of a kind. -/
def toFields : NodeKind → Fields
  | .root => [("type", .str "root")]
  | .rule selector => [("type", .str "rule"), ("selector", .str selector)]
  | .atRule name params => [("type", .str "at-rule"), ("name", .str name), ("params", .str params)]
  | .declaration property value =>
    [("type", .str "declaration"), ("prop", .str property), ("value", .str value)]
  | .comment text => [("type", .str "comment"), ("text", .str text)]

/-- The name of a kind, given by itself or by its place among the names. -/
def nameOfJson : Json.Decoder String
  | .str name => if name ∈ names then .ok name else .error (.unknownVariant name names)
  | .num (.int i) =>
    if 0 ≤ i then
      match names[i.toNat]? with
      | some name => .ok name
      | none => .error (.invalidValue (.num (.int i)) "variant index 0 <= i < 5")
    else .error (.invalidType (.num (.int i)) "variant identifier")
  | v => .error (.invalidType v "variant identifier")

def oneText (fields : Fields) (name : String) : Json.Decoded String := do
  Json.required name (← Json.field? fields name Json.asString)

/-- Reads two texts, whose names are in key order. -/
def twoTexts (fields : Fields) (first second : String) : Json.Decoded (String × String) := do
  let a ← Json.field? fields first Json.asString
  let b ← Json.field? fields second Json.asString
  let a ← Json.required first a
  let b ← Json.required second b
  pure (a, b)

/-- Reads the kind out of a node's fields. -/
def ofFields (fields : Fields) : Json.Decoded NodeKind := do
  match fields.get? "type" with
  | none => .error (.missingField "type")
  | some tag =>
    match ← nameOfJson tag with
    | "rule" => .rule <$> oneText fields "selector"
    | "at-rule" => (fun (name, params) => .atRule name params) <$> twoTexts fields "name" "params"
    | "declaration" => (fun (property, value) => .declaration property value) <$> twoTexts fields "prop" "value"
    | "comment" => .comment <$> oneText fields "text"
    | _ => pure .root

end NodeKind

namespace Node

mutual

/-- The kind, then the span if there is one, then the children if there are any. -/
def toJson : Node → Json
  | ⟨kind, span, children⟩ =>
    .obj (kind.toFields ++ (match span with | none => [] | some s => [("span", s.toJson)])
      ++ childrenField children)

/-- The field of the children. -/
def childrenField : List Node → Fields
  | [] => []
  | x :: xs => [("children", .arr (toJson x :: toJsonList xs))]

def toJsonList : List Node → List Json
  | [] => []
  | x :: xs => toJson x :: toJsonList xs

end

mutual

/-- Reads a tree: the children, the span, then the kind. -/
def ofJson : Json → Json.Decoded Node
  | .obj fields => do
    let children ← ofChildrenField fields
    let span ← Json.field? fields "span" (Json.asOption Span.ofJson)
    let kind ← NodeKind.ofFields fields
    pure ⟨kind, span.join, children.getD []⟩
  | v => .error (.invalidType v "struct StyleNode")

/-- Reads the children, if the field is there. -/
def ofChildrenField : List (String × Json) → Json.Decoded (Option (List Node))
  | [] => .ok none
  | (key, value) :: rest =>
    if key = "children" then
      match value with
      | .arr xs => some <$> ofJsonList xs
      | v => .error (.invalidType v "a sequence")
    else ofChildrenField rest

def ofJsonList : List Json → Json.Decoded (List Node)
  | [] => .ok []
  | x :: xs => do
    let node ← ofJson x
    let nodes ← ofJsonList xs
    pure (node :: nodes)

end

end Node

end SassRenderLint
