/-
Module: SassRenderLint.Proofs.WireRoundTrip
Layer: Proofs
Purpose: Trees and diagnostics survive their JSON form. What is left out of it, such as an unknown place, an
  empty list of children or a missing stack, is filled in again when it is read, at every depth of a tree.
  Reading looks fields up by their keys, so the order in which they arrive does not matter.
Main exports: Position.reads_toJson, Span.reads_toJson, Node.toJson_fields, Node.reads_toJson,
  Diagnostic.reads_toJson, Json.wire_round_trip
-/
import SassRenderLint.Diagnostic.Wire
import SassRenderLint.Proofs.FieldOrder

namespace SassRenderLint

/-! ### Places -/

namespace Position

/-- Positions are read back, whichever of line and column comes first. -/
theorem reads_toJson (p : Position) : Json.Reads ofJson p.toJson p := by
  intro w rearranged
  obtain ⟨others, rfl, agree⟩ := rearranged.get?_of_obj (by simp)
  have line := Json.field?_of_reads agree "line" rfl (Json.reads_asUInt32 p.line)
  have column := Json.field?_of_reads agree "column" (by simp [Fields.get?]) (Json.reads_asUInt32 p.column)
  simp only [ofJson, line, column]
  rfl

theorem distinctKeys_toJson (p : Position) : p.toJson.DistinctKeys := by
  simp [toJson, Json.ofNat, Json.DistinctKeys, Json.DistinctKeysFields]

end Position

namespace Span

/-- Spans are read back, with unknown ends as `null`. -/
theorem reads_toJson (span : Span) : Json.Reads ofJson span.toJson span := by
  have place : ∀ o, Json.Reads (Json.asOption Position.ofJson) (.ofOption Position.toJson o) o :=
    Json.reads_asOption Position.reads_toJson fun p => by simp [Position.toJson]
  intro w rearranged
  obtain ⟨others, rfl, agree⟩ := rearranged.get?_of_obj (by simp)
  have start := Json.field?_of_reads agree "start" rfl (place span.start)
  have stop := Json.field?_of_reads agree "end" (by simp [Fields.get?]) (place span.stop)
  simp only [ofJson, start, stop]
  rfl

theorem distinctKeys_toJson (span : Span) : span.toJson.DistinctKeys := by
  have place : ∀ o, (Json.ofOption Position.toJson o).DistinctKeys := by
    rintro (_ | p)
    · trivial
    · exact p.distinctKeys_toJson
  simp [toJson, Json.DistinctKeys, Json.DistinctKeysFields, place]

end Span

/-! ### Trees -/

namespace NodeKind

/-- The kind is read from the tag and the texts at the front of a node's fields. -/
theorem ofFields_of_agree {kind : NodeKind} {rest others : Fields}
    (agree : ∀ key, Option.Rel Json.Rearranged (Fields.get? (kind.toFields ++ rest) key) (others.get? key)) :
    ofFields others = .ok kind := by
  have tagged : ∀ name : String, Fields.get? (kind.toFields ++ rest) "type" = some (.str name) →
      others.get? "type" = some (.str name) := by
    intro name present
    have same := agree "type"
    rw [present] at same
    generalize others.get? "type" = found at same
    cases same with
    | some rearranged =>
        cases rearranged
        rfl
  have text : ∀ key s : String, Fields.get? (kind.toFields ++ rest) key = some (.str s) →
      Json.field? others key Json.asString = .ok (some s) :=
    fun key s present => Json.field?_of_reads agree key present (Json.reads_asString s)
  cases kind with
  | root =>
      have tag := tagged "root" rfl
      simp only [ofFields, tag]
      rfl
  | rule selector =>
      have tag := tagged "rule" rfl
      have selector := text "selector" selector (by simp [toFields, Fields.get?])
      simp only [ofFields, tag, oneText, selector]
      rfl
  | atRule name params =>
      have tag := tagged "at-rule" rfl
      have name := text "name" name (by simp [toFields, Fields.get?])
      have params := text "params" params (by simp [toFields, Fields.get?])
      simp only [ofFields, tag, twoTexts, name, params]
      rfl
  | declaration property value =>
      have tag := tagged "declaration" rfl
      have property := text "prop" property (by simp [toFields, Fields.get?])
      have value := text "value" value (by simp [toFields, Fields.get?])
      simp only [ofFields, tag, twoTexts, property, value]
      rfl
  | comment content =>
      have tag := tagged "comment" rfl
      have content := text "text" content (by simp [toFields, Fields.get?])
      simp only [ofFields, tag, oneText, content]
      rfl

end NodeKind

namespace Node

theorem toJsonList_eq_map (nodes : List Node) : toJsonList nodes = nodes.map toJson := by
  induction nodes with
  | nil => rfl
  | cons node rest ih => rw [toJsonList, ih, List.map_cons]

/-- The fields of a node: those of its kind, then the span and the children, if there are any. -/
theorem toJson_eq (kind : NodeKind) (span : Option Span) (children : List Node) :
    toJson ⟨kind, span, children⟩ =
      .obj (kind.toFields ++ ((span.toList.map fun s => ("span", s.toJson)) ++ childrenField children)) := by
  cases span <;> simp [toJson]

/-- The fields of a node: those of its kind, the place if it has one, and the children if it has any. -/
theorem toJson_fields (node : Node) :
    ∃ rest : Fields, node.toJson = .obj (node.kind.toFields ++ rest) ∧
      ((node.kind.toFields ++ rest).map Prod.fst).Nodup ∧
      Fields.get? (node.kind.toFields ++ rest) "span" = node.span.map Span.toJson ∧
      Fields.get? (node.kind.toFields ++ rest) "children" =
        if node.children.isEmpty then none else some (.arr (node.children.map toJson)) := by
  obtain ⟨kind, span, children⟩ := node
  refine ⟨_, toJson_eq kind span children, ?_, ?_, ?_⟩ <;>
    cases kind <;> cases span <;> cases children <;>
      simp [NodeKind.toFields, childrenField, Fields.get?, toJsonList_eq_map]

/-- Reading the children is reading the field for them as a list of trees. -/
theorem ofChildrenField_eq (fields : Fields) :
    ofChildrenField fields = Json.field? fields "children" (Json.asList ofJson) := by
  have list : ∀ xs, ofJsonList xs = Json.decodeItems ofJson xs := by
    intro xs
    induction xs with
    | nil => rfl
    | cons x xs ih => rw [ofJsonList, Json.decodeItems, ih]
  induction fields with
  | nil => rfl
  | cons field rest ih =>
      obtain ⟨key, value⟩ := field
      rw [ofChildrenField.eq_def, Json.field?, Fields.get?]
      dsimp only
      split
      · cases value with
        | arr xs => simp only [list, Json.asList]
        | _ => rfl
      · exact ih

mutual

/-- A tree is read back from its JSON form. -/
theorem reads_toJson : ∀ node : Node, Json.Reads ofJson node.toJson node
  | ⟨kind, span, children⟩ => by
      intro w rearranged
      obtain ⟨rest, object, distinct, spanField, childrenField⟩ := toJson_fields ⟨kind, span, children⟩
      rw [object] at rearranged
      obtain ⟨others, rfl, agree⟩ := rearranged.get?_of_obj distinct
      have readKind := NodeKind.ofFields_of_agree agree
      have readSpan : ∃ found, Json.field? others "span" (Json.asOption Span.ofJson) = .ok found ∧
          found.join = span := by
        cases span with
        | none => exact ⟨none, Json.field?_of_absent agree "span" spanField, rfl⟩
        | some place =>
            have read := Json.reads_asOption Span.reads_toJson (fun s => by simp [Span.toJson]) (some place)
            exact ⟨some (some place), Json.field?_of_reads agree "span" spanField read, rfl⟩
      have readChildren : ∃ found, ofChildrenField others = .ok found ∧ found.getD [] = children := by
        rw [ofChildrenField_eq]
        cases children with
        | nil => exact ⟨none, Json.field?_of_absent agree "children" childrenField, rfl⟩
        | cons first rest =>
            have read := reads_toJsonList (first :: rest)
            exact ⟨some (first :: rest), Json.field?_of_reads agree "children" childrenField read, rfl⟩
      obtain ⟨foundSpan, readSpan, rfl⟩ := readSpan
      obtain ⟨foundChildren, readChildren, rfl⟩ := readChildren
      simp only [ofJson, readChildren, readSpan, readKind]
      rfl

/-- The same for a list of trees. -/
theorem reads_toJsonList : ∀ nodes : List Node, Json.Reads (Json.asList ofJson) (.arr (nodes.map toJson)) nodes
  | [] => by
      intro w rearranged
      cases rearranged with
      | arr items =>
          cases items
          rfl
  | node :: rest => by
      intro w rearranged
      cases rearranged with
      | arr items =>
          cases items with
          | cons first others =>
              have readFirst := reads_toJson node _ first
              have readRest := reads_toJsonList rest _ (.arr others)
              rw [Json.asList] at readRest
              simp only [Json.asList, Json.decodeItems, readFirst, readRest]
              rfl

end

mutual

/-- No key of a tree's JSON form occurs twice in one object. -/
theorem distinctKeys_toJson : ∀ node : Node, node.toJson.DistinctKeys
  | ⟨kind, span, children⟩ => by
      obtain ⟨rest, object, distinct, -, -⟩ := toJson_fields ⟨kind, span, children⟩
      have same := Json.obj.inj ((toJson_eq kind span children).symm.trans object)
      rw [toJson_eq]
      refine ⟨same ▸ distinct, ?_⟩
      rw [Json.distinctKeysFields_append, Json.distinctKeysFields_append]
      refine ⟨?_, ?_, distinctKeys_childrenField children⟩
      · cases kind <;> simp [NodeKind.toFields, Json.DistinctKeysFields, Json.DistinctKeys]
      · cases span with
        | none => trivial
        | some place => exact ⟨place.distinctKeys_toJson, trivial⟩

/-- No object below a node has a key twice, by recursion on the trees. -/
theorem distinctKeys_childrenField : ∀ children : List Node, Json.DistinctKeysFields (childrenField children)
  | [] => trivial
  | first :: rest => ⟨⟨distinctKeys_toJson first, distinctKeys_toJsonList rest⟩, trivial⟩

theorem distinctKeys_toJsonList : ∀ nodes : List Node, Json.DistinctKeysItems (toJsonList nodes)
  | [] => trivial
  | node :: rest => ⟨distinctKeys_toJson node, distinctKeys_toJsonList rest⟩

end

end Node

/-! ### Diagnostics -/

/-- Kinds are read back by their names. -/
theorem DiagnosticKind.reads_toJson (kind : DiagnosticKind) : Json.Reads ofJson kind.toJson kind := by
  intro w rearranged
  cases rearranged
  cases kind <;> rfl

namespace Excerpt

theorem reads_toJson (e : Excerpt) : Json.Reads ofJson e.toJson e := by
  intro w rearranged
  obtain ⟨others, rfl, agree⟩ := rearranged.get?_of_obj (by simp)
  have pattern := Json.field?_of_reads agree "pattern" rfl (Json.reads_asString e.pattern)
  have start := Json.field?_of_reads agree "start" (by simp [Fields.get?]) e.start.reads_toJson
  have stop := Json.field?_of_reads agree "end" (by simp [Fields.get?]) e.stop.reads_toJson
  simp only [ofJson, pattern, start, stop]
  rfl

theorem distinctKeys_toJson (e : Excerpt) : e.toJson.DistinctKeys := by
  simp [toJson, Json.DistinctKeys, Json.DistinctKeysFields, Position.distinctKeys_toJson]

end Excerpt

namespace Diagnostic

/-- The fields of a diagnostic, of which the stack is there only if the diagnostic has one. -/
theorem toJson_fields (d : Diagnostic) :
    ∃ fields : Fields, d.toJson = .obj fields ∧ (fields.map Prod.fst).Nodup ∧
      fields.get? "file" = some (.str d.file) ∧ fields.get? "message" = some (.str d.message) ∧
      fields.get? "kind" = some d.kind.toJson ∧ fields.get? "source" = some d.source.toJson ∧
      fields.get? "stack" = d.stack.map .str := by
  refine ⟨_, rfl, ?_⟩
  cases d.stack <;> simp [Fields.get?]

/-- A diagnostic is read back from its JSON form. -/
theorem reads_toJson (d : Diagnostic) : Json.Reads ofJson d.toJson d := by
  intro w rearranged
  obtain ⟨fields, object, distinct, fileField, messageField, kindField, sourceField, stackField⟩ := d.toJson_fields
  rw [object] at rearranged
  obtain ⟨others, rfl, agree⟩ := rearranged.get?_of_obj distinct
  have file := Json.field?_of_reads agree "file" fileField (Json.reads_asString d.file)
  have message := Json.field?_of_reads agree "message" messageField (Json.reads_asString d.message)
  have kind := Json.field?_of_reads agree "kind" kindField d.kind.reads_toJson
  have source := Json.field?_of_reads agree "source" sourceField d.source.reads_toJson
  have stack : ∃ found, Json.field? others "stack" (Json.asOption Json.asString) = .ok found ∧
      found.join = d.stack := by
    cases trace : d.stack with
    | none => exact ⟨none, Json.field?_of_absent agree "stack" (by rw [stackField, trace]; rfl), rfl⟩
    | some text =>
        have read := Json.reads_asOption Json.reads_asString (fun text => by simp) (some text)
        exact ⟨some (some text), Json.field?_of_reads agree "stack" (by rw [stackField, trace]; rfl) read, rfl⟩
  obtain ⟨found, readStack, same⟩ := stack
  simp only [ofJson, file, message, kind, source, readStack]
  show Except.ok (Diagnostic.mk d.file d.message d.kind d.source found.join) = _
  rw [same]

theorem distinctKeys_toJson (d : Diagnostic) : d.toJson.DistinctKeys := by
  rw [toJson]
  cases d.stack <;>
    simp [Json.DistinctKeys, Json.DistinctKeysFields, DiagnosticKind.toJson, Excerpt.distinctKeys_toJson]

end Diagnostic

/-! ### Both -/

namespace Json

/-- What is written and read back is the same, for the value as it is written, for the value with its fields in
    key order, and for any other order of them. -/
structure Survives {α : Type} (encode : α → Json) (decode : Decoder α) (a : α) : Prop where
  asWritten : decode (encode a) = .ok a
  inKeyOrder : decode (encode a).inKeyOrder = .ok a
  inAnyOrder : ∀ v, (encode a).Rearranged v → decode v = .ok a

/-- What is read back in every order of fields survives writing in each of the ways there are. -/
theorem Reads.survives {α : Type} {encode : α → Json} {decode : Decoder α} {a : α} (reads : Reads decode (encode a) a)
    (distinct : (encode a).DistinctKeys) : Survives encode decode a where
  asWritten := reads _ (.refl _)
  inKeyOrder := reads _ (rearranged_inKeyOrder distinct)
  inAnyOrder := reads

/-- Every tree and every diagnostic is read back from its JSON form. The form of a tree holds the fields of its
    kind beside its own, the place only if there is one, with `null` for an unknown end, and the children only if
    there are any; that of a diagnostic holds the stack only if there is one. -/
theorem wire_round_trip :
    (∀ node : Node, Survives Node.toJson Node.ofJson node) ∧
    (∀ d : Diagnostic, Survives Diagnostic.toJson Diagnostic.ofJson d) ∧
    (∀ node : Node, ∃ fields : Fields, node.toJson = .obj fields ∧ node.kind.toFields <+: fields ∧
      fields.get? "span" = node.span.map (fun span =>
        .obj [("start", .ofOption Position.toJson span.start), ("end", .ofOption Position.toJson span.stop)]) ∧
      fields.get? "children" = if node.children.isEmpty then none else some (.arr (node.children.map Node.toJson))) ∧
    (∀ d : Diagnostic, ∃ fields : Fields, d.toJson = .obj fields ∧ fields.get? "stack" = d.stack.map .str) := by
  refine ⟨fun node => node.reads_toJson.survives node.distinctKeys_toJson,
    fun d => d.reads_toJson.survives d.distinctKeys_toJson, ?_, ?_⟩
  · intro node
    obtain ⟨rest, object, -, span, children⟩ := node.toJson_fields
    exact ⟨_, object, List.prefix_append _ _, span, children⟩
  · intro d
    obtain ⟨fields, object, -, -, -, -, -, stack⟩ := d.toJson_fields
    exact ⟨fields, object, stack⟩

end Json

end SassRenderLint
