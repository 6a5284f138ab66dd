/-
Module: SassRenderLint.Proofs.SchemaAgreement
Layer: Proofs
Purpose: The published schema of the rule's options describes what the reader of options takes. A schema is
  itself a JSON value, and what it accepts is defined here keyword by keyword. The published text is read as
  such a value; the values it accepts, the values that can be read, and a plain description of both are one
  set, `null` apart, which turns the rule off without being described.
Main exports: Json.accepts, RuleOptions.Described, RuleOptions.schema, RuleOptions.read?_schemaText,
  RuleOptions.accepts_schema_iff, RuleOptions.withFields_ok_iff, RuleOptions.parse_agrees_with_schema
-/
import SassRenderLint.Json.Reader
import SassRenderLint.Rule.Options
import SassRenderLint.Rule.Schema

namespace SassRenderLint

namespace Json

/-! ### What a schema accepts -/

/-- Keywords that say something about a schema and nothing about values. -/
def annotations : List String := ["$schema", "title", "description"]

def propertyNames (keywords : Fields) : List String :=
  match keywords.get? "properties" with
  | some (.obj schemas) => schemas.map Prod.fst
  | _ => []

/-- Whether all items of an array are accepted. A value that is no array has none. -/
def itemsHold (accepted : Json → Bool) : Json → Bool
  | .arr items => items.all accepted
  | _ => true

/-- Whether all fields of an object are accepted. A value that is no object has none. -/
def fieldsHold (accepted : String → Json → Bool) : Json → Bool
  | .obj fields => fields.all fun field => accepted field.1 field.2
  | _ => true

mutual

/-- Whether a schema accepts a value. The schemas `true` and `false` accept everything and nothing; any other
    is an object of keywords, all of which have to hold. -/
def accepts : Json → Json → Bool
  | .bool b, _ => b
  | .obj keywords, v => keywordsHold (propertyNames keywords) keywords v
  | _, _ => false

/-- Whether keywords hold of a value. `type` names the kind of the value; of the schemas under `oneOf` exactly
    one accepts it; the one under `items` accepts every item of an array; those under `properties` accept the
    fields of their names in an object, and the one under `additionalProperties` accepts its other fields. -/
def keywordsHold (names : List String) : List (String × Json) → Json → Bool
  | [], _ => true
  | (keyword, value) :: rest, v =>
    (if keyword = "type" then value = .str v.kindName
     else if keyword = "oneOf" then
      match value with
      | .arr schemas => accepting schemas v = 1
      | _ => false
     else if keyword = "items" then itemsHold (accepts value) v
     else if keyword = "properties" then
      match value with
      | .obj schemas => fieldsHold (acceptsUnder schemas) v
      | _ => false
     else if keyword = "additionalProperties" then
      fieldsHold (fun name field => name ∈ names || accepts value field) v
     else keyword ∈ annotations) && keywordsHold names rest v

def accepting : List Json → Json → Nat
  | [], _ => 0
  | schema :: rest, v => (if accepts schema v then 1 else 0) + accepting rest v

/-- Whether the schema under a name, if there is one, accepts a value. -/
def acceptsUnder : List (String × Json) → String → Json → Bool
  | [], _, _ => true
  | (name, schema) :: rest, key, v => if name = key then accepts schema v else acceptsUnder rest key v

end

end Json

namespace RuleOptions

open Json

/-! ### The published schema -/

def fieldSchemas : Fields :=
  [
    ("additionalKnownCssFunctions", .obj [
      ("description", .str "Functions to treat as known, overriding the disallow list"),
      ("items", .obj [("type", .str "string")]),
      ("type", .str "array")]),
    ("checkUndefinedFunctions", .obj [
      ("description", .str "Report calls to functions that are neither Sass, CSS nor allow-listed"),
      ("type", .str "boolean")]),
    ("disallowedKnownCssFunctions", .obj [
      ("description", .str "Known CSS functions to report as undefined"),
      ("items", .obj [("type", .str "string")]),
      ("type", .str "array")]),
    ("sassOptions", .obj [
      ("description", .str "Inline compiler options, or a module path providing them"),
      ("oneOf", .arr [.obj [("type", .str "string")], .obj [("type", .str "object")]])]),
    ("sync", .obj [
      ("description", .str "Run the compiler in blocking mode"),
      ("type", .str "boolean")])]

def schema : Json :=
  .obj [
    ("$schema", .str "http://json-schema.org/draft-07/schema#"),
    ("oneOf", .arr [
      .obj [("type", .str "boolean")],
      .obj [("additionalProperties", .bool false), ("properties", .obj fieldSchemas), ("type", .str "object")]]),
    ("title", .str "plugin/sass-render-errors options")]

set_option maxRecDepth 10000 in
/-- The published text is the schema that the rest is about. -/
theorem read?_schemaText : Json.read? schemaText = some schema := by
  -- The characters of each line are taken from its literal; decoding the whole text would be slow.
  rw [read?, schemaText, String.toList_intercalate, schemaLines]
  simp only [List.map_cons, List.map_nil]
  repeat rw [String.toList_ofList]
  decide +kernel

/-! ### Fields -/

/-- A field that options may have, with a value that it may have. -/
def FieldDescribed (name : String) (value : Json) : Prop :=
  (name = "sync" ∨ name = "checkUndefinedFunctions") ∧ (∃ b, value = .bool b) ∨
  name = "sassOptions" ∧ ((∃ s, value = .str s) ∨ ∃ fields, value = .obj fields) ∨
  (name = "disallowedKnownCssFunctions" ∨ name = "additionalKnownCssFunctions") ∧
    ∃ names : List String, value = .arr (names.map .str)

/-- Options as they may be given: a truth value, or an object whose fields are all described. -/
def Described (v : Json) : Prop :=
  (∃ b, v = .bool b) ∨ ∃ fields, v = .obj fields ∧ ∀ field ∈ fields, FieldDescribed field.1 field.2

/-- Items that are all strings are a list of names. -/
theorem exists_strings_iff (items : List Json) :
    (∀ item ∈ items, "string" = item.kindName) ↔ ∃ names : List String, items = names.map .str := by
  constructor
  · intro strings
    induction items with
    | nil => exact ⟨[], rfl⟩
    | cons item rest ih =>
        obtain ⟨names, rfl⟩ := ih fun other member => strings other (List.mem_cons_of_mem _ member)
        have kind := strings item List.mem_cons_self
        cases item <;> simp [kindName] at kind
        rename_i name
        exact ⟨name :: names, rfl⟩
  · rintro ⟨names, rfl⟩ item member
    obtain ⟨name, -, rfl⟩ := List.mem_map.1 member
    rfl

/-- A schema of type `boolean` accepts truth values. -/
theorem accepts_flag_iff (text : String) (v : Json) :
    accepts (.obj [("description", .str text), ("type", .str "boolean")]) v = true ↔ ∃ b, v = .bool b := by
  cases v <;> simp [accepts, keywordsHold, annotations, kindName]

/-- One of a string and an object is either, since no value is both. -/
theorem accepts_config_iff (text : String) (v : Json) :
    accepts (.obj [("description", .str text),
        ("oneOf", .arr [.obj [("type", .str "string")], .obj [("type", .str "object")]])]) v = true ↔
      (∃ s, v = .str s) ∨ ∃ fields, v = .obj fields := by
  cases v <;> simp [accepts, keywordsHold, accepting, annotations, kindName]

/-- A schema of strings in an array accepts lists of names. -/
theorem accepts_names_iff (text : String) (v : Json) :
    accepts (.obj [("description", .str text), ("items", .obj [("type", .str "string")]), ("type", .str "array")]) v =
      true ↔ ∃ names : List String, v = .arr (names.map .str) := by
  cases v with
  | arr items =>
      simp only [Json.arr.injEq, ← exists_strings_iff]
      simp [accepts, keywordsHold, itemsHold, annotations, kindName]
  | _ => simp [accepts, keywordsHold, annotations, kindName]

/-- The schemas of the fields have the described names and accept what is described. -/
theorem acceptsUnder_fieldSchemas_iff (name : String) (value : Json) :
    name ∈ fieldSchemas.map Prod.fst ∧ acceptsUnder fieldSchemas name value = true ↔ FieldDescribed name value := by
  by_cases known : name ∈ fieldSchemas.map Prod.fst
  · refine (and_iff_right known).trans ?_
    simp only [fieldSchemas, List.map_cons, List.map_nil, List.mem_cons, List.not_mem_nil, or_false] at known
    rcases known with rfl | rfl | rfl | rfl | rfl <;>
      simp [fieldSchemas, acceptsUnder, accepts_flag_iff, accepts_config_iff, accepts_names_iff, FieldDescribed]
  · refine iff_of_false (fun both => known both.1) fun described => known ?_
    rcases described with ⟨rfl | rfl, -⟩ | ⟨rfl, -⟩ | ⟨rfl | rfl, -⟩ <;> simp [fieldSchemas]

/-- An object is described when each of its fields is; none of them has to be there. -/
theorem described_obj_iff (fields : Fields) :
    Described (.obj fields) ↔ ∀ field ∈ fields, FieldDescribed field.1 field.2 := by
  simp [Described]

/-- The schema accepts what is described. -/
theorem accepts_schema_iff (v : Json) : accepts schema v = true ↔ Described v := by
  cases v with
  | obj fields =>
      -- The first alternative is for truth values, so the second one has to accept the object.
      have object : accepts schema (.obj fields) = true ↔
          (∀ field ∈ fields, field.1 ∈ fieldSchemas.map Prod.fst) ∧
            ∀ field ∈ fields, acceptsUnder fieldSchemas field.1 field.2 = true := by
        simp [schema, accepts, keywordsHold, accepting, fieldsHold, propertyNames, Fields.get?, annotations, kindName]
      rw [object, described_obj_iff]
      simp only [← acceptsUnder_fieldSchemas_iff]
      constructor
      · rintro ⟨known, accepted⟩ field member
        exact ⟨known field member, accepted field member⟩
      · intro both
        exact ⟨fun field member => (both field member).1, fun field member => (both field member).2⟩
  | _ => simp [schema, accepts, keywordsHold, accepting, fieldsHold, annotations, kindName, Described]

/-! ### Reading options -/

/-- A decoder whose result is put somewhere succeeds when it does. -/
theorem bind_pure_eq_ok_iff {α β : Type} {x : Decoded α} {made : α → β} {b : β} :
    (x >>= fun a => pure (made a) : Decoded β) = .ok b ↔ ∃ a, x = .ok a ∧ made a = b := by
  cases x with
  | error e => constructor <;> rintro ⟨_, ⟨⟩, _⟩
  | ok a =>
      constructor
      · intro read
        cases read
        exact ⟨a, rfl, rfl⟩
      · rintro ⟨_, ⟨⟩, rfl⟩
        rfl

theorem exists_ok_bind_pure_iff {α β : Type} {x : Decoded α} {made : α → β} :
    (∃ b, (x >>= fun a => pure (made a) : Decoded β) = .ok b) ↔ ∃ a, x = .ok a := by
  simp only [bind_pure_eq_ok_iff]
  constructor
  · rintro ⟨_, a, read, -⟩
    exact ⟨a, read⟩
  · rintro ⟨a, read⟩
    exact ⟨made a, a, read, rfl⟩

theorem asBool_eq_ok_iff {v : Json} {b : Bool} : asBool v = .ok b ↔ v = .bool b := by
  cases v <;> simp [asBool]

/-- A setting is read exactly from its own JSON form. -/
theorem config_eq_ok_iff {v : Json} {c : CompilerConfig} : CompilerConfig.ofJson v = .ok c ↔ v = c.toJson := by
  cases c <;> cases v <;> simp [CompilerConfig.ofJson, CompilerConfig.toJson]

theorem exists_toJson_iff (v : Json) :
    (∃ c : CompilerConfig, v = c.toJson) ↔ (∃ s, v = .str s) ∨ ∃ fields, v = .obj fields := by
  constructor
  · rintro ⟨c, rfl⟩
    cases c <;> simp [CompilerConfig.toJson]
  · rintro (⟨s, rfl⟩ | ⟨fields, rfl⟩)
    · exact ⟨.fromModule s, rfl⟩
    · exact ⟨.inline fields, rfl⟩

theorem decodeItems_map_str (names : List String) : decodeItems asString (names.map .str) = .ok names := by
  induction names with
  | nil => rfl
  | cons name rest ih =>
      rw [List.map_cons, decodeItems, ih]
      rfl

theorem eq_map_str_of_decodeItems {items : List Json} {names : List String}
    (read : decodeItems asString items = .ok names) : items = names.map .str := by
  induction items generalizing names with
  | nil =>
      cases read
      rfl
  | cons item rest ih =>
      cases item with
      | str name =>
          change (decodeItems asString rest >>= fun others => pure (name :: others)) = .ok names at read
          cases later : decodeItems asString rest with
          | error e =>
              rw [later] at read
              cases read
          | ok others =>
              rw [later] at read
              cases read
              rw [ih later, List.map_cons]
      | _ => cases read

/-- A list of names is read exactly from an array of strings. -/
theorem asNames_eq_ok_iff {v : Json} {names : List String} :
    asList asString v = .ok names ↔ v = .arr (names.map .str) := by
  cases v with
  | arr items =>
      constructor
      · intro read
        rw [eq_map_str_of_decodeItems read]
      · rintro ⟨⟩
        exact decodeItems_map_str names
  | _ => simp [asList]

/-- A field is taken over exactly if it is described, whatever the options were. -/
theorem withField_ok_iff (o : RuleOptions) (name : String) (value : Json) :
    (∃ o', o.withField name value = .ok o') ↔ FieldDescribed name value := by
  unfold withField
  split
  · rename_i same
    simp only [exists_ok_bind_pure_iff, asBool_eq_ok_iff]
    simp [FieldDescribed, same]
  split
  · rename_i same
    simp only [exists_ok_bind_pure_iff, config_eq_ok_iff, exists_toJson_iff]
    simp [FieldDescribed, same]
  split
  · rename_i same
    simp only [exists_ok_bind_pure_iff, asBool_eq_ok_iff]
    simp [FieldDescribed, same]
  split
  · rename_i same
    simp only [exists_ok_bind_pure_iff, asNames_eq_ok_iff]
    simp [FieldDescribed, same]
  split
  · rename_i same
    simp only [exists_ok_bind_pure_iff, asNames_eq_ok_iff]
    simp [FieldDescribed, same]
  · simp [FieldDescribed, *]

/-- Fields are taken over exactly if they are all described. -/
theorem withFields_ok_iff (o : RuleOptions) (fields : Fields) :
    (∃ o', o.withFields fields = .ok o') ↔ ∀ field ∈ fields, FieldDescribed field.1 field.2 := by
  induction fields generalizing o with
  | nil => exact ⟨fun _ _ member => absurd member List.not_mem_nil, fun _ => ⟨o, rfl⟩⟩
  | cons field rest ih =>
      obtain ⟨name, value⟩ := field
      rw [withFields, List.forall_mem_cons, ← withField_ok_iff o]
      cases o.withField name value with
      | error e =>
          constructor
          · rintro ⟨_, ⟨⟩⟩
          · rintro ⟨⟨_, ⟨⟩⟩, -⟩
      | ok next => exact (ih next).trans ⟨fun others => ⟨⟨next, rfl⟩, others⟩, And.right⟩

/-- An object is accepted and described, or refused and not described. -/
theorem parse_obj_cases (fields : Fields) :
    (∃ o, parse (.obj fields) = .ok (some o)) ∧ Described (.obj fields) ∨
      (∃ cause, parse (.obj fields) = .error (.schema cause)) ∧ ¬ Described (.obj fields) := by
  rw [described_obj_iff, ← withFields_ok_iff defaults]
  cases read : defaults.withFields fields with
  | ok o => exact Or.inl ⟨⟨o, by rw [parse, read]⟩, o, rfl⟩
  | error cause =>
      refine Or.inr ⟨⟨cause, by rw [parse, read]⟩, ?_⟩
      rintro ⟨_, ⟨⟩⟩

/-- Options can be read exactly if they are described. -/
theorem parse_ok_iff {v : Json} (given : v ≠ .null) : (∃ o, parse v = .ok o) ↔ Described v := by
  cases v with
  | null => exact absurd rfl given
  | bool b => exact iff_of_true (by cases b <;> exact ⟨_, rfl⟩) (Or.inl ⟨b, rfl⟩)
  | obj fields =>
      rcases parse_obj_cases fields with ⟨⟨o, read⟩, described⟩ | ⟨⟨cause, refused⟩, not⟩
      · exact iff_of_true ⟨_, read⟩ described
      · refine iff_of_false ?_ not
        rintro ⟨o, read⟩
        cases refused.symm.trans read
  | _ => simp [parse, Described]

/-- The published schema and the reader of options agree. The text of the schema can be read, and for every
    value but `null` it accepts the value exactly if the value can be read, which is if the value is as
    described. Only `null` and `false` turn the rule off; a value of another kind than a truth value or an object
    is refused by its kind, and an object that the schema does not accept is refused as not fitting it. -/
theorem parse_agrees_with_schema :
    ∃ published, Json.read? schemaText = some published ∧
      (∀ v, v ≠ .null → (((∃ o, parse v = .ok o) ↔ accepts published v = true) ∧
        (accepts published v = true ↔ Described v))) ∧
      (∀ v, parse v = .ok none ↔ v = .null ∨ v = .bool false) ∧
      (∀ v, v ≠ .null → (∀ b, v ≠ .bool b) → (∀ fields, v ≠ .obj fields) →
        parse v = .error (.unexpectedType v.kindName)) ∧
      ∀ fields, accepts published (.obj fields) = false → ∃ cause, parse (.obj fields) = .error (.schema cause) := by
  refine ⟨schema, read?_schemaText, ?_, ?_, ?_, ?_⟩
  · intro v given
    exact ⟨(parse_ok_iff given).trans (accepts_schema_iff v).symm, accepts_schema_iff v⟩
  · intro v
    cases v with
    | bool b => cases b <;> simp [parse]
    | obj fields =>
        rcases parse_obj_cases fields with ⟨⟨o, read⟩, -⟩ | ⟨⟨cause, refused⟩, -⟩
        · simp [read]
        · simp [refused]
    | _ => simp [parse]
  · intro v given notBool notObj
    cases v with
    | null => exact absurd rfl given
    | bool b => exact absurd rfl (notBool b)
    | obj fields => exact absurd rfl (notObj fields)
    | _ => rfl
  · intro fields refused
    rcases parse_obj_cases fields with ⟨-, described⟩ | ⟨failed, -⟩
    · rw [(accepts_schema_iff _).2 described] at refused
      cases refused
    · exact failed

/-- Options with a nested object are taken; a list with an item that is no string, and a number, are not. -/
theorem parse_agrees_with_schema_samples :
    ∃ published, Json.read? schemaText = some published ∧
      accepts published (.obj [("sassOptions", .obj [("sync", .null)]), ("sync", .bool true)]) = true ∧
      (∃ cause, parse (.obj [("disallowedKnownCssFunctions", .arr [.str "rem", .null])]) = .error (.schema cause)) ∧
      parse (.num (.int 1)) = .error (.unexpectedType "number") := by
  obtain ⟨published, read, agrees, -, otherKinds, objects⟩ := parse_agrees_with_schema
  cases read?_schemaText.symm.trans read
  have taken : ∃ o, parse (.obj [("sassOptions", .obj [("sync", .null)]), ("sync", .bool true)]) = .ok o := ⟨_, rfl⟩
  have refused : accepts schema (.obj [("disallowedKnownCssFunctions", .arr [.str "rem", .null])]) = false := by
    simp [schema, fieldSchemas, accepts, keywordsHold, accepting, acceptsUnder, fieldsHold, itemsHold, propertyNames,
      Fields.get?, annotations, kindName]
  exact ⟨schema, read, (agrees _ (by simp)).1.1 taken, objects _ refused, otherKinds (.num (.int 1)) (by simp) (by simp) (by simp)⟩

end RuleOptions

end SassRenderLint
