/-
Module: SassRenderLint.Json.Decode
Layer: Json
Purpose: Taking values apart. A decoder names what it expected, and the first mismatch is the result.
  A record is read from an object field by field in key order; only when every present field was
  read are missing ones reported, in the order of declaration. A record may also be written as the
  array of its fields.
Main exports: DecodeError, DecodeError.message, Json.asString, Json.asBool, Json.asUInt32, Json.asList
-/
import SassRenderLint.Json.Writer
import SassRenderLint.Text.Quoted

namespace SassRenderLint

/-- Why a value is not of the wanted type. -/
inductive DecodeError where
  /-- A value of another kind. -/
  | invalidType (found : Json) (expected : String)
  /-- A value of the right kind that the type does not hold. -/
  | invalidValue (found : Json) (expected : String)
  /-- An array with the wrong number of items. -/
  | invalidLength (length : Nat) (expected : String)
  /-- A required field that is not there. -/
  | missingField (name : String)
  /-- A field that the record does not have. -/
  | unknownField (name : String) (known : List String)
  /-- A name that is none of the alternatives. -/
  | unknownVariant (name : String) (known : List String)
  /-- A value that is none of the alternatives of a type. -/
  | noVariant (type : String)
deriving DecidableEq, Repr, Inhabited

namespace DecodeError

/-- A value in a message. Containers are named by kind only. -/
def describe : Json → String
  | .null => "null"
  | .bool true => "boolean `true`"
  | .bool false => "boolean `false`"
  | .num (.int i) => "integer `" ++ String.ofList (Json.intChars i) ++ "`"
  | .num (.float x) => "floating point `" ++ x.jsonText ++ "`"
  | .str s => "string " ++ Text.quoted s
  | .arr _ => "sequence"
  | .obj _ => "map"

/-- A name between backquotes. -/
def ticked (name : String) : String := "`" ++ name ++ "`"

/-- The alternatives, as a message lists them. -/
def alternatives : List String → String
  | [a, b] => ticked a ++ " or " ++ ticked b
  | names => "one of " ++ String.intercalate ", " (names.map ticked)

def message : DecodeError → String
  | .invalidType found expected => "invalid type: " ++ describe found ++ ", expected " ++ expected
  | .invalidValue found expected => "invalid value: " ++ describe found ++ ", expected " ++ expected
  | .invalidLength length expected =>
    "invalid length " ++ Binary64.digitText length ++ ", expected " ++ expected
  | .missingField name => "missing field " ++ ticked name
  | .unknownField name known => "unknown field " ++ ticked name ++ ", expected " ++ alternatives known
  | .unknownVariant name known => "unknown variant " ++ ticked name ++ ", expected " ++ alternatives known
  | .noVariant type => "data did not match any variant of untagged enum " ++ type

end DecodeError

namespace Json

abbrev Decoded (α : Type) := Except DecodeError α

abbrev Decoder (α : Type) := Json → Decoded α

def asString : Decoder String
  | .str s => .ok s
  | v => .error (.invalidType v "a string")

def asBool : Decoder Bool
  | .bool b => .ok b
  | v => .error (.invalidType v "a boolean")

/-- An unsigned number of 32 bits. -/
def asUInt32 : Decoder UInt32
  | .num (.int i) =>
    if 0 ≤ i ∧ i < UInt32.size then .ok (UInt32.ofNat i.toNat) else .error (.invalidValue (.num (.int i)) "u32")
  | v => .error (.invalidType v "u32")

/-- Items, the first mismatch first. -/
def decodeItems {α : Type} (decode : Decoder α) : List Json → Decoded (List α)
  | [] => .ok []
  | x :: xs => do
    let a ← decode x
    let as ← decodeItems decode xs
    pure (a :: as)

def asList {α : Type} (decode : Decoder α) : Decoder (List α)
  | .arr xs => decodeItems decode xs
  | v => .error (.invalidType v "a sequence")

/-- A value or nothing, which is written `null`. -/
def asOption {α : Type} (decode : Decoder α) : Decoder (Option α)
  | .null => .ok none
  | v => some <$> decode v

/-- A field, if it is there. -/
def field? {α : Type} (fields : Fields) (name : String) (decode : Decoder α) : Decoded (Option α) :=
  match fields.get? name with
  | none => .ok none
  | some v => some <$> decode v

/-- What was read of a field that has to be there. -/
def required {α : Type} (name : String) : Option α → Decoded α
  | none => .error (.missingField name)
  | some a => .ok a

end Json

end SassRenderLint
