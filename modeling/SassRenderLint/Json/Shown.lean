/-
Module: SassRenderLint.Json.Shown
Layer: Json
Purpose: The text of a JSON value that names the kind of each part.
Main exports: Json.shown
-/
import SassRenderLint.Json.Writer
import SassRenderLint.Text.Quoted

namespace SassRenderLint

namespace Json

def numberText : JsonNumber → String
  | .int i => String.ofList (intChars i)
  | .float x => x.jsonText

mutual

/-- The text of a value, with the kind of each part. -/
def shown : Json → String
  | .null => "Null"
  | .bool true => "Bool(true)"
  | .bool false => "Bool(false)"
  | .num n => "Number(" ++ numberText n ++ ")"
  | .str s => "String(" ++ Text.quoted s ++ ")"
  | .arr items => "Array [" ++ ", ".intercalate (shownItems items) ++ "]"
  | .obj fields => "Object \x7b" ++ ", ".intercalate (shownFields fields) ++ "\x7d"

def shownItems : List Json → List String
  | [] => []
  | item :: rest => shown item :: shownItems rest

def shownFields : List (String × Json) → List String
  | [] => []
  | (key, value) :: rest => (Text.quoted key ++ ": " ++ shown value) :: shownFields rest

end

end Json

end SassRenderLint
