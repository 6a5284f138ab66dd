/-
Module: SassRenderLint.Diagnostic.Wire
Layer: Diagnostic
Purpose: The JSON form of diagnostics. Kinds and severities are names; a name may also stand as the one
  key of an object whose value is `null`.
Program names: the serialized forms of Severity, DiagnosticKind, DiagnosticSource (Excerpt) and
  RenderDiagnostic (Diagnostic).
Main exports: Severity.toJson, Severity.ofJson, Excerpt.ofJson, Diagnostic.toJson, Diagnostic.ofJson
-/
import SassRenderLint.Diagnostic.Basic
import SassRenderLint.Sheet.Wire

namespace SassRenderLint

namespace Json

/-- One of some named alternatives. -/
def asName (names : List String) : Decoder String
  | .str name => if name ∈ names then .ok name else .error (.unknownVariant name names)
  | .obj [(name, value)] =>
    if name ∈ names then
      match value with
      | .null => .ok name
      | v => .error (.invalidType v "unit")
    else .error (.unknownVariant name names)
  | .obj fields => .error (.invalidValue (.obj fields) "map with a single key")
  | v => .error (.invalidType v "string or map")

end Json

namespace Severity

def name : Severity → String
  | .error => "error"
  | .warning => "warning"

def names : List String := ["error", "warning"]

def toJson (s : Severity) : Json := .str s.name

def ofJson (v : Json) : Json.Decoded Severity := do
  match ← Json.asName names v with
  | "error" => pure .error
  | _ => pure .warning

end Severity

namespace DiagnosticKind

def name : DiagnosticKind → String
  | .error => "error"
  | .deprecation => "deprecation"
  | .undefinedFunction => "undefinedFunction"

def names : List String := ["error", "deprecation", "undefinedFunction"]

def toJson (k : DiagnosticKind) : Json := .str k.name

def ofJson (v : Json) : Json.Decoded DiagnosticKind := do
  match ← Json.asName names v with
  | "error" => pure .error
  | "deprecation" => pure .deprecation
  | _ => pure .undefinedFunction

end DiagnosticKind

namespace Excerpt

/-- The pattern, then both ends. -/
def toJson (e : Excerpt) : Json :=
  .obj [("pattern", .str e.pattern), ("start", e.start.toJson), ("end", e.stop.toJson)]

/-- How many items an excerpt has as an array. -/
def lengthError (n : Nat) : DecodeError := .invalidLength n "struct DiagnosticSource with 3 elements"

def ofJson : Json.Decoder Excerpt
  | .obj fields => do
    let stop ← Json.field? fields "end" Position.ofJson
    let pattern ← Json.field? fields "pattern" Json.asString
    let start ← Json.field? fields "start" Position.ofJson
    let pattern ← Json.required "pattern" pattern
    let start ← Json.required "start" start
    let stop ← Json.required "end" stop
    pure ⟨pattern, start, stop⟩
  | .arr items => do
    let pattern :: items := items | .error (lengthError 0)
    let pattern ← Json.asString pattern
    let start :: items := items | .error (lengthError 1)
    let start ← Position.ofJson start
    let stop :: items := items | .error (lengthError 2)
    let stop ← Position.ofJson stop
    if items.isEmpty then pure ⟨pattern, start, stop⟩
    else .error (.invalidLength (items.length + 3) "fewer elements in array")
  | v => .error (.invalidType v "struct DiagnosticSource")

end Excerpt

namespace Diagnostic

/-- All fields in their order, the stack only if there is one. -/
def toJson (d : Diagnostic) : Json :=
  .obj ([("file", .str d.file), ("message", .str d.message), ("kind", d.kind.toJson), ("source", d.source.toJson)]
    ++ match d.stack with
      | none => []
      | some stack => [("stack", .str stack)])

/-- How many items a diagnostic has as an array. -/
def lengthError (n : Nat) : DecodeError := .invalidLength n "struct RenderDiagnostic with 5 elements"

/-- Reads a diagnostic. The kind is `error` unless it is given. -/
def ofJson : Json.Decoder Diagnostic
  | .obj fields => do
    let file ← Json.field? fields "file" Json.asString
    let kind ← Json.field? fields "kind" DiagnosticKind.ofJson
    let message ← Json.field? fields "message" Json.asString
    let source ← Json.field? fields "source" Excerpt.ofJson
    let stack ← Json.field? fields "stack" (Json.asOption Json.asString)
    let file ← Json.required "file" file
    let message ← Json.required "message" message
    let source ← Json.required "source" source
    pure ⟨file, message, kind.getD .error, source, stack.join⟩
  | .arr items => do
    let file :: items := items | .error (lengthError 0)
    let file ← Json.asString file
    let message :: items := items | .error (lengthError 1)
    let message ← Json.asString message
    let kind :: items := items | .error (lengthError 3)
    let kind ← DiagnosticKind.ofJson kind
    let source :: items := items | .error (lengthError 3)
    let source ← Excerpt.ofJson source
    let stack :: items := items | pure ⟨file, message, kind, source, none⟩
    let stack ← Json.asOption Json.asString stack
    if items.isEmpty then pure ⟨file, message, kind, source, stack⟩
    else .error (.invalidLength (items.length + 5) "fewer elements in array")
  | v => .error (.invalidType v "struct RenderDiagnostic")

end Diagnostic

end SassRenderLint
