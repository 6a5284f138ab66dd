/-
Module: SassRenderLint.Rule.Options
Layer: Rule
Purpose: The options of the rule. They are off for `null` and `false`, all defaults for `true`, and
  otherwise an object whose five fields are all optional and checked strictly, in key order.
Program names: CompilerConfig is SassOptionsValue, cacheKey is cache_key, parse is parse, renderMode is
  render_mode, undefinedFunctions is undefined_functions; disallowed and additional are
  disallowed_known_css_functions and additional_known_css_functions.
Main exports: CompilerConfig, RuleOptions, RuleOptions.parse, UndefinedFunctionsOptions, OptionsError
-/
import SassRenderLint.Json.Decode

namespace SassRenderLint

/-- Where the compiler's own options come from. -/
inductive CompilerConfig where
  | fromModule (specifier : String)
  | inline (fields : Fields)
deriving DecidableEq, Repr, Inhabited

namespace CompilerConfig

def empty : CompilerConfig := .inline []

/-- A specifier is a string, options are an object. -/
def toJson : CompilerConfig → Json
  | .fromModule specifier => .str specifier
  | .inline fields => .obj fields

def ofJson : Json.Decoder CompilerConfig
  | .str specifier => .ok (.fromModule specifier)
  | .obj fields => .ok (.inline fields)
  | _ => .error (.noVariant "SassOptionsValue")

end CompilerConfig

inductive RenderMode where
  | concurrent
  | blocking
deriving DecidableEq, Repr, Inhabited

/-- Which functions count as known when undefined ones are looked for. -/
structure UndefinedFunctionsOptions where
  disallowed : List String
  additional : List String
deriving DecidableEq, Repr, Inhabited

namespace UndefinedFunctionsOptions

def toJson (o : UndefinedFunctionsOptions) : Json :=
  .obj [
    ("disallowedKnownCssFunctions", .arr (o.disallowed.map .str)),
    ("additionalKnownCssFunctions", .arr (o.additional.map .str))]

/-- The text by which options are told apart. -/
def cacheKey (o : UndefinedFunctionsOptions) : String := o.toJson.compact

def ofJson : Json.Decoder UndefinedFunctionsOptions
  | .obj fields => do
    let additional ← Json.field? fields "additionalKnownCssFunctions" (Json.asList Json.asString)
    let disallowed ← Json.field? fields "disallowedKnownCssFunctions" (Json.asList Json.asString)
    let disallowed ← Json.required "disallowedKnownCssFunctions" disallowed
    let additional ← Json.required "additionalKnownCssFunctions" additional
    pure ⟨disallowed, additional⟩
  | .arr items => do
    let disallowed :: items := items
      | .error (.invalidLength 0 "struct UndefinedFunctionsOptions with 2 elements")
    let disallowed ← Json.asList Json.asString disallowed
    let additional :: items := items
      | .error (.invalidLength 1 "struct UndefinedFunctionsOptions with 2 elements")
    let additional ← Json.asList Json.asString additional
    if items.isEmpty then pure ⟨disallowed, additional⟩
    else .error (.invalidLength (items.length + 2) "fewer elements in array")
  | v => .error (.invalidType v "struct UndefinedFunctionsOptions")

end UndefinedFunctionsOptions

structure RuleOptions where
  sync : Bool
  sassOptions : CompilerConfig
  checkUndefinedFunctions : Bool
  disallowed : List String
  additional : List String
deriving DecidableEq, Repr, Inhabited

/-- Why options are refused. -/
inductive OptionsError where
  /-- Neither a truth value nor an object. -/
  | unexpectedType (kind : String)
  /-- An object that does not fit. -/
  | schema (cause : DecodeError)
deriving DecidableEq, Repr, Inhabited

def OptionsError.message (e : OptionsError) : String :=
  "Invalid option value for rule \"plugin/sass-render-errors\": " ++
    match e with
    | .unexpectedType kind => "expected a boolean or an object, got " ++ kind
    | .schema cause => cause.message

namespace RuleOptions

/-- What is not given. -/
def defaults : RuleOptions := ⟨false, .empty, false, [], []⟩

def fieldNames : List String :=
  ["sync", "sassOptions", "checkUndefinedFunctions", "disallowedKnownCssFunctions", "additionalKnownCssFunctions"]

def toFields (o : RuleOptions) : Fields :=
  [
    ("sync", .bool o.sync),
    ("sassOptions", o.sassOptions.toJson),
    ("checkUndefinedFunctions", .bool o.checkUndefinedFunctions),
    ("disallowedKnownCssFunctions", .arr (o.disallowed.map .str)),
    ("additionalKnownCssFunctions", .arr (o.additional.map .str))]

def toJson (o : RuleOptions) : Json := .obj o.toFields

/-- Takes over one field. -/
def withField (o : RuleOptions) (name : String) (value : Json) : Json.Decoded RuleOptions :=
  if name = "sync" then do pure { o with sync := ← Json.asBool value }
  else if name = "sassOptions" then do pure { o with sassOptions := ← CompilerConfig.ofJson value }
  else if name = "checkUndefinedFunctions" then do
    pure { o with checkUndefinedFunctions := ← Json.asBool value }
  else if name = "disallowedKnownCssFunctions" then do
    pure { o with disallowed := ← Json.asList Json.asString value }
  else if name = "additionalKnownCssFunctions" then do
    pure { o with additional := ← Json.asList Json.asString value }
  else .error (.unknownField name fieldNames)

/-- Takes over fields one after the other. -/
def withFields (o : RuleOptions) : Fields → Json.Decoded RuleOptions
  | [] => .ok o
  | (name, value) :: rest => do
    let o ← o.withField name value
    o.withFields rest

/-- Reads options. Nothing means that the rule is off. -/
def parse : Json → Except OptionsError (Option RuleOptions)
  | .null => .ok none
  | .bool false => .ok none
  | .bool true => .ok (some defaults)
  | .obj fields =>
    match defaults.withFields fields with
    | .ok o => .ok (some o)
    | .error e => .error (.schema e)
  | v => .error (.unexpectedType v.kindName)

def renderMode (o : RuleOptions) : RenderMode := if o.sync then .blocking else .concurrent

/-- The options of the search for undefined functions, if it is wanted. -/
def undefinedFunctions (o : RuleOptions) : Option UndefinedFunctionsOptions :=
  if o.checkUndefinedFunctions then some ⟨o.disallowed, o.additional⟩ else none

end RuleOptions

end SassRenderLint
