/-
Module: SassRenderLint.Rule.Schema
Layer: Rule
Purpose: The published schema of the rule's options.
Program names: schemaText is RULE_OPTIONS_SCHEMA.
Main exports: RuleOptions.schemaText
-/

namespace SassRenderLint

namespace RuleOptions

def schemaLines : List String :=
  [
    "\x7b",
    "  \"$schema\": \"http://json-schema.org/draft-07/schema#\",",
    "  \"title\": \"plugin/sass-render-errors options\",",
    "  \"oneOf\": [",
    "    \x7b \"type\": \"boolean\" \x7d,",
    "    \x7b",
    "      \"type\": \"object\",",
    "      \"additionalProperties\": false,",
    "      \"properties\": \x7b",
    "        \"checkUndefinedFunctions\": \x7b",
    "          \"type\": \"boolean\",",
    "          \"description\": \"Report calls to functions that are neither Sass, CSS nor allow-listed\"",
    "        \x7d,",
    "        \"disallowedKnownCssFunctions\": \x7b",
    "          \"type\": \"array\",",
    "          \"items\": \x7b \"type\": \"string\" \x7d,",
    "          \"description\": \"Known CSS functions to report as undefined\"",
    "        \x7d,",
    "        \"additionalKnownCssFunctions\": \x7b",
    "          \"type\": \"array\",",
    "          \"items\": \x7b \"type\": \"string\" \x7d,",
    "          \"description\": \"Functions to treat as known, overriding the disallow list\"",
    "        \x7d,",
    "        \"sync\": \x7b",
    "          \"type\": \"boolean\",",
    "          \"description\": \"Run the compiler in blocking mode\"",
    "        \x7d,",
    "        \"sassOptions\": \x7b",
    "          \"oneOf\": [\x7b \"type\": \"string\" \x7d, \x7b \"type\": \"object\" \x7d],",
    "          \"description\": \"Inline compiler options, or a module path providing them\"",
    "        \x7d",
    "      \x7d",
    "    \x7d",
    "  ]",
    "\x7d"
  ]

/-- The schema of the options, as it is published. -/
def schemaText : String := String.intercalate "\n" schemaLines

end RuleOptions

end SassRenderLint
