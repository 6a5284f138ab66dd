/-
Module: SassRenderLint.Report.Listing
Layer: Report
Purpose: Lint results as a JSON document: one object for each target, in order.
Program names: listing is format_json, entry is JsonFileResult.
Main exports: Warning.toJson, Report.listing
-/
import SassRenderLint.Diagnostic.Wire
import SassRenderLint.Report.Warning

namespace SassRenderLint

/-- Where the warning starts and ends, the rule, the severity and the text. -/
def Warning.toJson (w : Warning) : Json :=
  .obj [
    ("line", .ofNat w.start.line.toNat),
    ("column", .ofNat w.start.column.toNat),
    ("endLine", .ofNat w.stop.line.toNat),
    ("endColumn", .ofNat w.stop.column.toNat),
    ("rule", .str w.rule),
    ("severity", w.severity.toJson),
    ("text", .str w.text)]

namespace Report

/-- The object of one target. -/
def entry (r : LintResult) : Json :=
  .obj [
    ("source", .str r.filename),
    ("errored", .bool r.hasErrors),
    ("warnings", .arr (r.warnings.map Warning.toJson)),
    ("invalidOptionWarnings", .arr (r.invalidOptions.map fun text => .obj [("text", .str text)]))]

/-- The document of some targets, indented. -/
def listing (results : List LintResult) : String := (Json.arr (results.map entry)).indented

end Report

end SassRenderLint
