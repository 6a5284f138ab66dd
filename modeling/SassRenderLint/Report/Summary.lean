/-
Module: SassRenderLint.Report.Summary
Layer: Report
Purpose: The closing line of a text report, which counts errors and warnings.
Program names: summary is format_summary.
Main exports: Report.summary
-/
import SassRenderLint.Number.Shortest

namespace SassRenderLint

namespace Report

/-- A count and its noun, or nothing for zero. -/
def counted (n : Nat) (noun : String) : List String :=
  if n = 0 then []
  else [Binary64.digitText n ++ " " ++ noun ++ (if n = 1 then "" else "s")]

/-- Errors, then warnings. Nothing to count gives the empty text. -/
def summary (errors warnings : Nat) : String :=
  String.intercalate ", " (counted errors "error" ++ counted warnings "warning")

end Report

end SassRenderLint
