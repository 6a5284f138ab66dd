/-
Module: SassRenderLint.Report.Text
Layer: Report
Purpose: Lint results as text: a block for each refused option and each warning, in order, and a
  closing line that counts them. A warning whose source is known shows the part it is about.
Program names: text is format_text, warningSpan? is warning_span, warningBlock draws a WarningReport,
  Format is OutputFormat, render is format_results.
Main exports: Report.warningSpan?, Report.block, Report.body, Report.text
-/
import SassRenderLint.Report.Listing
import SassRenderLint.Report.Snippet
import SassRenderLint.Report.Summary
import SassRenderLint.Text.Wrap

namespace SassRenderLint

namespace Report

/-- The bytes that a warning is about. An end before the start, or outside the source, is the start. -/
def warningSpan? (source : List Char) (w : Warning) : Option ByteSpan := do
  let start ← Text.offsetOf? source w.start
  let stop := max ((Text.offsetOf? source w.stop).getD start) start
  pure ⟨start, stop - start⟩

def pageWidth : Nat := 198

def severityMark : Severity → String
  | .error => "×"
  | .warning => "⚠"

/-- The columns in front of each line of a message. -/
def indentWidth : Nat := 4

/-- A message, wrapped and indented. -/
def messageLines (severity : Severity) (message : String) : List String :=
  match Text.wrap (pageWidth - indentWidth) message.toList with
  | [] => []
  | first :: rest =>
    ("  " ++ severityMark severity ++ " " ++ String.ofList first)
      :: rest.map fun line => "  │ " ++ String.ofList line

/-- Each line with a line end. -/
def joinLines (lines : List String) : String := String.join (lines.map (· ++ "\n"))

/-- A block: the rule, the message and the snippet, and an empty line after it. -/
def block (rule : String) (severity : Severity) (message : String) (snippet : List String) : String :=
  joinLines (rule :: "" :: messageLines severity message ++ snippet ++ [""])

/-- The block of a refused option. -/
def optionBlock (message : String) : String := block ruleName .error message []

/-- The block of a warning. Nothing is written when the snippet cannot be made. -/
def warningBlock (filename : String) (source : Option String) (w : Warning) : String :=
  let span := do
    let source ← source
    pure (source, ← warningSpan? source.toList w)
  match span with
  | none => block w.rule w.severity w.text []
  | some (source, span) =>
    match snippetLines filename source span with
    | none => ""
    | some lines => block w.rule w.severity w.text lines

/-- The source of a file: the last one given under its name. -/
def sourceOf? (sources : List (String × String)) (filename : String) : Option String :=
  (sources.reverse.find? fun entry => entry.1 = filename).map Prod.snd

/-- The blocks of one target. -/
def resultBody (sources : List (String × String)) (r : LintResult) : String :=
  String.join (r.invalidOptions.map optionBlock)
    ++ String.join (r.warnings.map (warningBlock r.filename (sourceOf? sources r.filename)))

/-- The blocks of all targets. -/
def body (sources : List (String × String)) (results : List LintResult) : String :=
  String.join (results.map (resultBody sources))

/-- The closing line, if there is something to count. -/
def closing (results : List LintResult) : String :=
  let errors := results.foldr (fun r n => r.errorCount + n) 0
  let warnings := results.foldr (fun r n => r.warningCount + n) 0
  let line := summary errors warnings
  if line = "" then "" else line ++ "\n"

def text (results : List LintResult) (sources : List (String × String)) : String :=
  body sources results ++ closing results

inductive Format where
  | text
  | json
deriving DecidableEq, Repr, Inhabited

def render (results : List LintResult) (sources : List (String × String)) : Format → String
  | .text => text results sources
  | .json => listing results

end Report

end SassRenderLint
