/-
Module: SassRenderLint.Report.Warning
Layer: Report
Purpose: Warnings as they are recorded for one target. A remark names a node and a word; its warning
  covers the first occurrence of the word in the document from the node's start on, and is empty at
  the remark's line when there is none.
Program names: ruleName is RULE_NAME, ruleMessage is rule_message, ruleDescription and ruleSeverity are
  fields of META; a Remark is what a Reporter is given, by report (a finding) or by invalid_option;
  Warning is ReportedWarning, Collector is WarningCollector, record is both its methods, result is
  into_result.
Main exports: ruleName, ruleMessage, Remark, Warning, LintResult, Collector
-/
import SassRenderLint.Diagnostic.Basic
import SassRenderLint.Sheet.Node
import SassRenderLint.Text.Offset

namespace SassRenderLint

def ruleName : String := "plugin/sass-render-errors"

def ruleDescription : String := "Report Sass render errors, deprecations and undefined functions"

/-- How severe the rule's findings are unless they say otherwise. -/
def ruleSeverity : Severity := .warning

/-- A message, followed by the rule's name. -/
def ruleMessage (message : String) : String := message ++ " (" ++ ruleName ++ ")"

/-- What the rule has to say. -/
inductive Remark where
  /-- The options are refused. -/
  | invalidOption (message : String)
  /-- Something is wrong at a node. -/
  | finding (place : Located) (line : UInt32) (word : Option String) (message : String) (severity : Severity)
deriving DecidableEq, Repr, Inhabited

/-- A recorded warning. -/
structure Warning where
  start : Position
  stop : Position
  rule : String
  severity : Severity
  text : String
deriving DecidableEq, Repr, Inhabited

/-- What was recorded for a target. -/
structure LintResult where
  filename : String
  warnings : List Warning
  invalidOptions : List String
  errorCount : Nat
  warningCount : Nat
deriving DecidableEq, Repr, Inhabited

namespace LintResult

/-- Whether an error was counted. -/
def hasErrors (r : LintResult) : Bool := 0 < r.errorCount

/-- Whether a warning of any severity was recorded. -/
def hasWarnings (r : LintResult) : Bool := !r.warnings.isEmpty

end LintResult

/-- What has been recorded so far, and the document in which words are looked for. -/
structure Collector where
  document : Option String
  warnings : List Warning
  invalidOptions : List String
deriving DecidableEq, Repr, Inhabited

namespace Collector

def start (document : Option String) : Collector := ⟨document, [], []⟩

/-- Where a finding is recorded. -/
def place (document : Option String) (node : Node) (line : UInt32) (word : Option String) :
    Position × Position :=
  let nodeStart := node.start.getD ⟨line, 1⟩
  let found := do Text.locateWord? (← document).toList (← word).toList nodeStart
  found.getD (⟨line, nodeStart.column⟩, ⟨line, nodeStart.column⟩)

def warningOf (document : Option String) (node : Node) (line : UInt32) (word : Option String)
    (message : String) (severity : Severity) : Warning :=
  let (start, stop) := place document node line word
  ⟨start, stop, ruleName, severity, message⟩

def record (c : Collector) : Remark → Collector
  | .invalidOption message => { c with invalidOptions := c.invalidOptions ++ [message] }
  | .finding found line word message severity =>
    { c with warnings := c.warnings ++ [warningOf c.document found.node line word message severity] }

def recordAll (c : Collector) (remarks : List Remark) : Collector := remarks.foldl record c

/-- What was recorded, with errors and other warnings counted. -/
def result (c : Collector) (filename : String) : LintResult :=
  let errors := c.warnings.countP fun w => w.severity = .error
  ⟨filename, c.warnings, c.invalidOptions, errors, c.warnings.length - errors⟩

end Collector

end SassRenderLint
