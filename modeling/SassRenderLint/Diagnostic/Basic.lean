/-
Module: SassRenderLint.Diagnostic.Basic
Layer: Diagnostic
Purpose: What renderers find in a style sheet, and how severe it is. Failed compilations are errors of
  their own.
Program names: Diagnostic is RenderDiagnostic, Excerpt is DiagnosticSource; Severity, DiagnosticKind,
  severity and CompileError keep theirs.
Main exports: Severity, DiagnosticKind, Excerpt, Diagnostic, CompileError
-/
import SassRenderLint.Text.Position

namespace SassRenderLint

inductive Severity where
  | error
  | warning
deriving DecidableEq, Repr, Inhabited

inductive DiagnosticKind where
  | error
  | deprecation
  | undefinedFunction
deriving DecidableEq, Repr, Inhabited

/-- The text that a finding is about, and where the renderer saw it. -/
structure Excerpt where
  pattern : String
  start : Position
  stop : Position
deriving DecidableEq, Repr, Inhabited

/-- A finding of a renderer. -/
structure Diagnostic where
  file : String
  message : String
  kind : DiagnosticKind
  source : Excerpt
  stack : Option String
deriving DecidableEq, Repr, Inhabited

/-- Errors are errors; deprecations and undefined functions are warnings. -/
def Diagnostic.severity (d : Diagnostic) : Severity :=
  match d.kind with
  | .error => .error
  | .deprecation => .warning
  | .undefinedFunction => .warning

structure CompileError where
  message : String
  file : Option String
  span : Option Excerpt
deriving DecidableEq, Repr, Inhabited

end SassRenderLint
