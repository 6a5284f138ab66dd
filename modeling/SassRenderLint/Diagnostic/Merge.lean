/-
Module: SassRenderLint.Diagnostic.Merge
Layer: Diagnostic
Purpose: Merging what several renderers found. Two diagnostics are the same when their identity texts
  agree, which leave the stack out; of the same ones the first stays. Then only those about the
  target stay, where a diagnostic about standard input counts for the file whose text was passed.
Program names: identity is identity_key, unique is unique, attributedFile is attributed_file, belongsTo
  is belongs_to, retainFor is retain_for_file.
Main exports: Diagnostic.identity, Diagnostic.unique, Diagnostic.attributedFile, Diagnostic.belongsTo,
  Diagnostic.retainFor
-/
import SassRenderLint.Diagnostic.Wire
import SassRenderLint.Rule.Target

namespace SassRenderLint

namespace Diagnostic

/-- A position with its fields in key order. -/
def sortedPosition (p : Position) : Json :=
  .obj [("column", .ofNat p.column.toNat), ("line", .ofNat p.line.toNat)]

/-- All fields but the stack, in key order at every level. -/
def identityJson (d : Diagnostic) : Json :=
  .obj [
    ("file", .str d.file),
    ("kind", d.kind.toJson),
    ("message", .str d.message),
    ("source", .obj [
      ("end", sortedPosition d.source.stop),
      ("pattern", .str d.source.pattern),
      ("start", sortedPosition d.source.start)])]

/-- The text by which diagnostics are told apart. -/
def identity (d : Diagnostic) : String := d.identityJson.compact

/-- Drops diagnostics whose identity has been seen. -/
def uniqueAfter (seen : List String) : List Diagnostic → List Diagnostic
  | [] => []
  | d :: rest =>
    if d.identity ∈ seen then uniqueAfter seen rest
    else d :: uniqueAfter (d.identity :: seen) rest

/-- The first of each group of diagnostics with one identity, in order. -/
def unique (diagnostics : List Diagnostic) : List Diagnostic := uniqueAfter [] diagnostics

/-- The file a diagnostic is about. -/
def attributedFile (d : Diagnostic) (recorded : Option String) : String :=
  match recorded with
  | some path => if d.file = Target.stdinName then path else d.file
  | none => d.file

/-- Whether a diagnostic is about the target. -/
def belongsTo (d : Diagnostic) (target : Target) (recorded : Option String) : Bool :=
  d.attributedFile recorded = target.identifier

/-- The diagnostics about the target. -/
def retainFor (diagnostics : List Diagnostic) (target : Target) (recorded : Option String) : List Diagnostic :=
  diagnostics.filter fun d => d.belongsTo target recorded

end Diagnostic

end SassRenderLint
