/-
Module: SassRenderLint.Toml.Document
Layer: Toml
Purpose: Reads a whole TOML document, statement by statement, into the fields of one object.
Main exports: Toml.read?
-/
import SassRenderLint.Toml.Value

namespace SassRenderLint

namespace Toml

/-- A document being read: its tables, and the header of the one that is open. -/
structure Draft where
  root : Table
  header : List String

/-- A header, from its opening bracket. -/
def headerLine (d : Draft) : List Char → Option (Draft × List Char)
  | '[' :: '[' :: rest => do
    let (path, rest) ← key rest
    let rest ← mark ']' rest
    let rest ← mark ']' rest
    let last ← path.getLast?
    pure (⟨← d.root.openArray? path.dropLast last, path⟩, rest)
  | '[' :: rest => do
    let (path, rest) ← key rest
    let rest ← mark ']' rest
    let last ← path.getLast?
    pure (⟨← d.root.openTable? path.dropLast last, path⟩, rest)
  | _ => none

/-- A key and its value, for the open table. -/
def pairLine (d : Draft) (cs : List Char) : Option (Draft × List Char) := do
  let ((path, v), rest) ← pair (value depthLimit) cs
  pure (⟨← assignPath? d.root d.header path v, d.header⟩, rest)

/-- The statements of a document, at most `bound` lines of them. -/
def statements : Nat → Draft → List Char → Option Draft
  | 0, _, _ => none
  | bound + 1, d, cs => do
    match skipBlanks cs with
    | [] => pure d
    | cs =>
      match lineEnd cs with
      | some rest => statements bound d rest
      | none =>
        let (d, rest) ← if cs.head? = some '[' then headerLine d cs else pairLine d cs
        statements bound d (← lineEnd rest)

/-- The mark that may stand before a document. -/
def byteOrderMark : Char := Char.ofNat 0xFEFF

def read? (text : String) : Option Fields := do
  let cs := match text.toList with
    | c :: rest => if c = byteOrderMark then rest else c :: rest
    | [] => []
  let d ← statements (cs.length + 1) ⟨.new .header, []⟩ cs
  pure d.root.toFields

end Toml

end SassRenderLint
