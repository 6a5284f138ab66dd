/-
Module: SassRenderLint.Rule.Host
Layer: Rule
Purpose: The surroundings of a lint run: the target, the style text cut out of it, its tree, and the
  whole document if the style text is a part of it.
Program names: Host is HostContext, isFragment is is_fragment, wordSource is word_source.
Main exports: Host, Host.isFragment, Host.wordSource
-/
import SassRenderLint.Rule.Target
import SassRenderLint.Sheet.Node

namespace SassRenderLint

structure Host where
  target : Target
  content : String
  root : Node
  document : Option String
deriving DecidableEq, Repr, Inhabited

namespace Host

/-- Whether the style text was cut out of a file of another kind. -/
def isFragment (host : Host) : Bool := host.target.path?.isSome && !host.target.isStyleFile

/-- The text in which words are looked for: the document, or the style text when it is the document. -/
def wordSource (host : Host) : Option String :=
  match host.document with
  | some document => some document
  | none => if host.isFragment then none else some host.content

end Host

end SassRenderLint
