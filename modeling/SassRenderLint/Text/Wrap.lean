/-
Module: SassRenderLint.Text.Wrap
Layer: Text
Purpose: Breaking a text into lines of limited width. A word ends where a line may be broken, except
  after a hyphen; hyphens between letters or numbers divide it further, and a piece wider than a line
  is cut. Lines are filled as far as they go, and blanks at the end of a line are dropped.
Main exports: Text.Word, Text.words, Text.fill, Text.wrapLine
-/
import SassRenderLint.Text.Alphanumeric
import SassRenderLint.Text.LineBreak.Rules

namespace SassRenderLint

namespace Text

/-- A piece of text and the number of blanks after it. -/
structure Word where
  chars : List Char
  blanks : Nat
deriving DecidableEq, Repr, Inhabited

namespace Word

/-- Splits the blanks off the end of a text. -/
def ofChars (cs : List Char) : Word :=
  let reversed := cs.reverse
  ⟨(reversed.dropWhile (· = ' ')).reverse, (reversed.takeWhile (· = ' ')).length⟩

/-- The columns of a word, its blanks not counted. -/
def width (w : Word) : Nat := Text.width w.chars

def whole (w : Word) : List Char := w.chars ++ List.replicate w.blanks ' '

end Word

/-- Characters after which no word ends: the hyphen and the soft hyphen. -/
def holdsOn (c : Char) : Bool := c = '-' || c = Char.ofNat 0xAD

/-- The characters, each with whether a word starts at it. -/
def starts : Option Char → List (Bool × Char) → List (Bool × Char)
  | _, [] => []
  | previous, (may, c) :: rest =>
    (may && !(previous.any holdsOn), c) :: starts (some c) rest

/-- Takes back the last start. -/
def dropLastStart (cs : List (Bool × Char)) : List (Bool × Char) :=
  let rec go : List (Bool × Char) → List (Bool × Char)
    | [] => []
    | (true, c) :: rest => (false, c) :: rest
    | (false, c) :: rest => (false, c) :: go rest
  (go cs.reverse).reverse

/-- Groups characters into words. -/
def group : List (Bool × Char) → List (List Char)
  | [] => []
  | (_, c) :: rest =>
    match rest, group rest with
    | (false, _) :: _, first :: more => (c :: first) :: more
    | _, more => [c] :: more

/-- The words of a line. The end of the line counts as the last place where it may be broken and is no
    start of a word; a line that ends in a hyphen has no such place at its end, so it gives up the
    place before. -/
def words (line : List Char) : List Word :=
  let marked := starts none (LineBreak.opportunities line)
  let marked := if line.getLast?.any holdsOn then dropLastStart marked else marked
  (group marked).map Word.ofChars

/-- Divides characters after each hyphen that stands between letters or numbers. -/
def splitHyphens : Option Char → List Char → List (List Char)
  | _, [] => [[]]
  | previous, c :: rest =>
    let divides := c = '-' && previous.any isAlphanumeric && rest.head?.any isAlphanumeric
    match splitHyphens (some c) rest with
    | [] => [[c]]
    | first :: more => if divides then [c] :: first :: more else (c :: first) :: more

/-- Gives the blanks to the last of some pieces. -/
def withBlanks (blanks : Nat) : List (List Char) → List Word
  | [] => []
  | [last] => [⟨last, blanks⟩]
  | piece :: more => ⟨piece, 0⟩ :: withBlanks blanks more

/-- Cuts characters into pieces of at most `limit` columns; a piece has at least one character. -/
def cut (limit : Nat) : Nat → List Char → List (List Char)
  | _, [] => [[]]
  | used, c :: rest =>
    let w := charWidth c
    if 0 < used ∧ limit < used + w then
      match cut limit w rest with
      | [] => [[], [c]]
      | first :: more => [] :: (c :: first) :: more
    else
      match cut limit (used + w) rest with
      | [] => [[c]]
      | first :: more => (c :: first) :: more

/-- The pieces of a word that fit on a line. -/
def pieces (limit : Nat) (w : Word) : List Word :=
  (withBlanks w.blanks (splitHyphens none w.chars)).flatMap fun piece =>
    if limit < piece.width then withBlanks piece.blanks (cut limit 0 piece.chars) else [piece]

/-- Fills lines with words, each as far as it goes. `line` holds the words of the current line, last
    first, and `used` its columns. -/
def fill (limit : Nat) : List Word → Nat → List Word → List (List Word)
  | line, _, [] => [line.reverse]
  | line, used, w :: rest =>
    if limit < used + w.width ∧ line ≠ [] then
      line.reverse :: fill limit [w] (w.width + w.blanks) rest
    else fill limit (w :: line) (used + w.width + w.blanks) rest

/-- The text of a line of words, without the blanks at its end. -/
def lineChars : List Word → List Char
  | [] => []
  | [last] => last.chars
  | w :: rest => w.whole ++ lineChars rest

/-- The lines that a line of text takes when `limit` columns are available. -/
def wrapLine (limit : Nat) (line : List Char) : List (List Char) :=
  (fill limit [] 0 ((words line).flatMap (pieces limit))).map lineChars

def splitLines : List Char → List (List Char)
  | [] => [[]]
  | c :: rest =>
    if c = '\n' then [] :: splitLines rest
    else
      match splitLines rest with
      | [] => [[c]]
      | first :: more => (c :: first) :: more

/-- All lines of a text, each wrapped. -/
def wrap (limit : Nat) (text : List Char) : List (List Char) := (splitLines text).flatMap (wrapLine limit)

end Text

end SassRenderLint
