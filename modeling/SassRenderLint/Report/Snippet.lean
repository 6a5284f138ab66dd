/-
Module: SassRenderLint.Report.Snippet
Layer: Report
Purpose: The piece of a source that a text report shows around a span of bytes: the lines of the span
  and one line before and after them, numbered, the span underlined if it lies on one line and drawn
  in the margin if it covers several.
Program names: none; format_text leaves the drawing of snippets to its report handler, which is
  described here.
Main exports: Report.ByteSpan, Report.Window, Report.window?, Report.snippetLines
-/
import SassRenderLint.Text.Offset
import SassRenderLint.Text.Width

namespace SassRenderLint

namespace Report

structure ByteSpan where
  start : Nat
  length : Nat
deriving DecidableEq, Repr, Inhabited

namespace ByteSpan

/-- One past the last byte. -/
def stop (s : ByteSpan) : Nat := s.start + s.length

end ByteSpan

/-- The part of a source around a span: its bytes, and the line and column, from zero, at which it
    starts. -/
structure Window where
  start : Nat
  stop : Nat
  line : Nat
  column : Nat
deriving DecidableEq, Repr, Inhabited

/-- What is known while the bytes of a source are passed. -/
structure WindowScan where
  offset : Nat
  line : Nat
  column : Nat
  /-- Line ends passed after the span, the one that ends its own last line not counted. -/
  linesAfter : Nat
  /-- Where the current line starts. -/
  lineStart : Nat
  /-- Where the lines kept before the span start. -/
  starts : List Nat
  /-- Whether the last byte of the span has been passed. -/
  past : Bool
  /-- Whether the end of the span's last line has been passed. -/
  ended : Bool
deriving DecidableEq, Repr, Inhabited

namespace WindowScan

def start : WindowScan := ⟨0, 0, 0, 0, 0, [], false, false⟩

/-- A line ends before the span: its start is kept, the oldest one given up. -/
def endBefore (s : WindowScan) (before : Nat) : WindowScan :=
  let starts := s.starts ++ [s.lineStart]
  let s := { s with column := 0 }
  if before < starts.length then { s with line := s.line + 1, starts := starts.drop 1 }
  else { s with starts := starts }

/-- A line ends after the span. -/
def endAfter (s : WindowScan) : WindowScan :=
  if s.ended then { s with column := 0, linesAfter := s.linesAfter + 1 }
  else { s with column := 0, ended := true }

/-- One more byte, after which the scan is over or goes on. -/
def finish (span : ByteSpan) (after : Nat) (s : WindowScan) : WindowScan × Bool :=
  if span.stop - 1 ≤ s.offset then
    ({ s with past := true, offset := s.offset + 1 }, decide (after ≤ s.linesAfter))
  else ({ s with offset := s.offset + 1 }, false)

/-- A line end, whose last byte is at the current offset. -/
def lineEnd (span : ByteSpan) (before after : Nat) (s : WindowScan) : WindowScan × Bool :=
  if s.offset < span.start then
    finish span after { s.endBefore before with lineStart := s.offset + 1 }
  else if span.start + (span.length - 1) ≤ s.offset ∧ s.past then
    let s := s.endAfter
    if after ≤ s.linesAfter then ({ s with offset := s.offset + 1 }, true)
    else finish span after { s with lineStart := s.offset + 1 }
  else finish span after { s with lineStart := s.offset + 1 }

/-- A byte that ends no line. -/
def plain (span : ByteSpan) (after : Nat) (s : WindowScan) : WindowScan × Bool :=
  finish span after (if s.offset < span.start then { s with column := s.column + 1 } else s)

/-- Passes bytes until the window is complete. A carriage return and the line feed after it end one
    line. -/
def run (span : ByteSpan) (before after : Nat) : WindowScan → List UInt8 → WindowScan
  | s, [] => s
  | s, 0x0D :: 0x0A :: rest =>
    match lineEnd span before after { s with offset := s.offset + 1 } with
    | (s, true) => s
    | (s, false) => run span before after s rest
  | s, b :: rest =>
    match (if b = 0x0D ∨ b = 0x0A then lineEnd span before after s else plain span after s) with
    | (s, true) => s
    | (s, false) => run span before after s rest

end WindowScan

/-- The window that has `before` lines before the span and `after` lines after it. Nothing when the
    span is not inside the source. -/
def window? (source : List UInt8) (span : ByteSpan) (before after : Nat) : Option Window :=
  let s := WindowScan.run span before after .start source
  if s.offset < span.stop - 1 then none
  else
    let start := s.starts.head?.getD (if before = 0 then span.start else 0)
    some ⟨start, s.offset, s.line, if before = 0 then s.column else 0⟩

/-- A line as it is shown, with the bytes it takes in the source, its end included. -/
structure ShownLine where
  number : Nat
  start : Nat
  length : Nat
  text : List Char
deriving DecidableEq, Repr, Inhabited

namespace ShownLine

def stop (l : ShownLine) : Nat := l.start + l.length

end ShownLine

/-- The line under way while a window is cut into lines. -/
structure LineScan where
  number : Nat
  column : Nat
  start : Nat
  offset : Nat
  text : List Char
deriving DecidableEq, Repr, Inhabited

namespace LineScan

/-- Closes the line when it is at its end, and starts the next one. `last` says that no character is
    left, and `counted` that the line's number has been counted. -/
def close (s : LineScan) (last counted : Bool) : List ShownLine × LineScan :=
  let s := if last && !counted then { s with number := s.number + 1 } else s
  if s.column = 0 ∨ last then
    ([⟨s.number, s.start, s.offset - s.start, s.text⟩], { s with start := s.offset, text := [] })
  else ([], s)

/-- Cuts characters into lines. A carriage return ends a line only together with a line feed. -/
def run : LineScan → List Char → List ShownLine
  | _, [] => []
  | s, '\x0d' :: '\n' :: rest =>
    let (lines, s) :=
      close { s with offset := s.offset + 2, number := s.number + 1, column := 0 } rest.isEmpty rest.isEmpty
    lines ++ run s rest
  | s, c :: rest =>
    let s := { s with offset := s.offset + c.utf8Size }
    let (lines, s) :=
      if c = '\n' then close { s with number := s.number + 1, column := 0 } rest.isEmpty rest.isEmpty
      else
        close { s with text := s.text ++ [c], column := s.column + 1 } rest.isEmpty
          (c = '\x0d' && rest.isEmpty)
    lines ++ run s rest

end LineScan

def shownLines (source : List Char) (w : Window) : List ShownLine :=
  let shown := Text.takeBytes (w.stop - w.start) (Text.dropBytes w.start source)
  LineScan.run ⟨w.line, w.column, w.start, w.start, []⟩ shown

/-- The distance of tab stops. -/
def tabWidth : Nat := 4

/-- The columns of characters, tabs going to the next stop. -/
def tabbedWidth (cs : List Char) : Nat :=
  cs.foldl (fun used c => if c = '\t' then used + (tabWidth - used % tabWidth) else used + Text.charWidth c) 0

/-- Characters with tabs as blanks, from a column on. -/
def expandTabs : Nat → List Char → List Char
  | _, [] => []
  | used, c :: rest =>
    if c = '\t' then
      let blanks := tabWidth - used % tabWidth
      List.replicate blanks ' ' ++ expandTabs (used + blanks) rest
    else c :: expandTabs (used + Text.charWidth c) rest

/-- The column at which an offset inside a line is shown. Inside the line's end it is one past the
    text. -/
def shownColumn (l : ShownLine) (offset : Nat) : Nat :=
  let within := offset - l.start
  if Text.byteLength l.text < within then tabbedWidth l.text + 1
  else tabbedWidth (Text.takeBytes within l.text)

/-- Whether a line has a part of the span. An empty span counts as one byte. -/
def touches (l : ShownLine) (s : ByteSpan) : Bool :=
  let n := max s.length 1
  (l.start ≤ s.start && s.start < l.stop)
    || (s.start < l.start && l.stop < s.start + n)
    || (l.start < s.start + n && s.start + n ≤ l.stop)

/-- Whether the span lies on the line. -/
def holds (l : ShownLine) (s : ByteSpan) : Bool := l.start ≤ s.start && s.stop ≤ l.stop

/-- Whether the line has a part of the span and not its two ends. -/
def crossed (l : ShownLine) (s : ByteSpan) : Bool :=
  let n := max s.length 1
  touches l s
    && !((l.start ≤ s.start && s.start < l.stop) && (l.start < s.start + n && s.start + n ≤ l.stop))

/-- Whether the margin is drawn: some line is crossed by a span that does not lie on it. -/
def hasMargin (lines : List ShownLine) (s : ByteSpan) : Bool :=
  lines.any fun l => crossed l s && !holds l s

def margin (l : ShownLine) (s : ByteSpan) : String :=
  if crossed l s then
    if l.start ≤ s.start then "╭─▶ "
    else if l.start ≤ s.stop ∧ s.stop ≤ l.stop then "╰─▶ "
    else if s.start < l.start ∧ l.stop < s.stop then "│   "
    else "    "
  else "    "

def blanks (n : Nat) : String := String.ofList (List.replicate n ' ')

def aligned (width n : Nat) : String :=
  let digits := Nat.toDigits 10 n
  String.ofList (List.replicate (width - digits.length) ' ' ++ digits)

/-- The mark below the span on its line. -/
def underline (l : ShownLine) (s : ByteSpan) : String :=
  let start := shownColumn l s.start
  let stop := max (shownColumn l s.stop) (start + 1)
  blanks start ++ if s.length = 0 then "▲" else String.ofList (List.replicate (stop - start) '─')

/-- A line, and the mark below it if the span lies on it. -/
def renderLine (width : Nat) (withMargin : Bool) (s : ByteSpan) (l : ShownLine) : List String :=
  let text :=
    " " ++ aligned width l.number ++ " │ " ++ (if withMargin then margin l s else "")
      ++ String.ofList (expandTabs 0 l.text)
  if touches l s && holds l s then
    [text, " " ++ blanks width ++ " · " ++ (if withMargin then "    " else "") ++ underline l s]
  else [text]

/-- The lines of a snippet: where the span is, the source around it, and a closing line. Nothing when
    the span is not inside the source. -/
def snippetLines (name : String) (source : String) (span : ByteSpan) : Option (List String) := do
  let bytes := Text.bytes source
  let around ← window? bytes span 1 1
  let head ← window? bytes span 0 0
  let lines := shownLines source.toList around
  let width := (Nat.toDigits 10 ((lines.getLast?.map ShownLine.number).getD 0)).length
  let withMargin := hasMargin lines span
  let header :=
    blanks (width + 2) ++ "╭─[" ++ name ++ ":" ++ aligned 0 (head.line + 1) ++ ":" ++ aligned 0 (head.column + 1)
      ++ "]"
  let footer := blanks (width + 2) ++ "╰────"
  pure (header :: lines.flatMap (renderLine width withMargin span) ++ [footer])

end Report

end SassRenderLint
