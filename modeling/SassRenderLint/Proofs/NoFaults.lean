/-
Module: SassRenderLint.Proofs.NoFaults
Layer: Proofs
Purpose: Collecting findings and writing them out as text stop at no fault, whatever the documents, the positions
  of nodes, the words and the ends of warnings are. Both are run here with every cut of a text and every
  difference guarded, and come out as the unguarded ones do. The span of a warning lies in its source, its ends
  fall between characters, and so do the ends of what is shown around it.
Main exports: Report.warningSpan?_inside, Guarded.warningSpan_eq, Guarded.collect, Guarded.collect_eq,
  Guarded.report, Guarded.report_eq, Guarded.no_fault
-/
import SassRenderLint.Proofs.GuardedText
import SassRenderLint.Proofs.WindowBounds

namespace SassRenderLint

/-- Where a text can be cut is never past its end. -/
theorem Text.Boundary.le {document : List Char} {offset : Nat} (between : Boundary document offset) :
    offset ≤ byteLength document := by
  obtain ⟨before, after, rfl, rfl⟩ := between
  rw [byteLength_append]
  exact Nat.le_add_right _ _

/-- The span of a warning lies in the source, and its ends fall between characters. -/
theorem Report.warningSpan?_inside {source : List Char} {w : Warning} {span : ByteSpan}
    (shows : warningSpan? source w = some span) :
    span.stop ≤ Text.byteLength source ∧ Text.Boundary source span.start ∧ Text.Boundary source span.stop := by
  cases begins : Text.offsetOf? source w.start with
  | none => simp [warningSpan?, begins] at shows
  | some start =>
      simp only [warningSpan?, begins, Option.bind_eq_bind, Option.bind_some, Option.pure_def, Option.some.injEq] at shows
      have startsBetween : Text.Boundary source start := Text.exists_prefix_of_offsetOf? begins
      -- The end is that of the warning if it has an offset that is not before the start.
      have stopsBetween : Text.Boundary source (max ((Text.offsetOf? source w.stop).getD start) start) := by
        rcases Nat.le_total ((Text.offsetOf? source w.stop).getD start) start with before | after
        · rwa [Nat.max_eq_right before]
        · rw [Nat.max_eq_left after]
          cases ends : Text.offsetOf? source w.stop with
          | none => exact startsBetween
          | some stop => exact Text.exists_prefix_of_offsetOf? ends
      have stop : span.stop = max ((Text.offsetOf? source w.stop).getD start) start := by
        rw [← shows, ByteSpan.stop]
        exact Nat.add_sub_cancel' (Nat.le_max_right _ _)
      rw [stop]
      exact ⟨stopsBetween.le, shows ▸ startsBetween, stopsBetween⟩

namespace Guarded

open Text Report

/-! ### Spans -/

def warningSpan (source : List Char) (w : Warning) : Except Fault (Option ByteSpan) := do
  let some start ← offsetOf source w.start | pure none
  let stop := max ((← offsetOf source w.stop).getD start) start
  let length ← minus stop start
  pure (some ⟨start, length⟩)

/-- No cut and no difference in the span of a warning is at fault. -/
theorem warningSpan_eq (source : List Char) (w : Warning) : warningSpan source w = .ok (warningSpan? source w) := by
  cases begins : offsetOf? source w.start with
  | none => simp [warningSpan, warningSpan?, offsetOf_eq, begins]
  | some start =>
      have length := minus_of_le (Nat.le_max_right ((offsetOf? source w.stop).getD start) start)
      simp [warningSpan, warningSpan?, offsetOf_eq, begins, length]

/-! ### Collecting -/

def place (document : Option String) (node : Node) (line : UInt32) (word : Option String) :
    Except Fault (Position × Position) := do
  let nodeStart := node.start.getD ⟨line, 1⟩
  let found ←
    match document, word with
    | some document, some word => locateWord document.toList word.toList nodeStart
    | _, _ => pure none
  pure (found.getD (⟨line, nodeStart.column⟩, ⟨line, nodeStart.column⟩))

def record (c : Collector) : Remark → Except Fault Collector
  | .invalidOption message => pure { c with invalidOptions := c.invalidOptions ++ [message] }
  | .finding found line word message severity => do
    let (start, stop) ← place c.document found.node line word
    pure { c with warnings := c.warnings ++ [⟨start, stop, ruleName, severity, message⟩] }

/-- What was recorded, with errors and other warnings counted. -/
def result (c : Collector) (filename : String) : Except Fault LintResult := do
  let errors := c.warnings.countP fun w => w.severity = .error
  let others ← minus c.warnings.length errors
  pure ⟨filename, c.warnings, c.invalidOptions, errors, others⟩

/-- Records remarks one after the other and counts them. -/
def collect (document : Option String) (remarks : List Remark) (filename : String) : Except Fault LintResult := do
  let c ← remarks.foldlM record (.start document)
  result c filename

/-- Looking for the word of a finding is never at fault, whatever the node says of its start. -/
theorem place_eq (document : Option String) (node : Node) (line : UInt32) (word : Option String) :
    place document node line word = .ok (Collector.place document node line word) := by
  cases document with
  | none => simp [place, Collector.place]
  | some document =>
      cases word with
      | none => simp [place, Collector.place]
      | some word => simp [place, Collector.place, locateWord_eq]

theorem record_eq (c : Collector) (remark : Remark) : record c remark = .ok (c.record remark) := by
  cases remark with
  | invalidOption message => rfl
  | finding found line word message severity => simp [record, Collector.record, Collector.warningOf, place_eq]

/-- Remark by remark, recording stays clear of faults. -/
theorem foldlM_record_eq (c : Collector) (remarks : List Remark) :
    remarks.foldlM record c = .ok (c.recordAll remarks) := by
  induction remarks generalizing c with
  | nil => rfl
  | cons remark rest ih => simp [record_eq, ih, Collector.recordAll]

/-- Errors are counted among the warnings, so the others can be counted by what is left. -/
theorem result_eq (c : Collector) (filename : String) : result c filename = .ok (c.result filename) := by
  simp [result, Collector.result, minus_of_le, List.countP_le_length]

/-- The counts are differences as well, and there are never more errors than warnings. -/
theorem collect_eq (document : Option String) (remarks : List Remark) (filename : String) :
    collect document remarks filename = .ok (((Collector.start document).recordAll remarks).result filename) := by
  rw [collect, foldlM_record_eq, ok_bind, result_eq]

/-! ### Writing out -/

/-- The part of a source in a window. -/
def windowText (source : List Char) (w : Window) : Except Fault (List Char) := do
  let (_, rest) ← cut source w.start
  let length ← minus w.stop w.start
  let (shown, _) ← cut rest length
  pure shown

/-- The block of a warning, with what is shown around its span cut out of the source. -/
def warningBlock (filename : String) (source : Option String) (w : Warning) : Except Fault String :=
  match source with
  | none => pure (block w.rule w.severity w.text [])
  | some source => do
    let some span ← warningSpan source.toList w | pure (block w.rule w.severity w.text [])
    let some around := window? (bytes source) span 1 1 | pure ""
    let _ ← windowText source.toList around
    pure (((snippetLines filename source span).map (block w.rule w.severity w.text)).getD "")

def resultBody (sources : List (String × String)) (r : LintResult) : Except Fault String := do
  let blocks ← r.warnings.mapM (warningBlock r.filename (sourceOf? sources r.filename))
  pure (String.join (r.invalidOptions.map optionBlock) ++ String.join blocks)

def report (results : List LintResult) (sources : List (String × String)) : Except Fault String := do
  let bodies ← results.mapM (resultBody sources)
  pure (String.join bodies ++ closing results)

/-- The part of a source between two offsets that fall between characters is cut out without a fault. -/
theorem windowText_eq {source : List Char} {w : Window} (starts : Boundary source w.start)
    (stops : Boundary source w.stop) (order : w.start ≤ w.stop) :
    windowText source w = .ok (takeBytes (w.stop - w.start) (dropBytes w.start source)) := by
  obtain ⟨before, rest, same, start⟩ := starts
  obtain ⟨front, back, alsoSame, stop⟩ := stops
  have fewer : byteLength before ≤ byteLength front := by rwa [start, stop]
  obtain ⟨middle, rfl⟩ := prefix_of_byteLength_le ⟨rest, same.symm⟩ ⟨back, alsoSame.symm⟩ fewer
  rw [List.append_assoc] at alsoSame
  have length : w.stop - w.start = byteLength middle := by
    rw [← start, ← stop, byteLength_append, Nat.add_sub_cancel_left]
  have first : cut source w.start = .ok (before, middle ++ back) := by rw [alsoSame, ← start, cut_append]
  have drops : dropBytes w.start source = middle ++ back := by rw [alsoSame, ← start, dropBytes_append]
  simp [windowText, first, minus_of_le order, length, cut_append, drops, takeBytes_append]

/-- What is shown around the span of a warning is cut out of the source without a fault, and there is always
    something to show. -/
theorem exists_shown {source : String} {w : Warning} {span : ByteSpan}
    (shows : warningSpan? source.toList w = some span) (filename : String) :
    ∃ around shown lines, window? (bytes source) span 1 1 = some around ∧
      windowText source.toList around = .ok shown ∧ snippetLines filename source span = some lines := by
  have inside : span.stop ≤ (bytes source).length := by
    rw [bytes_eq_flatMap, length_flatMap_encode]
    exact (warningSpan?_inside shows).1
  obtain ⟨around, found, order, -, starts, stops⟩ := exists_window inside 1 1
  obtain ⟨head, alsoFound, -⟩ := exists_window inside 0 0
  have startsBetween : Boundary source.toList around.start := by
    apply StartsLine.boundary
    rw [← bytes_eq_flatMap]
    exact starts (by decide)
  have stopsBetween : Boundary source.toList around.stop := by
    rcases stops (by decide) with all | line
    · rw [all, bytes_eq_flatMap, length_flatMap_encode]
      exact ⟨source.toList, [], by simp, rfl⟩
    · apply StartsLine.boundary
      rw [← bytes_eq_flatMap]
      exact line
  have lines : ∃ lines, snippetLines filename source span = some lines := by simp [snippetLines, found, alsoFound]
  obtain ⟨lines, snippet⟩ := lines
  exact ⟨around, _, lines, found, windowText_eq startsBetween stopsBetween order, snippet⟩

/-- The window of a snippet is cut at boundaries of the source. -/
theorem warningBlock_eq (filename : String) (source : Option String) (w : Warning) :
    warningBlock filename source w = .ok (Report.warningBlock filename source w) := by
  cases source with
  | none => rfl
  | some source =>
      cases shows : warningSpan? source.toList w with
      | none => simp [warningBlock, Report.warningBlock, warningSpan_eq, shows]
      | some span =>
          obtain ⟨around, shown, lines, found, cuts, snippet⟩ := exists_shown shows filename
          simp [warningBlock, Report.warningBlock, warningSpan_eq, shows, found, cuts, snippet]

/-- Work on each of a list goes through if it does on every one. -/
theorem mapM_eq_ok {α β : Type} {work : α → Except Fault β} {f : α → β} (eq : ∀ a, work a = .ok (f a))
    (as : List α) : as.mapM work = .ok (as.map f) := by
  rw [funext eq]
  exact List.mapM_pure

theorem resultBody_eq (sources : List (String × String)) (r : LintResult) :
    resultBody sources r = .ok (Report.resultBody sources r) := by
  rw [resultBody, mapM_eq_ok (warningBlock_eq _ _), ok_bind]
  rfl

/-- The whole report is written, for any results and sources. -/
theorem report_eq (results : List LintResult) (sources : List (String × String)) :
    report results sources = .ok (Report.text results sources) := by
  rw [report, mapM_eq_ok (resultBody_eq sources), ok_bind]
  rfl

/-! ### No faults -/

/-- A cut is a fault unless it falls between two characters of the text, and a difference is one unless it is at
    least zero. With every cut and every difference guarded in this way, the offset of any position, the place of
    any word from any position on and the span of any warning are found without a fault, as they are without
    guards, and the span of a warning lies in the source with its ends between characters. So any findings are
    collected, and any results are written out as text, without a fault; every warning with a span is shown. -/
theorem no_fault :
    (∀ text offset, (∃ parts, cut text offset = .ok parts) ↔ offset ≤ byteLength text ∧ Boundary text offset) ∧
    (∀ number taken, (∃ left, minus number taken = .ok left) ↔ taken ≤ number) ∧
    (∀ document p, offsetOf document p = .ok (offsetOf? document p)) ∧
    (∀ document word p, locateWord document word p = .ok (locateWord? document word p)) ∧
    (∀ source w, warningSpan source w = .ok (warningSpan? source w)) ∧
    (∀ source w span, warningSpan? source w = some span →
      span.start + span.length ≤ byteLength source ∧ Boundary source span.start ∧
        Boundary source (span.start + span.length)) ∧
    (∀ document remarks filename,
      collect document remarks filename = .ok (((Collector.start document).recordAll remarks).result filename)) ∧
    (∀ results sources, report results sources = .ok (Report.text results sources)) ∧
    (∀ filename (source : String) w span, warningSpan? source.toList w = some span →
      ∃ lines, snippetLines filename source span = some lines) := by
  refine ⟨cut_ok_iff, minus_ok_iff, offsetOf_eq, locateWord_eq, warningSpan_eq, ?_, collect_eq, report_eq, ?_⟩
  · intro source w span shows
    exact warningSpan?_inside shows
  · intro filename source w span shows
    obtain ⟨-, -, lines, -, -, snippet⟩ := exists_shown shows filename
    exact ⟨lines, snippet⟩

/-- A warning after a character of two bytes whose end comes before its start. -/
theorem no_fault_endBeforeStart :
    let w : Warning := ⟨⟨2, 1⟩, ⟨1, 2⟩, ruleName, .error, "m"⟩
    warningSpan? "ü\nb".toList w = some ⟨3, 0⟩ ∧ 3 + 0 ≤ byteLength "ü\nb".toList ∧
      Boundary "ü\nb".toList 3 ∧ ∃ lines, snippetLines "a.scss" "ü\nb" ⟨3, 0⟩ = some lines := by
  intro w
  have shows : warningSpan? "ü\nb".toList w = some ⟨3, 0⟩ := by decide
  obtain ⟨-, -, -, -, -, spans, -, -, snippets⟩ := no_fault
  obtain ⟨inside, starts, -⟩ := spans _ w _ shows
  exact ⟨shows, inside, starts, snippets "a.scss" "ü\nb" w _ shows⟩

end Guarded

end SassRenderLint
