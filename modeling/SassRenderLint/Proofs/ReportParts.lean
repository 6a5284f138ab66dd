/-
Module: SassRenderLint.Proofs.ReportParts
Layer: Proofs
Purpose: What a text report is made of. It is said here without the writing of it what is told of a target, and which
  text is the block of something told: of a refused option the bare message, of a warning the message with a snippet
  of the last source under the target's name, if that has the place. Every item told has one block, so the
  report of two lists of results is the blocks of the one, the blocks of the other and a line with the sums. All that
  is read of the sources is the last one under the name of each target with a warning.
Main exports: Report.LastSource, Report.Item, Report.told, Report.IsBlock, Report.Blocks, Report.body_eq_join,
  Report.closing_eq, Report.text_congr, Report.Idle, Report.text_in_parts
-/
import Mathlib.Algebra.Ring.Nat
import Mathlib.Data.List.Forall2
import SassRenderLint.Proofs.NoFaults

namespace SassRenderLint

namespace Report

variable {sources others before after idle : List (String × String)} {results : List LintResult} {name : String}

/-! ### The last source of a name -/

/-- A source is the last one that is given under a name. -/
def LastSource (sources : List (String × String)) (name source : String) : Prop :=
  ∃ before after, sources = before ++ (name, source) :: after ∧ ∀ entry ∈ after, entry.1 ≠ name

/-- Searching from the end is taking the last. -/
theorem sourceOf?_eq_getLast? (sources : List (String × String)) (name : String) :
    sourceOf? sources name = (sources.filter fun entry => entry.1 = name).getLast?.map Prod.snd := by
  rw [sourceOf?, ← List.head?_filter, List.filter_reverse, List.head?_reverse]

/-- The source that is looked up is the last one under the name. -/
theorem sourceOf?_eq_some_iff {source : String} :
    sourceOf? sources name = some source ↔ LastSource sources name source := by
  rw [sourceOf?, Option.map_eq_some_iff]
  constructor
  · rintro ⟨⟨key, found⟩, last, rfl⟩
    obtain ⟨same, later, earlier, split, others⟩ := List.find?_eq_some_iff_append.1 last
    obtain rfl : key = name := of_decide_eq_true same
    refine ⟨earlier.reverse, later.reverse, ?_, ?_⟩
    · rw [← List.reverse_reverse sources, split]
      simp
    · intro entry member
      simpa using others entry (List.mem_reverse.1 member)
  · rintro ⟨earlier, later, rfl, others⟩
    refine ⟨(name, source), List.find?_eq_some_iff_append.2 ?_, rfl⟩
    refine ⟨decide_eq_true rfl, later.reverse, earlier.reverse, by simp, ?_⟩
    intro entry member
    simpa using others entry (List.mem_reverse.1 member)

/-- Only the last source under a name counts. -/
theorem sourceOf?_congr (agree : ∀ source, LastSource sources name source ↔ LastSource others name source) :
    sourceOf? sources name = sourceOf? others name := by
  apply Option.ext
  intro source
  rw [sourceOf?_eq_some_iff, sourceOf?_eq_some_iff, agree]

/-! ### Blocks -/

/-- What is told of a target: that an option is refused, or a warning. -/
inductive Item where
  | option (message : String)
  | warning (w : Warning)
deriving DecidableEq, Repr, Inhabited

/-- All that is told of a target, in order, with the name of the target. -/
def told (r : LintResult) : List (String × Item) :=
  (r.invalidOptions.map Item.option ++ r.warnings.map Item.warning).map fun item => (r.filename, item)

/-- A text is the block of an item. -/
inductive IsBlock (sources : List (String × String)) : String × Item → String → Prop where
  | option (name message : String) : IsBlock sources (name, .option message) (block ruleName .error message [])
  /-- There is no source, or no such place in it. -/
  | bare {name : String} {w : Warning}
      (nowhere : ∀ source, LastSource sources name source → warningSpan? source.toList w = none) :
      IsBlock sources (name, .warning w) (block w.rule w.severity w.text [])
  | shown {name source : String} {w : Warning} {span : ByteSpan} {lines : List String}
      (last : LastSource sources name source) (place : warningSpan? source.toList w = some span)
      (snippet : snippetLines name source span = some lines) :
      IsBlock sources (name, .warning w) (block w.rule w.severity w.text lines)

def itemBlock (sources : List (String × String)) : String × Item → String
  | (_, .option message) => optionBlock message
  | (name, .warning w) => warningBlock name (sourceOf? sources name) w

/-- A warning with a place in its source is shown with the lines around it. -/
theorem warningBlock_of_shown {source : String} {w : Warning} {span : ByteSpan} {lines : List String}
    (place : warningSpan? source.toList w = some span) (snippet : snippetLines name source span = some lines) :
    warningBlock name (some source) w = block w.rule w.severity w.text lines := by
  simp [warningBlock, place, snippet]

/-- A warning without a place has no lines to show. -/
theorem warningBlock_of_nowhere {source : Option String} {w : Warning}
    (nowhere : ∀ text ∈ source, warningSpan? text.toList w = none) :
    warningBlock name source w = block w.rule w.severity w.text [] := by
  cases source with
  | none => rfl
  | some source => simp [warningBlock, nowhere source rfl]

/-- Every item has one block, the one that is written for it. -/
theorem isBlock_iff {item : String × Item} {text : String} :
    IsBlock sources item text ↔ text = itemBlock sources item := by
  constructor
  · intro isBlock
    cases isBlock with
    | option => rfl
    | bare nowhere =>
        rw [itemBlock, warningBlock_of_nowhere]
        intro source found
        exact nowhere source (sourceOf?_eq_some_iff.1 found)
    | shown last place snippet =>
        rw [itemBlock, sourceOf?_eq_some_iff.2 last, warningBlock_of_shown place snippet]
  · rintro rfl
    obtain ⟨name, message | w⟩ := item
    · exact .option name message
    · by_cases nowhere : ∀ source, LastSource sources name source → warningSpan? source.toList w = none
      · rw [itemBlock, warningBlock_of_nowhere fun source found => nowhere source (sourceOf?_eq_some_iff.1 found)]
        exact .bare nowhere
      · -- A source that has the place has a snippet around it.
        simp only [not_forall, ← ne_eq, Option.ne_none_iff_exists'] at nowhere
        obtain ⟨source, last, span, place⟩ := nowhere
        obtain ⟨-, -, lines, -, -, snippet⟩ := Guarded.exists_shown place name
        rw [itemBlock, sourceOf?_eq_some_iff.2 last, warningBlock_of_shown place snippet]
        exact .shown last place snippet

/-- The blocks of all that is told of some targets, in order. -/
def Blocks (sources : List (String × String)) (results : List LintResult) : List String → Prop :=
  List.Forall₂ (IsBlock sources) (results.flatMap told)

/-- There is exactly one list of blocks, the one that is written. -/
theorem blocks_iff {blocks : List String} :
    Blocks sources results blocks ↔ blocks = (results.flatMap told).map (itemBlock sources) := by
  have written : IsBlock sources = fun item text => itemBlock sources item = text := by
    funext item text
    exact propext (isBlock_iff.trans eq_comm)
  rw [Blocks, written, ← List.forall₂_map_left_iff, List.forall₂_eq_eq_eq, eq_comm]

/-- The body is the blocks of all items, in order, and nothing between them. -/
theorem body_eq_join (sources : List (String × String)) (results : List LintResult) :
    body sources results = String.join ((results.flatMap told).map (itemBlock sources)) := by
  induction results with
  | nil => rfl
  | cons r rest ih =>
      have first : resultBody sources r = String.join ((told r).map (itemBlock sources)) := by
        simp [resultBody, told, itemBlock, Function.comp_def, String.join_append]
      rw [body, List.map_cons, String.join_cons, List.flatMap_cons, List.map_append, String.join_append, first, ← ih]
      rfl

/-- Lists of results are written one after the other. -/
theorem body_append (sources : List (String × String)) (first second : List LintResult) :
    body sources (first ++ second) = body sources first ++ body sources second := by
  rw [body, List.map_append, String.join_append]
  rfl

/-! ### The closing line -/

/-- There is a closing line as soon as there is something to count. -/
theorem summary_eq_empty_iff (errors warnings : Nat) : summary errors warnings = "" ↔ errors = 0 ∧ warnings = 0 := by
  by_cases noErrors : errors = 0 <;> by_cases noWarnings : warnings = 0 <;>
    simp [summary, counted, noErrors, noWarnings, String.append_eq_empty_iff]

/-- The closing line counts the sums of all targets. -/
theorem closing_eq (results : List LintResult) :
    closing results =
      if (results.map LintResult.errorCount).sum = 0 ∧ (results.map LintResult.warningCount).sum = 0 then ""
      else
        summary (results.map LintResult.errorCount).sum (results.map LintResult.warningCount).sum ++ "\n" := by
  simp only [closing, List.sum, List.foldr_map, summary_eq_empty_iff]

/-! ### What is read of the sources -/

/-- Only the last source under the name of each target with a warning counts. -/
theorem text_congr
    (agree : ∀ r ∈ results, r.warnings ≠ [] → sourceOf? sources r.filename = sourceOf? others r.filename) :
    text results sources = text results others := by
  have same : results.map (resultBody sources) = results.map (resultBody others) := by
    apply List.map_congr_left
    intro r member
    by_cases silent : r.warnings = []
    · rw [resultBody, resultBody, silent, List.map_nil, List.map_nil]
    · rw [resultBody, resultBody, agree r member silent]
  rw [text, text, body, body, same]

/-- An entry that says nothing: a later one has its name, or no target has. -/
def Idle (results : List LintResult) (after : List (String × String)) (entry : String × String) : Prop :=
  entry.1 ∈ after.map Prod.fst ∨ ∀ r ∈ results, r.filename ≠ entry.1

/-- Idle entries can be left out. -/
theorem sourceOf?_drop_idle (silent : ∀ entry ∈ idle, Idle results after entry) {r : LintResult}
    (member : r ∈ results) :
    sourceOf? (before ++ idle ++ after) r.filename = sourceOf? (before ++ after) r.filename := by
  simp only [sourceOf?_eq_getLast?, List.filter_append, List.getLast?_append]
  cases found : (after.filter fun entry => entry.1 = r.filename).getLast? with
  | some last => rfl
  | none =>
      have absent : r.filename ∉ after.map Prod.fst := by
        intro inside
        obtain ⟨entry, stands, same⟩ := List.mem_map.1 inside
        have kept : entry ∈ after.filter fun entry => entry.1 = r.filename :=
          List.mem_filter.2 ⟨stands, decide_eq_true same⟩
        rw [List.getLast?_eq_none_iff.1 found] at kept
        cases kept
      have nothing : (idle.filter fun entry => entry.1 = r.filename) = [] := by
        rw [List.filter_eq_nil_iff]
        intro entry stands same
        have same : entry.1 = r.filename := of_decide_eq_true same
        rcases silent entry stands with shadowed | unrelated
        · exact absent (same ▸ shadowed)
        · exact unrelated r member same.symm
      rw [nothing]
      rfl

/-! ### The whole report -/

/-- The report of two lists of results is the blocks of the first, the blocks of the second and a line with the sums of
    their counts, which is left out if both sums are zero. Blocks are written one for each refused option and then
    one for each warning, target by target. Of the sources, only the last one under the name of each target with a
    warning counts: entries of different names can change places, and idle entries can be changed, added and left
    out. -/
theorem text_in_parts (first second : List LintResult) (sources : List (String × String)) :
    (let errors := (first.map LintResult.errorCount).sum + (second.map LintResult.errorCount).sum
      let warnings := (first.map LintResult.warningCount).sum + (second.map LintResult.warningCount).sum
      text (first ++ second) sources =
        body sources first ++ body sources second ++
          if errors = 0 ∧ warnings = 0 then "" else summary errors warnings ++ "\n") ∧
    (∀ results, ∃ blocks, (∀ texts, Blocks sources results texts ↔ texts = blocks) ∧
      body sources results = String.join blocks) ∧
    (∀ results others,
      (∀ r ∈ results, r.warnings ≠ [] →
        ∀ source, LastSource sources r.filename source ↔ LastSource others r.filename source) →
      text results sources = text results others) ∧
    (∀ results others,
      (∀ name, (sources.filter fun entry => entry.1 = name) = others.filter fun entry => entry.1 = name) →
      text results sources = text results others) ∧
    (∀ results before idle changed after, sources = before ++ idle ++ after →
      (∀ entry ∈ idle ++ changed, Idle results after entry) →
      text results sources = text results (before ++ changed ++ after)) := by
  refine ⟨?_, fun results => ⟨_, fun _ => blocks_iff, body_eq_join sources results⟩, ?_, ?_, ?_⟩
  · intro errors warnings
    rw [text, body_append, closing_eq, List.map_append, List.sum_append, List.map_append, List.sum_append]
  · intro results others agree
    apply text_congr
    intro r member warned
    exact sourceOf?_congr (agree r member warned)
  · intro results others sameOrder
    apply text_congr
    intro r _ _
    rw [sourceOf?_eq_getLast?, sourceOf?_eq_getLast?, sameOrder]
  · intro results before idle changed after split silent
    subst split
    apply text_congr
    intro r member _
    rw [sourceOf?_drop_idle (fun entry stands => silent entry (List.mem_append_left _ stands)) member,
      sourceOf?_drop_idle (fun entry stands => silent entry (List.mem_append_right _ stands)) member]

/-- Of three sources under two names, the one that counts is the last one under the name of the target. -/
theorem text_in_parts_shadowed :
    let w : Warning := ⟨⟨1, 3⟩, ⟨1, 4⟩, ruleName, .error, "Undefined."⟩
    let results := [⟨"a.scss", [w], ["Unknown."], 1, 0⟩, ⟨"b.scss", [], [], 0, 2⟩]
    let sources := [("a.scss", "old"), ("b.scss", "y"), ("a.scss", "b b")]
    text results sources = text results [("a.scss", "b b")] ∧
      text results sources = text results [("b.scss", "y"), ("a.scss", "old"), ("a.scss", "b b")] ∧
      text results sources = text results [("a.scss", "new"), ("c.scss", "z"), ("b.scss", "y"), ("a.scss", "b b")] := by
  intro w results sources
  obtain ⟨-, -, last, reorder, change⟩ := text_in_parts results [] sources
  refine ⟨last _ _ ?_, reorder _ _ ?_, ?_⟩
  · intro r member warned source
    have target : r.filename = "a.scss" := by
      simp only [results, List.mem_cons, List.not_mem_nil, or_false] at member
      rcases member with rfl | rfl
      · rfl
      · exact absurd rfl warned
    rw [← sourceOf?_eq_some_iff, ← sourceOf?_eq_some_iff, target]
    rfl
  · intro name
    by_cases target : "a.scss" = name
    · subst target
      decide
    · simp [sources, List.filter_cons, target]
  · refine change results [] [("a.scss", "old")] [("a.scss", "new"), ("c.scss", "z")] _ rfl ?_
    intro entry stands
    simp only [List.cons_append, List.nil_append, List.mem_cons, List.not_mem_nil, or_false] at stands
    rcases stands with rfl | rfl | rfl
    · exact Or.inl (by decide)
    · exact Or.inl (by decide)
    · exact Or.inr (by simp [results])

end Report

end SassRenderLint
