/-
Module: SassRenderLint.Proofs.WordPositions
Layer: Proofs
Purpose: Where findings are recorded. The word of a finding is looked for from the start of its node on.
  The warning covers its first occurrence there: the recorded positions are those of the occurrence's
  ends, and the bytes that a report shows for the warning are the word. Without an occurrence the
  warning is empty at the finding's line.
Main exports: Text.OccursAt, Text.findFrom?_cases, Text.locateWord?_cases, Collector.Occurs,
  Collector.record_finding
-/
import Mathlib.Order.Bounds.Defs
import SassRenderLint.Proofs.Offsets
import SassRenderLint.Report.Text

namespace SassRenderLint

namespace Text

/-! ### Occurrences -/

/-- A word stands in a document right after so many bytes. -/
def OccursAt (document word : List Char) (offset : Nat) : Prop :=
  ∃ before after, document = before ++ word ++ after ∧ byteLength before = offset

/-- A word occurs at the very beginning or further on, by the size of the first character. -/
theorem occursAt_cons_iff {c : Char} {rest word : List Char} {offset : Nat} :
    OccursAt (c :: rest) word offset ↔
      offset = 0 ∧ word <+: c :: rest ∨ ∃ more, offset = c.utf8Size + more ∧ OccursAt rest word more := by
  constructor
  · rintro ⟨before, after, same, rfl⟩
    cases before with
    | nil => exact Or.inl ⟨rfl, after, same.symm⟩
    | cons d before =>
        cases same
        exact Or.inr ⟨byteLength before, byteLength_cons _ _, before, after, rfl, rfl⟩
  · rintro (⟨rfl, after, same⟩ | ⟨more, rfl, before, after, rfl, rfl⟩)
    · exact ⟨[], after, same.symm, rfl⟩
    · exact ⟨c :: before, after, rfl, byteLength_cons _ _⟩

/-- Past the beginning of a document, a word occurs as it does in what is left. -/
theorem occursAt_append_iff {before rest word : List Char} {offset : Nat} :
    byteLength before ≤ offset ∧ OccursAt (before ++ rest) word offset ↔
      ∃ more, offset = byteLength before + more ∧ OccursAt rest word more := by
  constructor
  · rintro ⟨past, first, after, same, rfl⟩
    have begins : first <+: before ++ rest := by
      rw [same, List.append_assoc]
      exact List.prefix_append _ _
    obtain ⟨middle, rfl⟩ := prefix_of_byteLength_le (List.prefix_append before rest) begins past
    rw [List.append_assoc, List.append_assoc] at same
    refine ⟨byteLength middle, byteLength_append _ _, middle, after, ?_, rfl⟩
    rw [List.append_assoc]
    exact List.append_cancel_left same
  · rintro ⟨more, rfl, middle, after, rfl, rfl⟩
    refine ⟨Nat.le_add_right _ _, before ++ middle, after, ?_, byteLength_append _ _⟩
    simp only [List.append_assoc]

/-- A word is found at the first place where it occurs. -/
theorem isLeast_of_find? {word cs : List Char} {offset : Nat} (found : find? word cs = some offset) :
    IsLeast {o | OccursAt cs word o} offset := by
  induction cs generalizing offset with
  | nil =>
      rw [find?] at found
      split at found
      · rename_i empty
        cases found
        exact ⟨⟨[], [], by rw [List.isEmpty_iff.1 empty]; rfl, rfl⟩, fun _ _ => Nat.zero_le _⟩
      · cases found
  | cons c rest ih =>
      rw [find?] at found
      split at found
      · rename_i begins
        cases found
        exact ⟨occursAt_cons_iff.2 (Or.inl ⟨rfl, List.isPrefixOf_iff_prefix.1 begins⟩), fun _ _ => Nat.zero_le _⟩
      · rename_i elsewhere
        obtain ⟨more, foundLater, rfl⟩ := Option.map_eq_some_iff.1 found
        obtain ⟨occurs, least⟩ := ih foundLater
        refine ⟨occursAt_cons_iff.2 (Or.inr ⟨more, rfl, occurs⟩), ?_⟩
        intro other alsoOccurs
        rcases occursAt_cons_iff.1 alsoOccurs with ⟨_, begins⟩ | ⟨later, rfl, occursLater⟩
        · exact absurd (List.isPrefixOf_iff_prefix.2 begins) elsewhere
        · exact Nat.add_le_add_left (least occursLater) _

/-- What is not found does not occur. -/
theorem not_occursAt_of_find? {word cs : List Char} (missing : find? word cs = none) (offset : Nat) :
    ¬ OccursAt cs word offset := by
  induction cs generalizing offset with
  | nil =>
      rintro ⟨before, after, same, _⟩
      have empty : word = [] := by
        have both := List.append_eq_nil_iff.1 same.symm
        exact (List.append_eq_nil_iff.1 both.1).2
      rw [empty] at missing
      cases missing
  | cons c rest ih =>
      intro occurs
      rw [find?] at missing
      split at missing
      · cases missing
      · rename_i elsewhere
        rcases occursAt_cons_iff.1 occurs with ⟨_, begins⟩ | ⟨more, _, occurs⟩
        · exact elsewhere (List.isPrefixOf_iff_prefix.2 begins)
        · exact ih (Option.map_eq_none_iff.1 missing) more occurs

/-- Looking from an offset on finds the first occurrence there, if there is one. -/
theorem findFrom?_cases (before rest word : List Char) :
    (∃ offset, findFrom? (before ++ rest) word (byteLength before) = some offset ∧
      IsLeast {o | byteLength before ≤ o ∧ OccursAt (before ++ rest) word o} offset) ∨
    findFrom? (before ++ rest) word (byteLength before) = none ∧
      ∀ o, byteLength before ≤ o → ¬ OccursAt (before ++ rest) word o := by
  rw [findFrom?, dropBytes_append]
  cases found : find? word rest with
  | none =>
      refine Or.inr ⟨rfl, ?_⟩
      intro o past occurs
      obtain ⟨more, _, occurs⟩ := occursAt_append_iff.1 ⟨past, occurs⟩
      exact not_occursAt_of_find? found more occurs
  | some more =>
      obtain ⟨occurs, least⟩ := isLeast_of_find? found
      refine Or.inl ⟨byteLength before + more, rfl, occursAt_append_iff.2 ⟨more, rfl, occurs⟩, ?_⟩
      intro o alsoOccurs
      obtain ⟨later, rfl, occursLater⟩ := occursAt_append_iff.1 alsoOccurs
      exact Nat.add_le_add_left (least occursLater) _

/-- A word is located at its first occurrence from the offset of a position on. An empty word is
    nowhere, and so is any word from a position outside the document on. -/
theorem locateWord?_cases (document word : List Char) (start : Position) :
    (∃ s o, word ≠ [] ∧ offsetOf? document start = some s ∧ IsLeast {o | s ≤ o ∧ OccursAt document word o} o ∧
      locateWord? document word start =
        some (positionAt document o, positionAt document (o + byteLength word))) ∨
    locateWord? document word start = none ∧
      ∀ s o, word ≠ [] → offsetOf? document start = some s → s ≤ o → ¬ OccursAt document word o := by
  by_cases empty : word = []
  · subst empty
    exact Or.inr ⟨rfl, fun _ _ nonempty => absurd rfl nonempty⟩
  · have nonempty : word.isEmpty = false := by simpa using empty
    cases begins : offsetOf? document start with
    | none =>
        refine Or.inr ⟨?_, fun _ _ _ outside => nomatch outside⟩
        simp [locateWord?, nonempty, begins]
    | some s =>
        obtain ⟨before, rest, rfl, rfl⟩ := exists_prefix_of_offsetOf? begins
        rcases findFrom?_cases before rest word with ⟨o, found, least⟩ | ⟨missing, absent⟩
        · refine Or.inl ⟨_, o, empty, rfl, least, ?_⟩
          simp [locateWord?, nonempty, begins, found]
        · refine Or.inr ⟨?_, ?_⟩
          · simp [locateWord?, nonempty, begins, missing]
          · intro s o _ same
            cases same
            exact absent o

/-- The ends of an occurrence stand where their offsets say. -/
theorem standsAt_of_occursAt {document word : List Char} {offset : Nat}
    (small : byteLength document < UInt32.size - 1) (occurs : OccursAt document word offset) :
    StandsAt document offset (positionAt document offset) ∧
      StandsAt document (offset + byteLength word) (positionAt document (offset + byteLength word)) := by
  obtain ⟨before, after, rfl, rfl⟩ := occurs
  constructor
  · rw [List.append_assoc] at small ⊢
    exact standsAt_positionAt small
  · rw [← byteLength_append]
    exact standsAt_positionAt small

/-- The bytes of an occurrence are those of the word. -/
theorem bytes_of_occursAt {document word : String} {offset : Nat}
    (occurs : OccursAt document.toList word.toList offset) :
    ((bytes document).drop offset).take (byteLength word.toList) = bytes word := by
  obtain ⟨before, after, same, rfl⟩ := occurs
  rw [bytes_eq_flatMap, bytes_eq_flatMap, same, List.append_assoc, List.flatMap_append, List.flatMap_append,
    ← length_flatMap_encode, ← length_flatMap_encode, List.drop_left, List.take_left]

end Text

/-! ### Warnings -/

/-- A warning whose ends stand at two offsets is about the bytes between them. -/
theorem Report.warningSpan?_of_standsAt {source : List Char} {w : Warning} {offset length : Nat}
    (starts : Text.StandsAt source offset w.start) (stops : Text.StandsAt source (offset + length) w.stop) :
    warningSpan? source w = some ⟨offset, length⟩ := by
  have most : max (offset + length) offset - offset = length := by omega
  simp only [warningSpan?, Text.offsetOf?_of_standsAt starts, Text.offsetOf?_of_standsAt stops,
    Option.getD_some, Option.bind_eq_bind, Option.bind_some, most]
  rfl

namespace Collector

/-- The word of a finding is `text` and occurs in the document, so many bytes from its beginning, where
    it is looked for: from the start of the finding's node on, or of its line when that is unknown. -/
def Occurs (c : Collector) (node : Node) (line : UInt32) (word : Option String) (document text : String)
    (offset : Nat) : Prop :=
  c.document = some document ∧ word = some text ∧ text ≠ "" ∧
    ∃ start, Text.offsetOf? document.toList (node.start.getD ⟨line, 1⟩) = some start ∧
      start ≤ offset ∧ Text.OccursAt document.toList text.toList offset

/-- Where a finding without an occurrence is recorded. -/
def emptyPlace (node : Node) (line : UInt32) : Position := ⟨line, (node.start.map Position.column).getD 1⟩

/-- A finding is recorded where its word is located. -/
theorem place_eq (document : Option String) (node : Node) (line : UInt32) (word : Option String) :
    place document node line word =
      (document.bind fun document => word.bind fun text =>
        Text.locateWord? document.toList text.toList (node.start.getD ⟨line, 1⟩)).getD
          (emptyPlace node line, emptyPlace node line) := by
  cases start : node.start <;> simp [place, emptyPlace, start]

/-- A finding without a word is recorded empty. -/
theorem place_none (document : Option String) (node : Node) (line : UInt32) :
    place document node line none = (emptyPlace node line, emptyPlace node line) := by
  rw [place_eq]
  cases document <;> rfl

/-- A finding is recorded at the first occurrence of its word, or empty where there is none. -/
theorem place_cases (c : Collector) (node : Node) (line : UInt32) (word : Option String) :
    (∃ document text offset, IsLeast {o | c.Occurs node line word document text o} offset ∧
      place c.document node line word =
        (Text.positionAt document.toList offset,
          Text.positionAt document.toList (offset + Text.byteLength text.toList))) ∨
    (∀ document text offset, ¬ c.Occurs node line word document text offset) ∧
      place c.document node line word = (emptyPlace node line, emptyPlace node line) := by
  rw [place_eq]
  cases known : c.document with
  | none => exact Or.inr ⟨fun _ _ _ occurs => (nomatch known.symm.trans occurs.1), rfl⟩
  | some document =>
      cases word with
      | none => exact Or.inr ⟨fun _ _ _ occurs => (nomatch occurs.2.1), rfl⟩
      | some text =>
          simp only [Option.bind_some]
          rcases Text.locateWord?_cases document.toList text.toList (node.start.getD ⟨line, 1⟩) with
            ⟨s, o, nonempty, begins, ⟨⟨past, occurs⟩, least⟩, located⟩ | ⟨missing, absent⟩
          · refine Or.inl ⟨document, text, o, ⟨?_, ?_⟩, ?_⟩
            · exact ⟨known, rfl, fun empty => nonempty (by rw [empty]; rfl), s, begins, past, occurs⟩
            · rintro other ⟨_, _, _, t, alsoBegins, alsoPast, alsoOccurs⟩
              cases begins.symm.trans alsoBegins
              exact least ⟨alsoPast, alsoOccurs⟩
            · rw [located, Option.getD_some]
          · refine Or.inr ⟨?_, ?_⟩
            · rintro _ _ other ⟨same, word, nonempty, s, begins, past, occurs⟩
              cases known.symm.trans same
              cases word
              exact absent s other (fun empty => nonempty (String.toList_eq_nil_iff.1 empty)) begins past occurs
            · rw [missing, Option.getD_none]

/-- In a document that is not too long, a finding is recorded at the first occurrence of its word: from
    the position where it starts to the one where it ends, so that a report shows the word itself.
    Without an occurrence it is recorded empty, at its line and the column of its node. -/
theorem record_finding (c : Collector) (found : Located) (line : UInt32) (word : Option String)
    (message : String) (severity : Severity)
    (small : ∀ document ∈ c.document, Text.byteLength document.toList < UInt32.size - 1) :
    ∃ w, c.record (.finding found line word message severity) = { c with warnings := c.warnings ++ [w] } ∧
      w.rule = ruleName ∧ w.severity = severity ∧ w.text = message ∧
      (∀ document text, (∃ offset, c.Occurs found.node line word document text offset) →
        ∃ offset, IsLeast {o | c.Occurs found.node line word document text o} offset ∧
          Text.StandsAt document.toList offset w.start ∧
          Text.StandsAt document.toList (offset + Text.byteLength text.toList) w.stop ∧
          Report.warningSpan? document.toList w = some ⟨offset, Text.byteLength text.toList⟩ ∧
          ((Text.bytes document).drop offset).take (Text.byteLength text.toList) = Text.bytes text) ∧
      ((∀ document text offset, ¬ c.Occurs found.node line word document text offset) →
        w.start = ⟨line, (found.node.start.map Position.column).getD 1⟩ ∧ w.stop = w.start) := by
  refine ⟨warningOf c.document found.node line word message severity, rfl, rfl, rfl, rfl, ?_⟩
  rcases place_cases c found.node line word with ⟨document, text, offset, least, placed⟩ | ⟨absent, placed⟩
  · obtain ⟨⟨known, rfl, _, _, _, _, occurs⟩, _⟩ := id least
    obtain ⟨starts, stops⟩ := Text.standsAt_of_occursAt (small document known) occurs
    constructor
    · rintro document' text' ⟨_, same, sameWord, _⟩
      cases known.symm.trans same
      cases sameWord
      have startsThere : Text.StandsAt document.toList offset
          (warningOf c.document found.node line (some text) message severity).start := by
        rw [warningOf, placed]
        exact starts
      have stopsThere : Text.StandsAt document.toList (offset + Text.byteLength text.toList)
          (warningOf c.document found.node line (some text) message severity).stop := by
        rw [warningOf, placed]
        exact stops
      exact ⟨offset, least, startsThere, stopsThere, Report.warningSpan?_of_standsAt startsThere stopsThere,
        Text.bytes_of_occursAt occurs⟩
    · intro absent
      exact absurd least.1 (absent document text offset)
  · constructor
    · rintro document text ⟨offset, occurs⟩
      exact absurd occurs (absent document text offset)
    · intro _
      rw [warningOf, placed]
      exact ⟨rfl, rfl⟩

/-- A word after a line with a character of two bytes, looked for from a rule on the second line on. -/
theorem record_finding_second_line :
    let c := Collector.start (some "/* rem(ü) */\na \x7b width: rem(1) \x7d")
    let rule : Located := ⟨1, .leaf (.rule "a") (some (.startingAt ⟨2, 1⟩))⟩
    (∀ document ∈ c.document, Text.byteLength document.toList < UInt32.size - 1) ∧
      c.Occurs rule.node 2 (some "rem(") "/* rem(ü) */\na \x7b width: rem(1) \x7d" "rem(" 25 ∧
      ∃ w offset, c.record (.finding rule 2 (some "rem(") "m" .warning) = { c with warnings := [w] } ∧
        Report.warningSpan? "/* rem(ü) */\na \x7b width: rem(1) \x7d".toList w = some ⟨offset, 4⟩ ∧
        14 ≤ offset ∧ offset ≤ 25 := by
  intro c rule
  have small : ∀ document ∈ c.document, Text.byteLength document.toList < UInt32.size - 1 := by
    intro document known
    cases known
    decide
  have occurs : c.Occurs rule.node 2 (some "rem(") "/* rem(ü) */\na \x7b width: rem(1) \x7d" "rem(" 25 :=
    ⟨rfl, rfl, by decide, 14, by decide, by decide, "/* rem(ü) */\na \x7b width: ".toList, "1) \x7d".toList,
      by decide, by decide⟩
  obtain ⟨w, recorded, _, _, _, covers, _⟩ := record_finding c rule 2 (some "rem(") "m" .warning small
  obtain ⟨offset, ⟨⟨_, _, _, _, begins, past, _⟩, least⟩, _, _, span, _⟩ := covers _ _ ⟨25, occurs⟩
  cases begins
  exact ⟨small, occurs, w, offset, recorded, span, past, least occurs⟩

end Collector

end SassRenderLint
