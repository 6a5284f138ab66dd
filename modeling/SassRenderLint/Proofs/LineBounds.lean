/-
Module: SassRenderLint.Proofs.LineBounds
Layer: Proofs
Purpose: Which offsets of positions lie on the position's own line. A position is never before its line. It is
  past the end of the line exactly when its column is past the column after the line's last character and
  another line follows; the characters of the lines after it are then counted as if they stood on the line. A
  search for a word and the bytes shown for a warning start at that offset, wherever it lies.
Main exports: Text.lineStart, Text.lineStop, Text.HasLine, Text.exists_hasLine, Text.offset_on_line_iff,
  Text.overlong_column_leaves_line
-/
import SassRenderLint.Proofs.OffsetInverse
import SassRenderLint.Proofs.WordPositions

namespace SassRenderLint

namespace Text

/-! ### Where a line starts and ends -/

/-- The offset at which a line starts, which is counted from one: the lines before it have that many bytes,
    with their ends. -/
def lineStart (document : List Char) (number : Nat) : Nat :=
  byteLength (((document.splitOn '\n').take (number - 1)).flatMap (· ++ ['\n']))

/-- The offset at which a line ends: that of its line end, or that of the document's end for the last line. -/
def lineStop (document : List Char) (number : Nat) : Nat :=
  lineStart document number + byteLength ((document.splitOn '\n').getD (number - 1) [])

/-- A document seen from one of its lines: whole lines before it, the line itself, and what comes after it,
    which starts with a line end if there is anything. -/
structure HasLine (document : List Char) (number : Nat) (before line after : List Char) : Prop where
  parts : document = before ++ (line ++ after)
  counted : 1 ≤ number
  whole : WholeLines (number - 1) before
  inside : '\n' ∉ line
  ended : after = [] ∨ ∃ rest, after = '\n' :: rest

namespace HasLine

variable {document before line after : List Char} {number : Nat}

/-- Cut at line ends, what starts with the line has it as its first piece. -/
theorem splitOn_line_append (seen : HasLine document number before line after) :
    ∃ others, (line ++ after).splitOn '\n' = line :: others := by
  rcases seen.ended with rfl | ⟨rest, rfl⟩
  · rw [List.append_nil]
    exact ⟨[], List.splitOn_eq_singleton seen.inside⟩
  · exact ⟨_, List.splitOn_append_cons_self_of_not_mem seen.inside rest⟩

/-- Seen from a line, its length is that of its text. -/
theorem lineLength_eq (seen : HasLine document number before line after) :
    lineLength document number = line.length := by
  obtain ⟨others, first⟩ := seen.splitOn_line_append
  have length := lineLength_append seen.whole first
  rwa [Nat.sub_add_cancel seen.counted, ← seen.parts] at length

/-- Seen from a line, it starts after the bytes before it. -/
theorem lineStart_eq (seen : HasLine document number before line after) :
    lineStart document number = byteLength before := by
  obtain ⟨passed, count, lines, split⟩ := splitOn_append_of_wholeLines seen.whole (line ++ after)
  rw [lineStart, seen.parts, split, ← count, List.take_left, ← lines]

/-- Seen from a line, it ends after its own bytes. -/
theorem lineStop_eq (seen : HasLine document number before line after) :
    lineStop document number = byteLength before + byteLength line := by
  obtain ⟨others, first⟩ := seen.splitOn_line_append
  obtain ⟨passed, count, -, split⟩ := splitOn_append_of_wholeLines seen.whole (line ++ after)
  have own : (document.splitOn '\n').getD (number - 1) [] = line := by
    rw [seen.parts, split, ← count, first]
    simp
  rw [lineStop, seen.lineStart_eq, own]

/-- Nothing comes after the last line, and only after that one. -/
theorem last_iff (seen : HasLine document number before line after) :
    after = [] ↔ number = document.count '\n' + 1 := by
  have counted := seen.counted
  have ends : document.count '\n' = number - 1 + after.count '\n' := by
    rw [seen.parts, List.count_append, List.count_append, seen.whole.count, List.count_eq_zero.2 seen.inside]
    omega
  rcases seen.ended with rfl | ⟨rest, rfl⟩
  · simp only [List.count_nil] at ends
    simp only [true_iff]
    omega
  · simp only [List.count_cons_self] at ends
    simp only [reduceCtorEq, false_iff]
    omega

end HasLine

/-- A document is seen from the line of any position that has an offset, and the offset counts the bytes of so
    many characters from the start of that line on. -/
theorem exists_hasLine {document : List Char} {p : Position} {offset : Nat}
    (found : offsetOf? document p = some offset) :
    ∃ before line after, HasLine document p.line.toNat before line after ∧
      offset = byteLength before + byteLength ((line ++ after).take (p.column.toNat - 1)) := by
  rw [offsetOf?] at found
  split at found
  · cases found
  · rename_i positive
    have counted : 1 ≤ p.line.toNat := by
      apply Nat.one_le_iff_ne_zero.2
      intro zero
      exact positive (UInt32.toNat_inj.1 zero)
    obtain ⟨⟨start, left⟩, passes, rfl⟩ := Option.map_eq_some_iff.1 found
    obtain ⟨before, whole, rfl, rfl⟩ := passLines_eq_some_iff.1 passes
    by_cases ends : '\n' ∈ left
    · obtain ⟨line, rest, rfl, inside⟩ := List.eq_append_cons_of_mem ends
      exact ⟨before, line, '\n' :: rest, ⟨rfl, counted, whole, inside, Or.inr ⟨rest, rfl⟩⟩, rfl⟩
    · refine ⟨before, left, [], ⟨?_, counted, whole, ends, Or.inl rfl⟩, ?_⟩
      · rw [List.append_nil]
      · rw [List.append_nil]

/-! ### On the line or past it -/

theorem byteLength_take_le (n : Nat) (cs : List Char) : byteLength (cs.take n) ≤ byteLength cs := by
  have parts : byteLength (cs.take n ++ cs.drop n) = byteLength cs := by rw [List.take_append_drop]
  rw [byteLength_append] at parts
  omega

/-- Taking characters from a line on stays on the line as long as there are that many, or nothing comes after
    the line. -/
theorem byteLength_take_line_le_iff {line after : List Char} (n : Nat) :
    byteLength ((line ++ after).take n) ≤ byteLength line ↔ n ≤ line.length ∨ after = [] := by
  constructor
  · intro short
    by_cases few : n ≤ line.length
    · exact Or.inl few
    · right
      -- A character after the line would be taken too, and has at least one byte.
      cases after with
      | nil => rfl
      | cons c rest =>
          obtain ⟨more, rfl⟩ : ∃ more, n = line.length + (more + 1) := ⟨n - line.length - 1, by omega⟩
          have positive := c.utf8Size_pos
          rw [List.take_length_add_append, List.take_succ_cons, byteLength_append, byteLength_cons] at short
          omega
  · intro fits
    rcases fits with few | rfl
    · rw [List.take_append_of_le_length few]
      exact byteLength_take_le n line
    · rw [List.append_nil]
      exact byteLength_take_le n line

/-- The offset of a position lies in the document and not before the position's line. It is past the end of
    the line exactly when the column is past the column after the line's last character and the line is not the
    last one. Looking for a word from the position on starts at that offset, and so do the bytes of a warning
    that starts at the position. -/
theorem offset_on_line_iff (document : List Char) (p : Position) (offset : Nat)
    (found : offsetOf? document p = some offset) :
    lineStart document p.line.toNat ≤ offset ∧ offset ≤ byteLength document ∧
    (offset ≤ lineStop document p.line.toNat ↔
      p.column.toNat ≤ lineLength document p.line.toNat + 1 ∨ p.line.toNat = document.count '\n' + 1) ∧
    (∀ word first last, locateWord? document word p = some (first, last) →
      ∃ start, IsLeast {o | offset ≤ o ∧ OccursAt document word o} start ∧ first = positionAt document start ∧
        last = positionAt document (start + byteLength word)) ∧
    (∀ w : Warning, w.start = p → ∃ length, Report.warningSpan? document w = some ⟨offset, length⟩) := by
  obtain ⟨before, line, after, seen, same⟩ := exists_hasLine found
  have taken := byteLength_take_le (p.column.toNat - 1) (line ++ after)
  have total : byteLength document = byteLength before + byteLength (line ++ after) := by
    rw [seen.parts, byteLength_append]
  refine ⟨?_, ?_, ?_, ?_, ?_⟩
  · rw [seen.lineStart_eq]
    omega
  · omega
  · rw [seen.lineStop_eq, seen.lineLength_eq, ← seen.last_iff, same, Nat.add_le_add_iff_left,
      byteLength_take_line_le_iff, Nat.sub_le_iff_le_add]
  · intro word first last located
    rcases locateWord?_cases document word p with ⟨s, start, -, begins, least, places⟩ | ⟨missing, -⟩
    · rw [found] at begins
      cases begins
      rw [places] at located
      cases located
      exact ⟨start, least, rfl, rfl⟩
    · rw [missing] at located
      cases located
  · intro w starts
    simp [Report.warningSpan?, starts, found]

/-- Two lines, the second with the same word twice. -/
def repeatedWord : List Char := ['a', '\n', 'b', ' ', 'b']

/-- A column far beyond the line, in a document that ends with it: the offset is still on the line. -/
theorem offset_on_line_iff_repeatedWord :
    offsetOf? repeatedWord ⟨2, 9⟩ = some 5 ∧ lineStart repeatedWord 2 = 2 ∧ lineStop repeatedWord 2 = 5 ∧
      lineStart repeatedWord 2 ≤ 5 ∧ 5 ≤ lineStop repeatedWord 2 := by
  have found : offsetOf? repeatedWord ⟨2, 9⟩ = some 5 := by decide
  obtain ⟨after, -, onLine, -, -⟩ := offset_on_line_iff repeatedWord ⟨2, 9⟩ 5 found
  exact ⟨found, by decide, by decide, after, onLine.2 (Or.inr (by decide))⟩

/-- A column past the end of the first line is on the second line. The first `b` after the first line is not
    found from there, and a warning at that position is shown on the second line. -/
theorem overlong_column_leaves_line :
    offsetOf? repeatedWord ⟨1, 5⟩ = some 4 ∧ lineStop repeatedWord 1 = 1 ∧ OccursAt repeatedWord ['b'] 2 ∧
      locateWord? repeatedWord ['b'] ⟨1, 5⟩ = some (⟨2, 3⟩, ⟨2, 4⟩) ∧
      Report.warningSpan? repeatedWord ⟨⟨1, 5⟩, ⟨1, 5⟩, ruleName, .warning, "m"⟩ = some ⟨4, 0⟩ ∧
      ¬ ∀ (document : List Char) (p : Position) (offset : Nat), offsetOf? document p = some offset →
        offset ≤ lineStop document p.line.toNat := by
  refine ⟨by decide, by decide, ⟨['a', '\n'], [' ', 'b'], rfl, rfl⟩, by decide, by decide, ?_⟩
  intro onLine
  exact absurd (onLine repeatedWord ⟨1, 5⟩ 4 (by decide)) (by decide)

end Text

end SassRenderLint
