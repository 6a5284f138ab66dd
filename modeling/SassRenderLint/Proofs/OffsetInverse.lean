/-
Module: SassRenderLint.Proofs.OffsetInverse
Layer: Proofs
Purpose: Offsets and positions are each other's inverse. The offsets that count are those between two
  characters of the document; the positions that count are those on one of its lines, up to the column
  after the line's last character. In reading order a later offset has a later position. Only a line
  that the document does not have leaves a position without an offset.
Main exports: Position.Precedes, Text.Boundary, Text.lineLength, Text.passLines_eq_none_iff,
  Text.exists_standsAfter, Text.StandsAfter.precedes, Text.offsets_positions_inverse
-/
import SassRenderLint.Proofs.Offsets

namespace SassRenderLint

/-- The order in which positions are read: by line, then by column. -/
def Position.Precedes (p q : Position) : Prop := p.line < q.line ∨ p.line = q.line ∧ p.column < q.column

instance (p q : Position) : Decidable (p.Precedes q) :=
  inferInstanceAs (Decidable (p.line < q.line ∨ p.line = q.line ∧ p.column < q.column))

namespace Text

/-- An offset that falls between two characters, or at an end of the document. -/
def Boundary (document : List Char) (offset : Nat) : Prop :=
  ∃ before after, document = before ++ after ∧ byteLength before = offset

/-- The number of characters of a line, which is counted from one. Its end is not one of them. -/
def lineLength (document : List Char) (number : Nat) : Nat :=
  ((document.splitOn '\n').getD (number - 1) []).length

/-! ### Lines there are -/

/-- A document with enough line ends starts with as many whole lines. -/
theorem exists_wholeLines_of_le {n : Nat} {cs : List Char} (enough : n ≤ cs.count '\n') :
    ∃ lines left, cs = lines ++ left ∧ WholeLines n lines := by
  induction n generalizing cs with
  | zero => exact ⟨[], cs, rfl, .nil⟩
  | succ n ih =>
      have ends : '\n' ∈ cs := List.count_pos_iff.1 (by omega)
      obtain ⟨line, rest, rfl, absent⟩ := List.eq_append_cons_of_mem ends
      rw [List.count_append, List.count_cons_self, List.count_eq_zero.2 absent] at enough
      obtain ⟨lines, left, rfl, whole⟩ := ih (by omega : n ≤ rest.count '\n')
      exact ⟨line ++ '\n' :: lines, left, by rw [List.append_assoc, List.cons_append], .cons absent whole⟩

/-- Lines cannot be passed exactly when there are not that many line ends. -/
theorem passLines_eq_none_iff {n : Nat} {cs : List Char} : passLines n cs = none ↔ cs.count '\n' < n := by
  constructor
  · intro stuck
    refine Nat.lt_of_not_le fun enough => ?_
    obtain ⟨lines, left, same, whole⟩ := exists_wholeLines_of_le enough
    have passes := passLines_eq_some_iff.2 ⟨lines, whole, same, rfl⟩
    cases stuck.symm.trans passes
  · intro few
    cases passes : passLines n cs with
    | none => rfl
    | some passed =>
        obtain ⟨lines, whole, rfl, -⟩ := passLines_eq_some_iff.1 passes
        rw [List.count_append, whole.count] at few
        omega

/-- Only a line that the document does not have is without an offset. -/
theorem offsetOf?_eq_none_iff {document : List Char} {p : Position} :
    offsetOf? document p = none ↔ p.line = 0 ∨ document.count '\n' + 1 < p.line.toNat := by
  by_cases zero : p.line = 0
  · simp [offsetOf?, zero]
  · have positive : p.line.toNat ≠ 0 := fun isZero => zero (UInt32.toNat_inj.1 isZero)
    simp only [offsetOf?, zero, ↓reduceIte, Option.map_eq_none_iff, passLines_eq_none_iff, false_or]
    omega

/-! ### Characters of a line -/

/-- A text starts with its first line. -/
theorem splitOn_eq_cons (cs : List Char) :
    ∃ line rest others, cs = line ++ rest ∧ '\n' ∉ line ∧ cs.splitOn '\n' = line :: others := by
  by_cases ends : '\n' ∈ cs
  · obtain ⟨line, rest, rfl, absent⟩ := List.eq_append_cons_of_mem ends
    exact ⟨line, _, _, rfl, absent, List.splitOn_append_cons_self_of_not_mem absent rest⟩
  · exact ⟨cs, [], [], (List.append_nil cs).symm, ends, List.splitOn_eq_singleton ends⟩

/-- Some whole lines are read as such, and the lines after them are those of what is left. -/
theorem splitOn_append_of_wholeLines {n : Nat} {lines : List Char} (whole : WholeLines n lines) (left : List Char) :
    ∃ passed, passed.length = n ∧ lines = passed.flatMap (· ++ ['\n']) ∧
      (lines ++ left).splitOn '\n' = passed ++ left.splitOn '\n' := by
  induction whole with
  | nil => exact ⟨[], rfl, rfl, rfl⟩
  | @cons n line rest absent _ ih =>
      obtain ⟨passed, rfl, rfl, split⟩ := ih
      refine ⟨line :: passed, rfl, ?_, ?_⟩
      · simp
      · rw [List.append_assoc, List.cons_append, List.splitOn_append_cons_self_of_not_mem absent, split,
          List.cons_append]

/-- The length of a line does not depend on the lines before it. -/
theorem lineLength_append {n : Nat} {lines : List Char} (whole : WholeLines n lines) {line rest : List Char}
    {others : List (List Char)} (first : (line ++ rest).splitOn '\n' = line :: others) :
    lineLength (lines ++ (line ++ rest)) (n + 1) = line.length := by
  obtain ⟨passed, rfl, -, split⟩ := splitOn_append_of_wholeLines whole (line ++ rest)
  simp [lineLength, split, first]

/-- A position on a line of the document, up to the column after the line's last character, is that of a
    place in the document. -/
theorem exists_standsAfter {document : List Char} {p : Position} (line : 1 ≤ p.line.toNat)
    (lines : p.line.toNat ≤ document.count '\n' + 1) (column : 1 ≤ p.column.toNat)
    (columns : p.column.toNat ≤ lineLength document p.line.toNat + 1) :
    ∃ before after, document = before ++ after ∧ StandsAfter before p := by
  obtain ⟨n, number⟩ : ∃ n, p.line.toNat = n + 1 := ⟨p.line.toNat - 1, by omega⟩
  obtain ⟨passed, left, rfl, whole⟩ := exists_wholeLines_of_le (by omega : n ≤ document.count '\n')
  obtain ⟨text, rest, others, rfl, inside, first⟩ := splitOn_eq_cons left
  rw [number, lineLength_append whole first] at columns
  -- The characters before the place are the lines passed and so much of its own line.
  refine ⟨passed ++ text.take (p.column.toNat - 1), text.drop (p.column.toNat - 1) ++ rest, ?_, ?_⟩
  · rw [List.append_assoc, ← List.append_assoc (text.take _), List.take_append_drop]
  · refine ⟨n, passed, _, rfl, whole, fun mem => inside (List.mem_of_mem_take mem), number, ?_⟩
    rw [List.length_take]
    omega

/-! ### Reading order -/

/-- A place has one position. -/
theorem StandsAfter.unique {before : List Char} {p q : Position} (first : StandsAfter before p)
    (second : StandsAfter before q) : p = q := by
  obtain ⟨line, column⟩ := standsAfter_iff.1 first
  obtain ⟨sameLine, sameColumn⟩ := standsAfter_iff.1 second
  cases p
  cases q
  rw [Position.mk.injEq]
  exact ⟨UInt32.toNat_inj.1 (line.trans sameLine.symm), UInt32.toNat_inj.1 (column.trans sameColumn.symm)⟩

/-- With characters added before it, a place moves on in reading order. -/
theorem StandsAfter.precedes {before more : List Char} {p q : Position} (first : StandsAfter before p)
    (second : StandsAfter (before ++ more) q) (added : more ≠ []) : p.Precedes q := by
  obtain ⟨n, lines, line, rfl, whole, inside, lineNumber, column⟩ := first
  obtain ⟨laterNumber, laterColumn⟩ := standsAfter_iff.1 second
  rw [List.count_append, List.count_append, whole.count, List.count_eq_zero.2 inside] at laterNumber
  by_cases ends : '\n' ∈ more
  · left
    have positive := List.count_pos_iff.2 ends
    rw [UInt32.lt_iff_toNat_lt]
    omega
  · right
    have together : '\n' ∉ line ++ more := fun mem => (List.mem_append.1 mem).elim inside ends
    rw [List.append_assoc, length_takeWhile_reverse whole together, List.length_append] at laterColumn
    rw [List.count_eq_zero.2 ends] at laterNumber
    have positive := List.length_pos_iff.2 added
    rw [UInt32.lt_iff_toNat_lt, ← UInt32.toNat_inj]
    omega

/-! ### Both ways -/

/-- In a document that is not too long, an offset between two characters is that of its position, and a
    position on a line of the document is that of its offset. Offsets and positions come in one order, and a
    position has no offset exactly when the document has no such line. -/
theorem offsets_positions_inverse (document : List Char) (small : byteLength document < UInt32.size - 1) :
    (∀ offset, Boundary document offset → offsetOf? document (positionAt document offset) = some offset) ∧
    (∀ p : Position, 1 ≤ p.line.toNat → p.line.toNat ≤ document.count '\n' + 1 →
      1 ≤ p.column.toNat → p.column.toNat ≤ lineLength document p.line.toNat + 1 →
        ∃ offset, offsetOf? document p = some offset ∧ Boundary document offset ∧ positionAt document offset = p) ∧
    (∀ first second, Boundary document first → Boundary document second → first < second →
      (positionAt document first).Precedes (positionAt document second)) ∧
    (∀ p : Position, offsetOf? document p = none ↔ p.line = 0 ∨ document.count '\n' + 1 < p.line.toNat) := by
  have stands : ∀ {before after : List Char}, document = before ++ after →
      StandsAfter before (positionAt document (byteLength before)) := by
    rintro before after rfl
    exact standsAfter_positionAt small
  refine ⟨?_, ?_, ?_, fun p => offsetOf?_eq_none_iff⟩
  · rintro offset ⟨before, after, same, rfl⟩
    exact offsetOf?_of_standsAt ⟨before, after, same, rfl, stands same⟩
  · intro p line lines column columns
    obtain ⟨before, after, same, there⟩ := exists_standsAfter line lines column columns
    refine ⟨byteLength before, ?_, ⟨before, after, same, rfl⟩, (stands same).unique there⟩
    exact offsetOf?_of_standsAt ⟨before, after, same, rfl, there⟩
  · rintro _ _ ⟨before, after, same, rfl⟩ ⟨others, rest, alsoSame, rfl⟩ less
    obtain ⟨more, rfl⟩ := prefix_of_byteLength_le ⟨after, same.symm⟩ ⟨rest, alsoSame.symm⟩ (Nat.le_of_lt less)
    refine (stands same).precedes (stands alsoSame) ?_
    rintro rfl
    rw [List.append_nil] at less
    exact Nat.lt_irrefl _ less

/-- A document with an empty line, a character of two bytes and no last line end. -/
def threeLines : List Char := ['a', 'ü', '\n', '\n', 'b']

/-- Around a character of two bytes and an empty line, there and back again. -/
theorem offsets_positions_inverse_threeLines :
    byteLength threeLines < UInt32.size - 1 ∧ Boundary threeLines 3 ∧ Boundary threeLines 6 ∧
      offsetOf? threeLines (positionAt threeLines 3) = some 3 ∧
      (∃ offset, offsetOf? threeLines ⟨1, 3⟩ = some offset ∧ Boundary threeLines offset ∧
        positionAt threeLines offset = ⟨1, 3⟩) ∧
      (positionAt threeLines 3).Precedes (positionAt threeLines 6) ∧ offsetOf? threeLines ⟨4, 1⟩ = none := by
  have small : byteLength threeLines < UInt32.size - 1 := by decide
  have lineEnd : Boundary threeLines 3 := ⟨['a', 'ü'], ['\n', '\n', 'b'], rfl, rfl⟩
  have documentEnd : Boundary threeLines 6 := ⟨threeLines, [], rfl, rfl⟩
  obtain ⟨back, forth, order, missing⟩ := offsets_positions_inverse threeLines small
  exact ⟨small, lineEnd, documentEnd, back 3 lineEnd,
    forth ⟨1, 3⟩ (by decide) (by decide) (by decide) (by decide),
    order 3 6 lineEnd documentEnd (by decide), (missing ⟨4, 1⟩).2 (by decide)⟩

end Text

end SassRenderLint
