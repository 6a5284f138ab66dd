/-
Module: SassRenderLint.Proofs.GuardedText
Layer: Proofs
Purpose: Work on texts that stops at a fault. Texts are cut at byte offsets, and a cut inside a character or past
  the end is a fault, as is a difference below zero. Here the offsets, positions and words of a document are
  found by such cuts, each offset made from those before it, and nothing is assumed about a position. No fault
  happens, and the answers are those of the functions that pass over characters.
Main exports: Fault, Guarded.cut, Guarded.cut_append, Guarded.cut_ok_iff, Guarded.offsetOf_eq,
  Guarded.positionAt_eq, Guarded.locateWord_eq
-/
import SassRenderLint.Proofs.OffsetInverse
import SassRenderLint.Proofs.WordPositions

namespace SassRenderLint

/-- What stops a computation on texts. -/
inductive Fault where
  /-- A text is cut inside a character or past its end. -/
  | badCut (offset : Nat)
  /-- More is taken from a number than it is. -/
  | belowZero (number taken : Nat)
deriving DecidableEq, Repr, Inhabited

namespace Guarded

open Text

/-! ### What can fail -/

/-- Cuts a text at a byte offset: what stands before it, and what stands after it. -/
def cut (text : List Char) (offset : Nat) : Except Fault (List Char × List Char) :=
  if byteLength (takeBytes offset text) = offset then .ok (takeBytes offset text, dropBytes offset text)
  else .error (.badCut offset)

def minus (number taken : Nat) : Except Fault Nat :=
  if taken ≤ number then .ok (number - taken) else .error (.belowZero number taken)

/-- After a step without a fault the work goes on. -/
@[simp] theorem ok_bind {α β : Type} (a : α) (next : α → Except Fault β) : (Except.ok a >>= next) = next a := rfl

@[simp] theorem pure_eq_ok {α : Type} (a : α) : (pure a : Except Fault α) = .ok a := rfl

/-- Cut at any number of bytes, a text falls into two parts, and nothing is lost. -/
theorem takeBytes_append_dropBytes (bytes : Nat) (text : List Char) :
    takeBytes bytes text ++ dropBytes bytes text = text := by
  induction text generalizing bytes with
  | nil => rfl
  | cons c rest ih =>
      by_cases fits : c.utf8Size ≤ bytes
      · simp [takeBytes, dropBytes, fits, ih]
      · simp [takeBytes, dropBytes, fits]

/-- A text is cut at the end of any beginning of it. -/
theorem cut_append (before after : List Char) : cut (before ++ after) (byteLength before) = .ok (before, after) := by
  simp [cut, takeBytes_append, dropBytes_append]

/-- A cut succeeds exactly between two characters and at the ends of a text. -/
theorem cut_ok_iff (text : List Char) (offset : Nat) :
    (∃ parts, cut text offset = .ok parts) ↔ offset ≤ byteLength text ∧ Boundary text offset := by
  have whole := takeBytes_append_dropBytes offset text
  by_cases exactly : byteLength (takeBytes offset text) = offset
  · have bytes := congrArg byteLength whole
    rw [byteLength_append] at bytes
    refine iff_of_true ⟨_, if_pos exactly⟩ ⟨?_, _, _, whole.symm, exactly⟩
    omega
  · refine iff_of_false ?_ ?_
    · simp [cut, exactly]
    · rintro ⟨-, before, after, rfl, rfl⟩
      exact exactly (by rw [takeBytes_append])

theorem minus_of_le {number taken : Nat} (enough : taken ≤ number) : minus number taken = .ok (number - taken) :=
  if_pos enough

/-- Taking away is at fault exactly when there is not enough. -/
theorem minus_ok_iff (number taken : Nat) : (∃ left, minus number taken = .ok left) ↔ taken ≤ number := by
  by_cases enough : taken ≤ number
  · simp [minus_of_le, enough]
  · simp [minus, enough]

/-! ### Offsets -/

/-- The offset at which the line starts that comes so many lines after the one that starts at an offset. -/
def skipLines (document : List Char) : Nat → Nat → Except Fault (Option Nat)
  | 0, start => pure (some start)
  | n + 1, start => do
    let (_, rest) ← cut document start
    match find? ['\n'] rest with
    | none => pure none
    | some index => skipLines document n (start + index + 1)

def offsetOf (document : List Char) (p : Position) : Except Fault (Option Nat) :=
  if p.line = 0 then pure none
  else do
    let some start ← skipLines document (p.line.toNat - 1) 0 | pure none
    let (_, line) ← cut document start
    pure (some (start + byteLength (line.take (p.column.toNat - 1))))

/-- The first line end stands before the last byte of what is passed with its line. -/
theorem find?_lineEnd (cs : List Char) : find? ['\n'] cs = (passLine cs).map fun passed => passed.1 - 1 := by
  induction cs with
  | nil => rfl
  | cons c rest ih =>
      by_cases isEnd : c = '\n'
      · subst isEnd
        rfl
      · have other : ¬ '\n' = c := fun same => isEnd same.symm
        have apart : ['\n'].isPrefixOf (c :: rest) = false := by simp [List.isPrefixOf, other]
        rw [find?, passLine, if_neg isEnd, apart, ih]
        cases passes : passLine rest with
        | none => rfl
        | some passed =>
            obtain ⟨bytes, left⟩ := passed
            obtain ⟨line, -, -, rfl⟩ := passLine_eq_some_iff.1 passes
            simp

/-- Every line start that is reached is one at which the document can be cut. -/
theorem skipLines_eq (n : Nat) (before rest : List Char) :
    skipLines (before ++ rest) n (byteLength before) =
      .ok ((passLines n rest).map fun passed => byteLength before + passed.1) := by
  induction n generalizing before rest with
  | zero => simp [skipLines, passLines]
  | succ n ih =>
      simp only [skipLines, cut_append, ok_bind, find?_lineEnd, passLines]
      cases passes : passLine rest with
      | none => rfl
      | some passed =>
          obtain ⟨bytes, left⟩ := passed
          obtain ⟨line, -, rfl, rfl⟩ := passLine_eq_some_iff.1 passes
          -- The next line starts after what has been passed with this one.
          have next : byteLength (before ++ (line ++ ['\n'])) = byteLength before + byteLength line + 1 := by
            simp only [byteLength_append, byteLength_cons, byteLength_nil]
            rfl
          have step := ih (before ++ (line ++ ['\n'])) left
          rw [next, List.append_assoc, List.append_assoc, List.singleton_append] at step
          simp only [Option.map_some, Nat.add_sub_cancel, step, Option.map_map]
          congr 2
          funext passed
          simp only [Function.comp_apply]
          omega

/-- The offset of a position is found without a fault. -/
theorem offsetOf_eq (document : List Char) (p : Position) : offsetOf document p = .ok (offsetOf? document p) := by
  by_cases zero : p.line = 0
  · simp [offsetOf, offsetOf?, zero]
  · have lines := skipLines_eq (p.line.toNat - 1) [] document
    simp only [List.nil_append, byteLength_nil, Nat.zero_add] at lines
    simp only [offsetOf, offsetOf?, zero, ↓reduceIte, lines, ok_bind]
    cases passes : passLines (p.line.toNat - 1) document with
    | none => rfl
    | some passed =>
        obtain ⟨bytes, left⟩ := passed
        obtain ⟨before, -, rfl, rfl⟩ := passLines_eq_some_iff.1 passes
        simp [cut_append]

/-! ### Positions -/

/-- The byte offset at which a character occurs last. -/
def findLast? (mark : Char) : List Char → Option Nat
  | [] => none
  | c :: rest =>
    match findLast? mark rest with
    | some index => some (c.utf8Size + index)
    | none => if c = mark then some 0 else none

def positionAt (document : List Char) (offset : Nat) : Except Fault Position := do
  let (before, _) ← cut document offset
  let (_, line) ← cut before (((findLast? '\n' before).map (· + 1)).getD 0)
  pure ⟨clampUInt32 (before.count '\n' + 1), clampUInt32 (line.length + 1)⟩

theorem findLast?_eq_none {mark : Char} {cs : List Char} (absent : mark ∉ cs) : findLast? mark cs = none := by
  induction cs with
  | nil => rfl
  | cons c rest ih =>
      simp only [List.mem_cons, not_or] at absent
      have other : ¬ c = mark := fun same => absent.1 same.symm
      simp [findLast?, ih absent.2, other]

/-- The last occurrence is the one that is followed by no other. -/
theorem findLast?_append {mark : Char} {cs : List Char} (before : List Char) (absent : mark ∉ cs) :
    findLast? mark (before ++ mark :: cs) = some (byteLength before) := by
  induction before with
  | nil => simp [findLast?, findLast?_eq_none absent]
  | cons c rest ih => simp [findLast?, ih]

/-- Whole lines end in a line end, if there are any. -/
theorem eq_nil_or_concat_of_wholeLines {n : Nat} {lines : List Char} (whole : WholeLines n lines) :
    lines = [] ∨ ∃ before, lines = before ++ ['\n'] := by
  induction whole with
  | nil => exact Or.inl rfl
  | @cons n line rest absent whole ih =>
      right
      rcases ih with rfl | ⟨before, rfl⟩
      · exact ⟨line, rfl⟩
      · exact ⟨line ++ '\n' :: before, by simp⟩

/-- After the last line end stands the beginning of the line that follows the whole lines. -/
theorem lastLineStart_eq {n : Nat} {lines line : List Char} (whole : WholeLines n lines) (inside : '\n' ∉ line) :
    ((findLast? '\n' (lines ++ line)).map (· + 1)).getD 0 = byteLength lines := by
  rcases eq_nil_or_concat_of_wholeLines whole with rfl | ⟨before, rfl⟩
  · simp [findLast?_eq_none inside]
  · rw [List.append_assoc, List.singleton_append, findLast?_append before inside]
    simp only [Option.map_some, Option.getD_some, byteLength_append, byteLength_cons, byteLength_nil]
    rfl

/-- The position of the end of any beginning of a document is found without a fault. -/
theorem positionAt_eq (before after : List Char) :
    positionAt (before ++ after) (byteLength before) =
      .ok (Text.positionAt (before ++ after) (byteLength before)) := by
  rw [Text.positionAt, takeBytes_append]
  obtain ⟨lines, line, same, whole, inside⟩ := exists_wholeLines before
  have start : ((findLast? '\n' before).map (· + 1)).getD 0 = byteLength lines := by
    rw [same, lastLineStart_eq (same ▸ whole) inside]
  have column : (before.reverse.takeWhile (· ≠ '\n')).length = line.length := by
    rw [same, length_takeWhile_reverse (same ▸ whole) inside]
  have rest : cut before (byteLength lines) = .ok (lines, line) := by
    rw [same, cut_append]
  simp only [positionAt, cut_append, ok_bind, start, rest, positionAfter, column, pure_eq_ok]

/-! ### Words -/

def locateWord (document word : List Char) (start : Position) : Except Fault (Option (Position × Position)) :=
  if word.isEmpty then pure none
  else do
    let some start ← offsetOf document start | pure none
    let (_, rest) ← cut document start
    let some index := find? word rest | pure none
    let first ← positionAt document (start + index)
    let last ← positionAt document (start + index + byteLength word)
    pure (some (first, last))

/-- A word is located without a fault: every offset on the way is one at which the document can be cut. -/
theorem locateWord_eq (document word : List Char) (start : Position) :
    locateWord document word start = .ok (locateWord? document word start) := by
  by_cases empty : word.isEmpty = true
  · simp [locateWord, locateWord?, empty]
  · cases begins : offsetOf? document start with
    | none => simp [locateWord, locateWord?, empty, offsetOf_eq, begins]
    | some offset =>
        obtain ⟨before, rest, rfl, rfl⟩ := exists_prefix_of_offsetOf? begins
        cases found : find? word rest with
        | none =>
            simp [locateWord, locateWord?, findFrom?, empty, offsetOf_eq, begins, found, cut_append, dropBytes_append]
        | some index =>
            obtain ⟨front, back, rfl, rfl⟩ := (isLeast_of_find? found).1
            have first := positionAt_eq (before ++ front) (word ++ back)
            have last := positionAt_eq (before ++ front ++ word) back
            simp only [List.append_assoc, byteLength_append] at first last found begins
            simp [locateWord, locateWord?, findFrom?, empty, offsetOf_eq, begins, found, cut_append, dropBytes_append,
              first, last, Nat.add_assoc]

end Guarded

end SassRenderLint
