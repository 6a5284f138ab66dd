/-
Module: SassRenderLint.Proofs.Offsets
Layer: Proofs
Purpose: Byte offsets and positions are two names of one place. A place is what stands before it: its
  offset is the number of bytes there, and its position says how many whole lines stand there and how
  many characters after them. Going from the offset to the position and back gives the offset.
Main exports: Text.WholeLines, Text.StandsAfter, Text.StandsAt, Text.passLines_eq_some_iff,
  Text.standsAfter_iff, Text.standsAt_positionAt, Text.offsetOf?_of_standsAt, Text.exists_prefix_of_offsetOf?
-/
import SassRenderLint.Text.Offset

namespace SassRenderLint

namespace Text

/-! ### Bytes -/

@[simp] theorem byteLength_nil : byteLength [] = 0 := rfl

@[simp] theorem byteLength_cons (c : Char) (cs : List Char) :
    byteLength (c :: cs) = c.utf8Size + byteLength cs := rfl

@[simp] theorem byteLength_append (cs ds : List Char) :
    byteLength (cs ++ ds) = byteLength cs + byteLength ds := by
  induction cs with
  | nil => exact (Nat.zero_add _).symm
  | cons c rest ih => rw [List.cons_append, byteLength_cons, byteLength_cons, ih, Nat.add_assoc]

/-- Each character has at least one byte. -/
theorem length_le_byteLength (cs : List Char) : cs.length ≤ byteLength cs := by
  induction cs with
  | nil => exact Nat.le_refl 0
  | cons c rest ih =>
      have positive := c.utf8Size_pos
      simp only [List.length_cons, byteLength_cons]
      omega

theorem toList_byteArray (b : ByteArray) : b.toList = b.data.toList := by
  -- The loop goes from an index on, with what it has passed in reverse.
  have loop : ∀ (i : Nat) (passed : List UInt8),
      ByteArray.toList.loop b i passed = passed.reverse ++ b.data.toList.drop i := by
    intro i passed
    fun_induction ByteArray.toList.loop b i passed with
    | case1 i passed inside ih =>
        have next : b.data.toList.drop i = b.get! i :: b.data.toList.drop (i + 1) := by
          rw [List.drop_eq_getElem_cons (by simpa using inside)]
          simp [ByteArray.get!, getElem!_pos, inside]
        rw [ih, next, List.reverse_cons, List.append_assoc]
        rfl
    | case2 i passed outside =>
        rw [List.drop_eq_nil_of_le (by simpa using outside), List.append_nil]
  exact loop 0 []

/-- The bytes of a text are those of its characters. -/
theorem bytes_eq_flatMap (s : String) : bytes s = s.toList.flatMap String.utf8EncodeChar := by
  rw [bytes, toList_byteArray]
  show s.toByteArray.data.toList = _
  rw [← String.utf8Encode_toList, List.utf8Encode, List.toList_data_toByteArray]

/-- The bytes that are counted are those of the encoded text. -/
theorem length_flatMap_encode (cs : List Char) : (cs.flatMap String.utf8EncodeChar).length = byteLength cs := by
  induction cs with
  | nil => rfl
  | cons c rest ih =>
      rw [List.flatMap_cons, List.length_append, String.length_utf8EncodeChar, ih, byteLength_cons]

/-! ### Cutting -/

/-- Cut between two characters, a text falls apart there. -/
theorem takeBytes_append (before after : List Char) :
    takeBytes (byteLength before) (before ++ after) = before := by
  induction before with
  | nil =>
      cases after with
      | nil => rfl
      | cons c rest =>
          have positive := c.utf8Size_pos
          have tooLong : ¬ c.utf8Size ≤ 0 := by omega
          simp [takeBytes, tooLong]
  | cons c rest ih => simp [takeBytes, ih]

theorem dropBytes_append (before after : List Char) :
    dropBytes (byteLength before) (before ++ after) = after := by
  induction before with
  | nil =>
      cases after with
      | nil => rfl
      | cons c rest =>
          have positive := c.utf8Size_pos
          have tooLong : ¬ c.utf8Size ≤ 0 := by omega
          simp [dropBytes, tooLong]
  | cons c rest ih => simp [dropBytes, ih]

/-- Of two beginnings of a document, the one with fewer bytes begins the other. -/
theorem prefix_of_byteLength_le {first second document : List Char} (begins : first <+: document)
    (alsoBegins : second <+: document) (fewer : byteLength first ≤ byteLength second) : first <+: second := by
  rcases List.prefix_or_prefix_of_prefix begins alsoBegins with done | ⟨more, rfl⟩
  · exact done
  · have none : more = [] := by
      have most := length_le_byteLength more
      rw [byteLength_append] at fewer
      exact List.length_eq_zero_iff.1 (by omega)
    exact ⟨[], by rw [none, List.append_nil, List.append_nil]⟩

/-! ### Lines -/

/-- Some characters are `n` lines, each with its end. -/
inductive WholeLines : Nat → List Char → Prop where
  | nil : WholeLines 0 []
  | cons {n : Nat} {line rest : List Char} :
      '\n' ∉ line → WholeLines n rest → WholeLines (n + 1) (line ++ '\n' :: rest)

theorem WholeLines.count {n : Nat} {lines : List Char} (whole : WholeLines n lines) : lines.count '\n' = n := by
  induction whole with
  | nil => rfl
  | cons absent _ ih => rw [List.count_append, List.count_cons_self, ih, List.count_eq_zero.2 absent, Nat.zero_add]

/-- Every text is some whole lines and the beginning of another. -/
theorem exists_wholeLines (cs : List Char) :
    ∃ lines line, cs = lines ++ line ∧ WholeLines (cs.count '\n') lines ∧ '\n' ∉ line := by
  induction cs with
  | nil => exact ⟨[], [], rfl, .nil, List.not_mem_nil⟩
  | cons c rest ih =>
      obtain ⟨lines, line, rfl, whole, inside⟩ := ih
      by_cases isEnd : c = '\n'
      · subst isEnd
        refine ⟨'\n' :: lines, line, rfl, ?_, inside⟩
        rw [List.count_cons_self]
        show WholeLines _ ([] ++ '\n' :: lines)
        exact .cons List.not_mem_nil whole
      · rw [List.count_cons_of_ne isEnd]
        have outside : ∀ cs : List Char, '\n' ∉ cs → '\n' ∉ c :: cs := by
          intro cs absent
          exact fun mem => (List.mem_cons.1 mem).elim (fun same => isEnd same.symm) absent
        -- The character goes to the first whole line, or to the beginning of a line if there is none.
        generalize (lines ++ line).count '\n' = n at whole
        cases whole with
        | nil => exact ⟨[], c :: line, rfl, .nil, outside line inside⟩
        | @cons n first rest absent whole =>
            exact ⟨(c :: first) ++ '\n' :: rest, line, rfl, .cons (outside first absent) whole, inside⟩

/-- A line is passed when there is a line end, the first one. -/
theorem passLine_eq_some_iff {cs left : List Char} {bytes : Nat} :
    passLine cs = some (bytes, left) ↔
      ∃ line, '\n' ∉ line ∧ cs = line ++ '\n' :: left ∧ bytes = byteLength line + 1 := by
  induction cs generalizing bytes with
  | nil => simp [passLine]
  | cons c rest ih =>
      by_cases isEnd : c = '\n'
      · subst isEnd
        constructor
        · intro passes
          simp only [passLine, ↓reduceIte, Option.some.injEq, Prod.mk.injEq] at passes
          obtain ⟨rfl, rfl⟩ := passes
          exact ⟨[], List.not_mem_nil, rfl, rfl⟩
        · rintro ⟨line, absent, same, rfl⟩
          cases line with
          | nil =>
              cases same
              rfl
          | cons d line =>
              cases same
              exact absurd List.mem_cons_self absent
      · constructor
        · intro passes
          simp only [passLine, isEnd, ↓reduceIte, Option.map_eq_some_iff, Prod.mk.injEq, Prod.exists] at passes
          obtain ⟨more, left', passes, rfl, rfl⟩ := passes
          obtain ⟨line, absent, rfl, rfl⟩ := ih.1 passes
          refine ⟨c :: line, ?_, rfl, ?_⟩
          · exact fun mem => (List.mem_cons.1 mem).elim (fun same => isEnd same.symm) absent
          · rw [byteLength_cons, Nat.add_assoc]
        · rintro ⟨line, absent, same, rfl⟩
          cases line with
          | nil =>
              cases same
              exact absurd rfl isEnd
          | cons d line =>
              cases same
              have passes := ih.2 ⟨line, fun mem => absent (List.mem_cons_of_mem _ mem), rfl, rfl⟩
              simp only [passLine, isEnd, ↓reduceIte, passes, Option.map_some, byteLength_cons, Nat.add_assoc]

/-- Passing lines passes exactly that many whole lines. -/
theorem passLines_eq_some_iff {n : Nat} {cs left : List Char} {bytes : Nat} :
    passLines n cs = some (bytes, left) ↔
      ∃ lines, WholeLines n lines ∧ cs = lines ++ left ∧ bytes = byteLength lines := by
  induction n generalizing cs bytes with
  | zero =>
      constructor
      · intro passes
        cases passes
        exact ⟨[], .nil, rfl, rfl⟩
      · rintro ⟨lines, whole, rfl, rfl⟩
        cases whole
        rfl
  | succ n ih =>
      constructor
      · intro passes
        cases first : passLine cs with
        | none => simp [passLines, first] at passes
        | some passed =>
            obtain ⟨more, rest⟩ := passed
            obtain ⟨line, absent, rfl, rfl⟩ := passLine_eq_some_iff.1 first
            simp only [passLines, first, Option.map_eq_some_iff, Prod.mk.injEq, Prod.exists] at passes
            obtain ⟨others, left', passes, rfl, rfl⟩ := passes
            obtain ⟨lines, whole, rfl, rfl⟩ := ih.1 passes
            refine ⟨line ++ '\n' :: lines, .cons absent whole, ?_, ?_⟩
            · rw [List.append_assoc, List.cons_append]
            · rw [byteLength_append, byteLength_cons, Nat.add_assoc]
              rfl
      · rintro ⟨lines, whole, rfl, rfl⟩
        cases whole with
        | @cons _ line lines absent whole =>
            have first : passLine (line ++ '\n' :: lines ++ left) =
                some (byteLength line + 1, lines ++ left) :=
              passLine_eq_some_iff.2 ⟨line, absent, by rw [List.append_assoc, List.cons_append], rfl⟩
            have others := ih.2 ⟨lines, whole, rfl, rfl⟩
            rw [passLines, first]
            simp only [others, Option.map_some, byteLength_append, byteLength_cons]
            rw [Nat.add_assoc]
            rfl

/-! ### Positions -/

/-- The position of what comes right after some characters: counted from one, the line they end in and
    the column after their last one. -/
def StandsAfter (before : List Char) (p : Position) : Prop :=
  ∃ n lines line, before = lines ++ line ∧ WholeLines n lines ∧ '\n' ∉ line ∧
    p.line.toNat = n + 1 ∧ p.column.toNat = line.length + 1

/-- Numbers of 32 bits are not clamped. -/
theorem toNat_clampUInt32 {n : Nat} (small : n < UInt32.size) : (clampUInt32 n).toNat = n := by
  have least : min n (UInt32.size - 1) = n := by omega
  rw [clampUInt32, least, UInt32.toNat_ofNat']
  exact Nat.mod_eq_of_lt small

/-- Counting back from the end of some whole lines, one is at a line end at once. -/
theorem takeWhile_reverse_wholeLines {n : Nat} {lines : List Char} (whole : WholeLines n lines) :
    lines.reverse.takeWhile (· ≠ '\n') = [] := by
  induction whole with
  | nil => rfl
  | @cons n line rest absent whole ih =>
      have stops : ('\n' :: line.reverse).takeWhile (· ≠ '\n') = [] := rfl
      rw [List.reverse_append, List.reverse_cons, List.append_assoc, List.singleton_append, List.takeWhile_append, ih,
        stops, List.append_nil]
      split
      · rename_i allTaken
        exact List.length_eq_zero_iff.1 allTaken.symm
      · rfl

/-- Counting back from a place, one passes the characters of its own line. -/
theorem length_takeWhile_reverse {n : Nat} {lines line : List Char} (whole : WholeLines n lines)
    (inside : '\n' ∉ line) : ((lines ++ line).reverse.takeWhile (· ≠ '\n')).length = line.length := by
  have all : ∀ c ∈ line.reverse, decide (c ≠ '\n') = true := by
    intro c mem
    exact decide_eq_true fun isEnd => inside (isEnd ▸ List.mem_reverse.1 mem)
  rw [List.reverse_append, List.takeWhile_append_of_pos all, takeWhile_reverse_wholeLines whole,
    List.append_nil, List.length_reverse]

/-- Where a place stands is known from the line ends before it and the characters since the last one. -/
theorem standsAfter_iff {before : List Char} {p : Position} :
    StandsAfter before p ↔ p.line.toNat = before.count '\n' + 1 ∧
      p.column.toNat = (before.reverse.takeWhile (· ≠ '\n')).length + 1 := by
  constructor
  · rintro ⟨n, lines, line, rfl, whole, inside, lineNumber, column⟩
    rw [length_takeWhile_reverse whole inside, List.count_append, whole.count, List.count_eq_zero.2 inside]
    exact ⟨lineNumber, column⟩
  · rintro ⟨lineNumber, column⟩
    obtain ⟨lines, line, rfl, whole, inside⟩ := exists_wholeLines before
    rw [length_takeWhile_reverse whole inside] at column
    exact ⟨_, lines, line, rfl, whole, inside, lineNumber, column⟩

/-- In a document that is not too long, the position of a place says what stands before it. -/
theorem standsAfter_positionAfter {before : List Char} (small : byteLength before < UInt32.size - 1) :
    StandsAfter before (positionAfter before) := by
  have length := length_le_byteLength before
  have count := List.count_le_length (a := '\n') (l := before)
  have passed := (List.takeWhile_sublist (· ≠ '\n') (l := before.reverse)).length_le
  rw [List.length_reverse] at passed
  exact standsAfter_iff.2 ⟨toNat_clampUInt32 (by omega), toNat_clampUInt32 (by omega)⟩

/-- The offset of a position is the number of bytes before the place where it stands. -/
theorem offsetOf?_of_standsAfter {before : List Char} {p : Position} (stands : StandsAfter before p)
    (after : List Char) : offsetOf? (before ++ after) p = some (byteLength before) := by
  obtain ⟨n, lines, line, rfl, whole, inside, lineNumber, column⟩ := stands
  have positive : p.line ≠ 0 := by
    intro zero
    rw [zero] at lineNumber
    exact absurd lineNumber (by simp)
  have passes : passLines n (lines ++ line ++ after) = some (byteLength lines, line ++ after) :=
    passLines_eq_some_iff.2 ⟨lines, whole, List.append_assoc _ _ _, rfl⟩
  simp only [offsetOf?, positive, ↓reduceIte, lineNumber, Nat.add_sub_cancel, passes, Option.map_some, column,
    List.take_left, byteLength_append]

/-- The position of a byte offset into a document. -/
def StandsAt (document : List Char) (offset : Nat) (p : Position) : Prop :=
  ∃ before after, document = before ++ after ∧ byteLength before = offset ∧ StandsAfter before p

/-- Line and column are counted as they should be, in a document whose size fits into 32 bits. -/
theorem standsAfter_positionAt {before after : List Char} (small : byteLength (before ++ after) < UInt32.size - 1) :
    StandsAfter before (positionAt (before ++ after) (byteLength before)) := by
  rw [positionAt, takeBytes_append]
  rw [byteLength_append] at small
  exact standsAfter_positionAfter (by omega)

/-- So the position of an offset stands at it. -/
theorem standsAt_positionAt {before after : List Char} (small : byteLength (before ++ after) < UInt32.size - 1) :
    StandsAt (before ++ after) (byteLength before) (positionAt (before ++ after) (byteLength before)) :=
  ⟨before, after, rfl, rfl, standsAfter_positionAt small⟩

/-- A position that stands at an offset has it. -/
theorem offsetOf?_of_standsAt {document : List Char} {offset : Nat} {p : Position}
    (stands : StandsAt document offset p) : offsetOf? document p = some offset := by
  obtain ⟨before, after, rfl, rfl, stands⟩ := stands
  exact offsetOf?_of_standsAfter stands after

/-- An offset is that of some beginning of the document. -/
theorem exists_prefix_of_offsetOf? {document : List Char} {p : Position} {offset : Nat}
    (found : offsetOf? document p = some offset) :
    ∃ before after, document = before ++ after ∧ byteLength before = offset := by
  rw [offsetOf?] at found
  split at found
  · cases found
  · obtain ⟨⟨start, left⟩, passes, rfl⟩ := Option.map_eq_some_iff.1 found
    obtain ⟨lines, _, rfl, rfl⟩ := passLines_eq_some_iff.1 passes
    refine ⟨lines ++ left.take (p.column.toNat - 1), left.drop (p.column.toNat - 1), ?_, byteLength_append _ _⟩
    rw [List.append_assoc, List.take_append_drop]

end Text

end SassRenderLint
