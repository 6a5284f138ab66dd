/-
Module: SassRenderLint.Proofs.IndentedText
Layer: Proofs
Purpose: Reading undoes indented writing. What is written of a value is read as that value together with any rest
  that cannot be taken for more of a number, and the blanks between items are skipped, so a container is read
  item by item. Reading puts the fields of an object in key order. It takes values whose containers are not nested too
  deep and whose numbers are integers of 64 bits; values that hold binary64 numbers are left out.
Main exports: Json.Readable, Json.number_intChars, Json.value_skipBlanks, Json.items_indented, Json.fields_indented,
  Json.value_indentedChars, Json.read?_indented
-/
import Mathlib.Data.List.DropRight
import SassRenderLint.Proofs.DistinctFindings

namespace SassRenderLint

namespace Json

open Scan

/-! ### Integers -/

/-- The text after a number cannot be taken for more of it. -/
def StopsNumber (rest : List Char) : Prop := ∀ c ∈ rest.head?, c.isDigit = false ∧ c ∉ ['.', 'e', 'E']

theorem StopsNumber.stopsDigits {rest : List Char} (stops : StopsNumber rest) : StopsDigits rest :=
  fun c first => (stops c first).1

/-- Nothing that could continue a number stands in front of what stops it. -/
theorem StopsNumber.ne_cons {rest : List Char} (stops : StopsNumber rest) {c : Char} (goesOn : c ∈ ['.', 'e', 'E'])
    (left : List Char) : rest ≠ c :: left := by
  rintro rfl
  exact (stops c rfl).2 goesOn

/-- The digits of a number are read up to their end. -/
theorem digits1_toDigits (n : Nat) {rest : List Char} (stops : StopsDigits rest) :
    digits1 (Nat.toDigits 10 n ++ rest) = some (Nat.toDigits 10 n, rest) := by
  have taken := takeWhile_isDigit_toDigits n stops
  have dropped : (Nat.toDigits 10 n ++ rest).dropWhile Char.isDigit = rest := by
    have whole := List.takeWhile_append_dropWhile (p := Char.isDigit) (l := Nat.toDigits 10 n ++ rest)
    rw [taken] at whole
    exact List.append_cancel_left whole
  simp [digits1, taken, dropped, Nat.toDigits_ne_nil]

/-- The digits of a number have its value. -/
theorem natOfDigits_toDigits (n : Nat) : natOfDigits (Nat.toDigits 10 n) = n := by
  have value := @Nat.ofDigitChars_ten_toDigits n
  simpa [natOfDigits, digitValue, Nat.ofDigitChars, Nat.mul_comm] using value

/-- Only zero is written with a zero in front. -/
theorem head?_toDigits_ne_zero {n : Nat} (positive : 0 < n) : (Nat.toDigits 10 n).head? ≠ some '0' := by
  induction n using Nat.strongRecOn with
  | ind n ih =>
      by_cases single : n < 10
      · have digits : ∀ d < 10, 0 < d → d.digitChar ≠ '0' := by decide
        rw [Nat.toDigits_of_lt_base single]
        simpa using digits n single positive
      · rw [Nat.toDigits_of_base_le (by decide) (Nat.not_lt.1 single),
          List.head?_append_of_ne_nil _ Nat.toDigits_ne_nil]
        exact ih (n / 10) (by omega) (by omega)

/-- No number is written with a zero in front, which reading would refuse. -/
theorem not_leading_zero (n : Nat) :
    ¬ ((Nat.toDigits 10 n).head? = some '0' ∧ 1 < (Nat.toDigits 10 n).length) := by
  rintro ⟨zero, long⟩
  by_cases positive : 0 < n
  · exact head?_toDigits_ne_zero positive zero
  · obtain rfl : n = 0 := by omega
    exact absurd long (by decide)

/-- An integer is read as its sign and its digits, up to the end of the digits. -/
theorem numeral_intChars (i : Int) {rest : List Char} (stops : StopsNumber rest) :
    numeral (intChars i ++ rest) = some (⟨decide (i < 0), Nat.toDigits 10 i.natAbs, none, none⟩, rest) := by
  have digits := digits1_toDigits i.natAbs stops.stopsDigits
  have noPoint := stops.ne_cons (c := '.') (by decide)
  have noMark := stops.ne_cons (c := 'e') (by decide)
  have noLargeMark := stops.ne_cons (c := 'E') (by decide)
  rw [intChars]
  -- The three facts above rule out a fraction and an exponent.
  split
  · rename_i negative
    simp [numeral, digits, not_leading_zero, negative]
  · rename_i positive
    have unsigned := toDigits_append_ne_minus i.natAbs rest
    simp [numeral, digits, not_leading_zero, positive]

/-- An integer of 64 bits, signed or not, is read back. -/
theorem number_intChars {i : Int} (least : -(UInt64.size / 2) ≤ i) (greatest : i < UInt64.size) {rest : List Char}
    (stops : StopsNumber rest) : number (intChars i ++ rest) = some (.int i, rest) := by
  have kept : Numeral.toNumber? ⟨decide (i < 0), Nat.toDigits 10 i.natAbs, none, none⟩ = some (.int i) := by
    simp only [Numeral.toNumber?, natOfDigits_toDigits, Option.isNone_none, and_self, if_true]
    by_cases negative : i < 0
    · have notZero : i.natAbs ≠ 0 := by omega
      have fits : i.natAbs ≤ UInt64.size / 2 := by omega
      have same : -(i.natAbs : Int) = i := by omega
      rw [if_pos (decide_eq_true negative), if_neg notZero, if_pos fits, same]
    · have fits : i.natAbs < UInt64.size := by omega
      have same : (i.natAbs : Int) = i := by omega
      rw [if_neg (by simpa using negative), if_pos fits, same]
  simp [number, numeral_intChars i stops, kept]

/-! ### Blanks -/

/-- Indentation is blanks, however deep. -/
theorem skipBlanks_newline (depth : Nat) (cs : List Char) : skipBlanks (newline depth ++ cs) = skipBlanks cs := by
  have blank : ∀ c ∈ newline depth, isBlank c = true := by
    intro c member
    rcases List.mem_cons.1 member with rfl | later
    · rfl
    · rw [List.eq_of_mem_replicate later]
      rfl
  exact List.dropWhile_append_of_pos blank

theorem skipBlanks_of_not_blank {c : Char} (visible : isBlank c = false) (cs : List Char) :
    skipBlanks (c :: cs) = c :: cs := by
  rw [skipBlanks, List.dropWhile_cons, visible, if_neg Bool.false_ne_true]

/-- A value may have blanks in front. -/
theorem value_skipBlanks (depth : Nat) (cs : List Char) : value depth (skipBlanks cs) = value depth cs := by
  have twice : skipBlanks (skipBlanks cs) = skipBlanks cs := List.dropWhile_idempotent _ cs
  cases depth <;> simp only [value, twice]

/-! ### Values -/

/-- A value that reading takes when containers may be nested so deep: its numbers are integers of 64 bits. -/
inductive Readable : Nat → Json → Prop where
  | null (depth : Nat) : Readable depth .null
  | bool (depth : Nat) (b : Bool) : Readable depth (.bool b)
  | int (depth : Nat) {i : Int} (least : -(UInt64.size / 2) ≤ i) (greatest : i < UInt64.size) : Readable depth (.num (.int i))
  | str (depth : Nat) (s : String) : Readable depth (.str s)
  | arr {depth : Nat} {items : List Json} (inside : ∀ x ∈ items, Readable depth x) : Readable (depth + 1) (.arr items)
  | obj {depth : Nat} {fields : Fields} (inside : ∀ field ∈ fields, Readable depth field.2) :
      Readable (depth + 1) (.obj fields)

/-- The first character of a text tells the kind of its value. -/
theorem Readable.lead {depth : Nat} {v : Json} (readable : Readable depth v) (indent : Nat) :
    ∃ c cs, indentedChars indent v = c :: cs ∧ leadClass c = v.lead := by
  cases readable with
  | null => exact ⟨'n', _, rfl, rfl⟩
  | bool _ b =>
      cases b with
      | true => exact ⟨'t', _, rfl, rfl⟩
      | false => exact ⟨'f', _, rfl, rfl⟩
  | @int _ i => exact intChars_lead i
  | str => exact ⟨'"', _, rfl, rfl⟩
  | @arr _ items =>
      cases items with
      | nil => exact ⟨'[', _, rfl, rfl⟩
      | cons x xs => exact ⟨'[', _, rfl, rfl⟩
  | @obj _ fields =>
      cases fields with
      | nil => exact ⟨'\x7b', _, rfl, rfl⟩
      | cons field rest => exact ⟨'\x7b', _, rfl, rfl⟩

/-- The first character of an indented text tells the kind of the value, as in compact text. -/
theorem Readable.leadClass_eq {depth : Nat} {v : Json} (readable : Readable depth v) (indent : Nat) {c : Char}
    {rest left : List Char} (same : indentedChars indent v ++ rest = c :: left) : leadClass c = v.lead := by
  obtain ⟨d, cs, starts, leads⟩ := readable.lead indent
  rw [starts] at same
  exact (List.cons.inj same).1 ▸ leads

/-- No text of a value starts with a blank. -/
theorem Readable.skipBlanks_eq {depth : Nat} {v : Json} (readable : Readable depth v) (indent : Nat)
    (rest : List Char) :
    skipBlanks (indentedChars indent v ++ rest) = indentedChars indent v ++ rest := by
  obtain ⟨c, cs, starts, leads⟩ := readable.lead indent
  have visible : isBlank c = false := by
    by_cases blank : c ∈ [' ', '\t', '\n', '\x0d']
    · simp only [List.mem_cons, List.not_mem_nil, or_false] at blank
      rcases blank with rfl | rfl | rfl | rfl <;> cases v <;> cases leads
    · simpa [isBlank, and_assoc] using blank
  rw [starts]
  exact skipBlanks_of_not_blank visible _

/-- A reader takes the text of a value, whatever follows, for the value in key order. -/
def ReadsBack (item : Scan Json) (indent : Nat) (v : Json) : Prop :=
  ∀ rest, StopsNumber rest → item (indentedChars indent v ++ rest) = some (v.inKeyOrder, rest)

theorem stopsNumber_cons {c : Char} (stops : c.isDigit = false ∧ c ∉ ['.', 'e', 'E']) (rest : List Char) :
    StopsNumber (c :: rest) := by
  intro d first
  cases first
  exact stops

/-- After an item comes a comma or a line end, so a number that is an item stops there. -/
theorem stopsNumber_indentedItems (indent : Nat) (xs : List Json) (rest : List Char) :
    StopsNumber (indentedItems indent xs ++ rest) := by
  cases xs with
  | nil => exact stopsNumber_cons (c := '\n') (by decide) _
  | cons x xs => exact stopsNumber_cons (c := ',') (by decide) _

/-- The same for the value of a field. -/
theorem stopsNumber_indentedFields (indent : Nat) (fields : Fields) (rest : List Char) :
    StopsNumber (indentedFields indent fields ++ rest) := by
  cases fields with
  | nil => exact stopsNumber_cons (c := '\n') (by decide) _
  | cons field fields => exact stopsNumber_cons (c := ',') (by decide) _

/-- A quoted string is read back, whatever follows it. -/
theorem string_quoteChars (s : String) (rest : List Char) : string (quoteChars s ++ rest) = some (s, rest) := by
  have read := stringBody_flatMap_escapeChar s.toList rest
  simp [quoteChars, string, read]

theorem fields_newline (item : Scan Json) (bound depth : Nat) (cs : List Char) :
    fields item bound (newline depth ++ cs) = fields item bound cs := by
  cases bound with
  | zero => rfl
  | succ bound => simp only [fields, field, skipBlanks_newline]

section

variable {item : Scan Json} (ignores : ∀ cs, item (skipBlanks cs) = item cs) {indent : Nat}

include ignores

theorem item_newline (depth : Nat) (cs : List Char) : item (newline depth ++ cs) = item cs := by
  rw [← ignores, skipBlanks_newline, ignores]

theorem items_newline (bound depth : Nat) (cs : List Char) :
    items item bound (newline depth ++ cs) = items item bound cs := by
  cases bound with
  | zero => rfl
  | succ bound => simp only [items, item_newline ignores]

/-- The items of an array are read one by one, up to the bracket on its own line. -/
theorem items_indented {xs : List Json} {x : Json} {bound : Nat} (reads : ∀ y ∈ x :: xs, ReadsBack item (indent + 1) y)
    (enough : xs.length < bound) (rest : List Char) :
    items item bound (indentedChars (indent + 1) x ++ (indentedItems indent xs ++ rest)) =
      some (itemsInKeyOrder (x :: xs), rest) := by
  -- Each item uses up one of the bound, and nothing else does.
  induction bound generalizing x xs with
  | zero => exact absurd enough (Nat.not_lt_zero _)
  | succ bound ih =>
      have first := reads x List.mem_cons_self _ (stopsNumber_indentedItems indent xs rest)
      cases xs with
      | nil =>
          have closes : skipBlanks (indentedItems indent [] ++ rest) = ']' :: rest := by
            rw [indentedItems, List.append_assoc, skipBlanks_newline]
            rfl
          simp [items, first, closes, itemsInKeyOrder]
      | cons y ys =>
          have later := ih (fun z member => reads z (List.mem_cons_of_mem x member)) (Nat.lt_of_succ_lt_succ enough)
          have goesOn : skipBlanks (indentedItems indent (y :: ys) ++ rest) =
              ',' :: (newline (indent + 1) ++ (indentedChars (indent + 1) y ++ (indentedItems indent ys ++ rest))) := by
            simp only [indentedItems, List.cons_append, List.append_assoc]
            exact skipBlanks_of_not_blank rfl _
          simp [items, first, goesOn, items_newline ignores, later, itemsInKeyOrder]

/-- A field is read as its key and the value after the colon. -/
theorem field_indented (key : String) {v : Json} (reads : ReadsBack item indent v) {rest : List Char}
    (stops : StopsNumber rest) :
    field item (quoteChars key ++ ':' :: ' ' :: (indentedChars indent v ++ rest)) =
      some ((key, v.inKeyOrder), rest) := by
  have quote (cs : List Char) : skipBlanks (quoteChars key ++ cs) = quoteChars key ++ cs :=
    skipBlanks_of_not_blank rfl _
  have colon (cs : List Char) : skipBlanks (':' :: cs) = ':' :: cs := skipBlanks_of_not_blank rfl _
  have blank (cs : List Char) : item (' ' :: cs) = item cs := (ignores (' ' :: cs)).symm.trans (ignores cs)
  simp [field, quote, string_quoteChars, colon, blank, reads rest stops]

/-- The fields of an object are read one by one, up to the brace on its own line. -/
theorem fields_indented {others : Fields} {key : String} {v : Json} {bound : Nat}
    (reads : ∀ field ∈ (key, v) :: others, ReadsBack item (indent + 1) field.2) (enough : others.length < bound)
    (rest : List Char) :
    fields item bound
        (quoteChars key ++ ':' :: ' ' :: (indentedChars (indent + 1) v ++ (indentedFields indent others ++ rest))) =
      some (fieldsInKeyOrder ((key, v) :: others), rest) := by
  induction bound generalizing key v others with
  | zero => exact absurd enough (Nat.not_lt_zero _)
  | succ bound ih =>
      have first := field_indented ignores key (reads (key, v) List.mem_cons_self)
        (stopsNumber_indentedFields indent others rest)
      cases others with
      | nil =>
          have closes : skipBlanks (indentedFields indent [] ++ rest) = '\x7d' :: rest := by
            rw [indentedFields, List.append_assoc, skipBlanks_newline]
            rfl
          simp [fields, first, closes, fieldsInKeyOrder]
      | cons other others =>
          obtain ⟨name, w⟩ := other
          have later := ih (fun z member => reads z (List.mem_cons_of_mem _ member)) (Nat.lt_of_succ_lt_succ enough)
          have goesOn : skipBlanks (indentedFields indent ((name, w) :: others) ++ rest) =
              ',' :: (newline (indent + 1) ++ (quoteChars name ++ ':' :: ' ' ::
                (indentedChars (indent + 1) w ++ (indentedFields indent others ++ rest)))) := by
            simp only [indentedFields, List.cons_append, List.append_assoc]
            exact skipBlanks_of_not_blank rfl _
          simp [fields, first, goesOn, fields_newline, later, fieldsInKeyOrder]

end

/-! ### Whole values -/

/-- A value that is no container is read as such, however deep it stands. -/
theorem Readable.value_eq_scalar {depth : Nat} {v : Json} (readable : Readable depth v)
    (plain : v.lead ≠ '[' ∧ v.lead ≠ '\x7b') (indent : Nat) (rest : List Char) :
    value depth (indentedChars indent v ++ rest) = scalar (indentedChars indent v ++ rest) := by
  have visible := readable.skipBlanks_eq indent rest
  cases depth with
  | zero => rw [value, visible]
  | succ depth =>
      rw [value, visible]
      split
      · rename_i same
        exact absurd (readable.leadClass_eq indent same).symm plain.1
      · rename_i same
        exact absurd (readable.leadClass_eq indent same).symm plain.2
      · rfl

/-- An integer of 64 bits is read back as an integer. -/
theorem scalar_intChars {i : Int} (least : -(UInt64.size / 2) ≤ i) (greatest : i < UInt64.size) {rest : List Char}
    (stops : StopsNumber rest) : scalar (intChars i ++ rest) = some (.num (.int i), rest) := by
  have readable : Readable 0 (.num (.int i)) := .int 0 least greatest
  rw [scalar]
  · rw [number_intChars least greatest stops]
    rfl
  all_goals
    intro left same
    exact absurd (readable.leadClass_eq 0 same) (by simp [leadClass, lead])

/-- A text has more characters than items, so the bound on items is never reached. -/
theorem length_lt_indentedItems (indent : Nat) (xs : List Json) : xs.length < (indentedItems indent xs).length := by
  induction xs with
  | nil => simp [indentedItems, newline]
  | cons x xs ih =>
      simp only [indentedItems, List.length_append, List.length_cons]
      omega

/-- The same for fields. -/
theorem length_lt_indentedFields (indent : Nat) (fields : Fields) :
    fields.length < (indentedFields indent fields).length := by
  induction fields with
  | nil => simp [indentedFields, newline]
  | cons field fields ih =>
      simp only [indentedFields, List.length_append, List.length_cons]
      omega

/-- What follows an opening bracket is read as items, unless it is the closing one. -/
theorem value_bracket (depth indent : Nat) (cs : List Char) (visible : skipBlanks cs = cs)
    (more : ∀ left, cs ≠ ']' :: left) :
    value (depth + 1) ('[' :: (newline indent ++ cs)) =
      (items (value depth) cs.length cs).map fun (xs, rest) => (.arr xs, rest) := by
  rw [value, skipBlanks_of_not_blank rfl]
  simp only [skipBlanks_newline, visible]

/-- What follows an opening brace is read as fields, unless it is the closing one. -/
theorem value_brace (depth indent : Nat) (cs : List Char) (visible : skipBlanks cs = cs)
    (more : ∀ left, cs ≠ '\x7d' :: left) :
    value (depth + 1) ('\x7b' :: (newline indent ++ cs)) =
      (fields (value depth) cs.length cs).map fun (pairs, rest) => (.obj (Fields.ofPairs pairs), rest) := by
  rw [value, skipBlanks_of_not_blank rfl]
  simp only [skipBlanks_newline, visible]

/-- What is written of a readable value is read as the value in key order, and reading stops after it. -/
theorem value_indentedChars {depth : Nat} {v : Json} (readable : Readable depth v) :
    ∀ indent, ReadsBack (value depth) indent v := by
  induction readable with
  | null depth =>
      intro indent rest _
      rw [(Readable.null depth).value_eq_scalar (by simp [lead])]
      rfl
  | bool depth b =>
      intro indent rest _
      rw [(Readable.bool depth b).value_eq_scalar (by simp [lead])]
      cases b <;> rfl
  | int depth least greatest =>
      intro indent rest stops
      rw [(Readable.int depth least greatest).value_eq_scalar (by simp [lead])]
      exact scalar_intChars least greatest stops
  | str depth s =>
      intro indent rest _
      have read := stringBody_flatMap_escapeChar s.toList rest
      rw [(Readable.str depth s).value_eq_scalar (by simp [lead])]
      simp [indentedChars, quoteChars, scalar, read, inKeyOrder]
  | @arr depth items inside ih =>
      intro indent rest _
      cases items with
      | nil => rfl
      | cons x xs =>
          have first := inside x List.mem_cons_self
          -- No value starts with a closing bracket, so this is not taken for the empty array.
          have more : ∀ left, indentedChars (indent + 1) x ++ (indentedItems indent xs ++ rest) ≠ ']' :: left := by
            intro left same
            have leads := first.leadClass_eq (indent + 1) same
            cases x <;> cases leads
          -- The bound is the length of the text, which has a character and more for each item.
          have enough : xs.length < (indentedChars (indent + 1) x ++ (indentedItems indent xs ++ rest)).length := by
            have longer := length_lt_indentedItems indent xs
            simp only [List.length_append]
            omega
          have read := items_indented (value_skipBlanks depth) (fun y member => ih y member (indent + 1)) enough rest
          have bracket := value_bracket depth (indent + 1) _ (first.skipBlanks_eq (indent + 1) _) more
          rw [read] at bracket
          simpa [indentedChars, inKeyOrder] using bracket
  | @obj depth fields inside ih =>
      intro indent rest _
      cases fields with
      | nil => rfl
      | cons field others =>
          obtain ⟨key, v⟩ := field
          let cs := quoteChars key ++ ':' :: ' ' ::
            (indentedChars (indent + 1) v ++ (indentedFields indent others ++ rest))
          have enough : others.length < cs.length := by
            have longer := length_lt_indentedFields indent others
            simp only [cs, List.length_append, List.length_cons]
            omega
          have read := fields_indented (value_skipBlanks depth) (fun field member => ih field member (indent + 1)) enough
            rest
          have brace := value_brace depth (indent + 1) cs (skipBlanks_of_not_blank rfl _) (by simp [cs, quoteChars])
          rw [read] at brace
          simpa [indentedChars, inKeyOrder, cs] using brace

/-- Reading undoes indented writing, up to the order of fields. -/
theorem read?_indented {v : Json} (readable : Readable depthLimit v) : read? v.indented = some v.inKeyOrder := by
  have reads := value_indentedChars readable 0 [] nofun
  rw [List.append_nil] at reads
  simp [read?, readChars?, indented, reads, skipBlanks]

end Json

end SassRenderLint
