/-
Module: SassRenderLint.Proofs.JsonText
Layer: Proofs
Purpose: The compact text of a JSON value determines the value. A quoted string is read back by the
  string reader together with whatever follows it, so quoting is injective even inside a longer text.
  The text of an integer ends where the digits end. Every other text closes itself, and its first
  character tells which kind of value it is. Values that hold binary64 numbers are left out.
Main exports: Json.stringBody_flatMap_escapeChar, Json.quoteChars_append_inj, Json.Integral,
  Json.compactChars_append_inj, Json.compact_inj
-/
import SassRenderLint.Json.Reader
import SassRenderLint.Json.Writer

namespace SassRenderLint

namespace Json

open Scan

/-! ### Strings

`escapeChar_cases` says once what the escape of a character can look like; the string reader undoes
each of the three forms. -/

/-- Four hexadecimal digits that name no surrogate are read as one character, whatever follows. -/
theorem stringBody_unicode {a b c d : Char} {n : Nat} (rest : List Char)
    (digits : hex4? a b c d = some n) (plain : n < 0xD800) :
    stringBody ('\\' :: 'u' :: a :: b :: c :: d :: rest) = prepend (Char.ofNat n) (stringBody rest) := by
  have high : isHighSurrogate n = false := by
    simp [isHighSurrogate]
    omega
  have low : isLowSurrogate n = false := by
    simp [isLowSurrogate]
    omega
  rw [stringBody.eq_def]
  split <;> grind

/-- A one-letter escape is read as the character it stands for. -/
theorem stringBody_plainEscape {e c : Char} (rest : List Char) (known : plainEscape? e = some c) :
    stringBody ('\\' :: e :: rest) = prepend c (stringBody rest) := by
  have notUnicode : e ≠ 'u' := by
    rintro rfl
    simp [plainEscape?] at known
  rw [stringBody.eq_def]
  split <;> grind

/-- A character that needs no escape is read as itself. -/
theorem stringBody_plain {c : Char} (rest : List Char) (quote : c ≠ '"') (backslash : c ≠ '\\')
    (control : ¬ c.toNat < 0x20) : stringBody (c :: rest) = prepend c (stringBody rest) := by
  rw [stringBody.eq_def]
  split <;> grind

theorem hexValue?_hexDigit : ∀ n < 16, hexValue? (hexDigit n) = some n := by decide

/-- The four digits written for a control character are read as its number. -/
theorem hex4?_control {n : Nat} (control : n < 0x20) :
    hex4? '0' '0' (hexDigit (n / 16)) (hexDigit (n % 16)) = some n := by
  have zero : hexValue? '0' = some 0 := by decide
  have high := hexValue?_hexDigit (n / 16) (by omega)
  have low := hexValue?_hexDigit (n % 16) (by omega)
  simp [hex4?, zero, high, low]
  omega

/-- The three forms that a character inside a string can take. -/
theorem escapeChar_cases (c : Char) :
    (∃ e, plainEscape? e = some c ∧ escapeChar c = ['\\', e]) ∨
      (c.toNat < 0x20 ∧
        escapeChar c = ['\\', 'u', '0', '0', hexDigit (c.toNat / 16), hexDigit (c.toNat % 16)]) ∨
      (c ≠ '"' ∧ c ≠ '\\' ∧ ¬ c.toNat < 0x20 ∧ escapeChar c = [c]) := by
  unfold escapeChar
  repeat' split
  all_goals grind [plainEscape?]

/-- Reading undoes the escape of one character. -/
theorem stringBody_escapeChar (c : Char) (rest : List Char) :
    stringBody (escapeChar c ++ rest) = prepend c (stringBody rest) := by
  rcases escapeChar_cases c with
    ⟨e, known, escaped⟩ | ⟨control, escaped⟩ | ⟨quote, backslash, control, escaped⟩
  · rw [escaped]
    exact stringBody_plainEscape rest known
  · have same := stringBody_unicode rest (hex4?_control control) (by omega)
    rw [Char.ofNat_toNat] at same
    rw [escaped]
    exact same
  · rw [escaped]
    exact stringBody_plain rest quote backslash control

/-- Reading undoes the escapes of a whole string, and stops at its closing quote. -/
theorem stringBody_flatMap_escapeChar (cs rest : List Char) :
    stringBody (cs.flatMap escapeChar ++ '"' :: rest) = some (cs, rest) := by
  induction cs with
  | nil => rfl
  | cons c cs ih =>
      rw [List.flatMap_cons, List.append_assoc, stringBody_escapeChar, ih]
      rfl

/-- Two texts that start with quoted strings and agree have the same strings and the same rests. -/
theorem quoteChars_append_inj {s t : String} {left right : List Char}
    (same : quoteChars s ++ left = quoteChars t ++ right) : s = t ∧ left = right := by
  have inside :
      s.toList.flatMap escapeChar ++ '"' :: left = t.toList.flatMap escapeChar ++ '"' :: right := by
    simpa [quoteChars] using same
  have read := congrArg stringBody inside
  rw [stringBody_flatMap_escapeChar, stringBody_flatMap_escapeChar] at read
  simpa [String.toList_inj] using read

/-! ### Integers -/

/-- The text after a number does not go on with a digit. -/
def StopsDigits (rest : List Char) : Prop := ∀ c ∈ rest.head?, c.isDigit = false

/-- Where no digit follows, the digits of a number can be told from what comes after them. -/
theorem takeWhile_isDigit_toDigits (n : Nat) {rest : List Char} (stops : StopsDigits rest) :
    (Nat.toDigits 10 n ++ rest).takeWhile Char.isDigit = Nat.toDigits 10 n := by
  have digits : ∀ c ∈ Nat.toDigits 10 n, c.isDigit = true :=
    fun c member => Nat.isDigit_of_mem_toDigits (by decide) (by decide) member
  rw [List.takeWhile_append_of_pos digits]
  cases rest with
  | nil => simp
  | cons c rest => simp [stops c rfl]

/-- Two texts that start with numbers and agree start with the same number. -/
theorem toDigits_append_inj {m n : Nat} {left right : List Char} (stopsLeft : StopsDigits left)
    (stopsRight : StopsDigits right) (same : Nat.toDigits 10 m ++ left = Nat.toDigits 10 n ++ right) :
    m = n ∧ left = right := by
  have digits : Nat.toDigits 10 m = Nat.toDigits 10 n := by
    rw [← takeWhile_isDigit_toDigits m stopsLeft, ← takeWhile_isDigit_toDigits n stopsRight, same]
  have value := congrArg (fun ds => Nat.ofDigitChars 10 ds 0) digits
  simp only [Nat.ofDigitChars_ten_toDigits] at value
  exact ⟨value, List.append_cancel_left (digits ▸ same)⟩

/-- The digits of a number start with a digit. -/
theorem toDigits_eq_cons (n : Nat) : ∃ d ds, Nat.toDigits 10 n = d :: ds ∧ d.isDigit = true := by
  cases digits : Nat.toDigits 10 n with
  | nil => exact absurd digits Nat.toDigits_ne_nil
  | cons d ds =>
      have member : d ∈ Nat.toDigits 10 n := by simp [digits]
      exact ⟨d, ds, rfl, Nat.isDigit_of_mem_toDigits (by decide) (by decide) member⟩

/-- Natural numbers have no sign, so they are told from negative ones by the first character. -/
theorem toDigits_append_ne_minus (n : Nat) (left right : List Char) :
    Nat.toDigits 10 n ++ left ≠ '-' :: right := by
  intro same
  obtain ⟨d, ds, digits, isDigit⟩ := toDigits_eq_cons n
  rw [digits] at same
  obtain ⟨rfl, -⟩ := List.cons.inj same
  simp at isDigit

/-- Two texts that start with integers and agree have the same integers and the same rests. -/
theorem intChars_append_inj {i j : Int} {left right : List Char} (stopsLeft : StopsDigits left)
    (stopsRight : StopsDigits right) (same : intChars i ++ left = intChars j ++ right) :
    i = j ∧ left = right := by
  unfold intChars at same
  split at same <;> split at same
  · obtain ⟨absolute, rest⟩ := toDigits_append_inj stopsLeft stopsRight (List.cons.inj same).2
    exact ⟨by omega, rest⟩
  · exact absurd same.symm (toDigits_append_ne_minus _ _ _)
  · exact absurd same (toDigits_append_ne_minus _ _ _)
  · obtain ⟨absolute, rest⟩ := toDigits_append_inj stopsLeft stopsRight same
    exact ⟨by omega, rest⟩

/-! ### Whole values -/

mutual

/-- Whether all numbers in a value are integers. -/
def Integral : Json → Prop
  | .num (.float _) => False
  | .arr items => IntegralItems items
  | .obj fields => IntegralFields fields
  | _ => True

def IntegralItems : List Json → Prop
  | [] => True
  | x :: xs => Integral x ∧ IntegralItems xs

def IntegralFields : List (String × Json) → Prop
  | [] => True
  | (_, v) :: fields => Integral v ∧ IntegralFields fields

end

/-- The kind of value that a character starts. Both truth values count as one kind. -/
def leadClass (c : Char) : Char :=
  if c.isDigit ∨ c = '-' then '0'
  else if c = 'f' then 't'
  else c

/-- The kind of a value, named by the class of the first character of its text. -/
def lead : Json → Char
  | .null => 'n'
  | .bool _ => 't'
  | .num _ => '0'
  | .str _ => '"'
  | .arr _ => '['
  | .obj _ => '\x7b'

theorem intChars_lead (i : Int) : ∃ c rest, intChars i = c :: rest ∧ leadClass c = '0' := by
  unfold intChars
  split
  · exact ⟨'-', _, rfl, rfl⟩
  · obtain ⟨d, ds, digits, isDigit⟩ := toDigits_eq_cons i.natAbs
    exact ⟨d, ds, digits, by simp [leadClass, isDigit]⟩

/-- The first character of a text tells the kind of its value. -/
theorem compactChars_lead :
    ∀ {v : Json}, v.Integral → ∃ c rest, compactChars v = c :: rest ∧ leadClass c = lead v
  | .null, _ => ⟨'n', _, rfl, rfl⟩
  | .bool true, _ => ⟨'t', _, rfl, rfl⟩
  | .bool false, _ => ⟨'f', _, rfl, rfl⟩
  | .num (.int i), _ => intChars_lead i
  | .num (.float _), integral => False.elim integral
  | .str _, _ => ⟨'"', _, rfl, rfl⟩
  | .arr [], _ => ⟨'[', _, rfl, rfl⟩
  | .arr (_ :: _), _ => ⟨'[', _, rfl, rfl⟩
  | .obj [], _ => ⟨'\x7b', _, rfl, rfl⟩
  | .obj (_ :: _), _ => ⟨'\x7b', _, rfl, rfl⟩

/-- Texts that agree are texts of values of one kind. -/
theorem lead_eq_of_append {v w : Json} {left right : List Char} (first : v.Integral) (second : w.Integral)
    (same : compactChars v ++ left = compactChars w ++ right) : lead v = lead w := by
  obtain ⟨c, cs, startsV, leadV⟩ := compactChars_lead first
  obtain ⟨d, ds, startsW, leadW⟩ := compactChars_lead second
  rw [startsV, startsW] at same
  rw [← leadV, ← leadW, (List.cons.inj same).1]

/-- No value starts like the end of an array, so an empty array is not the start of another one. -/
theorem compactChars_append_ne_bracket {v : Json} (integral : v.Integral) (left right : List Char) :
    compactChars v ++ left ≠ ']' :: right := by
  intro same
  obtain ⟨c, cs, starts, leads⟩ := compactChars_lead integral
  rw [starts] at same
  obtain ⟨rfl, -⟩ := List.cons.inj same
  cases v <;> simp [lead, leadClass] at leads

/-- After an item comes a comma or a bracket, never a digit. -/
theorem stopsDigits_compactItems (xs : List Json) (rest : List Char) :
    StopsDigits (compactItems xs ++ rest) := by
  cases xs <;> simp [compactItems, StopsDigits]

/-- The same for the value of a field. -/
theorem stopsDigits_compactFields (fields : List (String × Json)) (rest : List Char) :
    StopsDigits (compactFields fields ++ rest) := by
  cases fields <;> simp [compactFields, StopsDigits]

mutual

/-- Two texts that start with values and agree have the same values and the same rests. -/
theorem compactChars_append_inj :
    ∀ {v w : Json} {left right : List Char}, v.Integral → w.Integral →
      StopsDigits left → StopsDigits right → compactChars v ++ left = compactChars w ++ right →
        v = w ∧ left = right
  | .null, w, left, right, first, second, _, _, same => by
      have leads := lead_eq_of_append first second same
      cases w <;> simp [lead] at leads
      simpa [compactChars] using same
  | .bool b, w, left, right, first, second, _, _, same => by
      have leads := lead_eq_of_append first second same
      cases w <;> simp [lead] at leads
      rename_i c
      cases b <;> cases c <;> simp [compactChars] at same ⊢
      · exact same
      · exact same
  | .num (.int i), w, left, right, first, second, stopsLeft, stopsRight, same => by
      have leads := lead_eq_of_append first second same
      cases w <;> simp [lead] at leads
      rename_i n
      cases n with
      | int j =>
          obtain ⟨rfl, after⟩ := intChars_append_inj stopsLeft stopsRight same
          exact ⟨rfl, after⟩
      | float x => exact False.elim second
  | .num (.float _), _, _, _, first, _, _, _, _ => False.elim first
  | .str s, w, left, right, first, second, _, _, same => by
      have leads := lead_eq_of_append first second same
      cases w <;> simp [lead] at leads
      obtain ⟨rfl, after⟩ := quoteChars_append_inj same
      exact ⟨rfl, after⟩
  | .arr xs, w, left, right, first, second, _, _, same => by
      have leads := lead_eq_of_append first second same
      cases w <;> simp [lead] at leads
      rename_i ys
      match xs, ys, first, second, same with
      | [], [], _, _, same => simpa [compactChars] using same
      | [], y :: ys, _, second, same =>
          simp [compactChars] at same
          exact absurd same.symm (compactChars_append_ne_bracket second.1 _ _)
      | x :: xs, [], first, _, same =>
          simp [compactChars] at same
          exact absurd same (compactChars_append_ne_bracket first.1 _ _)
      | x :: xs, y :: ys, first, second, same =>
          simp only [compactChars, List.cons_append, List.append_assoc, List.cons.injEq, true_and] at same
          obtain ⟨rfl, rest⟩ := compactChars_append_inj first.1 second.1
            (stopsDigits_compactItems xs left) (stopsDigits_compactItems ys right) same
          obtain ⟨rfl, after⟩ := compactItems_append_inj first.2 second.2 rest
          exact ⟨rfl, after⟩
  | .obj fields, w, left, right, first, second, _, _, same => by
      have leads := lead_eq_of_append first second same
      cases w <;> simp [lead] at leads
      rename_i others
      match fields, others, first, second, same with
      | [], [], _, _, same => simpa [compactChars] using same
      | [], (_, _) :: _, _, _, same => simp [compactChars, quoteChars] at same
      | (_, _) :: _, [], _, _, same => simp [compactChars, quoteChars] at same
      | (k, x) :: fields, (l, y) :: others, first, second, same =>
          simp only [compactChars, List.cons_append, List.append_assoc, List.cons.injEq, true_and] at same
          obtain ⟨rfl, colon⟩ := quoteChars_append_inj same
          obtain ⟨rfl, rest⟩ := compactChars_append_inj first.1 second.1
            (stopsDigits_compactFields fields left) (stopsDigits_compactFields others right)
            (List.cons.inj colon).2
          obtain ⟨rfl, after⟩ := compactFields_append_inj first.2 second.2 rest
          exact ⟨rfl, after⟩

/-- The same for the items of an array after its first one. -/
theorem compactItems_append_inj :
    ∀ {xs ys : List Json} {left right : List Char}, IntegralItems xs → IntegralItems ys →
      compactItems xs ++ left = compactItems ys ++ right → xs = ys ∧ left = right
  | [], [], _, _, _, _, same => by simpa [compactItems] using same
  | [], _ :: _, _, _, _, _, same => by simp [compactItems] at same
  | _ :: _, [], _, _, _, _, same => by simp [compactItems] at same
  | x :: xs, y :: ys, left, right, first, second, same => by
      simp only [compactItems, List.cons_append, List.append_assoc, List.cons.injEq, true_and] at same
      obtain ⟨rfl, rest⟩ := compactChars_append_inj first.1 second.1
        (stopsDigits_compactItems xs left) (stopsDigits_compactItems ys right) same
      obtain ⟨rfl, after⟩ := compactItems_append_inj first.2 second.2 rest
      exact ⟨rfl, after⟩

/-- The same for the fields of an object after its first one. -/
theorem compactFields_append_inj :
    ∀ {fields others : List (String × Json)} {left right : List Char}, IntegralFields fields →
      IntegralFields others → compactFields fields ++ left = compactFields others ++ right →
        fields = others ∧ left = right
  | [], [], _, _, _, _, same => by simpa [compactFields] using same
  | [], (_, _) :: _, _, _, _, _, same => by simp [compactFields] at same
  | (_, _) :: _, [], _, _, _, _, same => by simp [compactFields] at same
  | (k, x) :: fields, (l, y) :: others, left, right, first, second, same => by
      simp only [compactFields, List.cons_append, List.append_assoc, List.cons.injEq, true_and] at same
      obtain ⟨rfl, colon⟩ := quoteChars_append_inj same
      obtain ⟨rfl, rest⟩ := compactChars_append_inj first.1 second.1
        (stopsDigits_compactFields fields left) (stopsDigits_compactFields others right)
        (List.cons.inj colon).2
      obtain ⟨rfl, after⟩ := compactFields_append_inj first.2 second.2 rest
      exact ⟨rfl, after⟩

end

/-- Values without binary64 numbers are told apart by their compact text. -/
theorem compact_inj {v w : Json} (first : v.Integral) (second : w.Integral)
    (same : v.compact = w.compact) : v = w := by
  have chars : compactChars v ++ [] = compactChars w ++ [] := by
    simpa [compact] using congrArg String.toList same
  have nothing : StopsDigits [] := by simp [StopsDigits]
  exact (compactChars_append_inj first second nothing nothing chars).1

end Json

end SassRenderLint
