/-
Module: SassRenderLint.Proofs.ListingReadBack
Layer: Proofs
Purpose: The document of lint results loses nothing that it is about. Read as JSON it is an array with one object
  for each target, in order, and each object gives back the target's name, whether it has errors, its warnings
  and the texts of its refused options. Two lists of results have the same document exactly when they agree
  on these.
Main exports: Json.member?, Report.TellsWarning, Report.Tells, Report.AgreeOnListed, Report.read?_listing,
  Report.listing_lossless
-/
import SassRenderLint.Proofs.FieldOrder
import SassRenderLint.Proofs.IndentedText
import SassRenderLint.Report.Listing

namespace SassRenderLint

namespace Json

/-! ### Members -/

/-- The value of a key, in an object that has it. -/
def member? : Json → String → Option Json
  | .obj fields, key => Fields.get? fields key
  | _, _ => none

/-- A rearranged object still has all its members, each of them rearranged. -/
theorem Rearranged.exists_member {fields : Fields} {v : Json} (moved : Rearranged (.obj fields) v)
    (distinct : (fields.map Prod.fst).Nodup) {key : String} {value : Json} (present : fields.get? key = some value) :
    ∃ found, v.member? key = some found ∧ value.Rearranged found := by
  obtain ⟨others, rfl, agree⟩ := moved.get?_of_obj distinct
  have same := agree key
  rw [present] at same
  generalize located : others.get? key = found at same
  cases same with
  | some rearranged => exact ⟨_, located, rearranged⟩

/-- A value without items and fields. -/
def IsScalar : Json → Prop
  | .arr _ | .obj _ => False
  | _ => True

/-- There is nothing to rearrange in a value without items and fields. -/
theorem Rearranged.eq_of_isScalar {v w : Json} (moved : v.Rearranged w) (scalar : v.IsScalar) : w = v := by
  cases moved with
  | arr | obj => cases scalar
  | _ => rfl

/-- In a rearranged object a scalar is found under its key as before. -/
theorem Rearranged.member?_of_isScalar {fields : Fields} {v : Json} (moved : Rearranged (.obj fields) v)
    (distinct : (fields.map Prod.fst).Nodup) {key : String} {value : Json} (present : fields.get? key = some value)
    (scalar : value.IsScalar) : v.member? key = some value := by
  obtain ⟨found, located, rearranged⟩ := moved.exists_member distinct present
  rw [located, rearranged.eq_of_isScalar scalar]

/-- A member that lists the values of some things is still such a list, in the same order. -/
theorem Rearranged.member?_map {α : Type} (xs : List α) (write : α → Json) {fields : Fields} {v : Json}
    (moved : Rearranged (.obj fields) v) (distinct : (fields.map Prod.fst).Nodup) (key : String)
    (present : fields.get? key = some (.arr (xs.map write))) :
    ∃ items, v.member? key = some (.arr items) ∧ List.Forall₂ (fun x item => (write x).Rearranged item) xs items := by
  obtain ⟨found, located, rearranged⟩ := moved.exists_member distinct present
  cases rearranged with
  | arr items => exact ⟨_, located, List.forall₂_map_left_iff.1 items⟩

theorem distinctKeysItems_map {α : Type} (write : α → Json) (distinct : ∀ x, (write x).DistinctKeys) (xs : List α) :
    DistinctKeysItems (xs.map write) := by
  induction xs with
  | nil => trivial
  | cons x xs ih => exact ⟨distinct x, ih⟩

theorem ofNat_toNat_inj {n m : UInt32} (same : some (Json.ofNat n.toNat) = some (.ofNat m.toNat)) : n = m := by
  simpa only [Json.ofNat, Option.some.injEq, Json.num.injEq, JsonNumber.int.injEq, Int.natCast_inj, UInt32.toNat_inj]
    using same

/-- A number of a place is neither too small nor too large to be read. -/
theorem readable_ofNat (depth : Nat) (n : UInt32) : Readable depth (.ofNat n.toNat) := by
  have small : n.toNat < UInt64.size := Nat.lt_trans n.toNat_lt (by decide)
  exact .int depth (by omega) (by omega)

end Json

theorem Severity.name_inj {s t : Severity} (same : s.name = t.name) : s = t := by
  cases s <;> cases t <;> simp [name] at same ⊢

namespace Report

/-! ### What an object tells -/

/-- The value tells where a warning starts and ends, its rule, its severity and its text. -/
structure TellsWarning (w : Warning) (v : Json) : Prop where
  line : v.member? "line" = some (.ofNat w.start.line.toNat)
  column : v.member? "column" = some (.ofNat w.start.column.toNat)
  endLine : v.member? "endLine" = some (.ofNat w.stop.line.toNat)
  endColumn : v.member? "endColumn" = some (.ofNat w.stop.column.toNat)
  rule : v.member? "rule" = some (.str w.rule)
  severity : v.member? "severity" = some (.str w.severity.name)
  text : v.member? "text" = some (.str w.text)

/-- The value tells why an option was refused. -/
def TellsOption (text : String) (v : Json) : Prop := v.member? "text" = some (.str text)

/-- The value tells the name of a target, whether it has errors, its warnings in order and why options were
    refused, in order. -/
structure Tells (r : LintResult) (v : Json) : Prop where
  source : v.member? "source" = some (.str r.filename)
  errored : v.member? "errored" = some (.bool (decide (0 < r.errorCount)))
  warnings : ∃ items, v.member? "warnings" = some (.arr items) ∧ List.Forall₂ TellsWarning r.warnings items
  options : ∃ items, v.member? "invalidOptionWarnings" = some (.arr items) ∧
    List.Forall₂ TellsOption r.invalidOptions items

/-- Two results agree on all that the document is about: the counts matter only in so far as there are errors. -/
def AgreeOnListed (a b : LintResult) : Prop :=
  a.filename = b.filename ∧ (0 < a.errorCount ↔ 0 < b.errorCount) ∧ a.warnings = b.warnings ∧
    a.invalidOptions = b.invalidOptions

instance (a b : LintResult) : Decidable (AgreeOnListed a b) :=
  inferInstanceAs (Decidable (a.filename = b.filename ∧ (0 < a.errorCount ↔ 0 < b.errorCount) ∧
    a.warnings = b.warnings ∧ a.invalidOptions = b.invalidOptions))

/-! ### Written objects tell all -/

/-- The JSON form of a warning tells all of it, in whatever order its fields stand. -/
theorem tellsWarning_of_rearranged {w : Warning} {v : Json} (moved : w.toJson.Rearranged v) : TellsWarning w v := by
  rw [Warning.toJson, Severity.toJson] at moved
  constructor <;> exact moved.member?_of_isScalar (by simp) (by simp [Fields.get?]) trivial

theorem tellsOption_of_rearranged {text : String} {v : Json} (moved : Json.Rearranged (.obj [("text", .str text)]) v) :
    TellsOption text v :=
  moved.member?_of_isScalar (by simp) rfl trivial

/-- So does the object of a target: warnings and refused options are arrays, whose order stays. -/
theorem tells_of_rearranged {r : LintResult} {v : Json} (moved : (entry r).Rearranged v) : Tells r v := by
  rw [entry] at moved
  obtain ⟨warnings, warned, tellWarnings⟩ :=
    moved.member?_map r.warnings Warning.toJson (by simp) "warnings" (by simp [Fields.get?])
  obtain ⟨options, refused, tellOptions⟩ :=
    moved.member?_map r.invalidOptions (fun text => .obj [("text", .str text)]) (by simp) "invalidOptionWarnings"
      (by simp [Fields.get?])
  exact {
    source := moved.member?_of_isScalar (by simp) rfl trivial
    errored := moved.member?_of_isScalar (by simp) (by simp [Fields.get?, LintResult.hasErrors]) trivial
    warnings := ⟨warnings, warned, tellWarnings.imp fun _ _ => tellsWarning_of_rearranged⟩
    options := ⟨options, refused, tellOptions.imp fun _ _ => tellsOption_of_rearranged⟩ }

/-! ### The document is read -/

/-- No object in the document has a key twice, so key order loses nothing. -/
theorem distinctKeys_entry (r : LintResult) : (entry r).DistinctKeys := by
  have warnings := Json.distinctKeysItems_map Warning.toJson (fun w => by
    simp [Warning.toJson, Severity.toJson, Json.ofNat, Json.DistinctKeys, Json.DistinctKeysFields]) r.warnings
  have options := Json.distinctKeysItems_map (fun text : String => .obj [("text", .str text)]) (fun text => by
    simp [Json.DistinctKeys, Json.DistinctKeysFields]) r.invalidOptions
  simp [entry, Json.DistinctKeys, Json.DistinctKeysFields, warnings, options]

theorem readable_toJson (depth : Nat) (w : Warning) : Json.Readable (depth + 1) w.toJson :=
  .obj (by simp [Json.readable_ofNat, Severity.toJson, Json.Readable.str])

/-- The object of a target is nested three deep and has no numbers but lines and columns. -/
theorem readable_entry (depth : Nat) (r : LintResult) : Json.Readable (depth + 3) (entry r) := by
  have warnings : Json.Readable (depth + 2) (.arr (r.warnings.map Warning.toJson)) :=
    .arr (List.forall_mem_map.2 fun w _ => readable_toJson depth w)
  have options : Json.Readable (depth + 2) (.arr (r.invalidOptions.map fun text => .obj [("text", .str text)])) :=
    .arr (List.forall_mem_map.2 fun text _ => .obj (by simp [Json.Readable.str]))
  exact .obj (by simp [Json.Readable.str, Json.Readable.bool, warnings, options])

/-- Reading the document gives one value for each result, in order, that tells it. -/
theorem read?_listing (results : List LintResult) :
    ∃ items, Json.read? (listing results) = some (.arr items) ∧ List.Forall₂ Tells results items := by
  have readable : Json.Readable Json.depthLimit (.arr (results.map entry)) :=
    .arr (List.forall_mem_map.2 fun r _ => readable_entry 123 r)
  have moved := Json.rearranged_itemsInKeyOrder (Json.distinctKeysItems_map entry distinctKeys_entry results)
  refine ⟨_, Json.read?_indented readable, ?_⟩
  exact (List.forall₂_map_left_iff.1 moved).imp fun _ _ => tells_of_rearranged

/-! ### What is told determines what is agreed on -/

/-- A value tells at most one warning. -/
theorem leftUnique_tellsWarning : Relator.LeftUnique TellsWarning := by
  intro w u v first second
  have line := Json.ofNat_toNat_inj (first.line.symm.trans second.line)
  have column := Json.ofNat_toNat_inj (first.column.symm.trans second.column)
  have endLine := Json.ofNat_toNat_inj (first.endLine.symm.trans second.endLine)
  have endColumn := Json.ofNat_toNat_inj (first.endColumn.symm.trans second.endColumn)
  have rule := first.rule.symm.trans second.rule
  have severity := first.severity.symm.trans second.severity
  have text := first.text.symm.trans second.text
  simp only [Option.some.injEq, Json.str.injEq] at rule severity text
  obtain ⟨⟨_, _⟩, ⟨_, _⟩, _, _, _⟩ := w
  obtain ⟨⟨_, _⟩, ⟨_, _⟩, _, _, _⟩ := u
  rw [Warning.mk.injEq, Position.mk.injEq, Position.mk.injEq]
  exact ⟨⟨line, column⟩, ⟨endLine, endColumn⟩, rule, Severity.name_inj severity, text⟩

/-- A value tells at most one refused option. -/
theorem leftUnique_tellsOption : Relator.LeftUnique TellsOption := by
  intro text other v first second
  simpa using first.symm.trans second

/-- Two results that are told by one value agree on all that is listed. -/
theorem Tells.agree {a b : LintResult} {v : Json} (first : Tells a v) (second : Tells b v) : AgreeOnListed a b := by
  have source := first.source.symm.trans second.source
  have errored := first.errored.symm.trans second.errored
  obtain ⟨warnings, warned, toldWarnings⟩ := first.warnings
  obtain ⟨_, warnedAgain, toldAgain⟩ := second.warnings
  cases warned.symm.trans warnedAgain
  obtain ⟨options, refused, toldOptions⟩ := first.options
  obtain ⟨_, refusedAgain, toldOptionsAgain⟩ := second.options
  cases refused.symm.trans refusedAgain
  refine ⟨by simpa using source, by simpa using errored, ?_, ?_⟩
  · exact List.left_unique_forall₂' leftUnique_tellsWarning toldWarnings toldAgain
  · exact List.left_unique_forall₂' leftUnique_tellsOption toldOptions toldOptionsAgain

/-- Lists that are told by the same values agree item by item. -/
theorem agree_of_tells {results others : List LintResult} {items : List Json} (first : List.Forall₂ Tells others items)
    (second : List.Forall₂ Tells results items) : List.Forall₂ AgreeOnListed others results := by
  induction first generalizing results with
  | nil =>
      cases second
      exact .nil
  | cons told _ ih =>
      cases second with
      | cons toldAgain rest => exact .cons (told.agree toldAgain) (ih rest)

/-- Conversely, what is not listed leaves no trace in the object. -/
theorem AgreeOnListed.entry_eq {a b : LintResult} (agree : AgreeOnListed a b) : entry a = entry b := by
  obtain ⟨source, errored, warnings, options⟩ := agree
  simp [entry, LintResult.hasErrors, source, errored, warnings, options]

/-- The document of some results can be read, as an array that tells each of them in order. Two lists of results
    have the same document exactly when they agree on all that is told. -/
theorem listing_lossless (results : List LintResult) :
    (∃ items, Json.read? (listing results) = some (.arr items) ∧ List.Forall₂ Tells results items) ∧
    ∀ others, listing others = listing results ↔ List.Forall₂ AgreeOnListed others results := by
  refine ⟨read?_listing results, fun others => ⟨fun same => ?_, fun agree => ?_⟩⟩
  · -- One text is read as one array, and that tells both lists.
    obtain ⟨items, read, tells⟩ := read?_listing results
    obtain ⟨_, readOthers, tellsOthers⟩ := read?_listing others
    rw [same, read] at readOthers
    cases readOthers
    exact agree_of_tells tellsOthers tells
  · have entries : List.Forall₂ (· = ·) (others.map entry) (results.map entry) :=
      List.forall₂_map_left_iff.2 (List.forall₂_map_right_iff.2 (agree.imp fun _ _ => AgreeOnListed.entry_eq))
    rw [List.forall₂_eq_eq_eq] at entries
    rw [listing, listing, entries]

end Report

end SassRenderLint
