/-
Module: SassRenderLint.Proofs.OptionsRoundTrip
Layer: Proofs
Purpose: Writing options and reading them lose nothing. Taking over a field changes what the written options
  have under its name to the value given, and nothing else; so after all fields of an object the written
  options have what the object has, and elsewhere what they had before. Read back, written options are the
  same options, whatever the order of their fields.
Main exports: RuleOptions.get?_toFields_of_withField, RuleOptions.get?_toFields_of_withFields,
  RuleOptions.eq_of_get?_toFields, RuleOptions.missing, RuleOptions.parse_toFields_round_trip
-/
import SassRenderLint.Proofs.FieldMaps
import SassRenderLint.Proofs.SchemaAgreement

namespace SassRenderLint

theorem CompilerConfig.toJson_inj {c d : CompilerConfig} (same : c.toJson = d.toJson) : c = d := by
  cases c <;> cases d <;> simp_all [toJson]

namespace RuleOptions

/-! ### Taking over fields -/

/-- The five fields have five names. -/
theorem nodup_toFields (o : RuleOptions) : (o.toFields.map Prod.fst).Nodup := by
  simp [toFields]

/-- What is written has exactly the known fields. -/
theorem get?_toFields_eq_none_iff (o : RuleOptions) (key : String) :
    o.toFields.get? key = none ↔ key ∉ fieldNames := by
  rw [Fields.get?_eq_none_iff]
  rfl

/-- Taking over a field puts its value in the place of the one that was there. -/
theorem toFields_of_withField {o o' : RuleOptions} {name : String} {value : Json}
    (taken : o.withField name value = .ok o') :
    ∃ before old after, o.toFields = before ++ (name, old) :: after ∧
      o'.toFields = before ++ (name, value) :: after := by
  unfold withField at taken
  split at taken
  · rename_i isSync
    obtain ⟨b, read, rfl⟩ := bind_pure_eq_ok_iff.1 taken
    rw [isSync, asBool_eq_ok_iff.1 read]
    exact ⟨o.toFields.take 0, _, _, rfl, rfl⟩
  split at taken
  · rename_i isConfig
    obtain ⟨c, read, rfl⟩ := bind_pure_eq_ok_iff.1 taken
    rw [isConfig, config_eq_ok_iff.1 read]
    exact ⟨o.toFields.take 1, _, _, rfl, rfl⟩
  split at taken
  · rename_i isCheck
    obtain ⟨b, read, rfl⟩ := bind_pure_eq_ok_iff.1 taken
    rw [isCheck, asBool_eq_ok_iff.1 read]
    exact ⟨o.toFields.take 2, _, _, rfl, rfl⟩
  split at taken
  · rename_i isDisallowed
    obtain ⟨names, read, rfl⟩ := bind_pure_eq_ok_iff.1 taken
    rw [isDisallowed, asNames_eq_ok_iff.1 read]
    exact ⟨o.toFields.take 3, _, _, rfl, rfl⟩
  split at taken
  · rename_i isAdditional
    obtain ⟨names, read, rfl⟩ := bind_pure_eq_ok_iff.1 taken
    rw [isAdditional, asNames_eq_ok_iff.1 read]
    exact ⟨o.toFields.take 4, _, _, rfl, rfl⟩
  · cases taken

/-- A field that is taken over is written as it was given, and the others as before. -/
theorem get?_toFields_of_withField {o o' : RuleOptions} {name : String} {value : Json}
    (taken : o.withField name value = .ok o') (key : String) :
    o'.toFields.get? key = if key = name then some value else o.toFields.get? key := by
  obtain ⟨before, old, after, written, rewritten⟩ := toFields_of_withField taken
  rw [written, rewritten, Fields.get?_append, Fields.get?_append, Fields.get?, Fields.get?]
  by_cases same : key = name
  · subst same
    have absent : before.get? key = none := by
      have distinct := nodup_toFields o
      rw [written, List.map_append, List.map_cons, List.nodup_middle] at distinct
      apply Fields.get?_eq_none_iff.2
      intro mem
      exact (List.nodup_cons.1 distinct).1 (List.mem_append_left _ mem)
    simp [absent]
  · simp [same, Ne.symm same]

/-- After all fields of an object the written options have what the object has, and elsewhere what they had. -/
theorem get?_toFields_of_withFields {o o' : RuleOptions} {fields : Fields} (distinct : (fields.map Prod.fst).Nodup)
    (taken : o.withFields fields = .ok o') (key : String) :
    o'.toFields.get? key = (fields.get? key).or (o.toFields.get? key) := by
  induction fields generalizing o with
  | nil =>
      cases taken
      rfl
  | cons field rest ih =>
      obtain ⟨name, value⟩ := field
      obtain ⟨absent, distinct⟩ := List.nodup_cons.1 distinct
      rw [withFields] at taken
      cases first : o.withField name value with
      | error e =>
          rw [first] at taken
          cases taken
      | ok next =>
          rw [first] at taken
          rw [ih distinct taken, get?_toFields_of_withField first, Fields.get?]
          by_cases same : name = key
          · -- The name does not come again, so its value stays.
            subst same
            simp [Fields.get?_eq_none_iff.2 absent]
          · simp [same, Ne.symm same]

/-! ### Options and their fields -/

/-- Options are determined by what is written. -/
theorem eq_of_get?_toFields {o o' : RuleOptions} (agree : ∀ key, o.toFields.get? key = o'.toFields.get? key) :
    o = o' := by
  have sync := agree "sync"
  have config := agree "sassOptions"
  have check := agree "checkUndefinedFunctions"
  have disallowed := agree "disallowedKnownCssFunctions"
  have additional := agree "additionalKnownCssFunctions"
  simp [toFields, Fields.get?] at sync config check disallowed additional
  obtain ⟨_, _, _, _, _⟩ := o
  obtain ⟨_, _, _, _, _⟩ := o'
  simp only [mk.injEq]
  have strings : ∀ s t, Json.str s = Json.str t → s = t := by simp
  exact ⟨sync, CompilerConfig.toJson_inj config, check, (List.map_inj_right strings).1 disallowed,
    (List.map_inj_right strings).1 additional⟩

/-- An object is accepted when its fields are, one after the other, on top of the defaults. -/
theorem parse_obj_iff (fields : Fields) (o : RuleOptions) :
    parse (.obj fields) = .ok (some o) ↔ defaults.withFields fields = .ok o := by
  rw [parse]
  cases defaults.withFields fields <;> simp

/-- Whatever the options, each field is written with a value that it may have. -/
theorem fieldDescribed_of_mem_toFields (o : RuleOptions) : ∀ field ∈ o.toFields, FieldDescribed field.1 field.2 := by
  have config := (exists_toJson_iff o.sassOptions.toJson).1 ⟨o.sassOptions, rfl⟩
  simp [toFields, FieldDescribed, config]

/-- Written options, in any order, are read as what they are. -/
theorem parse_of_perm_toFields {o : RuleOptions} {fields : Fields} (order : fields.Perm o.toFields) :
    parse (.obj fields) = .ok (some o) := by
  have described : ∀ field ∈ fields, FieldDescribed field.1 field.2 := by
    intro field mem
    exact fieldDescribed_of_mem_toFields o field (order.mem_iff.1 mem)
  obtain ⟨o', taken⟩ := (withFields_ok_iff defaults fields).2 described
  have distinct : (fields.map Prod.fst).Nodup := (order.map Prod.fst).nodup_iff.2 (nodup_toFields o)
  have same : o' = o := by
    apply eq_of_get?_toFields
    intro key
    rw [get?_toFields_of_withFields distinct taken, Fields.get?_perm order distinct]
    cases found : o.toFields.get? key with
    | some value => rfl
    | none =>
        -- What has no field is no name of a field, so it has no default either.
        exact (get?_toFields_eq_none_iff defaults key).2 ((get?_toFields_eq_none_iff o key).1 found)
  rw [parse_obj_iff, taken, same]

/-- The defaults of the fields that an object does not have. -/
def missing (fields : Fields) : Fields := defaults.toFields.filter fun field => field.1 ∉ fields.map Prod.fst

theorem nodup_append_missing {fields : Fields} (distinct : (fields.map Prod.fst).Nodup) :
    ((fields ++ missing fields).map Prod.fst).Nodup := by
  rw [List.map_append]
  apply List.nodup_append.2 ⟨distinct, _, _⟩
  · exact (nodup_toFields defaults).sublist (List.filter_sublist.map Prod.fst)
  · intro key mem other memMissing same
    obtain ⟨field, kept, rfl⟩ := List.mem_map.1 memMissing
    simp only [missing, List.mem_filter, decide_eq_true_eq] at kept
    exact kept.2 (same ▸ mem)

/-- What an object does not have is filled in from the defaults. -/
theorem get?_append_missing (fields : Fields) (key : String) :
    Fields.get? (fields ++ missing fields) key = (fields.get? key).or (defaults.toFields.get? key) := by
  have kept := Fields.get?_filter (fun name => name ∉ fields.map Prod.fst) defaults.toFields key
  rw [Fields.get?_append, missing, kept]
  cases found : fields.get? key with
  | some value => rfl
  | none => simp [Fields.get?_eq_none_iff.1 found]

/-- Options that were read are written as what was given, with the defaults of what was not. -/
theorem perm_toFields_of_parse {fields : Fields} {o : RuleOptions} (distinct : (fields.map Prod.fst).Nodup)
    (read : parse (.obj fields) = .ok (some o)) : o.toFields.Perm (fields ++ missing fields) := by
  apply Fields.perm_of_get? (nodup_toFields o) (nodup_append_missing distinct)
  intro key
  rw [get?_toFields_of_withFields distinct ((parse_obj_iff fields o).1 read), get?_append_missing]

/-- Options that are written and read are the same options, in whatever order the fields stand. Options that were
    read from an object are written as the object with exactly the fields it does not have filled in by their
    defaults: in some order, and in key order if the object is. So every value stays what it was given as; a
    string names a module, and an object is the compiler's options themselves. -/
theorem parse_toFields_round_trip :
    (∀ o : RuleOptions, parse o.toJson = .ok (some o) ∧
      ∀ fields : Fields, fields.Perm o.toFields → parse (.obj fields) = .ok (some o)) ∧
    ∀ (fields : Fields) (o : RuleOptions), (fields.map Prod.fst).Nodup → parse (.obj fields) = .ok (some o) →
      o.toFields.Perm (fields ++ missing fields) ∧
      (fields.Sorted →
        Fields.ofPairs o.toFields = (missing fields).foldl (fun all field => all.insert field.1 field.2) fields) ∧
      (∀ specifier, ("sassOptions", .str specifier) ∈ fields → o.sassOptions = .fromModule specifier) ∧
      ∀ base, ("sassOptions", .obj base) ∈ fields → o.sassOptions = .inline base := by
  constructor
  · intro o
    exact ⟨parse_of_perm_toFields (.refl _), fun fields order => parse_of_perm_toFields order⟩
  · intro fields o distinct read
    have written := perm_toFields_of_parse distinct read
    have config : ∀ c : CompilerConfig, ("sassOptions", c.toJson) ∈ fields → o.sassOptions = c := by
      intro c mem
      have kept : ("sassOptions", c.toJson) ∈ o.toFields := written.mem_iff.2 (List.mem_append_left _ mem)
      have same : c.toJson = o.sassOptions.toJson := by simpa [toFields] using kept
      exact (CompilerConfig.toJson_inj same).symm
    refine ⟨written, ?_, ?_, ?_⟩
    · intro sorted
      apply Fields.Sorted.eq_of_perm _ (sorted.foldl_insert (missing fields))
      · calc Fields.ofPairs o.toFields
          List.Perm _ o.toFields := (Fields.perm_ofPairs (nodup_toFields o)).symm
          List.Perm _ (fields ++ missing fields) := written
          List.Perm _ _ := Fields.perm_foldl_insert (nodup_append_missing distinct)
      · exact Fields.Sorted.foldl_insert .nil o.toFields
    · intro specifier mem
      exact config (.fromModule specifier) mem
    · intro base mem
      exact config (.inline base) mem

/-- An object of two fields in key order, the second an object with an array in it. -/
theorem parse_toFields_round_trip_nested :
    let base : Fields := [("data", .obj [("a", .arr [.null])])]
    let fields : Fields := [("additionalKnownCssFunctions", .arr [.str "f"]), ("sassOptions", .obj base)]
    let o : RuleOptions := ⟨false, .inline base, false, [], ["f"]⟩
    parse (.obj fields) = .ok (some o) ∧ fields.Sorted ∧
      Fields.ofPairs o.toFields = (missing fields).foldl (fun all field => all.insert field.1 field.2) fields ∧
      o.sassOptions = .inline base ∧ parse (.obj (fields ++ missing fields)) = .ok (some o) := by
  intro base fields o
  have read : parse (.obj fields) = .ok (some o) := rfl
  have sorted : fields.Sorted := by decide
  obtain ⟨back, forth⟩ := parse_toFields_round_trip
  obtain ⟨written, inKeyOrder, -, inline⟩ := forth fields o sorted.nodup read
  refine ⟨read, sorted, inKeyOrder sorted, inline base ?_, (back o).2 _ written.symm⟩
  simp [fields]

end RuleOptions

end SassRenderLint
