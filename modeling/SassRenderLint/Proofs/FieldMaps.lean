/-
Module: SassRenderLint.Proofs.FieldMaps
Layer: Proofs
Purpose: An object's fields as a map. Each operation on fields changes what is found under the keys it
  names and nothing else, for fields in any order. Fields in key order are determined by what is found under
  every key, and all operations keep the order; so two maps that answer alike are the same fields.
Main exports: Fields.get?_insert, Fields.get?_erase, Fields.get?_filter, Fields.get?_append,
  Fields.perm_of_get?, Fields.Sorted.insert, Fields.Sorted.erase, Fields.Sorted.eq_of_get?
-/
import SassRenderLint.Proofs.FieldOrder

namespace SassRenderLint

namespace Fields

/-! ### What is found under a key -/

theorem get?_eq_none_iff {fields : Fields} {key : String} :
    fields.get? key = none ↔ key ∉ fields.map Prod.fst := by
  induction fields with
  | nil => simp [get?]
  | cons field rest ih =>
      obtain ⟨name, value⟩ := field
      by_cases same : name = key
      · simp [get?, same]
      · simp [get?, same, Ne.symm same, ih]

/-- When no key occurs twice, what is found under a key is its field. -/
theorem mem_iff_get? {fields : Fields} (distinct : (fields.map Prod.fst).Nodup) (key : String) (value : Json) :
    (key, value) ∈ fields ↔ fields.get? key = some value := by
  induction fields with
  | nil => simp [get?]
  | cons field rest ih =>
      obtain ⟨name, first⟩ := field
      obtain ⟨absent, distinct⟩ := List.nodup_cons.1 distinct
      by_cases same : name = key
      · have later : (key, value) ∉ rest := by
          intro member
          exact absent (List.mem_map.2 ⟨(key, value), member, same.symm⟩)
        simp [get?, same, later, eq_comm]
      · simp [get?, same, Ne.symm same, ih distinct]

/-- The first of two lists answers before the second. -/
theorem get?_append (fields others : Fields) (key : String) :
    get? (fields ++ others) key = (fields.get? key).or (others.get? key) := by
  induction fields with
  | nil => simp [get?]
  | cons field rest ih =>
      rw [List.cons_append, get?, get?, ih]
      split <;> simp

/-- Fields kept by their keys are found, and no others. -/
theorem get?_filter (kept : String → Bool) (fields : Fields) (key : String) :
    get? (fields.filter fun field => kept field.1) key = if kept key then fields.get? key else none := by
  induction fields with
  | nil => simp [get?]
  | cons field rest ih =>
      obtain ⟨name, value⟩ := field
      by_cases same : name = key
      · subst same
        cases keep : kept name <;> simp [get?, ih, keep]
      · cases keep : kept name <;> simp [get?, ih, keep, same]

/-- Erasing a name hides that name and no other. -/
theorem get?_erase (fields : Fields) (name key : String) :
    (fields.erase name).get? key = if key = name then none else fields.get? key := by
  have kept := get?_filter (fun other => other ≠ name) fields key
  rw [erase, kept]
  by_cases same : key = name <;> simp [same]

/-- Inserting a field changes what is under its name and nothing else. -/
theorem get?_insert (fields : Fields) (name : String) (value : Json) (key : String) :
    (fields.insert name value).get? key = if key = name then some value else fields.get? key := by
  induction fields with
  | nil => simp [insert, get?, eq_comm]
  | cons field rest ih =>
      obtain ⟨first, held⟩ := field
      rw [insert]
      split
      · rename_i there
        subst there
        by_cases same : key = name
        · simp [get?, same]
        · simp [get?, same, Ne.symm same]
      split
      · simp [get?, eq_comm]
      · rename_i other _
        by_cases same : key = name
        · subst same
          simp [get?, ih, Ne.symm other]
        · simp [get?, ih, same]

/-- Fields with distinct keys that answer alike are the same, in another order. -/
theorem perm_of_get? {fields others : Fields} (distinct : (fields.map Prod.fst).Nodup)
    (distinctOthers : (others.map Prod.fst).Nodup) (agree : ∀ key, fields.get? key = others.get? key) :
    fields.Perm others := by
  apply (List.perm_ext_iff_of_nodup distinct.of_map distinctOthers.of_map).2
  intro field
  obtain ⟨key, value⟩ := field
  rw [mem_iff_get? distinct, mem_iff_get? distinctOthers, agree]

/-! ### Key order -/

instance (fields : Fields) : Decidable fields.Sorted :=
  inferInstanceAs (Decidable (fields.Pairwise fun a b => a.1 < b.1))

theorem mem_keys_insert {fields : Fields} {name : String} {value : Json} {key : String}
    (mem : key ∈ (fields.insert name value).map Prod.fst) : key = name ∨ key ∈ fields.map Prod.fst := by
  by_cases same : key = name
  · exact Or.inl same
  · apply Or.inr
    apply Classical.byContradiction
    intro absent
    apply get?_eq_none_iff.1 _ mem
    rw [get?_insert, if_neg same]
    exact get?_eq_none_iff.2 absent

namespace Sorted

variable {fields others : Fields}

/-- Sorted fields have no key twice. -/
theorem nodup (sorted : fields.Sorted) : (fields.map Prod.fst).Nodup := by
  apply List.pairwise_map.2
  apply List.Pairwise.imp _ sorted
  intro first second less same
  exact String.lt_irrefl second.1 (same ▸ less)

theorem erase (sorted : fields.Sorted) (name : String) : (fields.erase name).Sorted :=
  List.Pairwise.filter _ sorted

theorem insert (sorted : fields.Sorted) (name : String) (value : Json) : (fields.insert name value).Sorted := by
  induction fields with
  | nil => simp [Fields.insert, Sorted]
  | cons field rest ih =>
      obtain ⟨first, held⟩ := field
      obtain ⟨before, sortedRest⟩ := List.pairwise_cons.1 sorted
      rw [Fields.insert]
      split
      · rename_i there
        subst there
        exact List.pairwise_cons.2 ⟨before, sortedRest⟩
      split
      · rename_i less
        apply List.pairwise_cons.2 ⟨_, sorted⟩
        intro other mem
        rcases List.mem_cons.1 mem with rfl | later
        · exact less
        · exact String.lt_trans less (before other later)
      · rename_i different notLess
        have less : first < name := by
          apply String.not_le.1
          intro le
          exact different (String.le_antisymm le (String.not_lt.1 notLess))
        apply List.pairwise_cons.2 ⟨_, ih sortedRest⟩
        intro other mem
        rcases mem_keys_insert (List.mem_map_of_mem mem) with same | later
        · exact same ▸ less
        · obtain ⟨field, member, same⟩ := List.mem_map.1 later
          exact same ▸ before field member

/-- Fields that are put in one by one end up in key order, in whatever order they come. -/
theorem foldl_insert (sorted : fields.Sorted) (pairs : Fields) :
    (pairs.foldl (fun fields pair => fields.insert pair.1 pair.2) fields).Sorted := by
  induction pairs generalizing fields with
  | nil => exact sorted
  | cons pair rest ih => exact ih (sorted.insert pair.1 pair.2)

/-- Fields in key order are determined by which fields they are. -/
theorem eq_of_perm (sorted : fields.Sorted) (sortedOthers : others.Sorted) (order : fields.Perm others) :
    fields = others := by
  apply List.Perm.eq_of_pairwise _ sorted sortedOthers order
  intro first second _ _ less greater
  exact absurd greater (String.lt_asymm less)

/-- Fields in key order are determined by what is found in them. -/
theorem eq_of_get? (sorted : fields.Sorted) (sortedOthers : others.Sorted)
    (agree : ∀ key, fields.get? key = others.get? key) : fields = others :=
  sorted.eq_of_perm sortedOthers (perm_of_get? sorted.nodup sortedOthers.nodup agree)

end Sorted

end Fields

end SassRenderLint
