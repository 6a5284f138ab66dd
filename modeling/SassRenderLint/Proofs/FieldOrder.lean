/-
Module: SassRenderLint.Proofs.FieldOrder
Layer: Proofs
Purpose: The order of an object's fields says nothing about the value. Two values are rearrangements of each
  other when only the order of fields differs, at any depth. Looking up a key gives the same in both as long
  as no key occurs twice, so what a decoder reads does not hang on the order. Putting all fields in key
  order is one rearrangement.
Main exports: Json.Rearranged, Json.Rearranged.refl, Json.DistinctKeys, Json.rearranged_inKeyOrder,
  Json.Rearranged.get?_of_obj, Json.Reads, Json.field?_of_reads
-/
import Mathlib.Data.List.Forall2
import Mathlib.Data.List.Nodup
import SassRenderLint.Proofs.DistinctFindings

namespace SassRenderLint

/-! ### Keys -/

namespace Fields

/-- When no key occurs twice, the order of the fields does not matter to a look-up. -/
theorem get?_perm {fields others : Fields} (order : fields.Perm others) (distinct : (fields.map Prod.fst).Nodup)
    (key : String) : fields.get? key = others.get? key := by
  induction order with
  | nil => rfl
  | cons field _ ih => rw [get?, get?, ih distinct.of_cons]
  | swap first second rest =>
      have apart : second.1 ≠ first.1 := fun same => (List.nodup_cons.1 distinct).1 (by simp [same])
      simp only [get?]
      split
      · rename_i here
        rw [if_neg fun there => apart (here.trans there.symm)]
      · rfl
  | trans order _ ih ih' => exact (ih distinct).trans (ih' ((order.map Prod.fst).nodup distinct))

/-- Inserting a new key puts one field more somewhere among the others. -/
theorem perm_insert {fields : Fields} {key : String} (absent : key ∉ fields.map Prod.fst) (value : Json) :
    ((key, value) :: fields).Perm (fields.insert key value) := by
  induction fields with
  | nil => exact .refl _
  | cons field rest ih =>
      obtain ⟨k, v⟩ := field
      rw [List.map_cons, List.mem_cons, not_or] at absent
      rw [insert, if_neg absent.1]
      split
      · exact .refl _
      · exact (List.Perm.swap (k, v) (key, value) rest).trans ((ih absent.2).cons (k, v))

/-- Putting in fields one by one keeps those that are there, as long as the keys are distinct. -/
theorem perm_foldl_insert {before pairs : Fields} (distinct : ((before ++ pairs).map Prod.fst).Nodup) :
    (before ++ pairs).Perm (pairs.foldl (fun fields pair => insert fields pair.1 pair.2) before) := by
  induction pairs generalizing before with
  | nil => rw [List.append_nil, List.foldl_nil]
  | cons pair rest ih =>
      have absent : pair.1 ∉ before.map Prod.fst := by
        rw [List.map_append, List.map_cons, List.nodup_middle] at distinct
        exact fun mem => (List.nodup_cons.1 distinct).1 (List.mem_append_left _ mem)
      have moved : (before ++ pair :: rest).Perm (before.insert pair.1 pair.2 ++ rest) :=
        List.perm_middle.trans ((perm_insert absent pair.2).append_right rest)
      exact moved.trans (ih ((moved.map Prod.fst).nodup distinct))

/-- Fields with distinct keys all stay when they are put in key order. -/
theorem perm_ofPairs {pairs : Fields} (distinct : (pairs.map Prod.fst).Nodup) : pairs.Perm (ofPairs pairs) :=
  perm_foldl_insert (show (([] ++ pairs : Fields).map Prod.fst).Nodup from distinct)

end Fields

namespace Json

/-! ### Rearrangements -/

/-- The same value, with the fields of the objects in it in any order. -/
inductive Rearranged : Json → Json → Prop where
  | null : Rearranged .null .null
  | bool (b : Bool) : Rearranged (.bool b) (.bool b)
  | num (n : JsonNumber) : Rearranged (.num n) (.num n)
  | str (s : String) : Rearranged (.str s) (.str s)
  | arr {xs ys : List Json} (items : List.Forall₂ Rearranged xs ys) : Rearranged (.arr xs) (.arr ys)
  | obj {fields moved others : Fields} (keys : fields.map Prod.fst = moved.map Prod.fst)
      (values : List.Forall₂ Rearranged (fields.map Prod.snd) (moved.map Prod.snd)) (order : moved.Perm others) :
      Rearranged (.obj fields) (.obj others)

mutual

/-- Leaving all fields where they are is a rearrangement, at every level of the value. -/
theorem Rearranged.refl : ∀ v : Json, v.Rearranged v
  | .null => .null
  | .bool b => .bool b
  | .num n => .num n
  | .str s => .str s
  | .arr items => .arr (Rearranged.refl_items items)
  | .obj fields => .obj rfl (Rearranged.refl_fields fields) (.refl fields)

theorem Rearranged.refl_items : ∀ items : List Json, List.Forall₂ Rearranged items items
  | [] => .nil
  | x :: xs => .cons (Rearranged.refl x) (Rearranged.refl_items xs)

theorem Rearranged.refl_fields :
    ∀ fields : List (String × Json), List.Forall₂ Rearranged (fields.map Prod.snd) (fields.map Prod.snd)
  | [] => .nil
  | (_, v) :: fields => .cons (Rearranged.refl v) (Rearranged.refl_fields fields)

end

mutual

/-- No object in the value has a key twice. -/
def DistinctKeys : Json → Prop
  | .arr items => DistinctKeysItems items
  | .obj fields => (fields.map Prod.fst).Nodup ∧ DistinctKeysFields fields
  | _ => True

def DistinctKeysItems : List Json → Prop
  | [] => True
  | x :: xs => DistinctKeys x ∧ DistinctKeysItems xs

def DistinctKeysFields : List (String × Json) → Prop
  | [] => True
  | (_, v) :: fields => DistinctKeys v ∧ DistinctKeysFields fields

end

theorem distinctKeysFields_append (fields others : Fields) :
    DistinctKeysFields (fields ++ others) ↔ DistinctKeysFields fields ∧ DistinctKeysFields others := by
  induction fields with
  | nil => rw [List.nil_append, DistinctKeysFields, true_and]
  | cons field rest ih => rw [List.cons_append, DistinctKeysFields, DistinctKeysFields, ih, and_assoc]

/-- Sorting inside the values leaves the keys themselves alone. -/
theorem map_fst_fieldsInKeyOrder (fields : Fields) :
    (fieldsInKeyOrder fields).map Prod.fst = fields.map Prod.fst := by
  induction fields with
  | nil => rfl
  | cons field rest ih => rw [fieldsInKeyOrder, List.map_cons, List.map_cons, ih]

mutual

/-- Key order is a rearrangement. -/
theorem rearranged_inKeyOrder : ∀ {v : Json}, v.DistinctKeys → v.Rearranged v.inKeyOrder
  | .null, _ => .null
  | .bool b, _ => .bool b
  | .num n, _ => .num n
  | .str s, _ => .str s
  | .arr items, distinct => .arr (rearranged_itemsInKeyOrder distinct)
  | .obj fields, ⟨distinct, inside⟩ => by
      have keys := map_fst_fieldsInKeyOrder fields
      exact .obj keys.symm (rearranged_fieldsInKeyOrder inside) (Fields.perm_ofPairs (keys ▸ distinct))

theorem rearranged_itemsInKeyOrder :
    ∀ {items : List Json}, DistinctKeysItems items → List.Forall₂ Rearranged items (itemsInKeyOrder items)
  | [], _ => .nil
  | _ :: _, ⟨first, rest⟩ => .cons (rearranged_inKeyOrder first) (rearranged_itemsInKeyOrder rest)

theorem rearranged_fieldsInKeyOrder :
    ∀ {fields : List (String × Json)}, DistinctKeysFields fields →
      List.Forall₂ Rearranged (fields.map Prod.snd) ((fieldsInKeyOrder fields).map Prod.snd)
  | [], _ => .nil
  | (_, _) :: _, ⟨first, rest⟩ => .cons (rearranged_inKeyOrder first) (rearranged_fieldsInKeyOrder rest)

end

/-! ### Look-ups -/

/-- If two lists have the same keys in the same order, what is under a key is the same up to rearrangement. -/
theorem get?_of_values {fields moved : Fields} (keys : fields.map Prod.fst = moved.map Prod.fst)
    (values : List.Forall₂ Rearranged (fields.map Prod.snd) (moved.map Prod.snd)) (key : String) :
    Option.Rel Rearranged (fields.get? key) (moved.get? key) := by
  induction fields generalizing moved with
  | nil =>
      cases moved with
      | nil => exact .none
      | cons field rest => cases keys
  | cons field rest ih =>
      cases moved with
      | nil => cases keys
      | cons other others =>
          obtain ⟨sameKey, keys⟩ := List.cons.inj keys
          obtain ⟨same, values⟩ := List.forall₂_cons.1 values
          rw [Fields.get?, Fields.get?, ← sameKey]
          split
          · exact .some same
          · exact ih keys values

/-- A rearranged object is an object in which every key has the same value, rearranged. -/
theorem Rearranged.get?_of_obj {fields : Fields} {v : Json} (rearranged : Rearranged (.obj fields) v)
    (distinct : (fields.map Prod.fst).Nodup) :
    ∃ others : Fields, v = .obj others ∧ ∀ key, Option.Rel Rearranged (fields.get? key) (others.get? key) := by
  cases rearranged with
  | @obj _ moved others keys values order =>
      refine ⟨others, rfl, fun key => ?_⟩
      rw [← Fields.get?_perm order (keys ▸ distinct) key]
      exact get?_of_values keys values key

/-! ### Decoders -/

/-- A decoder makes `a` of a value, in whatever order the fields stand. -/
def Reads {α : Type} (decode : Decoder α) (v : Json) (a : α) : Prop := ∀ w, v.Rearranged w → decode w = .ok a

theorem reads_asString (s : String) : Reads asString (.str s) s := by
  intro w rearranged
  cases rearranged
  rfl

/-- A number of 32 bits comes back as it was, with no cut. -/
theorem reads_asUInt32 (n : UInt32) : Reads asUInt32 (.ofNat n.toNat) n := by
  intro w rearranged
  cases rearranged
  have inside : (0 : Int) ≤ (n.toNat : Int) ∧ (n.toNat : Int) < UInt32.size :=
    ⟨Int.natCast_nonneg _, Int.ofNat_lt.2 n.toNat_lt⟩
  rw [asUInt32, if_pos inside, Int.toNat_natCast, UInt32.ofNat_toNat]

theorem asOption_of_ne_null {α : Type} {decode : Decoder α} {v : Json} (present : v ≠ .null) :
    asOption decode v = some <$> decode v := by
  cases v with
  | null => exact absurd rfl present
  | _ => rfl

/-- A value or nothing is read if the value is never written as nothing. -/
theorem reads_asOption {α : Type} {decode : Decoder α} {encode : α → Json}
    (reads : ∀ a, Reads decode (encode a) a) (written : ∀ a, encode a ≠ .null) (o : Option α) :
    Reads (asOption decode) (ofOption encode o) o := by
  intro w rearranged
  cases o with
  | none =>
      cases rearranged
      rfl
  | some a =>
      have present : w ≠ .null := by
        rintro rfl
        generalize value : ofOption encode (some a) = v at rearranged
        cases rearranged
        exact written a value
      rw [asOption_of_ne_null present, reads a w rearranged]
      rfl

section

variable {α : Type} {fields others : Fields} {decode : Decoder α}
  (agree : ∀ key, Option.Rel Rearranged (fields.get? key) (others.get? key))

include agree

/-- A field is read alike from a rearrangement of the object, as long as its own value is read alike. -/
theorem field?_of_reads (key : String) {v : Json} {a : α} (present : fields.get? key = some v)
    (reads : Reads decode v a) : field? others key decode = .ok (some a) := by
  have same := agree key
  rw [present] at same
  generalize found : others.get? key = w at same
  cases same with
  | some rearranged =>
      simp only [field?, found, reads _ rearranged]
      rfl

/-- A missing field is missing in every rearrangement. -/
theorem field?_of_absent (key : String) (absent : fields.get? key = none) :
    field? others key decode = .ok none := by
  have same := agree key
  rw [absent] at same
  generalize found : others.get? key = w at same
  cases same
  rw [field?, found]

end

end Json

end SassRenderLint
