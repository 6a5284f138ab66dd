/-
Module: SassRenderLint.Proofs.BatchMerging
Layer: Proofs
Purpose: Merging in parts. Identities that were seen before take the diagnostics with these identities out
  of what is kept of a list, and nothing else. So the diagnostics of several renderers can be merged
  batch by batch or all at once. The target's own can be picked before merging or after it, since the
  file that a diagnostic is about is a part of its identity.
Main exports: Diagnostic.uniqueAfter_append_seen, Diagnostic.uniqueAfter_append, Diagnostic.uniqueAfter_filter,
  Diagnostic.merging_in_parts
-/
import SassRenderLint.Proofs.DistinctFindings

namespace SassRenderLint

namespace Diagnostic

/-! ### What was seen before -/

/-- Only which identities were seen counts, not how often and in what order. -/
theorem uniqueAfter_congr {seen known : List String} (same : ∀ identity, identity ∈ seen ↔ identity ∈ known)
    (ds : List Diagnostic) : uniqueAfter seen ds = uniqueAfter known ds := by
  induction ds generalizing seen known with
  | nil => rfl
  | cons d rest ih =>
      have sameNext : ∀ identity, identity ∈ d.identity :: seen ↔ identity ∈ d.identity :: known := by
        intro identity
        rw [List.mem_cons, List.mem_cons, same]
      rw [uniqueAfter, uniqueAfter, ih same, ih sameNext]
      simp only [same]

/-- The order in which identities were seen does not matter. -/
theorem uniqueAfter_middle (more seen : List String) (text : String) (ds : List Diagnostic) :
    uniqueAfter (more ++ text :: seen) ds = uniqueAfter (text :: (more ++ seen)) ds :=
  uniqueAfter_congr (fun _ => List.perm_middle.mem_iff) ds

/-- An identity that is seen once more changes nothing. -/
theorem uniqueAfter_cons_of_mem {seen : List String} {text : String} (known : text ∈ seen) (ds : List Diagnostic) :
    uniqueAfter (text :: seen) ds = uniqueAfter seen ds := by
  refine uniqueAfter_congr (fun identity => ?_) ds
  rw [List.mem_cons]
  constructor
  · rintro (rfl | before)
    · exact known
    · exact before
  · exact Or.inr

/-- What was seen besides takes the diagnostics with those identities out of what is kept. -/
theorem uniqueAfter_append_seen (more seen : List String) (ds : List Diagnostic) :
    uniqueAfter (more ++ seen) ds = (uniqueAfter seen ds).filter fun d => d.identity ∉ more := by
  induction ds generalizing seen with
  | nil => rfl
  | cons d rest ih =>
      rw [uniqueAfter, uniqueAfter]
      by_cases known : d.identity ∈ seen
      · rw [if_pos (List.mem_append_right _ known), if_pos known, ih]
      · rw [if_neg known]
        by_cases extra : d.identity ∈ more
        · -- The head is taken out; seen among the others, it adds nothing to what was seen.
          have known : d.identity ∈ more ++ seen := List.mem_append_left _ extra
          rw [if_pos known, List.filter_cons_of_neg (by simpa using extra), ← ih, uniqueAfter_middle,
            uniqueAfter_cons_of_mem known]
        · have unseen : d.identity ∉ more ++ seen := by
            rw [List.mem_append, not_or]
            exact ⟨extra, known⟩
          rw [if_neg unseen, List.filter_cons_of_pos (by simpa using extra), ← ih, uniqueAfter_middle]

/-- What was seen before is only a filter on the distinct ones: the loop with a memory and the loop without it
    agree. -/
theorem uniqueAfter_eq_filter (seen : List String) (ds : List Diagnostic) :
    uniqueAfter seen ds = (unique ds).filter fun d => d.identity ∉ seen := by
  have besides := uniqueAfter_append_seen seen [] ds
  rwa [List.append_nil] at besides

/-- Going through one list after the other, the second one is judged by what the first one has shown. -/
theorem uniqueAfter_append (seen : List String) (xs ys : List Diagnostic) :
    uniqueAfter seen (xs ++ ys) = uniqueAfter seen xs ++ uniqueAfter (xs.map identity ++ seen) ys := by
  induction xs generalizing seen with
  | nil => rfl
  | cons d rest ih =>
      rw [List.cons_append, uniqueAfter, uniqueAfter, List.map_cons, List.cons_append]
      by_cases known : d.identity ∈ seen
      · rw [if_pos known, if_pos known, ih, uniqueAfter_cons_of_mem (List.mem_append_right _ known)]
      · rw [if_neg known, if_neg known, ih, uniqueAfter_middle, List.cons_append]

/-- Of two batches, the second one adds what the first one does not have. -/
theorem unique_append (xs ys : List Diagnostic) :
    unique (xs ++ ys) = unique xs ++ (unique ys).filter fun d => d.identity ∉ xs.map identity := by
  have parts := uniqueAfter_append [] xs ys
  rwa [List.append_nil, uniqueAfter_eq_filter (xs.map identity)] at parts

/-! ### Merging twice -/

theorem uniqueAfter_idem (seen : List String) (ds : List Diagnostic) :
    uniqueAfter seen (uniqueAfter seen ds) = uniqueAfter seen ds := by
  induction ds generalizing seen with
  | nil => rfl
  | cons d rest ih =>
      rw [uniqueAfter]
      by_cases known : d.identity ∈ seen
      · rw [if_pos known, ih]
      · rw [if_neg known, uniqueAfter, if_neg known, ih]

/-- A list can be merged by itself before it is merged beside others. -/
theorem uniqueAfter_unique (seen : List String) (ds : List Diagnostic) :
    uniqueAfter seen (unique ds) = uniqueAfter seen ds := by
  have twice : unique (unique ds) = unique ds := uniqueAfter_idem [] ds
  rw [uniqueAfter_eq_filter, twice, ← uniqueAfter_eq_filter]

/-- Merging loses no identity that was not seen before. -/
theorem mem_seen_or_uniqueAfter (seen : List String) {ds : List Diagnostic} {d : Diagnostic} (member : d ∈ ds) :
    d.identity ∈ seen ∨ d.identity ∈ (uniqueAfter seen ds).map identity := by
  induction ds generalizing seen with
  | nil => exact absurd member List.not_mem_nil
  | cons head rest ih =>
      rw [uniqueAfter]
      by_cases known : head.identity ∈ seen
      · rw [if_pos known]
        rcases List.mem_cons.1 member with rfl | later
        · exact Or.inl known
        · exact ih seen later
      · rw [if_neg known, List.map_cons]
        rcases List.mem_cons.1 member with rfl | later
        · exact Or.inr List.mem_cons_self
        · rcases ih (head.identity :: seen) later with shown | kept
          · rcases List.mem_cons.1 shown with same | before
            · exact Or.inr (same ▸ List.mem_cons_self)
            · exact Or.inl before
          · exact Or.inr (List.mem_cons_of_mem _ kept)

/-- No identity is lost. -/
theorem mem_identities_unique (ds : List Diagnostic) (text : String) :
    text ∈ (unique ds).map identity ↔ text ∈ ds.map identity := by
  constructor
  · intro kept
    have inside : (unique ds).Sublist ds := by
      rw [unique_eq_firsts]
      exact keptBy_sublist _ _
    exact (inside.map identity).subset kept
  · intro given
    obtain ⟨d, member, rfl⟩ := List.mem_map.1 given
    exact (mem_seen_or_uniqueAfter [] member).resolve_left List.not_mem_nil

/-- Batches can be merged one by one before they are merged with each other. -/
theorem uniqueAfter_flatten (seen : List String) (batches : List (List Diagnostic)) :
    uniqueAfter seen (batches.map unique).flatten = uniqueAfter seen batches.flatten := by
  induction batches generalizing seen with
  | nil => rfl
  | cons batch rest ih =>
      have sameShown : ∀ text, text ∈ (unique batch).map identity ++ seen ↔ text ∈ batch.map identity ++ seen := by
        intro text
        rw [List.mem_append, List.mem_append, mem_identities_unique]
      rw [List.map_cons, List.flatten_cons, List.flatten_cons, uniqueAfter_append, uniqueAfter_append,
        uniqueAfter_unique, uniqueAfter_congr sameShown, ih]

/-! ### Merging and picking -/

/-- A choice that hangs on the identity alone can be made before merging or after it. -/
theorem uniqueAfter_filter {chosen : Diagnostic → Bool}
    (byIdentity : ∀ d e : Diagnostic, d.identity = e.identity → chosen d = chosen e)
    (seen : List String) (ds : List Diagnostic) :
    uniqueAfter seen (ds.filter chosen) = (uniqueAfter seen ds).filter chosen := by
  induction ds generalizing seen with
  | nil => rfl
  | cons d rest ih =>
      rw [uniqueAfter]
      cases picked : chosen d with
      | true =>
          rw [List.filter_cons_of_pos picked, uniqueAfter, ih, ih]
          split
          · rfl
          · rw [List.filter_cons_of_pos picked]
      | false =>
          have passed : (uniqueAfter (d.identity :: seen) rest).filter chosen =
              (uniqueAfter seen rest).filter chosen := by
            -- The head's identity takes out only diagnostics that are not chosen either.
            rw [← List.singleton_append, uniqueAfter_append_seen, List.filter_filter]
            apply List.filter_congr
            intro e _
            by_cases same : e.identity = d.identity
            · rw [byIdentity e d same, picked, Bool.false_and]
            · simp [same]
          rw [List.filter_cons_of_neg (by simp [picked]), ih]
          split
          · rfl
          · rw [List.filter_cons_of_neg (by simp [picked]), passed]

/-- Whether a diagnostic is about the target hangs on its file, which is a part of its identity. -/
theorem belongsTo_of_identity (target : Target) (recorded : Option String) {d e : Diagnostic}
    (same : d.identity = e.identity) : d.belongsTo target recorded = e.belongsTo target recorded := by
  have file : d.file = e.file := ((identity_eq_iff d e).1 same).1
  have about : d.attributedFile recorded = e.attributedFile recorded := by simp only [attributedFile, file]
  rw [belongsTo, belongsTo, about]

/-- Picking the target's diagnostics and merging can be done in either order, and merging can be done in parts:
    of a second list only what the first one has not shown is added, so batches can be merged one by one first. -/
theorem merging_in_parts (xs ys : List Diagnostic) (batches : List (List Diagnostic)) (target : Target)
    (recorded : Option String) :
    retainFor (unique xs) target recorded = unique (retainFor xs target recorded) ∧
      unique (xs ++ ys) = unique xs ++ (unique ys).filter (fun d => d.identity ∉ xs.map identity) ∧
      unique (batches.map unique).flatten = unique batches.flatten := by
  refine ⟨?_, unique_append xs ys, uniqueAfter_flatten [] batches⟩
  exact (uniqueAfter_filter (fun _ _ => belongsTo_of_identity target recorded) [] xs).symm

end Diagnostic

end SassRenderLint
