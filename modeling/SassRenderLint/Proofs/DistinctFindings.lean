/-
Module: SassRenderLint.Proofs.DistinctFindings
Layer: Proofs
Purpose: Merging works on the diagnostics themselves, not on the accidents of their texts. Identity texts
  agree exactly when all fields but the stack agree, so what is kept are the diagnostics that agree with
  none before them. Of these the target's own stay, and under the path that is recorded for a target
  those are the diagnostics about standard input and about the target's identifier.
Main exports: Diagnostic.Agrees, Json.inKeyOrder, Diagnostic.identity_eq_iff, Diagnostic.firsts,
  Diagnostic.unique_eq_firsts, Diagnostic.unique_keeps_first_places, Diagnostic.ConcernsTarget,
  Diagnostic.survivors, Diagnostic.retainFor_unique
-/
import Mathlib.Data.List.Basic
import SassRenderLint.Diagnostic.Merge
import SassRenderLint.Proofs.JsonText

namespace SassRenderLint

namespace Json

mutual

/-- The value with the fields of its objects in key order, at every level. -/
def inKeyOrder : Json → Json
  | .arr items => .arr (itemsInKeyOrder items)
  | .obj fields => .obj (Fields.ofPairs (fieldsInKeyOrder fields))
  | v => v

def itemsInKeyOrder : List Json → List Json
  | [] => []
  | x :: xs => inKeyOrder x :: itemsInKeyOrder xs

def fieldsInKeyOrder : List (String × Json) → List (String × Json)
  | [] => []
  | (k, v) :: fields => (k, inKeyOrder v) :: fieldsInKeyOrder fields

end

end Json

namespace Diagnostic

/-- Two diagnostics agree on everything but the stack. -/
def Agrees (d e : Diagnostic) : Prop :=
  d.file = e.file ∧ d.message = e.message ∧ d.kind = e.kind ∧ d.source = e.source

instance (d e : Diagnostic) : Decidable (d.Agrees e) :=
  inferInstanceAs (Decidable (d.file = e.file ∧ d.message = e.message ∧ d.kind = e.kind ∧ d.source = e.source))

/-! ### Identity texts -/

/-- An identity has no numbers but lines and columns, so its text can be read without rounding. -/
theorem integral_identityJson (d : Diagnostic) : d.identityJson.Integral := by
  simp [identityJson, sortedPosition, DiagnosticKind.toJson, Json.ofNat, Json.Integral, Json.IntegralFields]

/-- Kinds are told apart by their names. -/
theorem kindName_inj {k l : DiagnosticKind} (same : k.name = l.name) : k = l := by
  cases k <;> cases l <;> simp [DiagnosticKind.name] at same ⊢

/-- The sorted form of a position has its line and its column. -/
theorem sortedPosition_inj {p q : Position} (same : sortedPosition p = sortedPosition q) : p = q := by
  simp only [sortedPosition, Json.ofNat, Json.obj.injEq, List.cons.injEq, Prod.mk.injEq, Json.num.injEq,
    JsonNumber.int.injEq, true_and, and_true, Int.natCast_inj, UInt32.toNat_inj] at same
  cases p
  cases q
  simp_all

theorem excerpt_ext {a b : Excerpt} (pattern : a.pattern = b.pattern) (start : a.start = b.start)
    (stop : a.stop = b.stop) : a = b := by
  cases a
  cases b
  simp_all

/-- Identity texts agree exactly when all fields but the stack do, whatever the strings hold. -/
theorem identity_eq_iff (d e : Diagnostic) : d.identity = e.identity ↔ d.Agrees e := by
  constructor
  · intro same
    have values := Json.compact_inj (integral_identityJson d) (integral_identityJson e) same
    simp only [identityJson, DiagnosticKind.toJson, Json.obj.injEq, List.cons.injEq, Prod.mk.injEq,
      Json.str.injEq, true_and, and_true] at values
    obtain ⟨file, kind, message, stop, pattern, start⟩ := values
    refine ⟨file, message, kindName_inj kind, ?_⟩
    exact excerpt_ext pattern (sortedPosition_inj start) (sortedPosition_inj stop)
  · rintro ⟨file, message, kind, source⟩
    simp [identity, identityJson, file, message, kind, source]

/-- The form of positions inside an identity is their JSON form in key order. -/
theorem inKeyOrder_position (p : Position) : p.toJson.inKeyOrder = sortedPosition p := by
  simp only [Position.toJson, sortedPosition, Json.ofNat, Json.inKeyOrder, Json.fieldsInKeyOrder, Fields.ofPairs,
    Fields.insert, List.foldl, String.reduceEq, String.reduceLT, ↓reduceIte]

/-- The same for excerpts. -/
theorem inKeyOrder_excerpt (e : Excerpt) :
    e.toJson.inKeyOrder =
      .obj [("end", sortedPosition e.stop), ("pattern", .str e.pattern), ("start", sortedPosition e.start)] := by
  simp only [Excerpt.toJson, Json.inKeyOrder, Json.fieldsInKeyOrder, inKeyOrder_position, Fields.ofPairs,
    Fields.insert, List.foldl, String.reduceEq, String.reduceLT, ↓reduceIte]

/-- The identity of a diagnostic is its JSON form in key order, less the stack. -/
theorem identityJson_eq (d : Diagnostic) :
    ∃ fields, d.toJson.inKeyOrder = .obj fields ∧ d.identityJson = .obj (Fields.erase fields "stack") := by
  refine ⟨_, rfl, ?_⟩
  -- A diagnostic without a stack has no such field, and nothing is dropped.
  cases d.stack <;>
    simp only [identityJson, DiagnosticKind.toJson, Json.inKeyOrder, Json.fieldsInKeyOrder, inKeyOrder_excerpt,
      Fields.ofPairs, Fields.insert, List.cons_append, List.nil_append, List.foldl, String.reduceEq, String.reduceLT,
      ↓reduceIte] <;>
    rfl

/-! ### First occurrences -/

/-- The diagnostics that fit what stands before them in the list, in order. -/
def keptBy (fits : List Diagnostic → Diagnostic → Bool) (diagnostics : List Diagnostic) : List Diagnostic :=
  (diagnostics.zipIdx.filter fun (d, i) => fits (diagnostics.take i) d).map Prod.fst

/-- The head is kept if it fits nothing before it; the others have the head before them as well. -/
theorem keptBy_cons (fits : List Diagnostic → Diagnostic → Bool) (d : Diagnostic) (rest : List Diagnostic) :
    keptBy fits (d :: rest) =
      (if fits [] d then [d] else []) ++ keptBy (fun before => fits (d :: before)) rest := by
  unfold keptBy
  rw [List.zipIdx_cons, List.zipIdx_succ, List.filter_cons, List.filter_map]
  by_cases head : fits [] d = true
  · simp [head, Function.comp_def]
  · simp [head, Function.comp_def]

/-- The diagnostics that agree with none before them, in order. -/
def firsts : List Diagnostic → List Diagnostic :=
  keptBy fun before d => ∀ e ∈ before, ¬ e.Agrees d

/-- Beside identities seen before, a diagnostic is kept when its identity is not among those and it
    agrees with no diagnostic before it. -/
theorem uniqueAfter_eq_keptBy (seen : List String) (diagnostics : List Diagnostic) :
    uniqueAfter seen diagnostics =
      keptBy (fun before d => d.identity ∉ seen ∧ ∀ e ∈ before, ¬ e.Agrees d) diagnostics := by
  induction diagnostics generalizing seen with
  | nil => rfl
  | cons d rest ih =>
      rw [uniqueAfter, keptBy_cons]
      by_cases known : d.identity ∈ seen
      · have fits : ∀ (before : List Diagnostic) (x : Diagnostic),
            (x.identity ∉ seen ∧ ∀ e ∈ d :: before, ¬ e.Agrees x) ↔
              (x.identity ∉ seen ∧ ∀ e ∈ before, ¬ e.Agrees x) := by
          intro before x
          have differs : x.identity ∉ seen → ¬ d.Agrees x :=
            fun unseen agrees => unseen ((identity_eq_iff d x).2 agrees ▸ known)
          simp only [List.forall_mem_cons]
          constructor
          · rintro ⟨unseen, -, others⟩
            exact ⟨unseen, others⟩
          · rintro ⟨unseen, others⟩
            exact ⟨unseen, differs unseen, others⟩
        simp only [fits]
        simp [known, ih seen]
      · have fits : ∀ (before : List Diagnostic) (x : Diagnostic),
            (x.identity ∉ seen ∧ ∀ e ∈ d :: before, ¬ e.Agrees x) ↔
              (x.identity ∉ d.identity :: seen ∧ ∀ e ∈ before, ¬ e.Agrees x) := by
          intro before x
          have same : x.identity = d.identity ↔ d.Agrees x := by
            rw [← identity_eq_iff]
            exact eq_comm
          rw [List.forall_mem_cons, List.mem_cons, not_or, same]
          constructor
          · rintro ⟨unseen, differs, others⟩
            exact ⟨⟨differs, unseen⟩, others⟩
          · rintro ⟨⟨differs, unseen⟩, others⟩
            exact ⟨unseen, differs, others⟩
        simp only [fits]
        simp [known, ih (d.identity :: seen)]

/-- Dropping by text what was seen before is keeping what agrees with none before it. -/
theorem unique_eq_firsts (diagnostics : List Diagnostic) : unique diagnostics = firsts diagnostics := by
  rw [unique, uniqueAfter_eq_keptBy]
  simp [firsts]

/-! ### Places -/

/-- The places of a list whose diagnostics fit what stands before them. -/
def placesBy (fits : List Diagnostic → Diagnostic → Bool) (diagnostics : List Diagnostic) : List Nat :=
  (diagnostics.zipIdx.filter fun (d, i) => fits (diagnostics.take i) d).map Prod.snd

/-- The places are those whose diagnostic fits what stands before it. -/
theorem mem_placesBy {fits : List Diagnostic → Diagnostic → Bool} {diagnostics : List Diagnostic} {i : Nat} :
    i ∈ placesBy fits diagnostics ↔ ∃ d, diagnostics[i]? = some d ∧ fits (diagnostics.take i) d = true := by
  simp only [placesBy, List.mem_map, List.mem_filter, Prod.exists, List.mem_zipIdx_iff_getElem?]
  constructor
  · rintro ⟨d, place, ⟨stands, fit⟩, rfl⟩
    exact ⟨d, stands, fit⟩
  · rintro ⟨d, stands, fit⟩
    exact ⟨d, i, ⟨stands, fit⟩, rfl⟩

/-- Places come in increasing order. -/
theorem pairwise_placesBy (fits : List Diagnostic → Diagnostic → Bool) (diagnostics : List Diagnostic) :
    (placesBy fits diagnostics).Pairwise (· < ·) := by
  have inOrder : (diagnostics.zipIdx.map Prod.snd).Pairwise (· < ·) := by
    rw [List.zipIdx_map_snd]
    exact List.pairwise_lt_range'
  exact inOrder.sublist (List.filter_sublist.map _)

/-- What is kept stands at the places that fit. -/
theorem keptBy_eq_filterMap (fits : List Diagnostic → Diagnostic → Bool) (diagnostics : List Diagnostic) :
    keptBy fits diagnostics = (placesBy fits diagnostics).filterMap fun i => diagnostics[i]? := by
  rw [keptBy, placesBy, List.filterMap_map]
  refine (List.filterMap_eq_map_iff_forall_eq_some.2 ?_).symm
  rintro ⟨d, i⟩ member
  exact List.mem_zipIdx_iff_getElem?.1 (List.mem_of_mem_filter member)

/-- Nothing is moved or repeated. -/
theorem keptBy_sublist (fits : List Diagnostic → Diagnostic → Bool) (diagnostics : List Diagnostic) :
    (keptBy fits diagnostics).Sublist diagnostics := by
  have inside : (keptBy fits diagnostics).Sublist (diagnostics.zipIdx.map Prod.fst) := List.filter_sublist.map _
  rwa [List.zipIdx_map_fst] at inside

/-- What stands before a place is what stands at a smaller one. -/
theorem forall_mem_take_iff {diagnostics : List Diagnostic} {i : Nat} {P : Diagnostic → Prop} :
    (∀ e ∈ diagnostics.take i, P e) ↔ ∀ (j : Nat) (e : Diagnostic), j < i → diagnostics[j]? = some e → P e := by
  constructor
  · intro all j e before stands
    refine all e (List.mem_of_getElem? (i := j) ?_)
    rw [List.getElem?_take_of_lt before, stands]
  · intro all e member
    obtain ⟨j, stands⟩ := List.mem_iff_getElem?.1 member
    have before : j < i := by
      have inside := (List.getElem?_eq_some_iff.1 stands).1
      rw [List.length_take] at inside
      omega
    rw [List.getElem?_take_of_lt before] at stands
    exact all j e before stands

/-- Of a list of diagnostics those are kept, in their order, that agree with none before them: the text
    by which diagnostics are told apart, their JSON form less the stack, is the same exactly when all
    other fields are. -/
theorem unique_keeps_first_places (diagnostics : List Diagnostic) :
    (∃ places : List Nat, places.Pairwise (· < ·) ∧
      (∀ i, i ∈ places ↔ ∃ d, diagnostics[i]? = some d ∧
        ∀ (j : Nat) (e : Diagnostic), j < i → diagnostics[j]? = some e → ¬ e.Agrees d) ∧
      unique diagnostics = places.filterMap fun i => diagnostics[i]?) ∧
    (unique diagnostics).Sublist diagnostics ∧
    (∀ d e : Diagnostic, d.identity = e.identity ↔ d.Agrees e) ∧
    ∀ d : Diagnostic, ∃ fields, d.toJson.inKeyOrder = .obj fields ∧
      d.identity = (Json.obj (Fields.erase fields "stack")).compact := by
  let fits : List Diagnostic → Diagnostic → Bool := fun before d => ∀ e ∈ before, ¬ e.Agrees d
  refine ⟨⟨placesBy fits diagnostics, pairwise_placesBy fits diagnostics, ?_, ?_⟩, ?_, identity_eq_iff, ?_⟩
  · intro i
    simp only [fits, mem_placesBy, decide_eq_true_iff, forall_mem_take_iff]
  · rw [unique_eq_firsts, firsts, keptBy_eq_filterMap]
  · rw [unique_eq_firsts]
    exact keptBy_sublist _ _
  · intro d
    obtain ⟨fields, ordered, identity⟩ := identityJson_eq d
    exact ⟨fields, ordered, congrArg Json.compact identity⟩

/-! ### The target's own diagnostics -/

/-- The diagnostic is about standard input or about the target under its identifier. -/
def ConcernsTarget (target : Target) (d : Diagnostic) : Prop :=
  d.file = Target.stdinName ∨ d.file = target.identifier

instance (target : Target) (d : Diagnostic) : Decidable (d.ConcernsTarget target) :=
  inferInstanceAs (Decidable (d.file = Target.stdinName ∨ d.file = target.identifier))

/-- Of the diagnostics that agree with none before them, those that concern the target. -/
def survivors (target : Target) (diagnostics : List Diagnostic) : List Diagnostic :=
  (firsts diagnostics).filter (ConcernsTarget target)

/-- Under the path recorded for a target, the diagnostics about the target are those that concern it. -/
theorem belongsTo_recorded (target : Target) (d : Diagnostic) :
    d.belongsTo target (target.path?.map Path.shown) = true ↔ d.ConcernsTarget target := by
  rw [belongsTo, decide_eq_true_iff]
  cases target with
  | stdin => simp [attributedFile, ConcernsTarget, Target.path?, Target.identifier]
  | path p =>
      by_cases sentinel : d.file = Target.stdinName
      · simp [attributedFile, ConcernsTarget, Target.path?, Target.identifier, sentinel]
      · simp [attributedFile, ConcernsTarget, Target.path?, Target.identifier, sentinel]

/-- Merging keeps the first of each group of agreeing diagnostics, if it concerns the target. -/
theorem retainFor_unique (target : Target) (diagnostics : List Diagnostic) :
    retainFor (unique diagnostics) target (target.path?.map Path.shown) = survivors target diagnostics := by
  rw [retainFor, unique_eq_firsts, survivors]
  apply List.filter_congr
  intro d _
  rw [Bool.eq_iff_iff, belongsTo_recorded, decide_eq_true_iff]

end Diagnostic

end SassRenderLint
