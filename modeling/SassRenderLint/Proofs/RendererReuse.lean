/-
Module: SassRenderLint.Proofs.RendererReuse
Layer: Proofs
Purpose: What the renderers that are built once and used again are worth. Every call of what builds
  renderers is written down, and so is every answer. Identities can pass from one compiler to the next
  once nobody holds the first, so a compiler is told by its identity and by how many had it before. At
  each moment the tables are the list of what was built since they were last emptied; from this follows
  what every answer is, that nothing is built twice, and how many renderers there are.
Main exports: Tenant, CacheEvent, RendererRequest, Depot, Depot.step, Depot.Stocked, Depot.Consistent,
  UndefinedFunctionsOptions.cacheKey_inj, Depot.consistent_run, Depot.renderers_reused
-/
import Mathlib.Data.Finset.Card
import Mathlib.Data.List.Forall2
import Mathlib.Data.List.Pairwise
import SassRenderLint.Proofs.JsonText
import SassRenderLint.Proofs.MemoInterleaving
import SassRenderLint.Proofs.Watching

namespace SassRenderLint

/-! ### Keys -/

namespace UndefinedFunctionsOptions

theorem integralItems_strings (texts : List String) : Json.IntegralItems (texts.map .str) := by
  induction texts with
  | nil => trivial
  | cons text rest ih => exact ⟨trivial, ih⟩

/-- Options have no numbers, so their text tells them apart. -/
theorem integral_toJson (o : UndefinedFunctionsOptions) : o.toJson.Integral := by
  simp [toJson, Json.Integral, Json.IntegralFields, integralItems_strings]

/-- Options have the same text exactly if both lists are the same, whatever their items hold. -/
theorem cacheKey_inj {o p : UndefinedFunctionsOptions} : o.cacheKey = p.cacheKey ↔ o = p := by
  constructor
  · intro same
    have values := Json.compact_inj o.integral_toJson p.integral_toJson same
    simp only [toJson, Json.obj.injEq, List.cons.injEq, Prod.mk.injEq, Json.arr.injEq, true_and, and_true] at values
    have injective : Function.Injective Json.str := fun _ _ => Json.str.inj
    obtain ⟨disallowed, additional⟩ := values
    cases o
    cases p
    rw [mk.injEq]
    exact ⟨List.map_injective_iff.2 injective disallowed, List.map_injective_iff.2 injective additional⟩
  · rintro rfl
    rfl

end UndefinedFunctionsOptions

/-! ### Requests -/

/-- A compiler, told by its identity and by how many compilers had that identity before it. -/
structure Tenant where
  identity : Nat
  generation : Nat
deriving DecidableEq, Repr

/-- The compiler that has an identity now. -/
def Compiler.tenant (compiler : Compiler) (generation : Nat → Nat) : Tenant :=
  ⟨compiler.identity, generation compiler.identity⟩

inductive RendererRequest where
  | base
  | undefinedFunctions (options : UndefinedFunctionsOptions)
  | all (options : Option UndefinedFunctionsOptions)
deriving DecidableEq, Repr

/-- What is written down: a renderer that was built, or the answer to a request. -/
inductive CacheEvent (ρ : Type) where
  | built (compiler : Tenant) (options : Option UndefinedFunctionsOptions) (renderer : ρ)
  | answered (compiler : Tenant) (request : RendererRequest) (renderers : List ρ)
deriving DecidableEq, Repr

/-- Surroundings in which is written down what happened since the tables were last emptied. -/
structure Logged (ω ρ : Type) where
  env : ω
  recent : List (CacheEvent ρ)

def Logged.envSlot {ω ρ : Type} : Slot (Logged ω ρ) ω where
  get w := w.env
  set env w := { w with env := env }

def Logged.note {ω ρ : Type} (e : CacheEvent ρ) (w : Logged ω ρ) : Logged ω ρ := { w with recent := w.recent ++ [e] }

def Logged.after {ω ρ α : Type} (f : ω → α × ω) (w : Logged ω ρ) : α × Logged ω ρ :=
  ((f w.env).1, { w with env := (f w.env).2 })

namespace Toolchain

variable {ω ρ : Type}

/-- Builds a renderer and writes it down. -/
def loggedBuild (compiler : Tenant) (options : Option UndefinedFunctionsOptions) (build : ω → ρ × ω)
    (w : Logged ω ρ) : ρ × Logged ω ρ :=
  ((w.after build).1, (w.after build).2.note (.built compiler options (w.after build).1))

/-- The toolchain with each renderer written down that it builds. -/
def logged (t : Toolchain ω ρ) (generation : Nat → Nat) : Toolchain (Logged ω ρ) ρ where
  build compiler := loggedBuild (compiler.tenant generation) none (t.build compiler)
  buildUndefined compiler options :=
    loggedBuild (compiler.tenant generation) (some options) (t.buildUndefined compiler options)
  render renderer options := (t.render renderer options).zoom Logged.envSlot
  renderBlocking renderer options w := w.after (t.renderBlocking renderer options)

/-- The renderer for errors and deprecations, or with options the one for undefined functions. -/
def obtain (t : Toolchain ω ρ) (compiler : Compiler) :
    Option UndefinedFunctionsOptions → Routine (RenderState ω ρ) ρ
  | none => t.renderer compiler
  | some options => t.undefinedRenderer compiler options

/-- Several renderers, one after the other. -/
def obtainAll (t : Toolchain ω ρ) (compiler : Compiler) :
    List (Option UndefinedFunctionsOptions) → Routine (RenderState ω ρ) (List ρ)
  | [] => .done []
  | options :: rest => (t.obtain compiler options).bind fun renderer =>
      (t.obtainAll compiler rest).bind fun renderers => .done (renderer :: renderers)

end Toolchain

namespace RendererRequest

variable {ω ρ : Type}

/-- What a request asks for, in order. -/
def wanted : RendererRequest → List (Option UndefinedFunctionsOptions)
  | .base => [none]
  | .undefinedFunctions options => [some options]
  | .all none => [none]
  | .all (some options) => [none, some options]

/-- How a request is answered. -/
def routine (t : Toolchain ω ρ) (compiler : Compiler) : RendererRequest → Routine (RenderState ω ρ) (List ρ)
  | .base => (t.renderer compiler).bind fun renderer => .done [renderer]
  | .undefinedFunctions options => (t.undefinedRenderer compiler options).bind fun renderer => .done [renderer]
  | .all options => t.renderers compiler options

/-- A request is answered renderer by renderer. -/
theorem routine_eq_obtainAll (t : Toolchain ω ρ) (compiler : Compiler) (request : RendererRequest) :
    request.routine t compiler = t.obtainAll compiler request.wanted := by
  cases request with
  | base => rfl
  | undefinedFunctions options => rfl
  | all options =>
      cases options with
      | none => rfl
      | some options =>
          simp only [routine, wanted, Toolchain.renderers, Toolchain.obtainAll, Toolchain.obtain, Routine.bind_assoc]
          rfl

end RendererRequest

/-- The renderers in use, what has happened, and how many compilers have had each identity before. -/
structure Depot (ω ρ : Type) where
  state : RenderState (Logged ω ρ) ρ
  generation : Nat → Nat

/-- A step of the callers. -/
inductive Depot.Step (ω ρ : Type) where
  /-- Asks for renderers, with any toolchain to build what is missing. -/
  | ask (t : Toolchain ω ρ) (compiler : Compiler) (request : RendererRequest)
  /-- Empties both tables. -/
  | clear
  /-- Lets go of a compiler, and a new one gets its identity unless a table still holds the old one. -/
  | replace (identity : Nat)

/-- Whether a compiler with an identity stands in a table. -/
def RendererTables.holds {ρ : Type} (t : RendererTables ρ) (identity : Nat) : Prop :=
  (∃ entry ∈ t.base.entries, entry.2.1.identity = identity) ∨
    ∃ entry ∈ t.undefinedFunctions.entries, entry.2.1.identity = identity

instance {ρ : Type} (t : RendererTables ρ) (identity : Nat) : Decidable (t.holds identity) :=
  inferInstanceAs (Decidable (_ ∨ _))

namespace Depot

variable {ω ρ : Type}

/-- Nothing built and no identity used before. -/
def start (env : ω) : Depot ω ρ := ⟨⟨⟨env, []⟩, .empty⟩, fun _ => 0⟩

/-- What has happened since the tables were last emptied. -/
def recent (d : Depot ω ρ) : List (CacheEvent ρ) := d.state.env.recent

def step (d : Depot ω ρ) : Step ω ρ → Depot ω ρ
  | .ask t compiler request =>
      let answer := (request.routine (t.logged d.generation) compiler).run d.state
      let event := .answered (compiler.tenant d.generation) request answer.1
      { d with state := { answer.2 with env := answer.2.env.note event } }
  | .clear => { d with state := ⟨⟨d.state.env.env, []⟩, .empty⟩ }
  | .replace identity =>
      if d.state.renderers.holds identity then d
      else { d with generation := Function.update d.generation identity (d.generation identity + 1) }

def run (steps : List (Step ω ρ)) (d : Depot ω ρ) : Depot ω ρ := steps.foldl step d

end Depot

/-! ### Writing down changes nothing else -/

section

variable {ω ρ : Type}

/-- The state without what is written down. -/
def RenderState.unlogged (s : RenderState (Logged ω ρ) ρ) : RenderState ω ρ := ⟨s.env.env, s.renderers⟩

/-- Seen without the log, the surroundings are the same part of the state. -/
theorem RenderState.envSlot_unlogged : Slot.Views (unlogged (ω := ω) (ρ := ρ)) Logged.env envSlot envSlot where
  get _ := rfl
  set _ _ := rfl

theorem RenderState.baseSlot_unlogged : Slot.Views (unlogged (ω := ω) (ρ := ρ)) id baseSlot baseSlot where
  get _ := rfl
  set _ _ := rfl

theorem RenderState.undefinedFunctionsSlot_unlogged :
    Slot.Views (unlogged (ω := ω) (ρ := ρ)) id undefinedFunctionsSlot undefinedFunctionsSlot where
  get _ := rfl
  set _ _ := rfl

/-- Writing a renderer down does not change how it is built. -/
theorem Toolchain.shadows_loggedBuild (compiler : Compiler) (tenant : Tenant)
    (options : Option UndefinedFunctionsOptions) (build : ω → ρ × ω) :
    Routine.Shadows RenderState.unlogged (built compiler (loggedBuild tenant options build))
      (built compiler build) := by
  apply Routine.Shadows.zoom RenderState.envSlot_unlogged RenderState.envSlot_lawful
  exact .modifyGet (fun _ => rfl) fun _ => rfl

/-- Nor how one is obtained from the tables. -/
theorem Toolchain.shadows_logged_obtain (t : Toolchain ω ρ) (generation : Nat → Nat) (compiler : Compiler)
    (options : Option UndefinedFunctionsOptions) :
    Routine.Shadows RenderState.unlogged ((t.logged generation).obtain compiler options)
      (t.obtain compiler options) := by
  cases options with
  | none =>
      apply Routine.Shadows.map
      apply Routine.Shadows.lookup RenderState.baseSlot_unlogged
      apply shadows_loggedBuild
  | some options =>
      apply Routine.Shadows.map
      apply Routine.Shadows.lookup RenderState.undefinedFunctionsSlot_unlogged
      apply shadows_loggedBuild

/-- So requests are answered alike with and without the log. -/
theorem Toolchain.shadows_logged_obtainAll (t : Toolchain ω ρ) (generation : Nat → Nat) (compiler : Compiler)
    (wanted : List (Option UndefinedFunctionsOptions)) :
    Routine.Shadows RenderState.unlogged ((t.logged generation).obtainAll compiler wanted)
      (t.obtainAll compiler wanted) := by
  induction wanted with
  | nil => exact .done _
  | cons options rest ih =>
      apply (t.shadows_logged_obtain generation compiler options).bind
      intro renderer
      exact ih.map _

end

/-! ### Tables and what is written down -/

section

variable {ρ κ : Type}

namespace CacheEvent

/-- What a renderer was built for. -/
def key? : CacheEvent ρ → Option (Tenant × Option UndefinedFunctionsOptions)
  | .built compiler options _ => some (compiler, options)
  | .answered .. => none

/-- The entry that a renderer gets in a table. -/
def filed? (keyOf : Nat → Option UndefinedFunctionsOptions → Option κ) :
    CacheEvent ρ → Option (κ × Compiler × ρ)
  | .built compiler options renderer =>
      (keyOf compiler.identity options).map fun key => (key, ⟨compiler.identity⟩, renderer)
  | .answered .. => none

def builtKeys (events : List (CacheEvent ρ)) : List (Tenant × Option UndefinedFunctionsOptions) :=
  events.filterMap key?

/-- What an event asks for. -/
def asks : CacheEvent ρ → List (Tenant × Option UndefinedFunctionsOptions)
  | .built .. => []
  | .answered compiler request _ => request.wanted.map (compiler, ·)

def askedKeys (events : List (CacheEvent ρ)) : List (Tenant × Option UndefinedFunctionsOptions) :=
  events.flatMap asks

/-- A key was built for when some renderer was built for it. -/
theorem mem_builtKeys {events : List (CacheEvent ρ)} {compiler : Tenant} {options : Option UndefinedFunctionsOptions} :
    (compiler, options) ∈ builtKeys events ↔ ∃ renderer, .built compiler options renderer ∈ events := by
  simp only [builtKeys, List.mem_filterMap]
  constructor
  · rintro ⟨event, member, same⟩
    cases event with
    | built compiler' options' renderer =>
        cases same
        exact ⟨renderer, member⟩
    | answered => cases same
  · rintro ⟨renderer, member⟩
    exact ⟨_, member, rfl⟩

/-- A key was asked for when an answered request wanted it. -/
theorem mem_askedKeys {events : List (CacheEvent ρ)} {compiler : Tenant} {options : Option UndefinedFunctionsOptions} :
    (compiler, options) ∈ askedKeys events ↔
      ∃ request renderers, .answered compiler request renderers ∈ events ∧ options ∈ request.wanted := by
  simp only [askedKeys, List.mem_flatMap]
  constructor
  · rintro ⟨event, member, asked⟩
    cases event with
    | built => cases asked
    | answered compiler' request renderers =>
        obtain ⟨options', wanted, same⟩ := List.mem_map.1 asked
        cases same
        exact ⟨request, renderers, member, wanted⟩
  · rintro ⟨request, renderers, member, wanted⟩
    exact ⟨_, member, List.mem_map_of_mem wanted⟩

/-- Where nothing is built twice, there is one renderer for each key. -/
theorem built_unique {events : List (CacheEvent ρ)} (once : (builtKeys events).Nodup) {compiler : Tenant}
    {options : Option UndefinedFunctionsOptions} {first second : ρ} (mem : .built compiler options first ∈ events)
    (mem' : .built compiler options second ∈ events) : first = second := by
  have apart := List.pairwise_filterMap.1 once
  by_contra differ
  have symmetric : Std.Symm fun e e' : CacheEvent ρ =>
      ∀ key, e.key? = some key → ∀ key', e'.key? = some key' → key ≠ key' := by
    constructor
    intro e e' distinct key eq key' eq'
    exact (distinct key' eq' key eq).symm
  have differ' : CacheEvent.built compiler options first ≠ .built compiler options second := by simpa using differ
  exact apart.forall mem mem' differ' _ rfl _ rfl rfl

end CacheEvent

/-- The entries of a table are the renderers that were built for it. -/
def Shelf (keyOf : Nat → Option UndefinedFunctionsOptions → Option κ) (m : Memo κ (Compiler × ρ))
    (events : List (CacheEvent ρ)) : Prop :=
  m.entries = events.filterMap (CacheEvent.filed? keyOf)

namespace Shelf

variable {keyOf : Nat → Option UndefinedFunctionsOptions → Option κ} {m : Memo κ (Compiler × ρ)}
  {events : List (CacheEvent ρ)} {identity : Nat} {options : Option UndefinedFunctionsOptions} {key : κ}

/-- Each entry of a shelf is a renderer that was built, beside the compiler with its identity. -/
theorem mem_entries (shelf : Shelf keyOf m events) {entry : κ × Compiler × ρ} :
    entry ∈ m.entries ↔ ∃ compiler options, .built compiler options entry.2.2 ∈ events ∧
      keyOf compiler.identity options = some entry.1 ∧ entry.2.1 = ⟨compiler.identity⟩ := by
  rw [shelf, List.mem_filterMap]
  constructor
  · rintro ⟨event, member, same⟩
    cases event with
    | built compiler options renderer =>
        simp only [CacheEvent.filed?, Option.map_eq_some_iff] at same
        obtain ⟨key, found, rfl⟩ := same
        exact ⟨compiler, options, member, found, rfl⟩
    | answered => cases same
  · rintro ⟨compiler, options, member, found, pinned⟩
    obtain ⟨key, holder, renderer⟩ := entry
    exact ⟨_, member, by simp_all [CacheEvent.filed?]⟩

/-- An event that is not about a table leaves it as it is. -/
theorem note (shelf : Shelf keyOf m events) {event : CacheEvent ρ} (elsewhere : event.filed? keyOf = none) :
    Shelf keyOf m (events ++ [event]) := by
  rw [Shelf, shelf, List.filterMap_append, List.filterMap_cons_none elsewhere, List.filterMap_nil, List.append_nil]

variable [DecidableEq κ]

/-- What a table gives for a key was built for that key. -/
theorem exists_built (shelf : Shelf keyOf m events)
    (tells : ∀ {i j o p k}, keyOf i o = some k → keyOf j p = some k → i = j ∧ o = p)
    (keyed : keyOf identity options = some key) {pinned : Compiler × ρ} (found : m.get? key = some pinned) :
    ∃ compiler, .built compiler options pinned.2 ∈ events ∧ compiler.identity = identity := by
  have member : (key, pinned) ∈ m.entries := by
    simp only [Memo.get?, Option.map_eq_some_iff] at found
    obtain ⟨entry, found, rfl⟩ := found
    have same : entry.1 = key := by simpa using List.find?_some found
    rw [← same]
    exact List.mem_of_find?_eq_some found
  obtain ⟨compiler, options', built, keyed', -⟩ := shelf.mem_entries.1 member
  obtain ⟨rfl, rfl⟩ := tells keyed' keyed
  exact ⟨compiler, built, rfl⟩

/-- Nothing was built for a key that a table does not have. -/
theorem not_built (shelf : Shelf keyOf m events) (keyed : keyOf identity options = some key)
    (missing : m.get? key = none) {compiler : Tenant} {renderer : ρ}
    (built : .built compiler options renderer ∈ events) : compiler.identity ≠ identity := by
  rintro rfl
  have member : (key, ⟨compiler.identity⟩, renderer) ∈ m.entries :=
    shelf.mem_entries.2 ⟨compiler, options, built, keyed, rfl⟩
  exact Memo.get?_eq_none_iff.1 missing (List.mem_map_of_mem member)

/-- A renderer that is built for a missing key and then stored stands in the table. -/
theorem store (shelf : Shelf keyOf m events) (compiler : Tenant) (keyed : keyOf compiler.identity options = some key)
    (missing : m.get? key = none) (renderer : ρ) :
    Shelf keyOf (m.store key (⟨compiler.identity⟩, renderer)).2 (events ++ [.built compiler options renderer]) := by
  simp only [Shelf, Memo.store, missing, List.filterMap_append, shelf.symm]
  simp [CacheEvent.filed?, keyed]

end Shelf

def baseKey (identity : Nat) : Option UndefinedFunctionsOptions → Option Nat
  | none => some identity
  | some _ => none

def undefinedFunctionsKey (identity : Nat) : Option UndefinedFunctionsOptions → Option (Nat × String)
  | none => none
  | some options => some (identity, options.cacheKey)

/-- In the table for errors and deprecations, a key tells the compiler, and that there are no options. -/
theorem baseKey_tells {i j k : Nat} {o p : Option UndefinedFunctionsOptions} (first : baseKey i o = some k)
    (second : baseKey j p = some k) : i = j ∧ o = p := by
  cases o <;> cases p <;> simp_all [baseKey]

/-- In the table for undefined functions, a key tells the compiler and the options: no two have one text. -/
theorem undefinedFunctionsKey_tells {i j : Nat} {k : Nat × String} {o p : Option UndefinedFunctionsOptions}
    (first : undefinedFunctionsKey i o = some k) (second : undefinedFunctionsKey j p = some k) : i = j ∧ o = p := by
  cases o with
  | none => cases first
  | some o =>
      cases p with
      | none => cases second
      | some p =>
          have same := Option.some.inj (first.trans second.symm)
          rw [Prod.mk.injEq, UndefinedFunctionsOptions.cacheKey_inj] at same
          exact ⟨same.1, congrArg some same.2⟩

/-- Each renderer stands in one of the tables. -/
theorem length_builtKeys (events : List (CacheEvent ρ)) :
    (events.filterMap (CacheEvent.filed? baseKey)).length +
      (events.filterMap (CacheEvent.filed? undefinedFunctionsKey)).length = (CacheEvent.builtKeys events).length := by
  induction events with
  | nil => rfl
  | cons event rest ih =>
      cases event with
      | answered => exact ih
      | built compiler options renderer =>
          cases options with
          | none =>
              have elsewhere : (CacheEvent.built compiler none renderer).filed? undefinedFunctionsKey = none := rfl
              rw [List.filterMap_cons_none elsewhere]
              exact (Nat.succ_add _ _).trans (congrArg Nat.succ ih)
          | some options =>
              have elsewhere : (CacheEvent.built compiler (some options) renderer).filed? baseKey = none := rfl
              rw [List.filterMap_cons_none elsewhere]
              exact congrArg Nat.succ ih

end

/-! ### Lookups -/

section

variable {σ κ ν : Type} [DecidableEq κ] (slot : Slot σ (Memo κ ν)) {key : κ} {compute : Routine σ ν} {s : σ}

/-- A hit changes nothing. -/
theorem Memo.run_lookup_of_some {value : ν} (found : (slot.get s).get? key = some value) :
    (Memo.lookup slot key compute).run s = (value, s) := by
  rw [lookup_eq_tryLookup, tryLookup_eq]
  simp [Routine.run, Routine.run_bind, found, unfailing]

/-- A miss computes a value and then stores it. -/
theorem Memo.run_lookup_of_none (missing : (slot.get s).get? key = none) :
    (Memo.lookup slot key compute).run s =
      (((slot.get (compute.run s).2).store key (compute.run s).1).1,
        slot.set ((slot.get (compute.run s).2).store key (compute.run s).1).2 (compute.run s).2) := by
  rw [lookup_eq_tryLookup, tryLookup_eq]
  simp [Routine.run, Routine.run_bind, missing, conclude, unfailing]

end

namespace Toolchain

variable {ω ρ : Type} {s : RenderState ω ρ} {compiler : Compiler}

/-- Where the table has nothing, a renderer is built and filed. -/
theorem run_renderer_of_none (missing : s.renderers.base.get? compiler.identity = none) (t : Toolchain ω ρ) :
    (t.renderer compiler).run s =
      ((t.build compiler s.env).1, ⟨(t.build compiler s.env).2, { s.renderers with
        base := (s.renderers.base.store compiler.identity (compiler, (t.build compiler s.env).1)).2 }⟩) := by
  rw [renderer, Routine.run_bind, Memo.run_lookup_of_none RenderState.baseSlot missing, Memo.store_fst]
  show (((s.renderers.base.get? compiler.identity).getD _).2, _) = _
  rw [missing]
  rfl

/-- The same in the table for undefined functions. -/
theorem run_undefinedRenderer_of_none {options : UndefinedFunctionsOptions}
    (missing : s.renderers.undefinedFunctions.get? (compiler.identity, options.cacheKey) = none)
    (t : Toolchain ω ρ) :
    (t.undefinedRenderer compiler options).run s =
      ((t.buildUndefined compiler options s.env).1, ⟨(t.buildUndefined compiler options s.env).2, { s.renderers with
        undefinedFunctions := (s.renderers.undefinedFunctions.store (compiler.identity, options.cacheKey)
          (compiler, (t.buildUndefined compiler options s.env).1)).2 }⟩) := by
  rw [undefinedRenderer, Routine.run_bind, Memo.run_lookup_of_none RenderState.undefinedFunctionsSlot missing,
    Memo.store_fst]
  show (((s.renderers.undefinedFunctions.get? (compiler.identity, options.cacheKey)).getD _).2, _) = _
  rw [missing]
  rfl

end Toolchain

namespace Depot

variable {ω ρ : Type}

open CacheEvent

/-- Between two steps, and between two lookups of one step: the tables are what was built since they were
    last emptied, nothing was built twice, and all was built for the compilers of now. -/
structure Stocked (generation : Nat → Nat) (s : RenderState (Logged ω ρ) ρ) : Prop where
  base : Shelf baseKey s.renderers.base s.env.recent
  undefinedFunctions : Shelf undefinedFunctionsKey s.renderers.undefinedFunctions s.env.recent
  once : (builtKeys s.env.recent).Nodup
  current : ∀ {compiler options renderer}, .built compiler options renderer ∈ s.env.recent →
    compiler.generation = generation compiler.identity

/-- What has been done when a compiler's renderers are there: each was built for what is wanted, and
    nothing else was built. -/
structure Served (generation : Nat → Nat) (compiler : Tenant) (wanted : List (Option UndefinedFunctionsOptions))
    (before : List (CacheEvent ρ)) (renderers : List ρ) (after : RenderState (Logged ω ρ) ρ) : Prop where
  stocked : Stocked generation after
  built : List.Forall₂ (fun options renderer => .built compiler options renderer ∈ after.env.recent) wanted renderers
  kept : ∀ {event}, event ∈ before → event ∈ after.env.recent
  new : ∀ {event}, event ∈ after.env.recent →
    event ∈ before ∨ ∃ options ∈ wanted, ∃ renderer, event = .built compiler options renderer

/-- A renderer that a table gives was built for the compiler of now. -/
theorem Stocked.served_of_found {κ : Type} [DecidableEq κ]
    {keyOf : Nat → Option UndefinedFunctionsOptions → Option κ} {m : Memo κ (Compiler × ρ)}
    {generation : Nat → Nat} {s : RenderState (Logged ω ρ) ρ} (stocked : Stocked generation s)
    (shelf : Shelf keyOf m s.env.recent)
    (tells : ∀ {i j o p k}, keyOf i o = some k → keyOf j p = some k → i = j ∧ o = p) {compiler : Compiler}
    {options : Option UndefinedFunctionsOptions} {key : κ} (keyed : keyOf compiler.identity options = some key)
    {pinned : Compiler × ρ} (found : m.get? key = some pinned) :
    Served generation (compiler.tenant generation) [options] s.env.recent [pinned.2] s := by
  obtain ⟨tenant, built, same⟩ := shelf.exists_built tells keyed found
  have now : tenant = compiler.tenant generation := by
    obtain ⟨identity, g⟩ := tenant
    have generation := stocked.current built
    cases same
    simpa [Compiler.tenant] using generation
  rw [← now]
  exact ⟨stocked, .cons built .nil, id, .inl⟩

/-- A renderer that is built for what no renderer was built for is the answer, if it is also stored. -/
theorem Stocked.served_of_built {generation : Nat → Nat} {s : RenderState (Logged ω ρ) ρ}
    (stocked : Stocked generation s) {compiler : Compiler} {options : Option UndefinedFunctionsOptions}
    (fresh : ∀ {other renderer}, .built other options renderer ∈ s.env.recent → other.identity ≠ compiler.identity)
    {renderer : ρ} {env : ω} {tables : RendererTables ρ}
    (base : Shelf baseKey tables.base (s.env.recent ++ [.built (compiler.tenant generation) options renderer]))
    (undefinedFunctions : Shelf undefinedFunctionsKey tables.undefinedFunctions
      (s.env.recent ++ [.built (compiler.tenant generation) options renderer])) :
    Served generation (compiler.tenant generation) [options] s.env.recent [renderer]
      ⟨⟨env, s.env.recent ++ [.built (compiler.tenant generation) options renderer]⟩, tables⟩ := by
  refine ⟨⟨base, undefinedFunctions, ?_, ?_⟩, by simp, List.mem_append_left _, ?_⟩
  · -- Nothing was built for this compiler, for nothing was built for its identity.
    have appended : builtKeys (s.env.recent ++ [.built (compiler.tenant generation) options renderer]) =
        (builtKeys s.env.recent).concat (compiler.tenant generation, options) := by simp [builtKeys, key?]
    rw [appended]
    apply stocked.once.concat
    intro member
    obtain ⟨renderer, built⟩ := mem_builtKeys.1 member
    exact fresh built rfl
  · intro other options' renderer' member
    rcases List.mem_append.1 member with old | new
    · exact stocked.current old
    · cases List.mem_singleton.1 new
      rfl
  · intro event member
    rcases List.mem_append.1 member with old | new
    · exact .inl old
    · exact .inr ⟨options, List.mem_singleton_self _, renderer, List.mem_singleton.1 new⟩

/-- Both kinds of lookup give a renderer that was built for what is asked, and build it only if there is
    none. -/
theorem Stocked.served_obtain {generation : Nat → Nat} {s : RenderState (Logged ω ρ) ρ}
    (stocked : Stocked generation s) (t : Toolchain ω ρ) (compiler : Compiler)
    (options : Option UndefinedFunctionsOptions) :
    let answer := ((t.logged generation).obtain compiler options).run s
    Served generation (compiler.tenant generation) [options] s.env.recent [answer.1] answer.2 := by
  cases options with
  | none =>
      rw [Toolchain.obtain]
      cases found : s.renderers.base.get? compiler.identity with
      | some pinned =>
          rw [Toolchain.renderer, Routine.run_bind, Memo.run_lookup_of_some RenderState.baseSlot found]
          exact stocked.served_of_found stocked.base baseKey_tells rfl found
      | none =>
          rw [Toolchain.run_renderer_of_none found]
          apply stocked.served_of_built (stocked.base.not_built rfl found)
          · exact stocked.base.store (compiler.tenant generation) rfl found _
          · exact stocked.undefinedFunctions.note rfl
  | some options =>
      rw [Toolchain.obtain]
      cases found : s.renderers.undefinedFunctions.get? (compiler.identity, options.cacheKey) with
      | some pinned =>
          rw [Toolchain.undefinedRenderer, Routine.run_bind,
            Memo.run_lookup_of_some RenderState.undefinedFunctionsSlot found]
          exact stocked.served_of_found stocked.undefinedFunctions undefinedFunctionsKey_tells rfl found
      | none =>
          rw [Toolchain.run_undefinedRenderer_of_none found]
          apply stocked.served_of_built (stocked.undefinedFunctions.not_built rfl found)
          · exact stocked.base.note rfl
          · exact stocked.undefinedFunctions.store (compiler.tenant generation) rfl found _

/-- Renderer by renderer, stock is taken or built, by induction on what is wanted. -/
theorem Stocked.served_obtainAll {generation : Nat → Nat} (t : Toolchain ω ρ) (compiler : Compiler)
    (wanted : List (Option UndefinedFunctionsOptions)) {s : RenderState (Logged ω ρ) ρ}
    (stocked : Stocked generation s) :
    let answer := ((t.logged generation).obtainAll compiler wanted).run s
    Served generation (compiler.tenant generation) wanted s.env.recent answer.1 answer.2 := by
  induction wanted generalizing s with
  | nil => exact ⟨stocked, .nil, id, .inl⟩
  | cons options rest ih =>
      rw [Toolchain.obtainAll, Routine.run_bind, Routine.run_bind]
      have first := stocked.served_obtain t compiler options
      have others := ih first.stocked
      refine ⟨others.stocked, ?_, fun member => others.kept (first.kept member), ?_⟩
      · cases first.built with
        | cons built _ => exact .cons (others.kept built) others.built
      · intro event member
        rcases others.new member with between | ⟨o, wanted, built⟩
        · rcases first.new between with before | ⟨o, wanted, built⟩
          · exact .inl before
          · cases List.mem_singleton.1 wanted
            exact .inr ⟨options, List.mem_cons_self, built⟩
        · exact .inr ⟨o, List.mem_cons_of_mem _ wanted, built⟩

/-- What holds between two steps: besides, all requests were answered with what was built for them, and
    nothing was built that was not asked for. -/
structure Consistent (d : Depot ω ρ) : Prop where
  stocked : Stocked d.generation d.state
  answered : ∀ {compiler request renderers}, .answered compiler request renderers ∈ d.recent →
    List.Forall₂ (fun options renderer => .built compiler options renderer ∈ d.recent) request.wanted renderers
  asked : ∀ key ∈ builtKeys d.recent, key ∈ askedKeys d.recent

/-- Empty tables have nothing to account for. -/
theorem consistent_empty (env : ω) (generation : Nat → Nat) :
    Consistent (⟨⟨⟨env, []⟩, .empty⟩, generation⟩ : Depot ω ρ) where
  stocked := ⟨rfl, rfl, List.nodup_nil, fun member => nomatch member⟩
  answered member := nomatch member
  asked _ member := nomatch member

/-- A compiler whose identity passes on is not one that a renderer was built for. -/
theorem Consistent.replace {d : Depot ω ρ} (consistent : Consistent d) (identity : Nat) :
    Consistent (d.step (.replace identity)) := by
  rw [step]
  split
  · exact consistent
  · rename_i free
    refine ⟨⟨consistent.stocked.base, consistent.stocked.undefinedFunctions, consistent.stocked.once, ?_⟩,
      consistent.answered, consistent.asked⟩
    intro compiler options renderer built
    have others : compiler.identity ≠ identity := by
      rintro rfl
      apply free
      cases options with
      | none => exact .inl ⟨(compiler.identity, ⟨compiler.identity⟩, renderer),
          consistent.stocked.base.mem_entries.2 ⟨compiler, none, built, rfl, rfl⟩, rfl⟩
      | some options => exact .inr ⟨((compiler.identity, options.cacheKey), ⟨compiler.identity⟩, renderer),
          consistent.stocked.undefinedFunctions.mem_entries.2 ⟨compiler, some options, built, rfl, rfl⟩, rfl⟩
    simp only [Function.update_of_ne others]
    exact consistent.stocked.current built

/-- The answer to a request builds nothing. -/
theorem Stocked.note_answered {generation : Nat → Nat} {s : RenderState (Logged ω ρ) ρ}
    (stocked : Stocked generation s) (compiler : Tenant) (request : RendererRequest) (renderers : List ρ) :
    Stocked generation { s with env := s.env.note (.answered compiler request renderers) } where
  base := stocked.base.note rfl
  undefinedFunctions := stocked.undefinedFunctions.note rfl
  once := by
    have silent : key? (.answered compiler request renderers) = none := rfl
    simpa [Logged.note, builtKeys, List.filterMap_cons_none silent] using stocked.once
  current member := stocked.current (by simpa [Logged.note] using member)

/-- A request keeps the books. -/
theorem Consistent.ask {d : Depot ω ρ} (consistent : Consistent d) (t : Toolchain ω ρ) (compiler : Compiler)
    (request : RendererRequest) : Consistent (d.step (.ask t compiler request)) := by
  have served := consistent.stocked.served_obtainAll t compiler request.wanted
  rw [← RendererRequest.routine_eq_obtainAll] at served
  refine ⟨served.stocked.note_answered _ _ _, ?_, ?_⟩
  · intro other request' renderers member
    rcases List.mem_append.1 member with earlier | now
    · -- Lookups write no answers down, so this one is older than the request.
      rcases served.new earlier with before | ⟨_, _, _, built⟩
      · apply (consistent.answered before).imp
        intro options renderer built
        exact List.mem_append_left _ (served.kept built)
      · cases built
    · cases List.mem_singleton.1 now
      apply served.built.imp
      intro options renderer built
      exact List.mem_append_left _ built
  · rintro ⟨other, options⟩ member
    obtain ⟨renderer, built⟩ := mem_builtKeys.1 member
    rw [mem_askedKeys]
    rcases List.mem_append.1 built with earlier | now
    · rcases served.new earlier with before | ⟨options', wanted, _, same⟩
      · obtain ⟨request', renderers, asked, wanted⟩ :=
          mem_askedKeys.1 (consistent.asked _ (mem_builtKeys.2 ⟨renderer, before⟩))
        exact ⟨request', renderers, List.mem_append_left _ (served.kept asked), wanted⟩
      · cases same
        exact ⟨request, _, List.mem_append_right _ (List.mem_singleton_self _), wanted⟩
    · cases List.mem_singleton.1 now

/-- So does every step. -/
theorem Consistent.step {d : Depot ω ρ} (consistent : Consistent d) : ∀ s : Step ω ρ, Consistent (d.step s)
  | .ask t compiler request => consistent.ask t compiler request
  | .clear => consistent_empty _ _
  | .replace identity => consistent.replace identity

/-- From empty tables on, the books are kept in every run. -/
theorem consistent_run (env : ω) (steps : List (Step ω ρ)) : Consistent ((start env).run steps) := by
  rw [run]
  induction steps using List.reverseRecOn with
  | nil => exact consistent_empty env _
  | append_singleton steps last ih =>
      rw [List.foldl_concat]
      exact ih.step last

/-- The tables have one entry for each thing that was asked for. -/
theorem Consistent.size_eq {d : Depot ω ρ} (consistent : Consistent d) :
    d.state.renderers.size = (askedKeys d.recent).toFinset.card := by
  have same : (builtKeys d.recent).toFinset = (askedKeys d.recent).toFinset := by
    ext ⟨compiler, options⟩
    rw [List.mem_toFinset, List.mem_toFinset]
    constructor
    · exact consistent.asked _
    · intro asked
      obtain ⟨request, renderers, answered, wanted⟩ := mem_askedKeys.1 asked
      have all := List.forall₂_iff_get.1 (consistent.answered answered)
      obtain ⟨i, inside, found⟩ := List.getElem_of_mem wanted
      have built := all.2 i inside (all.1 ▸ inside)
      rw [List.get_eq_getElem, found] at built
      exact mem_builtKeys.2 ⟨_, built⟩
  calc d.state.renderers.size = (builtKeys d.recent).length := by
        rw [← length_builtKeys, RendererTables.size, Memo.size, Memo.size, consistent.stocked.base,
          consistent.stocked.undefinedFunctions]
        rfl
    _ = (builtKeys d.recent).toFinset.card := (List.toFinset_card_of_nodup consistent.stocked.once).symm
    _ = (askedKeys d.recent).toFinset.card := by rw [same]

/-- An answer holds a renderer for a compiler, and for options if there are any. -/
def Given (events : List (CacheEvent ρ)) (compiler : Tenant) (options : Option UndefinedFunctionsOptions)
    (renderer : ρ) : Prop :=
  ∃ request renderers, .answered compiler request renderers ∈ events ∧
    (options, renderer) ∈ request.wanted.zip renderers

/-- What an answer holds was built for it, since the tables were last emptied. -/
theorem Consistent.built_of_given {d : Depot ω ρ} (consistent : Consistent d) {compiler : Tenant}
    {options : Option UndefinedFunctionsOptions} {renderer : ρ} (given : Given d.recent compiler options renderer) :
    .built compiler options renderer ∈ d.recent := by
  obtain ⟨request, renderers, answered, pair⟩ := given
  exact List.forall₂_zip (consistent.answered answered) pair

/-- Whatever the callers did: a request is answered as it is where nothing is written down, and the answer
    is written down. Since the tables were last emptied, each answer holds what was built for the compiler and
    the options that were asked for, in their order, equal requests got the same renderer, nothing was built
    twice, and there are as many renderers as different things that were asked for. -/
theorem renderers_reused (env : ω) (steps : List (Step ω ρ)) :
    let d := (start env).run steps
    (∀ (t : Toolchain ω ρ) (compiler : Compiler) (request : RendererRequest),
      let answer := (request.routine t compiler).run d.state.unlogged
      let after := d.step (.ask t compiler request)
      after.state.unlogged = answer.2 ∧
        .answered (compiler.tenant d.generation) request answer.1 ∈ after.recent) ∧
    (∀ compiler request renderers, .answered compiler request renderers ∈ d.recent →
      List.Forall₂ (fun options renderer => .built compiler options renderer ∈ d.recent) request.wanted renderers) ∧
    (∀ compiler options first second, Given d.recent compiler options first →
      Given d.recent compiler options second → first = second) ∧
    (builtKeys d.recent).Nodup ∧
    d.state.renderers.size = (askedKeys d.recent).toFinset.card := by
  have consistent := consistent_run env steps
  refine ⟨?_, fun _ _ _ => consistent.answered, ?_, consistent.stocked.once, consistent.size_eq⟩
  · intro t compiler request
    have shadows := (t.shadows_logged_obtainAll ((start env).run steps).generation compiler request.wanted).run
      ((start env).run steps).state
    rw [← RendererRequest.routine_eq_obtainAll, ← RendererRequest.routine_eq_obtainAll] at shadows
    rw [← shadows]
    exact ⟨rfl, List.mem_append_right _ (List.mem_singleton_self _)⟩
  · intro compiler options first second given given'
    exact built_unique consistent.stocked.once (consistent.built_of_given given) (consistent.built_of_given given')

/-- A toolchain whose renderers are numbers, in the order in which they are built. -/
def numbered : Toolchain Nat Nat where
  build _ built := (built, built + 1)
  buildUndefined _ _ built := (built, built + 1)
  render _ _ := .done (.ok [])
  renderBlocking _ _ built := (.ok [], built)

/-- Options whose lists hold the same text in different places, and a compiler that is let go of while a
    table still holds it. -/
def sampleSteps : List (Step Nat Nat) :=
  [.ask numbered ⟨7⟩ (.undefinedFunctions ⟨["a\",\"b"], []⟩),
    .ask numbered ⟨7⟩ (.undefinedFunctions ⟨["a", "b"], []⟩), .replace 7,
    .ask numbered ⟨7⟩ (.all (some ⟨[], ["a", "b"]⟩)), .ask numbered ⟨7⟩ (.all (some ⟨["a", "b"], []⟩))]

/-- Each of the three options has a renderer of its own, and the last request is answered with renderers that
    were there before. -/
theorem renderers_reused_sample :
    ((start 0).run sampleSteps).state.renderers.size = 4 ∧
      List.Forall₂ (fun options renderer => .built ⟨7, 0⟩ options renderer ∈ ((start 0).run sampleSteps).recent)
        [none, some ⟨["a", "b"], []⟩] [2, 1] := by
  have reused := renderers_reused 0 sampleSteps
  exact ⟨reused.2.2.2.2.trans (by decide), reused.2.1 ⟨7, 0⟩ (.all (some ⟨["a", "b"], []⟩)) [2, 1] (by decide)⟩

end Depot

end SassRenderLint
