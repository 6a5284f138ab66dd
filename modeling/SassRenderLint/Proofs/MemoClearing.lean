/-
Module: SassRenderLint.Proofs.MemoClearing
Layer: Proofs
Purpose: What clearing a table does for lookups that begin after it. Such a lookup never returns what was
  stored before. What it returns was computed after the clearing too, unless the computation was under
  way when the table was cleared: it is not called off, and its value can be stored after all. The
  options of config modules are remembered in such a table.
Main exports: Memo.Answered, Memo.InFlight, Memo.ClearedAway, Resolver.Request, Resolver.Request.program,
  Memo.lookups_after_clear
-/
import SassRenderLint.Config.Resolver
import SassRenderLint.Proofs.MemoInterleaving

namespace SassRenderLint

namespace Memo

variable {σ κ ν ε : Type}

/-- A lookup that began at one place of the history returned a value at another: it found the value at
    once, or it missed and the value was kept when it stored. -/
def Answered (history : List (Event κ ν)) (began ended : Nat) (key : κ) (value : ν) : Prop :=
  (history[ended]? = some (.hit key value) ∧ began = ended) ∨
    ∃ made, history[ended]? = some (.stored began key made value)

/-- A lookup of a key that missed before a place of the history and has not ended there. -/
def InFlight (history : List (Event κ ν)) (key : κ) (call place : Nat) : Prop :=
  call < place ∧ history[call]? = some (.missed key) ∧
    ∀ i e, i ≤ place → history[i]? = some e → e.ends call = false

/-- What a lookup returns that begins after a clearing has been stored since, by a lookup that began
    after the clearing too or was in flight when it happened. -/
def ClearedAway (history : List (Event κ ν)) : Prop :=
  ∀ clearing began ended key value, history[clearing]? = some .cleared → clearing < began →
    Answered history began ended key value →
      ∃ i call, history[i]? = some (.stored call key value value) ∧ clearing < i ∧ i ≤ ended ∧
        history[call]? = some (.missed key) ∧ (clearing < call ∨ InFlight history key call clearing)

variable [DecidableEq κ] {slot : Slot σ (Memo κ ν)}

/-- The computation of a lookup does not end twice. -/
theorem System.Sound.not_ends_twice {sys : System slot ε} (sound : sys.Sound) {i j call : Nat} {e f : Event κ ν}
    (order : i < j) (first : sys.history[i]? = some e) (firstEnds : e.ends call = true)
    (second : sys.history[j]? = some f) (secondEnds : f.ends call = true) : False := by
  have early : 0 < (sys.history.take j).countP (Event.ends call) := by
    refine List.countP_pos_iff.2 ⟨e, List.mem_of_getElem? (i := i) ?_, firstEnds⟩
    rw [List.getElem?_take_of_lt order]
    exact first
  have late : 0 < (sys.history.drop j).countP (Event.ends call) := by
    refine List.countP_pos_iff.2 ⟨f, List.mem_of_getElem? (i := 0) ?_, secondEnds⟩
    rw [List.getElem?_drop]
    exact second
  have once := sound.once call
  have most : begun sys.history call ≤ 1 := Bool.toNat_le _
  rw [System.ended, ← List.take_append_drop j sys.history, List.countP_append, List.take_append_drop] at once
  omega

/-- The computation of a lookup ends once. -/
theorem System.Sound.ends_once {sys : System slot ε} (sound : sys.Sound) {i j call : Nat} {e f : Event κ ν}
    (first : sys.history[i]? = some e) (firstEnds : e.ends call = true)
    (second : sys.history[j]? = some f) (secondEnds : f.ends call = true) : i = j := by
  rcases Nat.lt_trichotomy i j with before | same | after
  · exact (sound.not_ends_twice before first firstEnds second secondEnds).elim
  · exact same
  · exact (sound.not_ends_twice after second secondEnds first firstEnds).elim

/-- Soundness is all that clearing needs: the trace says what the table had when each lookup looked. -/
theorem clearedAway_of_sound {sys : System slot ε} (sound : sys.Sound) : ClearedAway sys.history := by
  intro clearing began ended key value cleared after answered
  have returned : Returned sys.history ended key value := by
    rcases answered with ⟨found, _⟩ | ⟨made, stored⟩
    · exact Or.inl found
    · exact Or.inr ⟨began, made, stored⟩
  have order : began ≤ ended := by
    rcases answered with ⟨_, rfl⟩ | ⟨made, stored⟩
    · exact Nat.le_refl _
    · obtain ⟨_, _, _, ⟨missed, _⟩, _⟩ := sound.trace.fits_of_getElem? stored
      have inside := (List.getElem?_eq_some_iff.1 missed).1
      rw [List.length_take] at inside
      omega
  obtain ⟨table, trace, found⟩ := sound.trace.get?_of_returned returned
  obtain ⟨i, call, stored, missed, before, unclear⟩ := trace.exists_stored found
  have upTo : ∀ {place : Nat} {e : Event κ ν}, (sys.history.take (ended + 1))[place]? = some e →
      place ≤ ended ∧ sys.history[place]? = some e := by
    intro place e happened
    have inside := (List.getElem?_eq_some_iff.1 happened).1
    rw [List.length_take] at inside
    rw [List.getElem?_take_of_lt (by omega)] at happened
    exact ⟨by omega, happened⟩
  have since : clearing < i := by
    refine Nat.lt_of_not_le fun early => unclear clearing early ?_
    rw [List.getElem?_take_of_lt (by omega)]
    exact cleared
  obtain ⟨inTime, stored⟩ := upTo stored
  obtain ⟨_, missed⟩ := upTo missed
  refine ⟨i, call, stored, since, inTime, missed, ?_⟩
  rcases Nat.lt_trichotomy clearing call with later | rfl | earlier
  · exact Or.inl later
  · cases cleared.symm.trans missed
  · refine Or.inr ⟨earlier, missed, ?_⟩
    intro place e byThen happened
    cases ends : e.ends call with
    | false => rfl
    | true =>
        have same : place = i := sound.ends_once happened ends stored (decide_eq_true rfl)
        omega

end Memo

/-! ### Config modules -/

namespace ConfigState

variable {ω : Type}

theorem importsSlot_lawful : (importsSlot : Slot (ConfigState ω) (Memo (List Component) Fields)).Lawful where
  get_set _ _ := rfl
  set_get _ := rfl
  set_set _ _ _ := rfl

end ConfigState

namespace Resolver

variable {ω : Type}

/-- What can be asked of a resolver. -/
inductive Request where
  /-- The options of the module at a path. -/
  | importModule (path : Path)
  /-- The options that a setting stands for. -/
  | base (config : CompilerConfig)
  /-- To forget all locations and all imports. -/
  | clear

/-- A caller of the table of imports. -/
abbrev ImportsProgram (ω : Type) := Memo.Program (ConfigState.importsSlot : Slot (ConfigState ω) _) ConfigError

/-- An import, as a program: a lookup whose computation is a call of the loader. -/
def importProgram (r : Resolver ω) (path : Path) (next : Except ConfigError Fields → ImportsProgram ω) :
    ImportsProgram ω :=
  .call path.components
    (.after ((r.modules.loadFields path).zoom ConfigState.envSlot) (Routine.quiet_zoom (fun _ _ => rfl) _) .done)
    next

/-- The program of an import stands for the import. -/
theorem routine_importProgram (r : Resolver ω) (path : Path)
    (next : Except ConfigError Fields → ImportsProgram ω) :
    (r.importProgram path next).routine = (r.importModule path).bind fun answer => (next answer).routine := by
  rw [importProgram, Memo.Program.routine, Memo.Program.routine_after]
  exact congrArg (fun load => (Memo.tryLookup _ _ load).bind _) (Routine.bind_done _)

/-- Looking for a location leaves the imports alone, so it may stand between lookups of the table. -/
theorem quiet_location (r : Resolver ω) (specifier : String) :
    (r.location specifier).Quiet (ConfigState.importsSlot : Slot (ConfigState ω) _) :=
  Memo.quiet_tryLookup (fun _ _ => rfl) _ (Routine.quiet_zoom (fun _ _ => rfl) _)

namespace Request

def routine (r : Resolver ω) : Request → Routine (ConfigState ω) (Except ConfigError Fields)
  | .importModule path => r.importModule path
  | .base config => r.baseOptions config
  | .clear =>
    .act (fun s => ConfigState.locationsSlot.set Memo.empty s) fun _ =>
      .act (fun s => ConfigState.importsSlot.set Memo.empty s) fun _ => .done (.ok [])

def program (r : Resolver ω) : Request → (Except ConfigError Fields → ImportsProgram ω) → ImportsProgram ω
  | .importModule path, next => r.importProgram path next
  | .base (.inline fields), next => next (.ok fields)
  | .base (.fromModule specifier), next =>
    .after (r.location specifier) (r.quiet_location specifier) fun
      | .error e => next (.error e)
      | .ok path => r.importProgram path next
  | .clear, next =>
    .work (fun s => ConfigState.locationsSlot.set Memo.empty s) (fun _ => rfl) fun _ =>
      .clear (fun s => ConfigState.importsSlot.set Memo.empty s) (fun _ => rfl) (next (.ok []))

/-- The program of a request stands for what the request does. -/
theorem routine_program (r : Resolver ω) (request : Request) (next : Except ConfigError Fields → ImportsProgram ω) :
    (request.program r next).routine = (request.routine r).bind fun answer => (next answer).routine := by
  cases request with
  | importModule path => exact r.routine_importProgram path next
  | base config =>
      cases config with
      | inline fields => rfl
      | fromModule specifier =>
          rw [program, Memo.Program.routine_after, routine, baseOptions, Routine.bind_assoc]
          refine congrArg (r.location specifier).bind (funext fun located => ?_)
          cases located with
          | error e => rfl
          | ok path => exact r.routine_importProgram path next
  | clear => rfl

def programs (r : Resolver ω) : List Request → ImportsProgram ω
  | [] => .done (.ok [])
  | request :: rest => request.program r fun _ => programs r rest

def routines (r : Resolver ω) : List Request → Routine (ConfigState ω) (Except ConfigError Fields)
  | [] => .done (.ok [])
  | request :: rest => (request.routine r).bind fun _ => routines r rest

/-- The same for requests one after the other. -/
theorem routine_programs (r : Resolver ω) (requests : List Request) :
    (programs r requests).routine = routines r requests := by
  induction requests with
  | nil => rfl
  | cons request rest ih =>
      rw [programs, routines, routine_program]
      exact congrArg (request.routine r).bind (funext fun _ => ih)

end Request

end Resolver

/-! ### After clearing -/

namespace Memo

variable {σ κ ν ε : Type} [DecidableEq κ] {slot : Slot σ (Memo κ ν)}

/-- Callers of a table take their steps in any order, and clear it as they like. A lookup that begins
    after a clearing returns a value stored since, whose computation began after the clearing too unless
    it was in flight then. So it is with the imports of a resolver, whose computations are calls of the
    loader; options that stand in a setting are answered without a step. -/
theorem lookups_after_clear (lawful : slot.Lawful) (programs : List (Program slot ε)) (s : σ)
    (fresh : slot.get s = Memo.empty) :
    ((System.start programs s).RunsAs (programs.map Program.routine) ∧
      ∀ schedule, ClearedAway ((System.start programs s).run schedule).history) ∧
    (∀ (ω : Type) (r : Resolver ω) (callers : List (List Resolver.Request)) (s : ConfigState ω),
      s.tables.imports = Memo.empty →
        let sys := System.start (callers.map (Resolver.Request.programs r)) s
        sys.RunsAs (callers.map (Resolver.Request.routines r)) ∧
          ∀ schedule, ClearedAway (sys.run schedule).history) ∧
    ∀ (ω : Type) (r : Resolver ω) (fields : Fields), r.baseOptions (.inline fields) = .done (.ok fields) := by
  refine ⟨⟨?_, ?_⟩, ?_, ?_⟩
  · exact System.runsAs_start programs s
  · intro schedule
    exact clearedAway_of_sound (System.sound_run lawful (System.sound_start fresh programs) schedule)
  · intro ω r callers s fresh sys
    constructor
    · have routines : (callers.map (Resolver.Request.programs r)).map Program.routine =
          callers.map (Resolver.Request.routines r) := by
        rw [List.map_map]
        exact List.map_congr_left fun requests _ => Resolver.Request.routine_programs r requests
      rw [← routines]
      exact System.runsAs_start _ s
    · intro schedule
      exact clearedAway_of_sound
        (System.sound_run ConfigState.importsSlot_lawful (System.sound_start fresh _) schedule)
  · intro ω r fields
    rfl

/-- A resolver whose loader counts its calls, is suspended once, and says whether the call was the first. -/
def countedLoads : Resolver Nat where
  cwd := .ofString "/p"
  modules := {
    packageRoot := fun _ loads => (none, loads)
    resolveFrom := fun base _ loads => (.ok base, loads)
    load := fun _ => .act (· + 1) fun loads =>
      .pause (.done (.ok (.inline (.obj [("first", .bool (decide (loads = 0)))])))) }

/-- Two callers that import a module, and between them one that clears what the resolver remembers. -/
def importers : List (Resolver.ImportsProgram Nat) :=
  [[.importModule (.ofString "/c")], [.clear], [.importModule (.ofString "/c")]].map
    (Resolver.Request.programs countedLoads)

/-- The first caller is suspended in the loader when the table is cleared, goes on and stores; then the
    third one looks the module up. -/
def clearedWhileLoading : System (ConfigState.importsSlot : Slot (ConfigState Nat) _) ConfigError :=
  (System.start importers ⟨0, .empty⟩).run [0, 0, 1, 1, 0, 0, 2]

/-- The same turns, taken by the imports themselves. -/
def importsInTurns : List (Routine (ConfigState Nat) (Except ConfigError Fields)) × ConfigState Nat :=
  Routine.interleave [0, 0, 1, 1, 0, 0, 2]
    [countedLoads.importModule (.ofString "/c"), Resolver.Request.clear.routine countedLoads,
      countedLoads.importModule (.ofString "/c")]
    ⟨0, .empty⟩

/-- A value that was loaded before the clearing, and stored after it, is what the third caller gets. -/
theorem lookups_after_clear_whileLoading :
    (ConfigState.importsSlot : Slot (ConfigState Nat) (Memo (List Component) Fields)).Lawful ∧
      clearedWhileLoading.history[1]? = some .cleared ∧
      ∃ i call : Nat, clearedWhileLoading.history[i]? = some (.stored call (Path.ofString "/c").components
          [("first", .bool true)] [("first", .bool true)]) ∧
        1 < i ∧ (1 < call ∨ InFlight clearedWhileLoading.history (Path.ofString "/c").components call 1) := by
  refine ⟨ConfigState.importsSlot_lawful, rfl, ?_⟩
  have away := (lookups_after_clear ConfigState.importsSlot_lawful importers ⟨0, .empty⟩ rfl).1.2 [0, 0, 1, 1, 0, 0, 2]
  obtain ⟨i, call, stored, since, _, _, began⟩ :=
    away 1 3 3 (Path.ofString "/c").components [("first", .bool true)] rfl (by decide) (Or.inl ⟨rfl, rfl⟩)
  exact ⟨i, call, stored, since, began⟩

/-- The third caller begins after the clearing, and yet gets what a call of the loader made that began
    before: its import ends with the options of the first call, and no other was made. And options that
    stand in a setting come from no call of the loader at all. -/
theorem not_fresh_after_clear :
    (¬ ∀ clearing began ended key value, clearedWhileLoading.history[clearing]? = some .cleared →
        clearing < began → Answered clearedWhileLoading.history began ended key value →
          ∃ (i call : Nat) (kept : Fields),
            clearedWhileLoading.history[i]? = some (.stored call key value kept) ∧ clearing < call) ∧
      (importsInTurns.1[2]? = some (.done (.ok [("first", .bool true)])) ∧ importsInTurns.2.env = 1) ∧
      (countedLoads.baseOptions (.inline [("b", .null)])).run ⟨1, .empty⟩ =
        (.ok [("b", .null)], ⟨1, .empty⟩) := by
  refine ⟨?_, ⟨rfl, rfl⟩, rfl⟩
  intro claimed
  have happened : clearedWhileLoading.history =
      [.missed (Path.ofString "/c").components, .cleared,
        .stored 0 (Path.ofString "/c").components [("first", .bool true)] [("first", .bool true)],
        .hit (Path.ofString "/c").components [("first", .bool true)]] := rfl
  obtain ⟨i, call, kept, stored, late⟩ :=
    claimed 1 3 3 (Path.ofString "/c").components [("first", .bool true)] rfl (by decide) (Or.inl ⟨rfl, rfl⟩)
  rw [happened] at stored
  have mem := List.mem_of_getElem? stored
  simp at mem
  omega

end Memo

end SassRenderLint
