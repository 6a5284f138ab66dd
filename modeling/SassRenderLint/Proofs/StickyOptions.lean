/-
Module: SassRenderLint.Proofs.StickyOptions
Layer: Proofs
Purpose: What a resolver sticks to while its locator and its loader change their minds. Any number of calls
  take turns. Each step of a call leaves the tables alone or stores one value, so that the tables only
  grow. So all calls that succeed agree with the tables there are in the end, those that fail leave
  no import behind, and a call whose answer is known takes it without a question to anybody.
Main exports: Resolver.Query, Resolver.reply?, Resolver.Query.Fits, Resolver.Query.acts_routine,
  Resolver.Query.ends_routine, Resolver.Query.idles_routine, Resolver.Sticks, Resolver.options_sticky
-/
import SassRenderLint.Proofs.GrowingStates
import SassRenderLint.Proofs.MemoClearing

namespace SassRenderLint

/-- Tables lie below others if both of them do. -/
instance : Preorder ConfigTables where
  le t t' := t.locations ≤ t'.locations ∧ t.imports ≤ t'.imports
  le_refl t := ⟨le_refl t.locations, le_refl t.imports⟩
  le_trans _ _ _ first second := ⟨le_trans first.1 second.1, le_trans first.2 second.2⟩

theorem ConfigState.locationsSlot_lawful {ω : Type} :
    (locationsSlot : Slot (ConfigState ω) (Memo (List Component × String) Path)).Lawful where
  get_set _ _ := rfl
  set_get _ := rfl
  set_set _ _ _ := rfl

namespace Resolver

inductive Query where
  /-- The module that a specifier names. -/
  | location (specifier : String)
  /-- The options of the module at a path. -/
  | importModule (path : Path)
  /-- The options that a setting stands for. -/
  | base (config : CompilerConfig)
deriving DecidableEq, Repr

inductive Found where
  | place (path : Path)
  | options (fields : Fields)
deriving DecidableEq, Repr

variable {ω : Type}

def Query.routine (r : Resolver ω) : Query → Routine (ConfigState ω) (Except ConfigError Found)
  | .location specifier => (r.location specifier).bind fun found => .done (found.map .place)
  | .importModule path => (r.importModule path).bind fun found => .done (found.map .options)
  | .base config => (r.baseOptions config).bind fun found => .done (found.map .options)

/-- A call for the options of a module looks for the module and then imports it. -/
theorem Query.routine_fromModule (r : Resolver ω) (specifier : String) :
    (Query.base (.fromModule specifier)).routine r =
      (r.location specifier).bind fun
        | .error e => .done (.error e)
        | .ok path => (Query.importModule path).routine r := by
  rw [routine, baseOptions, Routine.bind_assoc]
  refine congrArg (r.location specifier).bind (funext fun located => ?_)
  cases located <;> rfl

/-- The location that the tables have for a specifier. -/
def known? (r : Resolver ω) (t : ConfigTables) (specifier : String) : Option Path :=
  t.locations.get? (r.cwd.components, specifier)

/-- What the tables of a resolver answer. -/
def reply? (r : Resolver ω) (t : ConfigTables) : Query → Option Found
  | .location specifier => (r.known? t specifier).map .place
  | .importModule path => (t.imports.get? path.components).map .options
  | .base (.inline fields) => some (.options fields)
  | .base (.fromModule specifier) =>
      (r.known? t specifier).bind fun path => (t.imports.get? path.components).map .options

/-- The options of a module depend only on its place. -/
theorem reply?_fromModule (r : Resolver ω) (t : ConfigTables) (specifier : String) :
    r.reply? t (.base (.fromModule specifier)) =
      ((r.known? t specifier).map Path.components).bind fun place => (t.imports.get? place).map .options := by
  rw [reply?, Option.bind_map]
  rfl

/-! ### Steps of a call -/

/-- Looking for a location lets the tables grow, by the one location that is then given. -/
theorem acts_location (r : Resolver ω) (specifier : String) :
    (r.location specifier).Acts fun s s' rest =>
      s.tables ≤ s'.tables ∧ s'.tables.imports = s.tables.imports ∧
        (s'.tables.locations = s.tables.locations ∨
          ∃ path, r.known? s'.tables specifier = some path ∧ rest = .done (.ok path)) := by
  have asks : ((Routine.modifyGet (r.locate specifier)).zoom ConfigState.envSlot).Quiet
      (ConfigState.locationsSlot : Slot (ConfigState ω) _) := Routine.quiet_zoom (fun _ _ => rfl) _
  apply ((Memo.acts_tryLookup ConfigState.locationsSlot_lawful asks).and (r.quiet_location specifier).acts).mono
  rintro s s' rest ⟨looked, imports⟩
  have imports : s'.tables.imports = s.tables.imports := imports
  rcases looked with same | ⟨made, stored, rfl⟩
  · have same : s'.tables.locations = s.tables.locations := same
    exact ⟨⟨same.ge, imports.ge⟩, imports, Or.inl same⟩
  · have stored : s'.tables.locations = (s.tables.locations.store (r.cwd.components, specifier) made).2 := stored
    refine ⟨⟨?_, imports.ge⟩, imports, Or.inr ⟨_, ?_, rfl⟩⟩
    · rw [stored]
      exact Memo.le_store _ _ _
    · rw [known?, stored, Memo.get?_store, if_pos rfl]
      rfl

/-- Importing lets the tables grow, by an import whose options are then given. -/
theorem acts_importModule (r : Resolver ω) (path : Path) :
    (r.importModule path).Acts fun s s' rest =>
      s.tables ≤ s'.tables ∧ s'.tables.locations = s.tables.locations ∧
        (s'.tables.imports = s.tables.imports ∨ ∃ fields, rest = .done (.ok fields)) := by
  have loads : ((r.modules.loadFields path).zoom ConfigState.envSlot).Quiet
      (ConfigState.importsSlot : Slot (ConfigState ω) _) := Routine.quiet_zoom (fun _ _ => rfl) _
  have quiet : (r.importModule path).Quiet (ConfigState.locationsSlot : Slot (ConfigState ω) _) :=
    Memo.quiet_tryLookup (fun _ _ => rfl) _ (Routine.quiet_zoom (fun _ _ => rfl) _)
  apply ((Memo.acts_tryLookup ConfigState.importsSlot_lawful loads).and quiet.acts).mono
  rintro s s' rest ⟨looked, locations⟩
  have locations : s'.tables.locations = s.tables.locations := locations
  rcases looked with same | ⟨made, stored, rfl⟩
  · have same : s'.tables.imports = s.tables.imports := same
    exact ⟨⟨locations.ge, same.ge⟩, locations, Or.inl same⟩
  · have stored : s'.tables.imports = (s.tables.imports.store path.components made).2 := stored
    refine ⟨⟨locations.ge, ?_⟩, locations, Or.inr ⟨_, rfl⟩⟩
    rw [stored]
    exact Memo.le_store _ _ _

/-- What a step of a call does to the tables: they grow, and if an import is stored the call has succeeded.
    If a location is stored, it has succeeded too, or goes on to import what is there. -/
structure Query.Fits (r : Resolver ω) (q : Query) (s s' : ConfigState ω)
    (rest : Routine (ConfigState ω) (Except ConfigError Found)) : Prop where
  grown : s.tables ≤ s'.tables
  imports : s'.tables.imports = s.tables.imports ∨ ∃ found, rest = .done (.ok found)
  locations : s'.tables.locations = s.tables.locations ∨ (∃ found, rest = .done (.ok found)) ∨
    ∃ specifier path, q = .base (.fromModule specifier) ∧ r.known? s'.tables specifier = some path ∧
      rest = (Query.importModule path).routine r

/-- A call that imports is past its location, so nothing is said of that. -/
theorem Query.acts_importModule (r : Resolver ω) (path : Path) {q : Query} :
    ((Query.importModule path).routine r).Acts (q.Fits r) := by
  apply (r.acts_importModule path).bind
  · rintro s s' rest ⟨grown, locations, imports⟩
    refine ⟨grown, ?_, Or.inl locations⟩
    rcases imports with same | ⟨fields, rfl⟩
    · exact Or.inl same
    · exact Or.inr ⟨_, rfl⟩
  · exact fun _ => trivial

/-- Every step of a call fits it, case by case over what can be asked. -/
theorem Query.acts_routine (r : Resolver ω) (q : Query) : (q.routine r).Acts (q.Fits r) := by
  cases q with
  | location specifier =>
      apply (r.acts_location specifier).bind
      · rintro s s' rest ⟨grown, imports, locations⟩
        refine ⟨grown, Or.inl imports, ?_⟩
        rcases locations with same | ⟨path, _, rfl⟩
        · exact Or.inl same
        · exact Or.inr (Or.inl ⟨_, rfl⟩)
      · exact fun _ => trivial
  | importModule path => exact acts_importModule r path
  | base config =>
      cases config with
      | inline fields => trivial
      | fromModule specifier =>
          rw [routine_fromModule]
          apply (r.acts_location specifier).bind
          · rintro s s' rest ⟨grown, imports, locations⟩
            refine ⟨grown, Or.inl imports, ?_⟩
            rcases locations with same | ⟨path, known, rfl⟩
            · exact Or.inl same
            · exact Or.inr (Or.inr ⟨specifier, path, rfl, known, rfl⟩)
          · intro located
            cases located with
            | error e => trivial
            | ok path => exact acts_importModule r path

/-! ### Ends of a call -/

/-- A call that succeeds gives what the tables answer from then on. -/
theorem Query.ends_routine (r : Resolver ω) (q : Query) (last : ConfigTables) :
    (q.routine r).Ends (fun s => s.tables ≤ last) fun result =>
      ∀ found, result = .ok found → r.reply? last q = some found := by
  have imported : ∀ path : Path, (r.importModule path).Ends (fun s : ConfigState ω => s.tables ≤ last) fun result =>
      ∀ fields, result = .ok fields → last.imports.get? path.components = some fields := fun path =>
    Memo.ends_tryLookup ConfigState.importsSlot_lawful fun s below => below.2
  have located : ∀ specifier, (r.location specifier).Ends (fun s : ConfigState ω => s.tables ≤ last) fun result =>
      ∀ path, result = .ok path → r.known? last specifier = some path := fun specifier =>
    Memo.ends_tryLookup ConfigState.locationsSlot_lawful fun s below => below.1
  cases q with
  | location specifier =>
      apply (located specifier).bind
      intro result known found succeeds
      cases result with
      | error e => cases succeeds
      | ok path =>
          cases succeeds
          rw [reply?, known path rfl]
          rfl
  | importModule path =>
      apply (imported path).bind
      intro result known found succeeds
      cases result with
      | error e => cases succeeds
      | ok fields =>
          cases succeeds
          rw [reply?, known fields rfl]
          rfl
  | base config =>
      cases config with
      | inline fields =>
          rintro found ⟨⟩
          rfl
      | fromModule specifier =>
          rw [routine_fromModule]
          apply (located specifier).bind
          intro result known
          cases result with
          | error e => exact fun _ failed => nomatch failed
          | ok path =>
              apply (imported path).bind
              intro result known' found succeeds
              cases result with
              | error e => cases succeeds
              | ok fields =>
                  cases succeeds
                  rw [reply?, known path rfl, Option.bind_some, known' fields rfl]
                  rfl

/-- A call that the tables answer takes that answer, and changes nothing. -/
theorem Query.idles_routine (r : Resolver ω) {q : Query} {t : ConfigTables} {found : Found}
    (replies : r.reply? t q = some found) : (q.routine r).Idles (fun s => t ≤ s.tables) (.ok found) 2 := by
  have located : ∀ {specifier path}, r.known? t specifier = some path →
      (r.location specifier).Idles (fun s => t ≤ s.tables) (.ok path) 1 := fun known =>
    Memo.idles_tryLookup fun s grown => grown.1 _ _ known
  have imported : ∀ {path : Path} {fields}, t.imports.get? path.components = some fields →
      ((Query.importModule path).routine r).Idles (fun s => t ≤ s.tables) (.ok (.options fields)) 1 := by
    intro path fields known
    have looked : (r.importModule path).Idles (fun s => t ≤ s.tables) (.ok fields) 1 :=
      Memo.idles_tryLookup fun s grown => grown.2 _ _ known
    exact looked.map (Except.map Found.options)
  cases q with
  | location specifier =>
      obtain ⟨path, known, rfl⟩ := Option.map_eq_some_iff.1 replies
      exact ((located known).map (Except.map Found.place)).mono (by decide : 1 ≤ 2)
  | importModule path =>
      obtain ⟨fields, known, rfl⟩ := Option.map_eq_some_iff.1 replies
      exact (imported known).mono (by decide : 1 ≤ 2)
  | base config =>
      cases config with
      | inline fields =>
          cases replies
          exact rfl
      | fromModule specifier =>
          obtain ⟨path, known, replies⟩ := Option.bind_eq_some_iff.1 replies
          obtain ⟨fields, known', rfl⟩ := Option.map_eq_some_iff.1 replies
          rw [routine_fromModule]
          exact Routine.Idles.bind (m := 1) (n := 1) (located known) (imported known')

/-! ### First steps of a call -/

/-- The specifier that a call looks up first. -/
def Query.specifier? : Query → Option String
  | .location specifier => some specifier
  | .importModule _ => none
  | .base (.inline _) => none
  | .base (.fromModule specifier) => some specifier

/-- A call for a specifier without a location turns to the locator. -/
theorem Query.step_of_unknown {r : Resolver ω} {q : Query} {specifier : String} {s : ConfigState ω}
    (looks : q.specifier? = some specifier) (unknown : r.known? s.tables specifier = none) :
    ∃ k, (q.routine r).step s =
      (((Routine.modifyGet (r.locate specifier)).zoom ConfigState.envSlot).bind k, s) := by
  cases q with
  | location other =>
      cases looks
      exact ⟨_, Memo.step_tryLookup_of_none ConfigState.locationsSlot unknown _⟩
  | importModule path => cases looks
  | base config =>
      cases config with
      | inline fields => cases looks
      | fromModule other =>
          cases looks
          rw [routine_fromModule]
          exact ⟨_, Memo.step_tryLookup_of_none ConfigState.locationsSlot unknown _⟩

/-- A call for a specifier with a location turns to the import of what is there. -/
theorem Query.step_of_known {r : Resolver ω} {specifier : String} {path : Path} {s : ConfigState ω}
    (known : r.known? s.tables specifier = some path) :
    ((Query.base (.fromModule specifier)).routine r).step s = ((Query.importModule path).routine r, s) := by
  rw [routine_fromModule]
  exact Memo.step_tryLookup_of_some ConfigState.locationsSlot known _

/-- An import of a place without options turns to the loader. -/
theorem Query.step_of_unloaded {r : Resolver ω} {path : Path} {s : ConfigState ω}
    (unloaded : s.tables.imports.get? path.components = none) :
    ∃ k, ((Query.importModule path).routine r).step s =
      (((r.modules.loadFields path).zoom ConfigState.envSlot).bind k, s) :=
  ⟨_, Memo.step_tryLookup_of_none ConfigState.importsSlot unloaded _⟩

/-! ### Calls that take turns -/

/-- All calls begin together, and take steps in a given order. -/
def after (r : Resolver ω) (queries : List Query) (s : ConfigState ω) (turns : List Nat) :
    List (Routine (ConfigState ω) (Except ConfigError Found)) × ConfigState ω :=
  Routine.interleave turns (queries.map (Query.routine r)) s

section

variable {r : Resolver ω} {queries : List Query} {s : ConfigState ω}

/-- Each routine that begins is that of a call. -/
theorem exists_query {i : Nat} {rest : Routine (ConfigState ω) (Except ConfigError Found)}
    (begun : (queries.map (Query.routine r))[i]? = some rest) : ∃ q, queries[i]? = some q ∧ rest = q.routine r := by
  rw [List.getElem?_map, Option.map_eq_some_iff] at begun
  obtain ⟨q, asked, rfl⟩ := begun
  exact ⟨q, asked, rfl⟩

/-- No call takes anything out of the tables. -/
theorem grows (i : Nat) (rest : Routine (ConfigState ω) (Except ConfigError Found))
    (begun : (queries.map (Query.routine r))[i]? = some rest) : rest.Acts fun s s' _ => s.tables ≤ s'.tables := by
  obtain ⟨q, _, rfl⟩ := exists_query begun
  exact (q.acts_routine r).mono fun _ _ _ fits => fits.grown

/-- What calls have succeeded with is what the tables answer. -/
theorem reply?_of_ok (turns : List Nat) {i : Nat} {q : Query} {found : Found} (asked : queries[i]? = some q)
    (ended : (r.after queries s turns).1[i]? = some (.done (.ok found))) :
    r.reply? (r.after queries s turns).2.tables q = some found := by
  have each : ∀ (j : Nat) rest, (queries.map (Query.routine r))[j]? = some rest →
      rest.Ends (fun s' => s'.tables ≤ (r.after queries s turns).2.tables) fun result =>
        ∀ q, queries[j]? = some q → ∀ found, result = .ok found →
          r.reply? (r.after queries s turns).2.tables q = some found := by
    intro j rest begun
    obtain ⟨q, asked, rfl⟩ := exists_query begun
    apply (q.ends_routine r _).mono
    intro result due other there
    cases asked.symm.trans there
    exact due
  exact Routine.Ends.interleave turns grows (le_refl _) each i _ ended q asked found rfl

/-- Turns may be cut in two anywhere, and the later ones start from what the earlier ones left. -/
theorem after_append (first second : List Nat) :
    r.after queries s (first ++ second) =
      Routine.interleave second (r.after queries s first).1 (r.after queries s first).2 :=
  Routine.interleave_append first second _ s

/-- What a turn of a call does in company. -/
theorem fits_turn (turns : List Nat) {i : Nat} {q : Query} (asked : queries[i]? = some q) :
    (r.after queries s (turns ++ [i])).2 = (r.after queries s turns).2 ∨
      ∃ rest, (r.after queries s (turns ++ [i])).1[i]? = some rest ∧
        q.Fits r (r.after queries s turns).2 (r.after queries s (turns ++ [i])).2 rest := by
  rw [after_append]
  rcases Routine.turn_snd i (r.after queries s turns).1 (r.after queries s turns).2 with
    unchanged | ⟨mover, present, moved⟩
  · exact Or.inl unchanged
  · have acts : mover.Acts fun s s' rest => ∀ q, queries[i]? = some q → q.Fits r s s' rest := by
      apply Routine.Acts.interleave turns _ s i mover present
      intro j rest begun
      obtain ⟨q, asked, rfl⟩ := exists_query begun
      apply (q.acts_routine r).mono
      intro s s' rest fits other there
      cases asked.symm.trans there
      exact fits
    have stands : (Routine.turn i (r.after queries s turns).1 (r.after queries s turns).2).1[i]? =
        some (mover.step (r.after queries s turns).2).1 := by
      rw [Routine.getElem?_turn_self, present]
      rfl
    rcases (acts.step (r.after queries s turns).2).1 with unchanged | fits
    · exact Or.inl (moved.trans unchanged)
    · rw [← moved] at fits
      exact Or.inr ⟨_, stands, fits q asked⟩

/-- A call that fails in the end has stored no import, and no location unless it went on to import what is
    there. -/
theorem stores_of_error {turns later : List Nat} {i : Nat} {q : Query} {e : ConfigError} (asked : queries[i]? = some q)
    (ended : (r.after queries s (turns ++ i :: later)).1[i]? = some (.done (.error e))) :
    (r.after queries s (turns ++ [i])).2.tables.imports = (r.after queries s turns).2.tables.imports ∧
      ((r.after queries s (turns ++ [i])).2.tables.locations = (r.after queries s turns).2.tables.locations ∨
        ∃ specifier path, q = .base (.fromModule specifier) ∧
          r.known? (r.after queries s (turns ++ [i])).2.tables specifier = some path ∧
          (r.after queries s (turns ++ [i])).1[i]? = some ((Query.importModule path).routine r)) := by
  have fails : ∀ found, (r.after queries s (turns ++ [i])).1[i]? ≠ some (.done (.ok found)) := by
    intro found succeeded
    have still := Routine.interleave_of_done succeeded later (r.after queries s (turns ++ [i])).2
    rw [← after_append, ← List.append_cons] at still
    cases still.symm.trans ended
  rcases fits_turn turns asked with unchanged | ⟨rest, stands, fits⟩
  · rw [unchanged]
    exact ⟨rfl, Or.inl rfl⟩
  · constructor
    · rcases fits.imports with same | ⟨found, rfl⟩
      · exact same
      · exact absurd stands (fails found)
    · rcases fits.locations with same | ⟨found, rfl⟩ | ⟨specifier, path, rfl, known, rfl⟩
      · exact Or.inl same
      · exact absurd stands (fails found)
      · exact Or.inr ⟨specifier, path, rfl, known, stands⟩

/-- A call that has had no turn stands where it began. -/
theorem stands_of_notMem {turns : List Nat} {j : Nat} {q : Query} (asked : queries[j]? = some q) (fresh : j ∉ turns) :
    (r.after queries s turns).1[j]? = some (q.routine r) := by
  rw [after, Routine.interleave_of_notMem fresh, List.getElem?_map, asked]
  rfl

/-- Where a turn takes a call, and what it does to the state. -/
theorem turn_of_step {turns : List Nat} {j : Nat} {rest rest' : Routine (ConfigState ω) (Except ConfigError Found)}
    (stands : (r.after queries s turns).1[j]? = some rest)
    (steps : rest.step (r.after queries s turns).2 = (rest', (r.after queries s turns).2)) :
    (r.after queries s (turns ++ [j])).1[j]? = some rest' ∧
      (r.after queries s (turns ++ [j])).2 = (r.after queries s turns).2 := by
  rw [after_append]
  show (Routine.turn j _ _).1[j]? = _ ∧ (Routine.turn j _ _).2 = _
  rw [Routine.getElem?_turn_self, stands, Routine.turn_of_getElem? stands, Option.map_some, steps]
  exact ⟨rfl, rfl⟩

/-- A call that the tables answer when it begins idles. -/
theorem idles_of_reply? {turns : List Nat} {j : Nat} {q : Query} {found : Found} (asked : queries[j]? = some q)
    (fresh : j ∉ turns) (replies : r.reply? (r.after queries s turns).2.tables q = some found) (later : List Nat) :
    ∃ rest, (r.after queries s (turns ++ later)).1[j]? = some rest ∧
      rest.Idles (fun s' => (r.after queries s turns).2.tables ≤ s'.tables) (.ok found) (2 - later.count j) := by
  rw [after_append]
  exact Routine.Idles.interleave later (Routine.Acts.interleave turns grows s) (stands_of_notMem asked fresh)
    (q.idles_routine r replies) (le_refl _)

end

/-- What a resolver sticks to when its calls take turns in any order. -/
structure Sticks (r : Resolver ω) (queries : List Query) (s : ConfigState ω) : Prop where
  /-- What a call has succeeded with is what the tables answer, then and later. -/
  answers {turns : List Nat} {i : Nat} {q : Query} {found : Found} : queries[i]? = some q →
    (r.after queries s turns).1[i]? = some (.done (.ok found)) → ∀ later,
      r.reply? (r.after queries s (turns ++ later)).2.tables q = some found
  /-- Modules at the same place have the same options for all calls that succeed. -/
  samePlace {turns : List Nat} {i j : Nat} {first second : String} {found found' : Found} :
    queries[i]? = some (.base (.fromModule first)) → queries[j]? = some (.base (.fromModule second)) →
    (r.after queries s turns).1[i]? = some (.done (.ok found)) →
    (r.after queries s turns).1[j]? = some (.done (.ok found')) →
    (r.known? (r.after queries s turns).2.tables first).map Path.components =
      (r.known? (r.after queries s turns).2.tables second).map Path.components → found = found'
  /-- A turn of a call that fails in the end stores no import, and a location only if the call then goes on
      to import what is there. -/
  failures {turns later : List Nat} {i : Nat} {q : Query} {e : ConfigError} : queries[i]? = some q →
    (r.after queries s (turns ++ i :: later)).1[i]? = some (.done (.error e)) →
    (r.after queries s (turns ++ [i])).2.tables.imports = (r.after queries s turns).2.tables.imports ∧
      ((r.after queries s (turns ++ [i])).2.tables.locations = (r.after queries s turns).2.tables.locations ∨
        ∃ specifier path, q = .base (.fromModule specifier) ∧
          r.known? (r.after queries s (turns ++ [i])).2.tables specifier = some path ∧
          (r.after queries s (turns ++ [i])).1[i]? = some ((Query.importModule path).routine r))
  /-- A call that begins when its specifier has no location turns to the locator. -/
  locates {turns : List Nat} {j : Nat} {q : Query} {specifier : String} : queries[j]? = some q → j ∉ turns →
    q.specifier? = some specifier → r.known? (r.after queries s turns).2.tables specifier = none →
    ∃ k, (r.after queries s (turns ++ [j])).1[j]? =
        some (((Routine.modifyGet (r.locate specifier)).zoom ConfigState.envSlot).bind k) ∧
      (r.after queries s (turns ++ [j])).2 = (r.after queries s turns).2
  /-- A call for options that begins when its specifier has a location turns to the import of what is there. -/
  imports {turns : List Nat} {j : Nat} {specifier : String} {path : Path} :
    queries[j]? = some (.base (.fromModule specifier)) → j ∉ turns →
    r.known? (r.after queries s turns).2.tables specifier = some path →
    (r.after queries s (turns ++ [j])).1[j]? = some ((Query.importModule path).routine r) ∧
      (r.after queries s (turns ++ [j])).2 = (r.after queries s turns).2
  /-- An import of a place without options turns to the loader. -/
  loads {turns : List Nat} {j : Nat} {path : Path} :
    (r.after queries s turns).1[j]? = some ((Query.importModule path).routine r) →
    (r.after queries s turns).2.tables.imports.get? path.components = none →
    ∃ k, (r.after queries s (turns ++ [j])).1[j]? =
        some (((r.modules.loadFields path).zoom ConfigState.envSlot).bind k) ∧
      (r.after queries s (turns ++ [j])).2 = (r.after queries s turns).2
  /-- A call that the tables answer when it begins, as they do for a specifier with which a call has
      succeeded, takes that answer whatever the locator and the loader would say. It has it after two turns,
      and leaves everything as it is, also surroundings that count how often the two are called. -/
  known {turns : List Nat} {j : Nat} {q : Query} {found : Found} : queries[j]? = some q → j ∉ turns →
    r.reply? (r.after queries s turns).2.tables q = some found →
      (∀ modules : ModuleSystem ω,
        (q.routine ⟨r.cwd, modules⟩).run (r.after queries s turns).2 = (.ok found, (r.after queries s turns).2)) ∧
      ∀ later, (r.after queries s (turns ++ later ++ [j])).2 = (r.after queries s (turns ++ later)).2 ∧
        (∀ result, (r.after queries s (turns ++ later)).1[j]? = some (.done result) → result = .ok found) ∧
        (2 ≤ later.count j → (r.after queries s (turns ++ later)).1[j]? = some (.done (.ok found)))
  /-- Options that stand in the setting are the answer from the start. -/
  inline {turns : List Nat} {i : Nat} {fields : Fields} : queries[i]? = some (.base (.inline fields)) →
    (r.after queries s turns).1[i]? = some (.done (.ok (.options fields))) ∧
      (r.after queries s (turns ++ [i])).2 = (r.after queries s turns).2

/-- Whatever calls there are, in whatever order they take their turns, and whatever the locator and the
    loader answer, now this and now that, a resolver sticks to what it has answered. -/
theorem options_sticky (r : Resolver ω) (queries : List Query) (s : ConfigState ω) : r.Sticks queries s where
  answers := by
    intro turns i q found asked ended later
    apply reply?_of_ok (turns ++ later) asked
    rw [after_append]
    exact Routine.interleave_of_done ended later _
  samePlace := by
    intro turns i j first second found found' asked asked' ended ended' same
    have replies := reply?_of_ok turns asked ended
    have replies' := reply?_of_ok turns asked' ended'
    rw [reply?_fromModule, same, ← reply?_fromModule, replies'] at replies
    exact (Option.some.inj replies).symm
  failures := stores_of_error
  locates asked fresh looks unknown := by
    obtain ⟨k, steps⟩ := Query.step_of_unknown looks unknown
    exact ⟨k, turn_of_step (stands_of_notMem asked fresh) steps⟩
  imports asked fresh known := turn_of_step (stands_of_notMem asked fresh) (Query.step_of_known known)
  loads stands unloaded := by
    obtain ⟨k, steps⟩ := Query.step_of_unloaded unloaded
    exact ⟨k, turn_of_step stands steps⟩
  known := by
    intro turns j q found asked fresh replies
    refine ⟨fun modules => (q.idles_routine ⟨r.cwd, modules⟩ replies).run (le_refl _), ?_⟩
    intro later
    obtain ⟨rest, stands, idles⟩ := idles_of_reply? asked fresh replies later
    have grown : (r.after queries s turns).2.tables ≤ (r.after queries s (turns ++ later)).2.tables := by
      rw [after_append]
      exact Routine.grown_interleave later (Routine.Acts.interleave turns grows s) _
    refine ⟨?_, ?_, ?_⟩
    · exact (turn_of_step stands (Prod.ext rfl (idles.step grown).1)).2
    · intro result ended
      cases stands.symm.trans ended
      exact idles
    · intro twice
      rw [Nat.sub_eq_zero_of_le twice] at idles
      rw [stands, idles.eq_done grown]
  inline := by
    intro turns i fields asked
    have begun : (queries.map (Query.routine r))[i]? = some (.done (.ok (.options fields))) := by
      rw [List.getElem?_map, asked]
      rfl
    have ended := Routine.interleave_of_done begun turns s
    exact ⟨ended, (turn_of_step ended rfl).2⟩

/-- A resolver whose loader fails at first and then provides how often it and the locator were called. -/
def fickle : Resolver Nat where
  cwd := .ofString "/p"
  modules :=
    { packageRoot := fun _ calls => (none, calls)
      resolveFrom := fun _ specifier calls => (.ok (.ofString specifier), calls + 1)
      load := fun path => .pause (.modifyGet fun calls =>
        (if calls ≤ 1 then .error (.read path "busy")
          else .ok (.inline (.obj [("calls", .num (.int calls))])), calls + 1)) }

/-- The same place under two names, and one of them again. -/
def sampleQueries : List Query := [.base (.fromModule "/c"), .base (.fromModule "/./c"), .base (.fromModule "/c")]

/-- The first two calls in turns: the first fails to load, the second goes on to load later. -/
def sampleTurns : List Nat := [0, 0, 0, 0, 0, 1, 0, 1, 1, 1, 1, 1, 1]

/-- A failed import is tried again under another name, and its options then answer for the first name. -/
theorem options_sticky_fickle :
    (fickle.after sampleQueries ⟨0, .empty⟩ sampleTurns).1[0]? =
        some (.done (.error (.read (.ofString "/c") "busy"))) ∧
      (fickle.after sampleQueries ⟨0, .empty⟩ sampleTurns).1[1]? =
        some (.done (.ok (.options [("calls", .num (.int 3))]))) ∧
      ∀ later, 2 ≤ later.count 2 → (fickle.after sampleQueries ⟨0, .empty⟩ (sampleTurns ++ later)).1[2]? =
        some (.done (.ok (.options [("calls", .num (.int 3))]))) := by
  refine ⟨rfl, rfl, ?_⟩
  intro later
  have fresh : 2 ∉ sampleTurns := by decide
  have sticks := options_sticky fickle sampleQueries ⟨0, .empty⟩
  exact ((sticks.known rfl fresh rfl).2 later).2.2

end Resolver

end SassRenderLint
