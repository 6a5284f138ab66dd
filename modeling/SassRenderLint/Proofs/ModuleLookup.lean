/-
Module: SassRenderLint.Proofs.ModuleLookup
Layer: Proofs
Purpose: Where a config module is found when modules are files. The directory from which a specifier is looked up and
  the order in which files are tried are said here without the search: as steps up from the working directory, and as
  a list of five paths. A lookup with nothing remembered finds the first file of that list, and fails with the
  specifier and the directory just when there is none.
Main exports: ModuleSystem.StartsFrom, ModuleSystem.probes, ModuleSystem.FirstFile, ModuleSystem.startsFrom_iff,
  ModuleSystem.findModule_eq_ok_iff, ModuleSystem.findModule_eq_error_iff, Resolver.location_over_files
-/
import SassRenderLint.Config.Files
import SassRenderLint.Config.Resolver
import SassRenderLint.Proofs.LookupMachine
import SassRenderLint.Proofs.PathParts

namespace SassRenderLint

namespace ModuleSystem

variable {files : FileAccess} {markers : List String} {cwd base : Path} {specifier : String}

/-! ### Where a lookup starts -/

def HoldsMarker (files : FileAccess) (markers : List String) (directory : Path) : Prop :=
  ∃ marker ∈ markers, files.isFile (directory.join (.ofString marker)) = true

/-- None of the directories fewer than so many steps up holds a marker file. -/
def NoneBelow (files : FileAccess) (markers : List String) (cwd : Path) (steps : Nat) : Prop :=
  ∀ fewer directory, fewer < steps → cwd.above? fewer = some directory → ¬ HoldsMarker files markers directory

/-- No directory from the working directory up holds a marker file. -/
def NoPackage (files : FileAccess) (markers : List String) (cwd : Path) : Prop :=
  ∀ steps, NoneBelow files markers cwd steps

/-- The directory in which the lookups of a working directory start. It is the nearest one from there up that holds a
    marker file. If none does, it is the parent of the working directory, and at the top the working directory. -/
inductive StartsFrom (files : FileAccess) (markers : List String) (cwd : Path) : Path → Prop where
  | package {steps : Nat} {base : Path} (above : cwd.above? steps = some base)
      (holds : HoldsMarker files markers base) (nearest : NoneBelow files markers cwd steps) :
      StartsFrom files markers cwd base
  | parent {base : Path} (unmarked : NoPackage files markers cwd) (above : cwd.parent? = some base) :
      StartsFrom files markers cwd base
  | top (unmarked : NoPackage files markers cwd) (atTop : cwd.parent? = none) : StartsFrom files markers cwd cwd

theorem any_marker_iff {directory : Path} :
    (markers.any fun marker => files.isFile (directory.join (.ofString marker))) = true ↔
      HoldsMarker files markers directory :=
  List.any_eq_true

/-- A package is found in a number of steps up if that directory has a marker file and none before it does. -/
theorem nearestPackage_eq_some_iff :
    nearestPackage files markers cwd = some base ↔
      ∃ steps, cwd.above? steps = some base ∧ HoldsMarker files markers base ∧ NoneBelow files markers cwd steps := by
  rw [nearestPackage, List.find?_eq_some_iff_getElem]
  constructor
  · rintro ⟨holds, steps, inside, here, nearer⟩
    refine ⟨steps, ?_, any_marker_iff.1 holds, ?_⟩
    · rw [← Path.getElem?_ancestors, List.getElem?_eq_getElem inside, here]
    · intro fewer directory less above marked
      rw [← Path.getElem?_ancestors] at above
      obtain ⟨_, stands⟩ := List.getElem?_eq_some_iff.1 above
      have unmarked := nearer fewer less
      rw [stands, any_marker_iff.2 marked] at unmarked
      cases unmarked
  · rintro ⟨steps, above, holds, nearest⟩
    rw [← Path.getElem?_ancestors] at above
    obtain ⟨inside, here⟩ := List.getElem?_eq_some_iff.1 above
    refine ⟨any_marker_iff.2 holds, steps, inside, here, ?_⟩
    intro fewer less
    rw [Bool.not_eq_true', ← Bool.not_eq_true, any_marker_iff]
    apply nearest fewer _ less
    rw [← Path.getElem?_ancestors]
    exact List.getElem?_eq_getElem _

/-- No package is found exactly if there is none all the way up. -/
theorem nearestPackage_eq_none_iff : nearestPackage files markers cwd = none ↔ NoPackage files markers cwd := by
  rw [nearestPackage, List.find?_eq_none]
  constructor
  · intro unmarked steps fewer directory _ above marked
    rw [← Path.getElem?_ancestors] at above
    exact unmarked directory (List.mem_of_getElem? above) (any_marker_iff.2 marked)
  · intro unmarked directory among marked
    obtain ⟨steps, above⟩ := List.getElem?_of_mem among
    rw [Path.getElem?_ancestors] at above
    exact unmarked (steps + 1) steps directory (Nat.lt_succ_self steps) above (any_marker_iff.1 marked)

/-- A lookup starts in one directory, the one that the resolver takes. -/
theorem startsFrom_iff :
    StartsFrom files markers cwd base ↔
      (nearestPackage files markers cwd).getD (Resolver.fallbackBase cwd) = base := by
  constructor
  · intro starts
    cases starts with
    | package above holds nearest => rw [nearestPackage_eq_some_iff.2 ⟨_, above, holds, nearest⟩, Option.getD_some]
    | parent unmarked above =>
        rw [nearestPackage_eq_none_iff.2 unmarked, Option.getD_none, Resolver.fallbackBase, above, Option.getD_some]
    | top unmarked atTop =>
        rw [nearestPackage_eq_none_iff.2 unmarked, Option.getD_none, Resolver.fallbackBase, atTop, Option.getD_none]
  · rintro rfl
    cases package : nearestPackage files markers cwd with
    | some root =>
        obtain ⟨steps, above, holds, nearest⟩ := nearestPackage_eq_some_iff.1 package
        exact .package above holds nearest
    | none =>
        have unmarked := nearestPackage_eq_none_iff.1 package
        rw [Option.getD_none, Resolver.fallbackBase]
        cases above : cwd.parent? with
        | some directory => exact .parent unmarked above
        | none => exact .top unmarked above

/-- A lookup starts in the working directory or above it. -/
theorem StartsFrom.components_prefix (starts : StartsFrom files markers cwd base) :
    base.components <+: cwd.components := by
  cases starts with
  | package above => exact (Path.components_above? above).1
  | parent _ above =>
      have oneUp : cwd.above? 1 = some base := by rw [Path.above?, above, Option.bind_some, Path.above?]
      exact (Path.components_above? oneUp).1
  | top => exact List.prefix_rfl

/-! ### Where a module is found -/

/-- The paths at which a specifier is tried from a directory, in order. -/
def probes (base : Path) (specifier : String) : List Path :=
  let requested := base.join (.ofString specifier)
  [requested, requested.append ".json", requested.append ".toml",
    requested.join (.ofString "index.json"), requested.join (.ofString "index.toml")]

theorem candidates_eq_probes (base : Path) (specifier : String) :
    candidates (base.join (.ofString specifier)) = probes base specifier := rfl

/-- A path is the first of some at which there is a file. -/
def FirstFile (files : FileAccess) (paths : List Path) (path : Path) : Prop :=
  ∃ before after, paths = before ++ path :: after ∧ files.isFile path = true ∧
    ∀ other ∈ before, files.isFile other = false

/-- Searching stops at the first path with a file. -/
theorem find?_isFile_eq_some_iff {paths : List Path} {path : Path} :
    paths.find? files.isFile = some path ↔ FirstFile files paths path := by
  rw [List.find?_eq_some_iff_append]
  constructor
  · rintro ⟨stands, before, after, split, missing⟩
    exact ⟨before, after, split, stands, fun other among => by simpa using missing other among⟩
  · rintro ⟨before, after, split, stands, missing⟩
    exact ⟨stands, before, after, split, fun other among => by simpa using missing other among⟩

theorem find?_isFile_eq_none_iff {paths : List Path} :
    paths.find? files.isFile = none ↔ ∀ path ∈ paths, files.isFile path = false := by
  simp only [List.find?_eq_none, Bool.not_eq_true]

/-- A specifier names the first of its probes at which there is a file. -/
theorem findModule_eq_ok_iff {path : Path} :
    findModule files base specifier = .ok path ↔ FirstFile files (probes base specifier) path := by
  rw [findModule, candidates_eq_probes, ← find?_isFile_eq_some_iff]
  cases (probes base specifier).find? files.isFile <;> simp

/-- It names nothing exactly if there is a file at none of them, and the one error says from where it was looked
    for. -/
theorem findModule_eq_error_iff {e : ConfigError} :
    findModule files base specifier = .error e ↔
      e = .moduleNotFound specifier base ∧ ∀ path ∈ probes base specifier, files.isFile path = false := by
  rw [findModule, candidates_eq_probes, ← find?_isFile_eq_none_iff]
  cases (probes base specifier).find? files.isFile <;> simp [eq_comm]

end ModuleSystem

namespace Resolver

open ModuleSystem

variable {ω : Type}

/-- With no location remembered, the module system is asked. -/
theorem location_of_empty (r : Resolver ω) (specifier : String) (env : ω) (imports : Memo (List Component) Fields) :
    ((r.location specifier).run ⟨env, ⟨.empty, imports⟩⟩).1 = (r.locate specifier env).1 := by
  rw [location, Memo.tryLookup_eq]
  show (((Routine.modifyGet (r.locate specifier)).zoom ConfigState.envSlot).bind _ |>.run _).1 = _
  rw [Routine.run_bind]
  show ((Memo.conclude _ _ (r.locate specifier env).1).run _).1 = _
  cases (r.locate specifier env).1 with
  | error e => rfl
  | ok path => rfl

/-- Lookups over files. With no location remembered, a specifier is looked up from one directory, the nearest that
    holds a marker file or the one that stands in for it. What is found is the first file among the five paths tried
    there, and the lookup fails, with the specifier and the directory, just when none of them is a file. -/
theorem location_over_files (files : FileAccess) (markers : List String) (cwd : Path) (specifier : String) (env : ω)
    (imports : Memo (List Component) Fields) :
    let outcome := ((Resolver.mk cwd (.ofFiles files markers)).location specifier).run ⟨env, ⟨.empty, imports⟩⟩
    ∃ base, StartsFrom files markers cwd base ∧ (∀ other, StartsFrom files markers cwd other → other = base) ∧
      base.components <+: cwd.components ∧
      (∀ path, outcome.1 = .ok path ↔ FirstFile files (probes base specifier) path) ∧
      ∀ e, outcome.1 = .error e ↔
        e = .moduleNotFound specifier base ∧ ∀ path ∈ probes base specifier, files.isFile path = false := by
  intro outcome
  have asked : outcome.1 =
      findModule files ((nearestPackage files markers cwd).getD (fallbackBase cwd)) specifier :=
    location_of_empty _ specifier env imports
  have starts : StartsFrom files markers cwd ((nearestPackage files markers cwd).getD (fallbackBase cwd)) :=
    startsFrom_iff.2 rfl
  refine ⟨_, starts, fun other also => (startsFrom_iff.1 also).symm, starts.components_prefix, ?_, ?_⟩
  · intro path
    rw [asked]
    exact findModule_eq_ok_iff
  · intro e
    rw [asked]
    exact findModule_eq_error_iff

/-- A file two directories up that has to be given an extension comes before the index of a directory. -/
example :
    let present := ["/p/package.json", "/p/config/sass.toml", "/p/config/sass/index.json"].map Path.ofString
    let modules : ModuleSystem Unit := .ofFiles ⟨(· ∈ present), fun _ => .ok ""⟩ defaultMarkers
    (((Resolver.mk (.ofString "/p/src/deep") modules).location "config/sass").run ⟨(), .empty⟩).1 =
      .ok (.ofString "/p/config/sass.toml") := by
  rfl

end Resolver

end SassRenderLint
