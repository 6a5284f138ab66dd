/-
Module: SassRenderLint.Proofs.Watching
Layer: Proofs
Purpose: Which calls a check makes. The surroundings of a watched rule also hold a list of the calls that
  its module system gets and one of those that its toolchain gets, where each failure of a renderer is
  written down with it. Watching changes nothing else: the check of a watched rule shadows that of the
  rule. Resolving makes no call of the toolchain, and rendering fails exactly with the failure that is
  written down.
Main exports: ModuleCall, ToolCall, Watched, Rule.watched, Rule.watch, Rule.shadows_watched_check,
  Resolver.quiet_watched_resolve, Rule.accounts_watched_checkTelling, Rule.failures_watch
-/
import SassRenderLint.Proofs.FailureAccounts
import SassRenderLint.Proofs.Reprojection
import SassRenderLint.Proofs.Shadows

namespace SassRenderLint

/-- A call of the locator or of the loader. -/
inductive ModuleCall where
  | packageRoot (start : Path)
  | resolveFrom (base : Path) (specifier : String)
  | load (path : Path)
deriving DecidableEq, Repr

/-- A call of what builds renderers or of a renderer, or the failure of a renderer. -/
inductive ToolCall (ρ : Type) where
  | build (compiler : Compiler)
  | buildUndefined (compiler : Compiler) (options : UndefinedFunctionsOptions)
  | render (renderer : ρ) (options : CompilerOptions)
  | renderBlocking (renderer : ρ) (options : CompilerOptions)
  | failed (renderer : ρ) (error : CompileError)
deriving DecidableEq, Repr

/-- Surroundings in which all calls are written down. -/
structure Watched (ω ρ : Type) where
  env : ω
  moduleCalls : List ModuleCall
  toolCalls : List (ToolCall ρ)

namespace Watched

variable {ω ρ : Type}

def envSlot : Slot (Watched ω ρ) ω where
  get w := w.env
  set env w := { w with env := env }

def noteModule (call : ModuleCall) (w : Watched ω ρ) : Watched ω ρ :=
  { w with moduleCalls := w.moduleCalls ++ [call] }

def noteTools (calls : List (ToolCall ρ)) (w : Watched ω ρ) : Watched ω ρ :=
  { w with toolCalls := w.toolCalls ++ calls }

def after {α : Type} (f : ω → α × ω) (w : Watched ω ρ) : α × Watched ω ρ :=
  ((f w.env).1, { w with env := (f w.env).2 })

end Watched

/-! ### Watched collaborators -/

section

variable {ω ρ : Type}

/-- A source whose factory acts on the surroundings themselves. -/
def ConfigSource.watched : ConfigSource ω → ConfigSource (Watched ω ρ)
  | .inline value => .inline value
  | .factory make => .factory (Watched.after make)
  | .asyncFactory make => .asyncFactory (make.zoom Watched.envSlot)

/-- The module system with its calls written down. -/
def ModuleSystem.watched (m : ModuleSystem ω) : ModuleSystem (Watched ω ρ) where
  packageRoot start w := (w.noteModule (.packageRoot start)).after (m.packageRoot start)
  resolveFrom base specifier w := (w.noteModule (.resolveFrom base specifier)).after (m.resolveFrom base specifier)
  load path :=
    (Routine.update (Watched.noteModule (.load path))).bind fun _ =>
      ((m.load path).zoom Watched.envSlot).bind fun loaded => .done (loaded.map ConfigSource.watched)

/-- What is written down of a renderer's result. -/
def ToolCall.ofResult (renderer : ρ) : RenderResult → List (ToolCall ρ)
  | .ok _ => []
  | .error e => [.failed renderer e]

/-- The toolchain with its calls, and the failures of its renderers, written down. -/
def Toolchain.watched (t : Toolchain ω ρ) : Toolchain (Watched ω ρ) ρ where
  build compiler w := (w.noteTools [.build compiler]).after (t.build compiler)
  buildUndefined compiler options w :=
    (w.noteTools [.buildUndefined compiler options]).after (t.buildUndefined compiler options)
  render renderer options :=
    (Routine.update (Watched.noteTools [.render renderer options])).bind fun _ =>
      ((t.render renderer options).zoom Watched.envSlot).bind fun result =>
        (Routine.update (Watched.noteTools (ToolCall.ofResult renderer result))).bind fun _ => .done result
  renderBlocking renderer options w :=
    let rendered := (w.noteTools [.renderBlocking renderer options]).after (t.renderBlocking renderer options)
    (rendered.1, rendered.2.noteTools (ToolCall.ofResult renderer rendered.1))

def Resolver.watched (r : Resolver ω) : Resolver (Watched ω ρ) := ⟨r.cwd, r.modules.watched⟩

def Rule.watched (rule : Rule ω ρ) : Rule (Watched ω ρ) ρ :=
  ⟨rule.compiler, rule.toolchain.watched, rule.resolver.watched⟩

end

/-! ### Watching changes nothing -/

section

variable {ω ρ : Type}

/-- What only acts on the surroundings acts on them alike while they are watched. -/
theorem Watched.shadows_zoom {α : Type} (r : Routine ω α) :
    Routine.Shadows (Watched.env (ρ := ρ)) (r.zoom Watched.envSlot) r := by
  apply Routine.Shadows.of_zoom
  · intro w
    rfl
  · intro env w
    rfl

/-- Sources are resolved alike. -/
theorem ConfigSource.shadows_watched_resolve (source : ConfigSource ω) (origin : Path) :
    Routine.Shadows (Watched.env (ρ := ρ)) (source.watched.resolve origin) (source.resolve origin) := by
  refine Routine.Shadows.map ?_ _
  cases source with
  | inline value => exact .done _
  | factory make => exact .modifyGet (fun _ => rfl) fun _ => rfl
  | asyncFactory make => exact Watched.shadows_zoom make

/-- Only the sources of the module system are ever resolved, so their factories leave the lists alone. -/
theorem ModuleSystem.watched_loadFields (m : ModuleSystem ω) (path : Path) :
    (m.watched (ρ := ρ)).loadFields path =
      (Routine.update (Watched.noteModule (.load path))).bind fun _ =>
        ((m.load path).zoom Watched.envSlot).bind fun
          | .error e => .done (.error e)
          | .ok source => source.watched.resolve path := by
  rw [loadFields, watched, Routine.bind_assoc]
  refine congrArg _ (funext fun _ => ?_)
  rw [Routine.bind_assoc]
  refine congrArg _ (funext fun loaded => ?_)
  cases loaded <;> rfl

/-- Modules are loaded alike, with the call written down. -/
theorem ModuleSystem.shadows_watched_loadFields (m : ModuleSystem ω) (path : Path) :
    Routine.Shadows (Watched.env (ρ := ρ)) (m.watched.loadFields path) (m.loadFields path) := by
  rw [watched_loadFields]
  refine .unseen (fun _ => rfl) ?_
  intro w
  refine (Watched.shadows_zoom (m.load path)).bind ?_
  intro loaded
  cases loaded with
  | error e => exact .done _
  | ok source => exact source.shadows_watched_resolve path

/-- The state without what is written down. -/
def ConfigState.unwatched (s : ConfigState (Watched ω ρ)) : ConfigState ω := ⟨s.env.env, s.tables⟩

namespace ConfigState

theorem envSlot_lawful : (envSlot : Slot (ConfigState ω) ω).Lawful where
  get_set _ _ := rfl
  set_get _ := rfl
  set_set _ _ _ := rfl

theorem envSlot_views : Slot.Views (unwatched (ω := ω) (ρ := ρ)) Watched.env envSlot envSlot where
  get _ := rfl
  set _ _ := rfl

theorem locationsSlot_views : Slot.Views (unwatched (ω := ω) (ρ := ρ)) id locationsSlot locationsSlot where
  get _ := rfl
  set _ _ := rfl

theorem importsSlot_views : Slot.Views (unwatched (ω := ω) (ρ := ρ)) id importsSlot importsSlot where
  get _ := rfl
  set _ _ := rfl

end ConfigState

/-- Locations are found alike, and remembered under the same keys. -/
theorem Resolver.shadows_watched_location (r : Resolver ω) (specifier : String) :
    Routine.Shadows (ConfigState.unwatched (ρ := ρ)) (r.watched.location specifier) (r.location specifier) := by
  refine Routine.Shadows.tryLookup ConfigState.locationsSlot_views _ ?_
  refine Routine.Shadows.zoom ConfigState.envSlot_views ConfigState.envSlot_lawful ?_
  exact .modifyGet (fun _ => rfl) fun _ => rfl

/-- Imports as well. -/
theorem Resolver.shadows_watched_importModule (r : Resolver ω) (path : Path) :
    Routine.Shadows (ConfigState.unwatched (ρ := ρ)) (r.watched.importModule path) (r.importModule path) := by
  refine Routine.Shadows.tryLookup ConfigState.importsSlot_views _ ?_
  refine Routine.Shadows.zoom ConfigState.envSlot_views ConfigState.envSlot_lawful ?_
  exact r.modules.shadows_watched_loadFields path

/-- So compiler options are resolved alike. -/
theorem Resolver.shadows_watched_resolve (r : Resolver ω) (target : Target) (content : String)
    (config : CompilerConfig) :
    Routine.Shadows (ConfigState.unwatched (ρ := ρ)) (r.watched.resolve target content config)
      (r.resolve target content config) := by
  refine Routine.Shadows.map ?_ _
  cases config with
  | inline fields => exact .done _
  | fromModule specifier =>
      refine (r.shadows_watched_location specifier).bind ?_
      intro located
      cases located with
      | error e => exact .done _
      | ok path => exact r.shadows_watched_importModule path

def RenderState.unwatched (s : RenderState (Watched ω ρ) ρ) : RenderState ω ρ := ⟨s.env.env, s.renderers⟩

namespace RenderState

theorem envSlot_lawful : (envSlot : Slot (RenderState ω ρ) ω).Lawful where
  get_set _ _ := rfl
  set_get _ := rfl
  set_set _ _ _ := rfl

theorem envSlot_views : Slot.Views (unwatched (ω := ω) (ρ := ρ)) Watched.env envSlot envSlot where
  get _ := rfl
  set _ _ := rfl

theorem baseSlot_views : Slot.Views (unwatched (ω := ω) (ρ := ρ)) id baseSlot baseSlot where
  get _ := rfl
  set _ _ := rfl

theorem undefinedFunctionsSlot_views :
    Slot.Views (unwatched (ω := ω) (ρ := ρ)) id undefinedFunctionsSlot undefinedFunctionsSlot where
  get _ := rfl
  set _ _ := rfl

end RenderState

/-- Writing a call down and then building a renderer shadows building it. -/
theorem Toolchain.shadows_built (compiler : Compiler) (call : ToolCall ρ) (build : ω → ρ × ω) :
    Routine.Shadows RenderState.unwatched
      (built compiler fun w : Watched ω ρ => (w.noteTools [call]).after build) (built compiler build) := by
  refine Routine.Shadows.zoom RenderState.envSlot_views RenderState.envSlot_lawful ?_
  exact .modifyGet (fun _ => rfl) fun _ => rfl

/-- Renderers are found and built alike. -/
theorem Toolchain.shadows_watched_renderers (t : Toolchain ω ρ) (compiler : Compiler)
    (undefinedFunctions : Option UndefinedFunctionsOptions) :
    Routine.Shadows RenderState.unwatched (t.watched.renderers compiler undefinedFunctions)
      (t.renderers compiler undefinedFunctions) := by
  have base : Routine.Shadows RenderState.unwatched (t.watched.renderer compiler) (t.renderer compiler) :=
    (Routine.Shadows.lookup RenderState.baseSlot_views _ (shadows_built compiler _ _)).map _
  refine base.bind ?_
  intro first
  cases undefinedFunctions with
  | none => exact .done _
  | some options =>
      have second : Routine.Shadows RenderState.unwatched (t.watched.undefinedRenderer compiler options)
          (t.undefinedRenderer compiler options) :=
        (Routine.Shadows.lookup RenderState.undefinedFunctionsSlot_views _ (shadows_built compiler _ _)).map _
      exact second.map _

/-- They render alike, with the failure written down if there is one. -/
theorem Toolchain.shadows_watched_render (t : Toolchain ω ρ) (renderer : ρ) (options : CompilerOptions) :
    Routine.Shadows Watched.env (t.watched.render renderer options) (t.render renderer options) := by
  rw [← Routine.bind_done (t.render renderer options)]
  refine .unseen (fun _ => rfl) ?_
  intro w
  refine (Watched.shadows_zoom (t.render renderer options)).bind ?_
  intro result
  exact .unseen (fun _ => rfl) fun _ => .done result

/-- So do all of them together, in rounds or in turn. -/
theorem Toolchain.shadows_watched_renderAll (t : Toolchain ω ρ) (renderers : List ρ) (options : CompilerOptions)
    (mode : RenderMode) :
    Routine.Shadows Watched.env (t.watched.renderAll renderers options mode)
      (t.renderAll renderers options mode) := by
  refine Routine.Shadows.map ?_ _
  cases mode with
  | concurrent => exact .tryAll (fun renderer => t.shadows_watched_render renderer options) renderers
  | blocking =>
      refine .trySequence (fun renderer => ?_) renderers
      exact .modifyGet (fun _ => rfl) fun _ => rfl

def RuleState.unwatched (s : RuleState (Watched ω ρ) ρ) : RuleState ω ρ := ⟨s.env.env, s.tables, s.renderers⟩

/-- The state with nothing written down yet. -/
def RuleState.watched (s : RuleState ω ρ) : RuleState (Watched ω ρ) ρ := ⟨⟨s.env, [], []⟩, s.tables, s.renderers⟩

namespace RuleState

theorem envSlot_views : Slot.Views (unwatched (ω := ω) (ρ := ρ)) Watched.env envSlot envSlot where
  get _ := rfl
  set _ _ := rfl

/-- Seen without the notes, the resolver's part of the state is that of the rule that is not watched. -/
theorem configSlot_views :
    Slot.Views (unwatched (ω := ω) (ρ := ρ)) ConfigState.unwatched configSlot configSlot where
  get _ := rfl
  set _ _ := rfl

theorem renderSlot_views :
    Slot.Views (unwatched (ω := ω) (ρ := ρ)) RenderState.unwatched renderSlot renderSlot where
  get _ := rfl
  set _ _ := rfl

end RuleState

/-- What is reported is not a call. -/
theorem Rule.shadows_reportAll {σ τ ο : Type} (view : σ → τ) (tell : ο → Remark → ο) (said : List Remark) :
    Routine.Shadows (Prod.map view id) (reportAll tell said) (reportAll tell said) := by
  induction said with
  | nil => exact .done ()
  | cons remark rest ih => exact .act (fun _ => rfl) fun _ => ih

/-- The watched rule renders as the rule does. -/
theorem Rule.shadows_watched_render (rule : Rule ω ρ) (options : RuleOptions) (resolved : ResolvedOptions) :
    Routine.Shadows RuleState.unwatched (rule.watched.render options resolved) (rule.render options resolved) := by
  refine (Routine.Shadows.zoom RuleState.renderSlot_views RuleState.renderSlot_lawful
    (rule.toolchain.shadows_watched_renderers _ _)).bind ?_
  intro renderers
  exact Routine.Shadows.zoom RuleState.envSlot_views RuleState.envSlot_lawful
    (rule.toolchain.shadows_watched_renderAll renderers _ _)

/-- The check of a watched rule does what the check of the rule does, and tells the reporter the same. -/
theorem Rule.shadows_watched_checkTelling {ο : Type} (tell : ο → Remark → ο) (rule : Rule ω ρ) (given : Json)
    (host : Host) :
    Routine.Shadows (Prod.map RuleState.unwatched id) (rule.watched.checkTelling tell given host)
      (rule.checkTelling tell given host) := by
  have shared {α : Type} {r : Routine (RuleState (Watched ω ρ) ρ) α} {r' : Routine (RuleState ω ρ) α}
      (shadows : r.Shadows RuleState.unwatched r') :
      Routine.Shadows (Prod.map RuleState.unwatched (id : ο → ο)) (r.zoom .shared) (r'.zoom .shared) :=
    shadows.zoom (Slot.shared_views _) Slot.shared_lawful
  rw [checkTelling, checkTelling]
  split
  · exact (shadows_reportAll _ tell [_]).map _
  · exact .done _
  · rename_i options _
    refine (shared (Routine.Shadows.zoom RuleState.configSlot_views RuleState.configSlot_lawful
      (rule.resolver.shadows_watched_resolve _ _ _))).bind ?_
    intro resolved
    cases resolved with
    | error e => exact (shadows_reportAll _ tell [_]).map _
    | ok resolved =>
        refine (shared (rule.shadows_watched_render options resolved)).bind ?_
        intro rendered
        cases rendered with
        | error e => exact .done _
        | ok diagnostics => exact (shadows_reportAll _ tell _).map _

/-- The watched rule checks as the rule does: the same verdict, and the same state apart from the notes. -/
theorem Rule.shadows_watched_check (rule : Rule ω ρ) (given : Json) (host : Host) :
    Routine.Shadows RuleState.unwatched (rule.watched.check given host) (rule.check given host) :=
  ((rule.shadows_watched_checkTelling noted given host).withOwn []).map _

/-- What is written down while a host is checked. -/
def Rule.watch (rule : Rule ω ρ) (given : Json) (host : Host) (s : RuleState ω ρ) : Watched ω ρ :=
  ((rule.watched.check given host).run s.watched).2.env

/-- Whatever the reporter is, the same calls are made. -/
theorem Rule.env_watched_checkTelling {ο : Type} (tell : ο → Remark → ο) (rule : Rule ω ρ) (given : Json)
    (host : Host) (s : RuleState ω ρ) (reporter : ο) :
    ((rule.watched.checkTelling tell given host).run (s.watched, reporter)).2.1.env = rule.watch given host s := by
  rw [run_checkTelling, watch, run_check]

end

/-! ### What is written down -/

def ToolCall.failure? {ρ : Type} : ToolCall ρ → Option CompileError
  | .failed _ e => some e
  | _ => none

/-- The failures of renderers among calls. -/
def ToolCall.failures {ρ : Type} (calls : List (ToolCall ρ)) : List CompileError := calls.filterMap failure?

/-- A failure is among the calls when a renderer is noted to have failed with it. -/
theorem ToolCall.mem_failures {ρ : Type} {calls : List (ToolCall ρ)} {e : CompileError} :
    e ∈ failures calls ↔ ∃ renderer, .failed renderer e ∈ calls := by
  simp only [failures, List.mem_filterMap]
  constructor
  · rintro ⟨call, member, isFailure⟩
    cases call with
    | failed renderer e' =>
        cases isFailure
        exact ⟨renderer, member⟩
    | build | buildUndefined | render | renderBlocking => cases isFailure
  · rintro ⟨renderer, member⟩
    exact ⟨_, member, rfl⟩

section

variable {ω ρ : Type}

/-- Loading a module notes nothing about renderers. -/
theorem ModuleSystem.quiet_watched_loadFields (m : ModuleSystem ω) (path : Path) :
    (m.watched.loadFields path).Quiet (.reading (Watched.toolCalls (ω := ω) (ρ := ρ))) := by
  rw [watched_loadFields]
  refine Routine.quiet_bind (Routine.quiet_update fun _ => rfl) ?_
  intro _
  refine Routine.quiet_bind (Routine.quiet_zoom (fun _ _ => rfl) _) ?_
  intro loaded
  cases loaded with
  | error e => trivial
  | ok source =>
      refine Routine.quiet_bind ?_ fun _ => trivial
      cases source with
      | inline value => trivial
      | factory make => exact Routine.quiet_modifyGet fun _ => rfl
      | asyncFactory make => exact Routine.quiet_zoom (fun _ _ => rfl) _

/-- Resolving makes no call of the toolchain. -/
theorem Resolver.quiet_watched_resolve (r : Resolver ω) (target : Target) (content : String)
    (config : CompilerConfig) :
    (r.watched.resolve target content config).Quiet
      (.reading fun s : ConfigState (Watched ω ρ) => s.env.toolCalls) := by
  refine Routine.quiet_bind ?_ fun _ => trivial
  cases config with
  | inline fields => trivial
  | fromModule specifier =>
      have located : (r.watched.location specifier).Quiet
          (.reading fun s : ConfigState (Watched ω ρ) => s.env.toolCalls) := by
        have asked : (Routine.modifyGet (r.watched.locate specifier)).Quiet
            (.reading (Watched.toolCalls (ω := ω) (ρ := ρ))) := Routine.quiet_modifyGet fun _ => rfl
        refine Memo.quiet_tryLookup (fun _ _ => rfl) _ ?_
        exact asked.zoom (fun _ => rfl) fun _ _ => rfl
      refine Routine.quiet_bind located ?_
      intro found
      cases found with
      | error e => trivial
      | ok path =>
          refine Memo.quiet_tryLookup (fun _ _ => rfl) _ ?_
          exact (r.modules.quiet_watched_loadFields path).zoom (fun _ => rfl) fun _ _ => rfl

/-- The failures of renderers that are written down. -/
def Watched.failures (w : Watched ω ρ) : List CompileError := ToolCall.failures w.toolCalls

/-- Notes are only added. -/
theorem Watched.failures_noteTools (calls : List (ToolCall ρ)) (w : Watched ω ρ) :
    (w.noteTools calls).failures = w.failures ++ ToolCall.failures calls :=
  List.filterMap_append

theorem Watched.failures_noteTools_singleton {call : ToolCall ρ} (noFailure : call.failure? = none)
    (w : Watched ω ρ) : (w.noteTools [call]).failures = w.failures := by
  rw [failures_noteTools, ToolCall.failures, List.filterMap_cons_none noFailure]
  exact List.append_nil _

/-- Building a renderer is written down, but it is no failure. -/
theorem Toolchain.quiet_built (compiler : Compiler) {call : ToolCall ρ} (noFailure : call.failure? = none)
    (build : ω → ρ × ω) :
    (built compiler fun w : Watched ω ρ => (w.noteTools [call]).after build).Quiet
      (.reading fun s => s.env.failures) := by
  have asked : (Routine.modifyGet fun w : Watched ω ρ =>
      let (renderer, w) := (w.noteTools [call]).after build
      ((compiler, renderer), w)).Quiet (.reading Watched.failures) :=
    Routine.quiet_modifyGet (Watched.failures_noteTools_singleton noFailure)
  exact asked.zoom (fun _ => rfl) fun _ _ => rfl

/-- Building renderers writes no failure down. -/
theorem Toolchain.quiet_watched_renderers (t : Toolchain ω ρ) (compiler : Compiler)
    (undefinedFunctions : Option UndefinedFunctionsOptions) :
    (t.watched.renderers compiler undefinedFunctions).Quiet (.reading fun s => s.env.failures) := by
  refine Routine.quiet_bind (Routine.quiet_bind (Routine.quiet_lookup (fun _ _ => rfl) _ ?_) fun _ => trivial) ?_
  · exact quiet_built compiler rfl _
  · intro first
    cases undefinedFunctions with
    | none => trivial
    | some options =>
        refine Routine.quiet_bind (Routine.quiet_bind (Routine.quiet_lookup (fun _ _ => rfl) _ ?_)
          fun _ => trivial) fun _ => trivial
        exact quiet_built compiler rfl _

/-- A renderer notes its failure right before it ends with it. -/
theorem Toolchain.accounts_watched_render (t : Toolchain ω ρ) (renderer : ρ) (options : CompilerOptions) :
    (t.watched.render renderer options).Accounts Watched.failures := by
  refine .of_quiet (Routine.quiet_update (Watched.failures_noteTools_singleton rfl)) ?_
  intro _
  refine .of_quiet (Routine.quiet_zoom (fun _ _ => rfl) _) ?_
  intro result w
  cases result with
  | ok diagnostics => exact Or.inl ⟨(Watched.failures_noteTools [] w).trans (List.append_nil _), trivial⟩
  | error e => exact Or.inr ⟨e, Watched.failures_noteTools [.failed renderer e] w, rfl⟩

/-- The same when it renders at once. -/
theorem Toolchain.accounts_watched_renderBlocking (t : Toolchain ω ρ) (renderer : ρ) (options : CompilerOptions) :
    (Routine.modifyGet (t.watched.renderBlocking renderer options)).Accounts Watched.failures := by
  intro w
  let rendered := (w.noteTools [.renderBlocking renderer options]).after (t.renderBlocking renderer options)
  have called : rendered.2.failures = w.failures := Watched.failures_noteTools_singleton rfl w
  have noted := Watched.failures_noteTools (ToolCall.ofResult renderer rendered.1) rendered.2
  rw [called] at noted
  show (rendered.2.noteTools _).failures = _ ∧ (Routine.done rendered.1).Accounts _ ∨
    ∃ e, (rendered.2.noteTools _).failures = _ ∧ Routine.done rendered.1 = _
  rw [noted]
  cases rendered.1 with
  | ok diagnostics => exact Or.inl ⟨List.append_nil _, trivial⟩
  | error e => exact Or.inr ⟨e, rfl, rfl⟩

/-- Together they note the failure that ends them all, and no other. -/
theorem Toolchain.accounts_watched_renderAll (t : Toolchain ω ρ) (renderers : List ρ) (options : CompilerOptions)
    (mode : RenderMode) : (t.watched.renderAll renderers options mode).Accounts Watched.failures := by
  refine Routine.Accounts.map ?_ _
  cases mode with
  | concurrent => exact .tryAll (fun renderer => t.accounts_watched_render renderer options) renderers
  | blocking => exact .trySequence (fun renderer => t.accounts_watched_renderBlocking renderer options) renderers

/-- So does a rule that renders, whose renderers come out of the tables. -/
theorem Rule.accounts_watched_render (rule : Rule ω ρ) (options : RuleOptions) (resolved : ResolvedOptions) :
    (rule.watched.render options resolved).Accounts fun s => s.env.failures := by
  have building : ((rule.watched.toolchain.renderers rule.compiler options.undefinedFunctions).zoom
      RuleState.renderSlot).Quiet (.reading fun s : RuleState (Watched ω ρ) ρ => s.env.failures) :=
    (rule.toolchain.quiet_watched_renderers _ _).zoom (fun _ => rfl) fun _ _ => rfl
  refine .of_quiet building ?_
  intro renderers
  exact (rule.toolchain.accounts_watched_renderAll renderers _ _).zoom RuleState.envSlot_lawful

/-- Telling the reporter leaves the notes alone. -/
theorem Rule.quiet_reportAll {σ τ ο : Type} (f : σ → τ) (tell : ο → Remark → ο) (said : List Remark) :
    (reportAll tell said).Quiet (.reading fun s : σ × ο => f s.1) := by
  induction said with
  | nil => trivial
  | cons remark rest ih => exact ⟨fun _ => rfl, fun _ => ih⟩

/-- A check fails exactly with the failure of a renderer that is written down, whatever it has told. -/
theorem Rule.accounts_watched_checkTelling {ο : Type} (tell : ο → Remark → ο) (rule : Rule ω ρ) (given : Json)
    (host : Host) : (rule.watched.checkTelling tell given host).Accounts fun s => s.1.env.failures := by
  have telling (said : List Remark) : ((reportAll tell said).bind fun _ => .done (.ok ()) :
      Routine (RuleState (Watched ω ρ) ρ × ο) (Except CompileError Unit)).Accounts fun s => s.1.env.failures :=
    .of_quiet (quiet_reportAll (fun s : RuleState (Watched ω ρ) ρ => s.env.failures) tell said) fun _ => trivial
  rw [checkTelling]
  split
  · exact telling [_]
  · trivial
  · rename_i options _
    have resolving : ((rule.watched.resolver.resolve host.target host.content options.sassOptions).zoom
        RuleState.configSlot).Quiet (.reading fun s : RuleState (Watched ω ρ) ρ => s.env.failures) :=
      ((rule.resolver.quiet_watched_resolve _ _ _).comp ToolCall.failures).zoom (fun _ => rfl) fun _ _ => rfl
    refine .of_quiet (resolving.zoom (fun _ => rfl) fun _ _ => rfl) ?_
    intro resolved
    cases resolved with
    | error e => exact telling [_]
    | ok resolved =>
        refine ((rule.accounts_watched_render options resolved).zoom Slot.shared_lawful).andThen (fun _ => rfl) ?_
        intro diagnostics
        exact telling _

/-- What a check and the lists show of each other: the failures of renderers that are written down are the
    failure it ends with, if it ends with one. -/
theorem Rule.failures_watch (rule : Rule ω ρ) (given : Json) (host : Host) (s : RuleState ω ρ) :
    (rule.watch given host s).failures = Routine.failureIn ((rule.check given host).run s).1 := by
  have same : ((rule.watched.check given host).run s.watched).1 = ((rule.check given host).run s).1 :=
    congrArg Prod.fst ((rule.shadows_watched_check given host).run s.watched)
  have accounted := (rule.accounts_watched_checkTelling noted given host).run (s.watched, [])
  rw [run_checkTelling, ← run_check, Routine.failureIn_map, same] at accounted
  exact accounted

end

end SassRenderLint
