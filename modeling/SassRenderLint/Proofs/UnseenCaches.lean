/-
Module: SassRenderLint.Proofs.UnseenCaches
Layer: Proofs
Purpose: That nobody sees what a rule remembers. Where the collaborators of a rule answer alike at each
  call, what a run comes to can be said without any tables. The tables of a rule hold only such answers,
  whoever stored them: lookups, failures, clearings and suspensions keep this. So a run comes to the same
  as on a rule that remembers nothing, in whatever company, and in whatever order files are checked.
Main exports: Conduct, Answers, Answers.linted, Answers.MaySay, Toolchain.BuildsAlike, Rule.AnswersAlike,
  Rule.Sound, Rule.assures_run_of_renders, Rule.assures_run, Rule.Task, Rule.caches_unseen
-/
import SassRenderLint.Proofs.ModeAgreement
import SassRenderLint.Proofs.RendererReuse

namespace SassRenderLint

/-! ### How often a routine is suspended -/

namespace Routine

variable {σ α β ε : Type} {inv : σ → Prop}

/-- In the company of others that keep an invariant, the routine is suspended so many times. -/
def Takes (inv : σ → Prop) : Nat → Routine σ α → Prop
  | n, .done _ => n = 0
  | n, .act _ next => ∀ s, inv s → (next s).Takes inv n
  | n, .pause next => ∃ m, n = m + 1 ∧ next.Takes inv m

namespace Takes

/-- Changing the result does not change the time. -/
theorem map {n : Nat} {r : Routine σ α} (takes : r.Takes inv n) (f : α → β) :
    (r.bind fun a => .done (f a)).Takes inv n := by
  induction r generalizing n with
  | done a => exact takes
  | act write next ih => exact fun s sound => ih s (takes s sound)
  | pause next ih =>
      obtain ⟨m, count, rest⟩ := takes
      exact ⟨m, count, ih rest⟩

theorem pauses {mark : σ → σ} (n : Nat) : (Routine.pauses mark n).Takes inv n := by
  induction n with
  | zero => rfl
  | succ n ih => exact fun s _ => ⟨n, rfl, ih⟩

/-- A routine that is alone in its rounds. -/
theorem tryAll_singleton {n : Nat} {r : Routine σ (Except ε α)} (takes : r.Takes inv n) :
    (Routine.tryAll [r]).Takes inv n := by
  refine map ?_ _
  induction r with
  | done result =>
      cases result with
      | error e => exact takes
      | ok a => exact takes
  | act write next ih => exact fun s sound => ih s (takes s sound)
  | pause next =>
      obtain ⟨m, count, rest⟩ := takes
      exact ⟨m, count, rest.map _⟩

end Takes

/-- Of two routines in rounds that both fail, the one that is suspended less often is the first to, and
    the first of them if they are suspended equally often. -/
theorem Assures.tryJoin_of_errors {first : Routine σ (Except ε α)} {second : Routine σ (Except ε β)} {e e' : ε}
    {m n : Nat} (fails : first.Assures inv (· = .error e)) (fails' : second.Assures inv (· = .error e'))
    (takes : first.Takes inv m) (takes' : second.Takes inv n) :
    (Routine.tryJoin first second).Assures inv (· = .error (if m ≤ n then e else e')) := by
  induction first generalizing second m n with
  | done result =>
      cases fails
      cases takes
      exact rfl
  | act write next ih =>
      intro s sound
      obtain ⟨keeps, rest⟩ := fails s sound
      exact ⟨keeps, ih s rest fails' (takes s sound) takes'⟩
  | pause next ih =>
      obtain ⟨m, rfl, rest⟩ := takes
      -- The first is suspended: the second goes on until it fails or is suspended too.
      show (Routine.secondTurn next (fun later => Routine.tryJoin next later) second).Assures inv _
      induction second with
      | done result =>
          cases fails'
          cases takes'
          exact rfl
      | act write next' ih' =>
          intro s sound
          obtain ⟨keeps, rest'⟩ := fails' s sound
          exact ⟨keeps, ih' s rest' (takes' s sound)⟩
      | pause next' =>
          obtain ⟨n, rfl, rest'⟩ := takes'
          have later : (Routine.tryJoin next next').Assures inv (· = .error (if m ≤ n then e else e')) :=
            ih fails fails' rest rest'
          simp only [Nat.add_le_add_iff_right]
          exact later

end Routine

/-! ### Collaborators that answer alike -/

/-- How a renderer behaves. -/
structure Conduct where
  /-- What it makes of its input with suspensions. -/
  concurrent : CompilerOptions → RenderResult
  /-- What it makes of its input at once. -/
  blocking : CompilerOptions → RenderResult
  /-- How often it is suspended, if that is always the same. -/
  suspensions : CompilerOptions → Option Nat

/-- What the collaborators of a rule answer, the same at each call. -/
structure Answers where
  packageRoot : Path → Option Path
  resolveFrom : Path → String → Except ConfigError Path
  /-- What loading a module, and then calling its factory if it has one, comes to. -/
  provided : Path → Except ConfigError Json
  /-- How the renderers for errors and deprecations behave. -/
  base : Conduct
  /-- How the renderers for undefined functions behave. -/
  undefinedFunctions : UndefinedFunctionsOptions → Conduct

namespace Answers

/-! ### What a run comes to, without tables -/

def located (a : Answers) (cwd : Path) (specifier : String) : Except ConfigError Path :=
  a.resolveFrom ((a.packageRoot cwd).getD (Resolver.fallbackBase cwd)) specifier

def imported (a : Answers) (path : Path) : Except ConfigError Fields :=
  (a.provided path).bind (ConfigSource.objectOf path)

def baseOptions (a : Answers) (cwd : Path) : CompilerConfig → Except ConfigError Fields
  | .inline fields => .ok fields
  | .fromModule specifier => (a.located cwd specifier).bind a.imported

def inTurn (first second : RenderResult) : RenderResult :=
  first.bind fun diagnostics => second.map (diagnostics ++ ·)

/-- Two renderers in rounds. When both fail, it counts which is suspended less often. -/
def inRounds (first second : Conduct) (options : CompilerOptions) : RenderResult :=
  match first.concurrent options, second.concurrent options with
  | .error e, .error e' =>
      .error (if (first.suspensions options).getD 0 ≤ (second.suspensions options).getD 0 then e else e')
  | first, second => inTurn first second

def rendered (a : Answers) (functions : Option UndefinedFunctionsOptions) (options : CompilerOptions) :
    RenderMode → RenderResult
  | .concurrent =>
      match functions with
      | none => a.base.concurrent options
      | some functions => inRounds a.base (a.undefinedFunctions functions) options
  | .blocking =>
      match functions with
      | none => a.base.blocking options
      | some functions => inTurn (a.base.blocking options) ((a.undefinedFunctions functions).blocking options)

/-- What a check under accepted options comes to. -/
def checked (a : Answers) (cwd : Path) (options : RuleOptions) (host : Host) : Except CompileError (List Remark) :=
  match a.baseOptions cwd options.sassOptions with
  | .error e => .ok [Rule.failureRemark host e]
  | .ok fields =>
      (a.rendered options.undefinedFunctions ⟨fields, Resolver.inputFor host.target host.content⟩
        options.renderMode).map (Rule.remarks host (host.target.path?.map Path.shown))

/-- What a check under options as they are given comes to. -/
def said (a : Answers) (cwd : Path) (given : Json) (host : Host) : Except CompileError (List Remark) :=
  match RuleOptions.parse given with
  | .error e => .ok [.invalidOption e.message]
  | .ok none => .ok []
  | .ok (some options) => a.checked cwd options host

/-- What a check can come to, where rendering can come to whatever is due. -/
def MaySay (a : Answers) (cwd : Path) (due : RuleOptions → CompilerOptions → RenderResult → Prop) (given : Json)
    (host : Host) (said : Except CompileError (List Remark)) : Prop :=
  match RuleOptions.parse given with
  | .error e => said = .ok [.invalidOption e.message]
  | .ok none => said = .ok []
  | .ok (some options) =>
      match a.baseOptions cwd options.sassOptions with
      | .error e => said = .ok [Rule.failureRemark host e]
      | .ok fields =>
          ∃ result, due options ⟨fields, Resolver.inputFor host.target host.content⟩ result ∧
            said = result.map (Rule.remarks host (host.target.path?.map Path.shown))

/-- Both renderers of a run fail in rounds, and this is the error of one of them. -/
def EitherFails (a : Answers) (functions : Option UndefinedFunctionsOptions) (options : CompilerOptions)
    (mode : RenderMode) (e : CompileError) : Prop :=
  mode = .concurrent ∧ ∃ undefined first second, functions = some undefined ∧ a.base.concurrent options = .error first ∧
    (a.undefinedFunctions undefined).concurrent options = .error second ∧ (e = first ∨ e = second)

def linted (a : Answers) (cwd : Path) (given : Json) (host : Host) : Except CompileError LintResult :=
  (a.said cwd given host).map fun said =>
    ((Collector.start host.wordSource).recordAll said).result host.target.identifier

end Answers

section

variable {ω ρ : Type}

/-- As long as the surroundings are calm, the locator and the loader give these answers, and leave the
    surroundings so. The loader answers alike for paths that are the same place; its errors may name the
    path. -/
structure ModuleSystem.AnswersAlike (m : ModuleSystem ω) (calm : ω → Prop) (a : Answers) : Prop where
  packageRoot (start : Path) (env : ω) : calm env →
    (m.packageRoot start env).1 = a.packageRoot start ∧ calm (m.packageRoot start env).2
  resolveFrom (base : Path) (specifier : String) (env : ω) : calm env →
    (m.resolveFrom base specifier env).1 = a.resolveFrom base specifier ∧ calm (m.resolveFrom base specifier env).2
  load (path : Path) : (m.load path).Assures calm fun
    | .error e => a.provided path = .error e
    | .ok source => source.value.Assures calm (· = a.provided path)
  samePlace {p q : Path} {value : Json} : p.components = q.components → a.provided p = .ok value →
    a.provided q = .ok value

/-- As long as the surroundings are calm, a renderer behaves in this way. -/
structure Toolchain.Behaves (t : Toolchain ω ρ) (calm : ω → Prop) (renderer : ρ) (c : Conduct) : Prop where
  concurrent (options : CompilerOptions) : (t.render renderer options).Assures calm (· = c.concurrent options)
  blocking (options : CompilerOptions) (env : ω) : calm env →
    (t.renderBlocking renderer options env).1 = c.blocking options ∧ calm (t.renderBlocking renderer options env).2
  suspensions {options : CompilerOptions} {n : Nat} : c.suspensions options = some n →
    (t.render renderer options).Takes calm n

/-- As long as the surroundings are calm, each renderer that is built for a compiler behaves in the same
    way. -/
structure Toolchain.BuildsAlike (t : Toolchain ω ρ) (compiler : Compiler) (calm : ω → Prop) (a : Answers) :
    Prop where
  build (env : ω) : calm env → t.Behaves calm (t.build compiler env).1 a.base ∧ calm (t.build compiler env).2
  buildUndefined (functions : UndefinedFunctionsOptions) (env : ω) : calm env →
    t.Behaves calm (t.buildUndefined compiler functions env).1 (a.undefinedFunctions functions) ∧
      calm (t.buildUndefined compiler functions env).2

/-- What is built behaves in the same way, and where both renderers fail, with different errors, it is always the
    same one that comes first. Otherwise they may be suspended as often as they like. -/
structure Toolchain.AnswersAlike (t : Toolchain ω ρ) (compiler : Compiler) (calm : ω → Prop) (a : Answers) :
    Prop extends t.BuildsAlike compiler calm a where
  timed {functions : UndefinedFunctionsOptions} {options : CompilerOptions} {e e' : CompileError} :
    a.base.concurrent options = .error e → (a.undefinedFunctions functions).concurrent options = .error e' → e ≠ e' →
      ∃ m n, a.base.suspensions options = some m ∧ (a.undefinedFunctions functions).suspensions options = some n

/-- The collaborators of a rule answer alike at each call. -/
structure Rule.AnswersAlike (rule : Rule ω ρ) (calm : ω → Prop) (a : Answers) : Prop where
  modules : rule.resolver.modules.AnswersAlike calm a
  toolchain : rule.toolchain.AnswersAlike rule.compiler calm a

end

/-! ### Tables that hold such answers -/

section

variable {ω ρ : Type} {calm : ω → Prop} {a : Answers}

/-- The tables of a resolver hold only what the collaborators answer. -/
structure Resolver.Sound (r : Resolver ω) (calm : ω → Prop) (a : Answers) (s : ConfigState ω) : Prop where
  steady : calm s.env
  locations : s.tables.locations.Obeys fun key path =>
    ∀ specifier, key = (r.cwd.components, specifier) → a.located r.cwd specifier = .ok path
  imports : s.tables.imports.Obeys fun key fields =>
    ∀ path : Path, key = path.components → a.imported path = .ok fields

/-- The location of a specifier is that of the locator, from the table or not. -/
theorem Resolver.assures_location {r : Resolver ω} (alike : r.modules.AnswersAlike calm a) (specifier : String) :
    (r.location specifier).Assures (r.Sound calm a) (· = a.located r.cwd specifier) := by
  have asked : (Routine.modifyGet (r.locate specifier)).Assures calm (· = a.located r.cwd specifier) := by
    apply Routine.Assures.modifyGet
    intro env quiet
    obtain ⟨root, quiet⟩ := alike.packageRoot r.cwd env quiet
    simp only [locate, root]
    exact alike.resolveFrom _ specifier _ quiet
  apply Routine.Assures.tryLookup (fun s sound => sound.locations)
    fun s m sound obeys => { sound with locations := obeys }
  · intro path lawful
    exact (lawful specifier rfl).symm
  · apply Routine.Assures.mono
    · exact asked.zoom (fun s sound => sound.steady) fun s env sound quiet => { sound with steady := quiet }
    · rintro _ rfl
      cases found : a.located r.cwd specifier with
      | error e => rfl
      | ok path =>
          intro other same
          cases same
          exact found

/-- Loading a module comes to its options, or to why it has none. -/
theorem ModuleSystem.assures_loadFields {m : ModuleSystem ω} (alike : m.AnswersAlike calm a) (path : Path) :
    (m.loadFields path).Assures calm (· = a.imported path) := by
  apply (alike.load path).bind
  intro loaded answer
  cases loaded with
  | error e =>
      rw [Answers.imported, answer]
      rfl
  | ok source =>
      apply Routine.Assures.map answer
      rintro _ rfl
      rfl

/-- Paths that are the same place provide the same options. -/
theorem ModuleSystem.AnswersAlike.imported_samePlace {m : ModuleSystem ω} (alike : m.AnswersAlike calm a)
    {p q : Path} {fields : Fields} (same : p.components = q.components) (found : a.imported p = .ok fields) :
    a.imported q = .ok fields := by
  rw [Answers.imported] at found ⊢
  cases provided : a.provided p with
  | error e =>
      rw [provided] at found
      cases found
  | ok value =>
      rw [provided] at found
      rw [alike.samePlace same provided]
      cases value <;> simp_all [ConfigSource.objectOf, Except.bind]

/-- So does importing it, from the table or not. -/
theorem Resolver.assures_importModule {r : Resolver ω} (alike : r.modules.AnswersAlike calm a) (path : Path) :
    (r.importModule path).Assures (r.Sound calm a) (· = a.imported path) := by
  apply Routine.Assures.tryLookup (fun s sound => sound.imports) fun s m sound obeys => { sound with imports := obeys }
  · intro fields lawful
    exact (lawful path rfl).symm
  · apply Routine.Assures.mono
    · exact (ModuleSystem.assures_loadFields alike path).zoom (fun s sound => sound.steady)
        fun s env sound quiet => { sound with steady := quiet }
    · rintro _ rfl
      cases found : a.imported path with
      | error e => rfl
      | ok fields =>
          intro other same
          exact alike.imported_samePlace same found

/-- So the compiler options depend only on the answers of the collaborators. -/
theorem Resolver.assures_resolve {r : Resolver ω} (alike : r.modules.AnswersAlike calm a) (target : Target)
    (content : String) (config : CompilerConfig) :
    (r.resolve target content config).Assures (r.Sound calm a)
      (· = (a.baseOptions r.cwd config).map fun fields =>
        ⟨⟨fields, inputFor target content⟩, target.path?.map Path.shown⟩) := by
  have options : (r.baseOptions config).Assures (r.Sound calm a) (· = a.baseOptions r.cwd config) := by
    cases config with
    | inline fields => exact rfl
    | fromModule specifier =>
        apply (assures_location alike specifier).bind
        rintro _ rfl
        rw [Answers.baseOptions]
        cases a.located r.cwd specifier with
        | error e => exact rfl
        | ok path => exact assures_importModule alike path
  apply options.map
  rintro _ rfl
  rfl

/-! ### Renderers that behave alike -/

/-- The tables of renderers hold only renderers that behave as they should. -/
structure Toolchain.Sound (t : Toolchain ω ρ) (compiler : Compiler) (calm : ω → Prop) (a : Answers)
    (s : RenderState ω ρ) : Prop where
  steady : calm s.env
  base : s.renderers.base.Obeys fun key pinned => key = compiler.identity → t.Behaves calm pinned.2 a.base
  undefinedFunctions : s.renderers.undefinedFunctions.Obeys fun key pinned =>
    ∀ functions : UndefinedFunctionsOptions, key = (compiler.identity, functions.cacheKey) →
      t.Behaves calm pinned.2 (a.undefinedFunctions functions)

/-- How the renderers of a run behave. -/
def Answers.conducts (a : Answers) : Option UndefinedFunctionsOptions → List Conduct
  | none => [a.base]
  | some functions => [a.base, a.undefinedFunctions functions]

namespace Toolchain

variable {t : Toolchain ω ρ} {compiler : Compiler}

/-- A renderer that is built behaves as it should. -/
theorem assures_built {build : ω → ρ × ω} {c : Conduct}
    (builds : ∀ env, calm env → t.Behaves calm (build env).1 c ∧ calm (build env).2) :
    (built compiler build).Assures (t.Sound compiler calm a) fun pinned => t.Behaves calm pinned.2 c := by
  have paired : (Routine.modifyGet fun env => ((compiler, (build env).1), (build env).2)).Assures calm
      fun pinned => t.Behaves calm pinned.2 c := .modifyGet builds
  exact paired.zoom (fun s sound => sound.steady) fun s env sound quiet => { sound with steady := quiet }

/-- So does one out of the table for errors and deprecations. -/
theorem assures_renderer (alike : t.BuildsAlike compiler calm a) :
    (t.renderer compiler).Assures (t.Sound compiler calm a) fun renderer => t.Behaves calm renderer a.base := by
  have looked : (Memo.lookup RenderState.baseSlot compiler.identity (built compiler (t.build compiler))).Assures
      (t.Sound compiler calm a) fun pinned => t.Behaves calm pinned.2 a.base := by
    apply Routine.Assures.lookup (fun s sound => sound.base) fun s m sound obeys => { sound with base := obeys }
    · intro pinned lawful
      exact lawful rfl
    · exact (assures_built alike.build).mono fun _ behaves _ => behaves
  exact looked.map fun _ behaves => behaves

/-- So does one out of the table for undefined functions, where options with one key are the same. -/
theorem assures_undefinedRenderer (alike : t.BuildsAlike compiler calm a) (functions : UndefinedFunctionsOptions) :
    (t.undefinedRenderer compiler functions).Assures (t.Sound compiler calm a) fun renderer =>
      t.Behaves calm renderer (a.undefinedFunctions functions) := by
  have looked : (Memo.lookup RenderState.undefinedFunctionsSlot (compiler.identity, functions.cacheKey)
      (built compiler (t.buildUndefined compiler functions))).Assures (t.Sound compiler calm a) fun pinned =>
        t.Behaves calm pinned.2 (a.undefinedFunctions functions) := by
    apply Routine.Assures.lookup (fun s sound => sound.undefinedFunctions)
      fun s m sound obeys => { sound with undefinedFunctions := obeys }
    · intro pinned lawful
      exact lawful functions rfl
    · apply (assures_built (alike.buildUndefined functions)).mono
      -- The text of the key tells which functions the renderer was built with.
      intro pinned behaves others same
      rw [Prod.mk.injEq, UndefinedFunctionsOptions.cacheKey_inj] at same
      rw [← same.2]
      exact behaves
  exact looked.map fun _ behaves => behaves

/-- The renderers of a run behave, one by one, as those of its collaborators. -/
theorem assures_renderers (alike : t.BuildsAlike compiler calm a) (functions : Option UndefinedFunctionsOptions) :
    (t.renderers compiler functions).Assures (t.Sound compiler calm a) fun renderers =>
      List.Forall₂ (t.Behaves calm) renderers (a.conducts functions) := by
  apply (assures_renderer alike).bind
  intro first behaves
  cases functions with
  | none => exact .cons behaves .nil
  | some functions =>
      apply (assures_undefinedRenderer alike functions).map
      intro second behaves'
      exact .cons behaves (.cons behaves' .nil)

/-- A single routine comes to its own result. -/
theorem eq_of_dueOf_singleton {ε α : Type} {result : Except ε α} {outcome : Except ε (List α)}
    (due : Routine.Assures.DueOf [result] outcome) : outcome = result.map fun value => [value] := by
  cases outcome with
  | error e =>
      rw [← List.mem_singleton.1 due]
      rfl
  | ok values =>
      cases values with
      | nil => cases due
      | cons value rest =>
          obtain ⟨rfl, none⟩ := List.cons.inj due
          rw [List.map_eq_nil_iff.1 none.symm]
          rfl

/-- Two results that do not fail with different errors come to the same in rounds as one after the other. -/
theorem flatten_of_dueOf_pair {x y : RenderResult} {outcome : Except CompileError (List (List Diagnostic))}
    (due : Routine.Assures.DueOf [x, y] outcome) (agree : ∀ {e e'}, x = .error e → y = .error e' → e = e') :
    outcome.map List.flatten = Answers.inTurn x y := by
  cases outcome with
  | ok batches =>
      match batches, due with
      | [], due => cases due
      | [_], due => cases due
      | [a, b], due =>
          cases due
          simp [Answers.inTurn, Except.map, Except.bind]
      | _ :: _ :: _ :: _, due => simp [Routine.Assures.DueOf] at due
  | error e =>
      simp only [Routine.Assures.DueOf, List.mem_cons, List.not_mem_nil, or_false] at due
      rcases due with rfl | rfl
      · rfl
      · cases x with
        | ok a => rfl
        | error e' =>
            rw [agree rfl rfl]
            rfl

/-- With one renderer, rounds do not matter. -/
theorem assures_alone {renderer : ρ} {c : Conduct} {options : CompilerOptions} (behaves : t.Behaves calm renderer c) :
    (t.batches [renderer] options .concurrent).Assures calm
      (· = (c.concurrent options).map fun diagnostics => [diagnostics]) := by
  have gathered : (Routine.tryAll ([renderer].map fun renderer => t.render renderer options)).Assures calm
      (Routine.Assures.DueOf ([renderer].map fun _ => c.concurrent options)) := by
    apply Routine.Assures.tryAll
    simp [behaves.concurrent]
  exact gathered.mono fun _ => eq_of_dueOf_singleton

/-- Two renderers in rounds, however often they are suspended: where both fail, one of them comes first. -/
theorem assures_inRounds_untimed {first second : ρ} {c d : Conduct} {options : CompilerOptions}
    (behaves : t.Behaves calm first c) (behaves' : t.Behaves calm second d) :
    (t.renderAll [first, second] options .concurrent).Assures calm fun result =>
      result = Answers.inRounds c d options ∨
        ∃ e e', c.concurrent options = .error e ∧ d.concurrent options = .error e' ∧
          (result = .error e ∨ result = .error e') := by
  have gathered : (t.batches [first, second] options .concurrent).Assures calm
      (Routine.Assures.DueOf [c.concurrent options, d.concurrent options]) := by
    show (Routine.tryAll ([(first, c), (second, d)].map fun i => t.render i.1 options)).Assures calm
      (Routine.Assures.DueOf ([(first, c), (second, d)].map fun i => i.2.concurrent options))
    apply Routine.Assures.tryAll
    simp [behaves.concurrent, behaves'.concurrent]
  apply gathered.map
  intro outcome due
  by_cases both : ∃ e e', c.concurrent options = .error e ∧ d.concurrent options = .error e'
  · obtain ⟨e, e', fails, fails'⟩ := both
    refine .inr ⟨e, e', fails, fails', ?_⟩
    rw [fails, fails'] at due
    cases outcome with
    | ok batches => cases batches <;> cases due
    | error found => simpa [Routine.Assures.DueOf, Except.map] using due
  · left
    rw [flatten_of_dueOf_pair due fun fails fails' => absurd ⟨_, _, fails, fails'⟩ both, Answers.inRounds]
    split
    · rename_i e e' fails fails'
      exact absurd ⟨e, e', fails, fails'⟩ both
    · rfl

/-- Two renderers in rounds: their suspensions count only when they fail with different errors. -/
theorem assures_inRounds {first second : ρ} {c d : Conduct} {options : CompilerOptions}
    (behaves : t.Behaves calm first c) (behaves' : t.Behaves calm second d)
    (timed : ∀ {e e'}, c.concurrent options = .error e → d.concurrent options = .error e' → e ≠ e' →
      ∃ m n, c.suspensions options = some m ∧ d.suspensions options = some n) :
    (t.renderAll [first, second] options .concurrent).Assures calm (· = Answers.inRounds c d options) := by
  by_cases clash : ∃ e e', c.concurrent options = .error e ∧ d.concurrent options = .error e' ∧ e ≠ e'
  · obtain ⟨e, e', fails, fails', differ⟩ := clash
    obtain ⟨m, n, often, often'⟩ := timed fails fails' differ
    have firstFails : (t.render first options).Assures calm (· = .error e) := fails ▸ behaves.concurrent options
    have secondFails : (t.batches [second] options .concurrent).Assures calm (· = .error e') := by
      have alone : (t.batches [second] options .concurrent).Assures calm _ := assures_alone behaves'
      rw [fails'] at alone
      exact alone
    have joined := firstFails.tryJoin_of_errors secondFails (behaves.suspensions often)
      (behaves'.suspensions often').tryAll_singleton
    have both : (t.batches [first, second] options .concurrent).Assures calm
        (· = .error (if m ≤ n then e else e')) := by
      apply joined.map
      rintro _ rfl
      rfl
    apply both.map
    rintro _ rfl
    simp [Answers.inRounds, fails, fails', often, often', Except.map]
  · apply (assures_inRounds_untimed behaves behaves').mono
    rintro result (same | ⟨e, e', fails, fails', either⟩)
    · exact same
    · obtain rfl : e = e' := by
        by_contra differ
        exact clash ⟨e, e', fails, fails', differ⟩
      simp only [Answers.inRounds, fails, fails', ite_self]
      exact either.elim id id

/-- Renderers one after the other. -/
theorem assures_inTurn {staff : List (ρ × Conduct)} (behave : ∀ i ∈ staff, t.Behaves calm i.1 i.2)
    (options : CompilerOptions) :
    (t.renderAll (staff.map Prod.fst) options .blocking).Assures calm
      (· = (staff.mapM fun i : ρ × Conduct => i.2.blocking options).map List.flatten) := by
  have gathered : (t.batches (staff.map Prod.fst) options .blocking).Assures calm
      (· = staff.mapM fun i : ρ × Conduct => i.2.blocking options) := by
    rw [batches, List.map_map]
    apply Routine.Assures.trySequence
    intro i member
    exact .modifyGet ((behave i member).blocking options)
  apply gathered.map
  rintro _ rfl
  rfl

/-- What rendering comes to, however often the renderers are suspended. -/
theorem assures_renderAll_untimed {functions : Option UndefinedFunctionsOptions} {renderers : List ρ}
    (behave : List.Forall₂ (t.Behaves calm) renderers (a.conducts functions)) (options : CompilerOptions)
    (mode : RenderMode) :
    (t.renderAll renderers options mode).Assures calm fun result =>
      result = a.rendered functions options mode ∨ ∃ e, a.EitherFails functions options mode e ∧ result = .error e := by
  cases functions with
  | none =>
      obtain ⟨first, _, behaves, none, rfl⟩ := List.forall₂_cons_right_iff.1 behave
      obtain rfl := List.forall₂_nil_right_iff.1 none
      cases mode with
      | concurrent =>
          apply (assures_alone behaves).map
          rintro _ rfl
          left
          cases concurrent : a.base.concurrent options <;> simp [Answers.rendered, concurrent, Except.map]
      | blocking =>
          have staffed : ∀ i ∈ [(first, a.base)], t.Behaves calm i.1 i.2 := by simpa using behaves
          apply (assures_inTurn staffed options).mono
          rintro _ rfl
          left
          cases blocking : a.base.blocking options <;>
            simp [Answers.rendered, blocking, Except.map, bind, Except.bind, pure, Except.pure]
  | some functions =>
      obtain ⟨first, _, behaves, rest, rfl⟩ := List.forall₂_cons_right_iff.1 behave
      obtain ⟨second, _, behaves', none, rfl⟩ := List.forall₂_cons_right_iff.1 rest
      obtain rfl := List.forall₂_nil_right_iff.1 none
      cases mode with
      | concurrent =>
          apply (assures_inRounds_untimed behaves behaves').mono
          rintro result (same | ⟨e, e', fails, fails', either⟩)
          · exact .inl same
          · rcases either with rfl | rfl
            · exact .inr ⟨e, ⟨rfl, functions, e, e', rfl, fails, fails', .inl rfl⟩, rfl⟩
            · exact .inr ⟨e', ⟨rfl, functions, e, e', rfl, fails, fails', .inr rfl⟩, rfl⟩
      | blocking =>
          have staffed : ∀ i ∈ [(first, a.base), (second, a.undefinedFunctions functions)], t.Behaves calm i.1 i.2 := by
            simpa using ⟨behaves, behaves'⟩
          apply (assures_inTurn staffed options).mono
          rintro _ rfl
          left
          cases blocking : a.base.blocking options <;>
            cases blocking' : (a.undefinedFunctions functions).blocking options <;>
            simp [Answers.rendered, Answers.inTurn, blocking, blocking', Except.map, bind, Except.bind, pure,
              Except.pure]

/-- Rendering comes to what the collaborators answer, in both modes. -/
theorem assures_renderAll (alike : t.AnswersAlike compiler calm a) {functions : Option UndefinedFunctionsOptions}
    {renderers : List ρ} (behave : List.Forall₂ (t.Behaves calm) renderers (a.conducts functions))
    (options : CompilerOptions) (mode : RenderMode) :
    (t.renderAll renderers options mode).Assures calm (· = a.rendered functions options mode) := by
  by_cases rounds : mode = .concurrent ∧ ∃ undefined, functions = some undefined
  · obtain ⟨rfl, undefined, rfl⟩ := rounds
    obtain ⟨first, _, behaves, rest, rfl⟩ := List.forall₂_cons_right_iff.1 behave
    obtain ⟨second, _, behaves', none, rfl⟩ := List.forall₂_cons_right_iff.1 rest
    obtain rfl := List.forall₂_nil_right_iff.1 none
    exact assures_inRounds behaves behaves' alike.timed
  · apply (assures_renderAll_untimed behave options mode).mono
    rintro result (same | ⟨e, ⟨inRounds, undefined, _, _, both, _⟩, _⟩)
    · exact same
    · exact absurd ⟨inRounds, undefined, both⟩ rounds

end Toolchain

/-! ### Runs in company -/

namespace Rule

variable {rule : Rule ω ρ}

/-- All that a rule remembers is what its collaborators answer. -/
structure Sound (rule : Rule ω ρ) (calm : ω → Prop) (a : Answers) (s : RuleState ω ρ) : Prop where
  config : rule.resolver.Sound calm a ⟨s.env, s.tables⟩
  rendering : rule.toolchain.Sound rule.compiler calm a ⟨s.env, s.renderers⟩

def fresh (env : ω) : RuleState ω ρ := ⟨env, .empty, .empty⟩

/-- Nothing remembered is nothing wrong. -/
theorem sound_fresh {env : ω} (quiet : calm env) : rule.Sound calm a (fresh env) where
  config := ⟨quiet, Memo.obeys_empty _, Memo.obeys_empty _⟩
  rendering := ⟨quiet, Memo.obeys_empty _, Memo.obeys_empty _⟩

/-- What the resolver does to its part of the state leaves the renderers sound. -/
theorem Sound.setConfig {s : RuleState ω ρ} (sound : rule.Sound calm a s) {part : ConfigState ω}
    (config : rule.resolver.Sound calm a part) : rule.Sound calm a (RuleState.configSlot.set part s) where
  config := config
  rendering := { sound.rendering with steady := config.steady }

/-- What rendering does to its part of the state leaves the resolver's tables sound. -/
theorem Sound.setRendering {s : RuleState ω ρ} (sound : rule.Sound calm a s) {part : RenderState ω ρ}
    (rendering : rule.toolchain.Sound rule.compiler calm a part) :
    rule.Sound calm a (RuleState.renderSlot.set part s) where
  config := { sound.config with steady := rendering.steady }
  rendering := rendering

/-- What the renderers of a run come to is what rendering comes to, whoever built them. -/
theorem assures_render (alike : rule.toolchain.BuildsAlike rule.compiler calm a) (options : RuleOptions)
    (resolved : ResolvedOptions) {due : RenderResult → Prop}
    (renders : ∀ renderers, List.Forall₂ (rule.toolchain.Behaves calm) renderers
      (a.conducts options.undefinedFunctions) →
        (rule.toolchain.renderAll renderers resolved.options options.renderMode).Assures calm due) :
    (rule.render options resolved).Assures (rule.Sound calm a) due := by
  have renderers := (Toolchain.assures_renderers alike options.undefinedFunctions).zoom
    (fun s (sound : rule.Sound calm a s) => sound.rendering) fun s part sound rendering => sound.setRendering rendering
  apply renderers.bind
  intro renderers behave
  apply (renders renderers behave).zoom
  · exact fun s sound => sound.config.steady
  · exact fun s env sound quiet => ⟨{ sound.config with steady := quiet }, { sound.rendering with steady := quiet }⟩

/-- Reports go to a reporter that nobody else sees. -/
theorem assures_reportAll {σ ο : Type} {inv : σ → Prop} (tell : ο → Remark → ο) (said : List Remark) (reporter : ο) :
    (((reportAll tell said).bind fun _ => .done (.ok ())).withOwn reporter :
        Routine σ (Except CompileError Unit × ο)).Assures inv (· = (.ok (), said.foldl tell reporter)) := by
  induction said generalizing reporter with
  | nil => exact rfl
  | cons remark rest ih =>
      intro s sound
      exact ⟨sound, ih (tell reporter remark)⟩

/-- In the company of others that keep the tables sound, a check tells its reporter what can be said without
    tables, or fails and tells it nothing. -/
theorem assures_checkTelling {ο : Type} {due : RuleOptions → CompilerOptions → RenderResult → Prop}
    (modules : rule.resolver.modules.AnswersAlike calm a)
    (renders : ∀ options resolved,
      (rule.render options resolved).Assures (rule.Sound calm a) (due options resolved.options))
    (tell : ο → Remark → ο) (given : Json) (host : Host) (reporter : ο) :
    ((rule.checkTelling tell given host).withOwn reporter).Assures (rule.Sound calm a) fun ended =>
      ∃ said, a.MaySay rule.resolver.cwd due given host said ∧
        ended = (said.map fun _ => (), told tell reporter said) := by
  simp only [checkTelling, Answers.MaySay]
  rcases RuleOptions.parse given with e | enabled
  · exact (assures_reportAll tell [_] reporter).mono fun ended same => ⟨_, rfl, same⟩
  · cases enabled with
    | none => exact ⟨_, rfl, rfl⟩
    | some options =>
        have resolving := (Resolver.assures_resolve modules host.target host.content options.sassOptions).zoom
          (fun s (sound : rule.Sound calm a s) => sound.config) fun s part sound config => sound.setConfig config
        simp only [checkWith, Routine.withOwn_bind, Routine.withOwn_zoom_shared, Routine.bind_assoc]
        apply resolving.bind
        rintro _ rfl
        cases a.baseOptions rule.resolver.cwd options.sassOptions with
        | error e => exact (assures_reportAll tell [_] reporter).mono fun ended same => ⟨_, rfl, same⟩
        | ok fields =>
            simp only [Except.map, Routine.bind, Routine.withOwn_bind, Routine.withOwn_zoom_shared,
              Routine.bind_assoc]
            apply (renders options _).bind
            intro result rendered
            cases result with
            | error e => exact ⟨_, ⟨_, rendered, rfl⟩, rfl⟩
            | ok diagnostics =>
                exact (assures_reportAll tell _ reporter).mono fun ended same => ⟨_, ⟨_, rendered, rfl⟩, same⟩

/-- The same for a run, which has a collector as the reporter. -/
theorem assures_run_of_renders (due : RuleOptions → CompilerOptions → RenderResult → Prop)
    (modules : rule.resolver.modules.AnswersAlike calm a)
    (renders : ∀ options resolved,
      (rule.render options resolved).Assures (rule.Sound calm a) (due options resolved.options))
    (given : Json) (host : Host) :
    (rule.run given host).Assures (rule.Sound calm a) fun result =>
      ∃ said, a.MaySay rule.resolver.cwd due given host said ∧
        result = said.map fun said =>
          ((Collector.start host.wordSource).recordAll said).result host.target.identifier := by
  apply (assures_checkTelling modules renders Collector.record given host (Collector.start host.wordSource)).map
  rintro _ ⟨said, may, rfl⟩
  refine ⟨said, may, ?_⟩
  cases said <;> rfl

/-- In the company of others that keep the tables sound, a run comes to what can be said without tables. -/
theorem assures_run (alike : rule.AnswersAlike calm a) (given : Json) (host : Host) :
    (rule.run given host).Assures (rule.Sound calm a) (· = a.linted rule.resolver.cwd given host) := by
  have renders (options : RuleOptions) (resolved : ResolvedOptions) :
      (rule.render options resolved).Assures (rule.Sound calm a)
        (· = a.rendered options.undefinedFunctions resolved.options options.renderMode) :=
    assures_render alike.toolchain.toBuildsAlike options resolved fun _ behave =>
      Toolchain.assures_renderAll alike.toolchain behave _ _
  apply (assures_run_of_renders (fun options compiling result =>
    result = a.rendered options.undefinedFunctions compiling options.renderMode) alike.modules renders given host).mono
  rintro _ ⟨said, may, rfl⟩
  suffices same : said = a.said rule.resolver.cwd given host by rw [same, Answers.linted]
  rw [Answers.said]
  rw [Answers.MaySay] at may
  split at may
  · exact may
  · exact may
  · rw [Answers.checked]
    split at may
    · exact may
    · obtain ⟨_, rfl, same⟩ := may
      exact same

inductive Task where
  /-- Runs the rule on a host. -/
  | lint (given : Json) (host : Host)
  /-- Empties the tables of the resolver, one after the other. -/
  | clearConfig
  /-- Empties the tables of renderers, one after the other. -/
  | clearRenderers
deriving DecidableEq, Repr

/-- A task as a routine. Only runs have a result. -/
def Task.routine (rule : Rule ω ρ) : Task → Routine (RuleState ω ρ) (Option (Except CompileError LintResult))
  | .lint given host => (rule.run given host).bind fun result => .done (some result)
  | .clearConfig =>
      (Routine.update fun s => { s with tables := { s.tables with locations := .empty } }).bind fun _ =>
        (Routine.update fun s => { s with tables := { s.tables with imports := .empty } }).bind fun _ => .done none
  | .clearRenderers =>
      (Routine.update fun s => { s with renderers := { s.renderers with base := .empty } }).bind fun _ =>
        (Routine.update fun s => { s with renderers := { s.renderers with undefinedFunctions := .empty } }).bind
          fun _ => .done none

/-- What a task comes to, without tables. -/
def Task.outcome (a : Answers) (cwd : Path) : Task → Option (Except CompileError LintResult)
  | .lint given host => some (a.linted cwd given host)
  | .clearConfig => none
  | .clearRenderers => none

/-- Each task comes to its outcome, whoever else uses the tables meanwhile; emptying them leaves them sound. -/
theorem Task.assures (alike : rule.AnswersAlike calm a) (task : Task) :
    (task.routine rule).Assures (rule.Sound calm a) (· = task.outcome a rule.resolver.cwd) := by
  cases task with
  | lint given host =>
      apply (assures_run alike given host).map
      rintro _ rfl
      rfl
  | clearConfig =>
      intro s sound
      refine ⟨⟨{ sound.config with locations := Memo.obeys_empty _ }, sound.rendering⟩, ?_⟩
      intro s sound
      exact ⟨⟨{ sound.config with imports := Memo.obeys_empty _ }, sound.rendering⟩, rfl⟩
  | clearRenderers =>
      intro s sound
      refine ⟨⟨sound.config, { sound.rendering with base := Memo.obeys_empty _ }⟩, ?_⟩
      intro s sound
      exact ⟨⟨sound.config, { sound.rendering with undefinedFunctions := Memo.obeys_empty _ }⟩, rfl⟩

/-- The same for a task that is known by its place among those that take turns. -/
theorem Task.assures_of_getElem? (alike : rule.AnswersAlike calm a) (tasks : List Task) {i : Nat}
    {r : Routine (RuleState ω ρ) (Option (Except CompileError LintResult))}
    (begun : (tasks.map (Task.routine rule))[i]? = some r) :
    r.Assures (rule.Sound calm a) fun result =>
      ∀ task, tasks[i]? = some task → result = task.outcome a rule.resolver.cwd := by
  rw [List.getElem?_map, Option.map_eq_some_iff] at begun
  obtain ⟨task, present, rfl⟩ := begun
  apply (task.assures alike).mono
  intro result due other there
  cases present.symm.trans there
  exact due

/-- Tasks one after the other. -/
def Task.runAll (rule : Rule ω ρ) :
    List Task → RuleState ω ρ → List (Option (Except CompileError LintResult)) × RuleState ω ρ
  | [], s => ([], s)
  | task :: rest, s =>
      let first := (task.routine rule).run s
      let others := runAll rule rest first.2
      (first.1 :: others.1, others.2)

/-- One after the other, tasks come to their outcomes too, by induction on the tasks. -/
theorem Task.runAll_eq (alike : rule.AnswersAlike calm a) (tasks : List Task) {s : RuleState ω ρ}
    (sound : rule.Sound calm a s) : (runAll rule tasks s).1 = tasks.map (outcome a rule.resolver.cwd) := by
  induction tasks generalizing s with
  | nil => rfl
  | cons task rest ih =>
      obtain ⟨result, still⟩ := (task.assures alike).run sound
      exact congrArg₂ List.cons result (ih still)

/-- The collaborators of a rule answer alike at each call. Then whatever tasks its callers have, and in
    whatever order they take their steps, what a task ends with is what it comes to alone, where nothing is
    remembered, and it ends if it gets enough turns. To go on from one suspension to the next is one way
    to take turns. So it is also with tasks one after the other. -/
theorem caches_unseen (rule : Rule ω ρ) (calm : ω → Prop) (a : Answers) (alike : rule.AnswersAlike calm a)
    (tasks : List Task) (env : ω) (quiet : calm env) :
    let routines := tasks.map (Task.routine rule)
    let alone := fun task : Task => ((task.routine rule).run (fresh env)).1
    (∀ task env', calm env' → ((Task.routine rule task).run (fresh env')).1 = alone task) ∧
    (∀ turns i task, tasks[i]? = some task →
      (∀ result, (Routine.interleave turns routines (fresh env)).1[i]? = some (.done result) → result = alone task) ∧
        ∃ n, (Routine.interleave (turns ++ List.replicate n i) routines (fresh env)).1[i]? =
          some (.done (alone task))) ∧
    (∀ order, ∃ turns, Routine.interleave turns routines (fresh env) = Routine.visits order routines (fresh env)) ∧
    (Task.runAll rule tasks (fresh env)).1 = tasks.map alone := by
  intro routines alone
  have sound : rule.Sound calm a (fresh env) := sound_fresh quiet
  have meaning : ∀ task env', calm env' →
      ((Task.routine rule task).run (fresh env')).1 = task.outcome a rule.resolver.cwd :=
    fun task env' quiet' => ((task.assures alike).run (sound_fresh quiet')).1
  have same : ∀ task, task.outcome a rule.resolver.cwd = alone task := fun task => (meaning task env quiet).symm
  have ends : ∀ turns (i : Nat) task result, tasks[i]? = some task →
      (Routine.interleave turns routines (fresh env)).1[i]? = some (.done result) → result = alone task := by
    intro turns i task result present ended
    have each := Routine.Assures.interleave turns (fun _ _ => Task.assures_of_getElem? alike tasks) sound
    exact (each.1 i _ ended task present).trans (same task)
  refine ⟨?_, ?_, ?_, ?_⟩
  · intro task env' quiet'
    rw [meaning task env' quiet', same]
  · intro turns i task present
    refine ⟨fun result => ends turns i task result present, ?_⟩
    have inside : i < (Routine.interleave turns routines (fresh env)).1.length := by
      rw [Routine.length_interleave, List.length_map]
      exact (List.getElem?_eq_some_iff.1 present).1
    obtain ⟨n, result, ended⟩ := Routine.exists_done (List.getElem?_eq_getElem inside)
      (Routine.interleave turns routines (fresh env)).2
    rw [← Routine.interleave_append] at ended
    rw [ends _ i task result present ended] at ended
    exact ⟨n, ended⟩
  · exact fun order => Routine.exists_turns_of_visits order routines (fresh env)
  · rw [Task.runAll_eq alike tasks sound]
    exact List.map_congr_left fun task _ => same task

/-- How a renderer behaves that fails after `n` suspensions, and not at all at once. -/
def failingAfter (n : Nat) : Conduct where
  concurrent _ := .error ⟨String.ofList (List.replicate n '.'), none, none⟩
  blocking _ := .ok []
  suspensions _ := some n

/-- A rule that counts all calls in its surroundings. The renderer for errors is suspended longer than the
    one for undefined functions. Modules provide how deep they lie, through a factory. -/
def counted : Rule Nat Nat where
  compiler := ⟨0⟩
  toolchain :=
    { build := fun _ calls => (2, calls + 1)
      buildUndefined := fun _ _ calls => (1, calls + 1)
      render := fun n options => (Routine.pauses (· + 1) n).bind fun _ => .done ((failingAfter n).concurrent options)
      renderBlocking := fun n options calls => ((failingAfter n).blocking options, calls + 1) }
  resolver :=
    { cwd := .ofString "/p"
      modules :=
        { packageRoot := fun _ calls => (none, calls + 1)
          resolveFrom := fun _ specifier calls => (.ok (.ofString specifier), calls + 1)
          load := fun path => (Routine.pauses (· + 1) 1).bind fun _ => .done (.ok (.factory fun calls =>
            (.ok (.obj [("depth", .num (.int path.components.length))]), calls + 1))) } }

def countedAnswers : Answers where
  packageRoot _ := none
  resolveFrom _ specifier := .ok (.ofString specifier)
  provided path := .ok (.obj [("depth", .num (.int path.components.length))])
  base := failingAfter 2
  undefinedFunctions _ := failingAfter 1

theorem counted_behaves (n : Nat) : counted.toolchain.Behaves (fun _ => True) n (failingAfter n) where
  concurrent _ := (Routine.Assures.pauses (fun _ _ => trivial) n).map fun _ _ => rfl
  blocking _ _ _ := ⟨rfl, trivial⟩
  suspensions same := by
    cases same
    exact (Routine.Takes.pauses n).map _

/-- Counting calls does not make the answers differ. -/
theorem counted_answersAlike : counted.AnswersAlike (fun _ => True) countedAnswers where
  modules :=
    { packageRoot := fun _ _ _ => ⟨rfl, trivial⟩
      resolveFrom := fun _ _ _ _ => ⟨rfl, trivial⟩
      load := fun _ => (Routine.Assures.pauses (fun _ _ => trivial) 1).map fun _ _ =>
        Routine.Assures.modifyGet fun _ _ => ⟨rfl, trivial⟩
      samePlace := fun same found => by
        cases found
        simp only [countedAnswers, same] }
  toolchain :=
    { build := fun _ _ => ⟨counted_behaves 2, trivial⟩
      buildUndefined := fun _ _ _ => ⟨counted_behaves 1, trivial⟩
      timed := fun _ _ _ => ⟨2, 1, rfl, rfl⟩ }

/-- A run of the counted rule on standard input, with the options of a module. -/
def sampleRun (specifier : String) : Task :=
  .lint (.obj [("sassOptions", .str specifier), ("checkUndefinedFunctions", .bool true)]) ⟨.stdin, "", default, none⟩

/-- Two runs that load the same place under different names while the tables are emptied: the second ends
    as it would alone, with the failure of the renderer that is suspended less often. -/
theorem caches_unseen_counted :
    let tasks := [sampleRun "/c", .clearConfig, sampleRun "/./c"]
    counted.AnswersAlike (fun _ => True) countedAnswers ∧
      (Task.runAll counted tasks (fresh 0)).1 = tasks.map (fun task => ((task.routine counted).run (fresh 0)).1) ∧
      ∃ n, (Routine.interleave ([0, 0, 0, 0, 2, 2, 2, 1, 0, 2, 0, 1] ++ List.replicate n 2)
        (tasks.map (Task.routine counted)) (fresh 0)).1[2]? = some (.done (some (.error ⟨".", none, none⟩))) := by
  intro tasks
  have unseen := caches_unseen counted (fun _ => True) countedAnswers counted_answersAlike tasks 0 trivial
  exact ⟨counted_answersAlike, unseen.2.2.2, (unseen.2.1 [0, 0, 0, 0, 2, 2, 2, 1, 0, 2, 0, 1] 2 _ rfl).2⟩

end Rule

end

end SassRenderLint
