/-
Module: SassRenderLint.Proofs.RendererTiming
Layer: Proofs
Purpose: What the timing of renderers has to do with answering alike. A renderer that does not look at its
  surroundings is always suspended equally often, so renderers of this kind that are built alike also answer
  alike. Without anything said of timing, a run still comes to what can be said without tables, unless
  both renderers fail in rounds; then it fails with the error of one of them.
Main exports: Routine.Blind, Routine.Blind.exists_takes, Toolchain.BuildsAlike.exists_answersAlike,
  Rule.assures_run_untimed
-/
import SassRenderLint.Proofs.UnseenCaches

namespace SassRenderLint

namespace Routine

variable {σ α : Type}

/-- The routine may change the state, but what it does next never depends on it. -/
def Blind : Routine σ α → Prop
  | .done _ => True
  | .act _ next => (∀ s t, next s = next t) ∧ ∀ s, (next s).Blind
  | .pause next => next.Blind

/-- A routine that does not look at the state is always suspended equally often. -/
theorem Blind.exists_takes {r : Routine σ α} (blind : r.Blind) (inv : σ → Prop) : ∃ n, r.Takes inv n := by
  induction r with
  | done a => exact ⟨0, rfl⟩
  | act write next ih =>
      obtain ⟨same, rest⟩ := blind
      by_cases reachable : ∃ s, inv s
      · obtain ⟨s, _⟩ := reachable
        obtain ⟨n, takes⟩ := ih s (rest s)
        exact ⟨n, fun t _ => same s t ▸ takes⟩
      · exact ⟨0, fun t sound => absurd ⟨t, sound⟩ reachable⟩
  | pause next ih =>
      obtain ⟨n, takes⟩ := ih blind
      exact ⟨n + 1, n, rfl, takes⟩

end Routine

section

variable {ω ρ : Type} {calm : ω → Prop} {a : Answers}

/-- The same conduct, with the number of suspensions known. -/
def Conduct.timed (c : Conduct) (suspensions : CompilerOptions → Nat) : Conduct :=
  { c with suspensions := fun options => some (suspensions options) }

/-- A renderer that does not look at its surroundings can be timed. -/
theorem Toolchain.Behaves.exists_timed {t : Toolchain ω ρ} {renderer : ρ} {c : Conduct}
    (behaves : t.Behaves calm renderer c) (blind : ∀ options, (t.render renderer options).Blind) :
    ∃ suspensions, t.Behaves calm renderer (c.timed suspensions) := by
  choose suspensions takes using fun options => (blind options).exists_takes calm
  refine ⟨suspensions, behaves.concurrent, behaves.blocking, ?_⟩
  intro options n count
  obtain rfl := Option.some.inj count
  exact takes options

/-- Renderers that do not look at their surroundings, and are the same whenever they are built, answer alike. -/
theorem Toolchain.BuildsAlike.exists_answersAlike {t : Toolchain ω ρ} {compiler : Compiler} {base : ρ}
    {undefinedFunctions : UndefinedFunctionsOptions → ρ} (alike : t.BuildsAlike compiler calm a) {start : ω}
    (quiet : calm start) (built : ∀ env, calm env → (t.build compiler env).1 = base)
    (builtToo : ∀ functions env, calm env → (t.buildUndefined compiler functions env).1 = undefinedFunctions functions)
    (blind : ∀ renderer options, (t.render renderer options).Blind) :
    ∃ (first : CompilerOptions → Nat) (second : UndefinedFunctionsOptions → CompilerOptions → Nat),
      t.AnswersAlike compiler calm { a with
        base := a.base.timed first
        undefinedFunctions := fun functions => (a.undefinedFunctions functions).timed (second functions) } := by
  have behaves : t.Behaves calm base a.base := built start quiet ▸ (alike.build start quiet).1
  have behavesToo (functions : UndefinedFunctionsOptions) :
      t.Behaves calm (undefinedFunctions functions) (a.undefinedFunctions functions) :=
    builtToo functions start quiet ▸ (alike.buildUndefined functions start quiet).1
  obtain ⟨first, timed⟩ := behaves.exists_timed (blind base)
  choose second timedToo using fun functions => (behavesToo functions).exists_timed (blind _)
  refine ⟨first, second, ⟨?_, ?_⟩, fun {functions options} _ _ _ _ _ => ⟨_, _, rfl, rfl⟩⟩
  · intro env calmly
    exact ⟨built env calmly ▸ timed, (alike.build env calmly).2⟩
  · intro functions env calmly
    exact ⟨builtToo functions env calmly ▸ timedToo functions, (alike.buildUndefined functions env calmly).2⟩

/-- However often its renderers are suspended, a run comes to what can be said without tables, or both of them
    fail and it fails with the error of one of them. -/
theorem Rule.assures_run_untimed {rule : Rule ω ρ} (modules : rule.resolver.modules.AnswersAlike calm a)
    (alike : rule.toolchain.BuildsAlike rule.compiler calm a) (given : Json) (host : Host) :
    (rule.run given host).Assures (rule.Sound calm a) fun result =>
      result = a.linted rule.resolver.cwd given host ∨
        ∃ options fields e, RuleOptions.parse given = .ok (some options) ∧
          a.baseOptions rule.resolver.cwd options.sassOptions = .ok fields ∧
          a.EitherFails options.undefinedFunctions ⟨fields, Resolver.inputFor host.target host.content⟩
            options.renderMode e ∧
          result = .error e := by
  have renders (options : RuleOptions) (resolved : ResolvedOptions) :=
    assures_render alike options resolved fun _ behave =>
      Toolchain.assures_renderAll_untimed behave resolved.options options.renderMode
  apply (assures_run_of_renders (fun options compiling result =>
    result = a.rendered options.undefinedFunctions compiling options.renderMode ∨
      ∃ e, a.EitherFails options.undefinedFunctions compiling options.renderMode e ∧ result = .error e)
    modules renders given host).mono
  rintro _ ⟨said, may, rfl⟩
  rw [Answers.MaySay] at may
  rw [Answers.linted, Answers.said]
  split at may
  · exact .inl (may ▸ rfl)
  · exact .inl (may ▸ rfl)
  · rename_i options accepted
    rw [Answers.checked]
    split at may
    · exact .inl (may ▸ rfl)
    · rename_i fields found
      obtain ⟨_, rfl | ⟨e, either, rfl⟩, rfl⟩ := may
      · exact .inl rfl
      · exact .inr ⟨options, fields, e, accepted, found, either, rfl⟩

end

end SassRenderLint
