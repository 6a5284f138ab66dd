/-
Module: SassRenderLint.Proofs.AddressingMode
Layer: Proofs
Purpose: The compiler is told in exactly one way what to compile. Whatever the base options have under the
  keys of the addressing, the options handed over have a file or a text there and never both, and under all
  other keys but one what the base options have. So they can stand in for the base options: addressed anew,
  they give what the base options give.
Main exports: CompilerOptions.get?_toFields, CompilerOptions.get?_toFields_readdressed,
  CompilerOptions.toFields_readdressed, Resolver.run_resolve, Resolver.resolve_addresses_once
-/
import SassRenderLint.Config.Resolver
import SassRenderLint.Proofs.FieldMaps
import SassRenderLint.Proofs.RoutineLaws

namespace SassRenderLint

namespace CompilerOptions

/-! ### The options handed over -/

/-- What is found in the options handed over: the addressing, quiet dependencies, and the base options. -/
theorem get?_toFields (o : CompilerOptions) (key : String) :
    o.toFields.get? key =
      if key = "file" then o.file?.map fun path => .str path.shown
      else if key = "data" then o.content?.map .str
      else if key = "quietDeps" then some (.bool true)
      else o.base.get? key := by
  obtain ⟨base, input⟩ := o
  cases input with
  | file path =>
      simp only [toFields, unaddressed, quietDeps, file?, content?, Fields.get?_insert, Fields.get?_erase]
      by_cases isData : key = "data"
      · simp [isData]
      · by_cases isFile : key = "file" <;> simp [isData, isFile]
  | content text =>
      simp only [toFields, unaddressed, quietDeps, file?, content?, Fields.get?_insert, Fields.get?_erase]
      by_cases isFile : key = "file"
      · simp [isFile]
      · by_cases isData : key = "data" <;> simp [isData, isFile]

/-- The merged options are in key order again, so what is under a key is found by it alone. -/
theorem sorted_toFields {o : CompilerOptions} (sorted : o.base.Sorted) : o.toFields.Sorted := by
  have quiet := ((sorted.erase "file").erase "data").insert "quietDeps" (.bool o.quietDeps)
  rw [toFields]
  split
  · exact quiet.insert "file" _
  · exact quiet.insert "data" _

/-! ### Addressing anew -/

/-- Options handed over, addressed anew, have what the base options have that are addressed so. -/
theorem get?_toFields_readdressed (o : CompilerOptions) (input : CompileInput) (key : String) :
    (mk o.toFields input).toFields.get? key = (mk o.base input).toFields.get? key := by
  rw [get?_toFields, get?_toFields, get?_toFields]
  by_cases isFile : key = "file"
  · simp [isFile, file?]
  by_cases isData : key = "data"
  · simp [isData, content?]
  by_cases isQuiet : key = "quietDeps"
  · simp [isQuiet]
  · simp [isFile, isData, isQuiet]

/-- Merged options that are taken as base options once more leave no trace of the first addressing. -/
theorem toFields_readdressed {o : CompilerOptions} (sorted : o.base.Sorted) (input : CompileInput) :
    (mk o.toFields input).toFields = (mk o.base input).toFields := by
  have merged : (mk o.toFields input).toFields.Sorted := sorted_toFields (sorted_toFields sorted)
  have fresh : (mk o.base input).toFields.Sorted := sorted_toFields sorted
  exact merged.eq_of_get? fresh (get?_toFields_readdressed o input)

end CompilerOptions

/-! ### Targets -/

/-- Diagnostics are attributed to the target's own name, except for text from standard input, which has no path.
    -/
theorem Target.attributed_iff (target : Target) :
    target.path?.map Path.shown = some target.identifier ↔ target ≠ .stdin := by
  cases target <;> simp [path?, identifier]

namespace Resolver

/-- A style file is compiled itself, and of anything else the text. -/
theorem inputFor_cases (target : Target) (content : String) :
    (∃ path, target = .path path ∧ target.isStyleFile = true ∧ inputFor target content = .file path) ∨
      target.isStyleFile = false ∧ inputFor target content = .content content := by
  cases target with
  | stdin => exact Or.inr ⟨rfl, rfl⟩
  | path p =>
      rw [inputFor]
      split
      · rename_i style
        exact Or.inl ⟨p, rfl, style, rfl⟩
      · rename_i other
        exact Or.inr ⟨Bool.eq_false_iff.2 other, rfl⟩

/-- The addressing of a target: its name or its content, and not the other. -/
theorem get?_toFields_inputFor (target : Target) (content : String) (base : Fields) :
    (CompilerOptions.mk base (inputFor target content)).toFields.get? "file" =
        (if target.isStyleFile then some (.str target.identifier) else none) ∧
      (CompilerOptions.mk base (inputFor target content)).toFields.get? "data" =
        (if target.isStyleFile then none else some (.str content)) := by
  rw [CompilerOptions.get?_toFields, CompilerOptions.get?_toFields]
  rcases inputFor_cases target content with ⟨path, rfl, style, input⟩ | ⟨other, input⟩
  · simp [style, input, CompilerOptions.file?, CompilerOptions.content?, Target.identifier]
  · simp [other, input, CompilerOptions.file?, CompilerOptions.content?]

variable {ω : Type}

/-- Options resolve if their base does, and ask for nothing more. -/
theorem run_resolve {r : Resolver ω} {config : CompilerConfig} {s t : ConfigState ω} {base : Fields}
    (resolves : (r.baseOptions config).run s = (.ok base, t)) (target : Target) (content : String) :
    (r.resolve target content config).run s =
      (.ok ⟨⟨base, inputFor target content⟩, target.path?.map Path.shown⟩, t) := by
  rw [resolve, Routine.run_bind, resolves]
  rfl

/-- Whenever the base options resolve, so do the compiler's options, and they address exactly one input. They
    keep dependencies quiet; a style file is addressed by its name and has no text; of any other target the
    content is the text, as it is, and there is no file; under every other key they have what the base options
    have. What is compiled belongs to the target's name exactly if the target is not standard input, and to no
    file otherwise. Addressed anew in any way, the options handed over answer as the base options addressed that
    way, and are the same value if the base options are in key order, which they keep. -/
theorem resolve_addresses_once (r : Resolver ω) (target : Target) (content : String) (config : CompilerConfig)
    (s t : ConfigState ω) (base : Fields) (resolves : (r.baseOptions config).run s = (.ok base, t)) :
    ∃ resolved : ResolvedOptions, (r.resolve target content config).run s = (.ok resolved, t) ∧
      resolved.options.toFields.get? "quietDeps" = some (.bool true) ∧
      resolved.options.toFields.get? "file" =
        (if target.isStyleFile then some (.str target.identifier) else none) ∧
      resolved.options.toFields.get? "data" = (if target.isStyleFile then none else some (.str content)) ∧
      (∀ key, key ≠ "quietDeps" → key ≠ "file" → key ≠ "data" →
        resolved.options.toFields.get? key = base.get? key) ∧
      (resolved.attributedFile = some target.identifier ↔ target ≠ .stdin) ∧
      (resolved.attributedFile = none ↔ target = .stdin) ∧
      (∀ input key, (CompilerOptions.mk resolved.options.toFields input).toFields.get? key =
        (CompilerOptions.mk base input).toFields.get? key) ∧
      (base.Sorted → resolved.options.toFields.Sorted ∧
        ∀ input, (CompilerOptions.mk resolved.options.toFields input).toJson =
          (CompilerOptions.mk base input).toJson) := by
  obtain ⟨file, data⟩ := get?_toFields_inputFor target content base
  refine ⟨_, run_resolve resolves target content, ?_, file, data, ?_, Target.attributed_iff target, ?_, ?_, ?_⟩
  · simp [CompilerOptions.get?_toFields]
  · intro key notQuiet notFile notData
    simp [CompilerOptions.get?_toFields, notQuiet, notFile, notData]
  · cases target <;> simp [Target.path?]
  · exact CompilerOptions.get?_toFields_readdressed ⟨base, inputFor target content⟩
  · intro sorted
    constructor
    · exact CompilerOptions.sorted_toFields sorted
    · intro input
      rw [CompilerOptions.toJson, CompilerOptions.toFields_readdressed sorted]
      rfl

/-- A resolver with one module, whose options have an addressing of their own and do not keep quiet. -/
def misaddressed : Resolver Unit where
  cwd := .ofString "/p"
  modules :=
    { packageRoot := fun _ env => (none, env)
      resolveFrom := fun _ specifier env => (.ok (.ofString specifier), env)
      load := fun _ => .done (.ok (.inline (.obj
        [("data", .str "a"), ("file", .str "b"), ("quietDeps", .bool false), ("style", .str "compressed")]))) }

/-- The options of the module, for a style file and then addressed anew for a text. -/
theorem resolve_addresses_once_misaddressed :
    ∃ resolved t, (misaddressed.resolve (.path (.ofString "c.scss")) "d" (.fromModule "/m")).run ⟨(), .empty⟩ =
        (.ok resolved, t) ∧
      resolved.options.toFields.get? "file" = some (.str "c.scss") ∧
      resolved.options.toFields.get? "data" = none ∧
      resolved.options.toFields.get? "style" = some (.str "compressed") ∧
      (CompilerOptions.mk resolved.options.toFields (.content "e")).toJson =
        .obj [("data", .str "e"), ("quietDeps", .bool true), ("style", .str "compressed")] := by
  obtain ⟨resolved, resolves, -, file, data, others, -, -, -, inKeyOrder⟩ :=
    resolve_addresses_once misaddressed (.path (.ofString "c.scss")) "d" (.fromModule "/m") ⟨(), .empty⟩ _
      [("data", .str "a"), ("file", .str "b"), ("quietDeps", .bool false), ("style", .str "compressed")] rfl
  refine ⟨resolved, _, resolves, file, data, others "style" (by simp) (by simp) (by simp), ?_⟩
  rw [(inKeyOrder (by decide)).2]
  rfl

end Resolver

end SassRenderLint
