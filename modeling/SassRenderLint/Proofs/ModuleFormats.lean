/-
Module: SassRenderLint.Proofs.ModuleFormats
Layer: Proofs
Purpose: Whether a config module that was found under an added extension can be loaded. Every such module is a path
  with an extension written after it, an index file too. The loader takes that extension for the format unless it
  starts a segment, and so for every specifier but the empty one and those that end in a slash. Under these, a file
  that is an extension alone is found and then refused.
Main exports: ModuleSystem.ProbedFor, ModuleSystem.Unsupported, ModuleSystem.unsupported_append_iff,
  ModuleSystem.unsupported_iff_extension_alone
-/
import SassRenderLint.Proofs.ModuleLookup

namespace SassRenderLint

namespace ModuleSystem

variable {files : FileAccess} {base requested stem path : Path} {specifier text extension : String}

/-! ### What is found -/

/-- A path is tried for an extension: as what was asked for, or as its index. -/
def ProbedFor (requested : Path) (extension : String) (path : Path) : Prop :=
  path = requested.append ("." ++ extension) ∨ path = requested.join (.ofString ("index." ++ extension))

/-- A module that is not the path as written was found by adding something to it. -/
theorem exists_probedFor (found : findModule files base specifier = .ok path)
    (other : path ≠ base.join (.ofString specifier)) :
    ∃ extension ∈ extensions, ProbedFor (base.join (.ofString specifier)) extension path := by
  obtain ⟨before, after, split, -, -⟩ := findModule_eq_ok_iff.1 found
  have among : path ∈ candidates (base.join (.ofString specifier)) := by
    rw [candidates_eq_probes, split]
    exact List.mem_append_right before List.mem_cons_self
  simp only [candidates, List.cons_append, List.mem_cons, List.mem_append, List.mem_map] at among
  rcases among with same | ⟨extension, known, written⟩ | ⟨extension, known, written⟩
  · exact absurd same other
  · exact ⟨extension, known, Or.inl written.symm⟩
  · exact ⟨extension, known, Or.inr written.symm⟩

/-- In either case the extension is written after a path. After the index it does not start a segment. -/
theorem ProbedFor.exists_stem (probed : ProbedFor requested extension path) :
    ∃ stem : Path, path = stem.append ("." ++ extension) ∧ (stem = requested ∨ ¬ stem.AwaitsSegment) := by
  rcases probed with written | written
  · exact ⟨requested, written, Or.inl rfl⟩
  · refine ⟨requested.join (.ofString "index"), ?_, Or.inr ?_⟩
    · rw [written, ← Path.join_append requested (by decide)]
      congr 1
      simp [Path.ofString, Path.append]
    · rw [Path.awaitsSegment_join]
      decide

/-! ### What is loaded -/

/-- The loader has no format for a path. -/
def Unsupported (files : FileAccess) (path : Path) : Prop :=
  ∃ named, loadFile files path = .error (.unsupportedFormat named)

/-- A readable file has no format exactly if it has none of the known extensions. -/
theorem unsupported_iff_hasExtension (readable : files.read path = .ok text) :
    Unsupported files path ↔ ∀ extension ∈ extensions, path.hasExtension extension = false := by
  have loaded : loadFile files path = parseFile path text := by rw [loadFile, readable]
  rw [Unsupported, loaded, parseFile]
  by_cases json : path.hasExtension "json" = true
  · rw [if_pos json]
    cases Json.read? text <;> simp [extensions, json]
  · by_cases toml : path.hasExtension "toml" = true
    · rw [if_neg json, if_pos toml]
      cases Toml.read? text <;> simp [extensions, toml]
    · rw [if_neg json, if_neg toml]
      simpa [extensions] using And.intro json toml

/-- What is written after a path is its extension, unless a segment starts there: then it is a name with a
    leading dot. -/
theorem extension?_append (stem : Path) (known : extension ∈ extensions) :
    (stem.append ("." ++ extension)).extension? =
      if stem.AwaitsSegment then none else some (extension.toList.map .char) := by
  have written : stem.append ("." ++ extension) = ⟨stem.glyphs ++ Path.dot :: extension.toList.map .char⟩ := by
    simp [Path.append, Path.dot]
  have plain : Path.slash ∉ extension.toList.map Glyph.char ∧ Path.dot ∉ extension.toList.map Glyph.char ∧
      extension.toList.map Glyph.char ≠ [] := by
    have either : extension = "json" ∨ extension = "toml" := by simpa [extensions] using known
    rcases either with rfl | rfl <;> decide
  rw [written]
  exact stem.extension?_append_dot plain.1 plain.2.1 plain.2.2

/-- After a whole segment, the added extension is the extension of the path. -/
theorem hasExtension_append (whole : ¬ stem.AwaitsSegment) (known : extension ∈ extensions) :
    (stem.append ("." ++ extension)).hasExtension extension = true := by
  rw [Path.hasExtension, extension?_append stem known, if_neg whole]
  exact decide_eq_true rfl

/-- A module with an extension written after a path is refused just if the extension starts a segment. -/
theorem unsupported_append_iff (known : extension ∈ extensions)
    (readable : files.read (stem.append ("." ++ extension)) = .ok text) :
    Unsupported files (stem.append ("." ++ extension)) ↔ stem.AwaitsSegment := by
  rw [unsupported_iff_hasExtension readable]
  constructor
  · intro refused
    by_cases awaits : stem.AwaitsSegment
    · exact awaits
    · have supported := hasExtension_append awaits known
      rw [refused extension known] at supported
      cases supported
  · intro awaits other _
    rw [Path.hasExtension, extension?_append stem known, if_pos awaits]
    rfl

/-! ### What is found and loaded -/

/-- Of the paths that are tried, only those have no format where the request ends in a slash or is empty. -/
theorem ProbedFor.unsupported_iff (probed : ProbedFor requested extension path) (known : extension ∈ extensions)
    (readable : files.read path = .ok text) :
    Unsupported files path ↔
      requested.AwaitsSegment ∧ ∃ extension ∈ extensions, path = requested.append ("." ++ extension) := by
  constructor
  · intro unsupported
    obtain ⟨stem, rfl, stands⟩ := probed.exists_stem
    have awaits := (unsupported_append_iff known readable).1 unsupported
    obtain rfl := stands.resolve_right (not_not_intro awaits)
    exact ⟨awaits, extension, known, rfl⟩
  · rintro ⟨awaits, other, alsoKnown, rfl⟩
    exact (unsupported_append_iff alsoKnown readable).2 awaits

/-- All others have the extension they were tried for. -/
theorem ProbedFor.hasExtension (probed : ProbedFor requested extension path) (known : extension ∈ extensions)
    (readable : files.read path = .ok text) (supported : ¬ Unsupported files path) :
    path.hasExtension extension = true := by
  obtain ⟨stem, rfl, -⟩ := probed.exists_stem
  exact hasExtension_append (mt (unsupported_append_iff known readable).2 supported) known

/-- Which requests these are can be read off the text. -/
theorem awaitsSegment_ofString (specifier : String) :
    (Path.ofString specifier).AwaitsSegment ↔ specifier = "" ∨ specifier.toList.getLast? = some '/' := by
  simp [Path.AwaitsSegment, Path.ofString, Path.slash, List.getLast?_map]

/-- Of the modules that are found under an added extension, the loader refuses those that are an extension alone:
    those of an empty specifier or one that ends in a slash, unless they are its index. All others it reads in the
    format for which they were tried. -/
theorem unsupported_iff_extension_alone (found : findModule files base specifier = .ok path)
    (other : path ≠ base.join (.ofString specifier)) (readable : files.read path = .ok text) :
    (Unsupported files path ↔
      (specifier = "" ∨ specifier.toList.getLast? = some '/') ∧
        ∃ extension ∈ extensions, path = (base.join (.ofString specifier)).append ("." ++ extension)) ∧
    (¬ Unsupported files path →
      ∃ extension ∈ extensions, ProbedFor (base.join (.ofString specifier)) extension path ∧
        path.hasExtension extension = true) := by
  obtain ⟨extension, known, probed⟩ := exists_probedFor found other
  constructor
  · rw [probed.unsupported_iff known readable, Path.awaitsSegment_join, awaitsSegment_ofString]
  · intro supported
    exact ⟨extension, known, probed, probed.hasExtension known readable supported⟩

/-- Files with one text at some paths. -/
def filesAt (paths : List String) : FileAccess where
  isFile path := path ∈ paths.map Path.ofString
  read _ := .ok "\x7b\"a\": 1\x7d"

/-- Dots and slashes inside a specifier do no harm. -/
theorem unsupported_iff_extension_alone_dots :
    let files := filesAt ["/p/conf/...json"]
    let found := Path.ofString "/p/conf/...json"
    findModule files (.ofString "/p") "conf/.." = .ok found ∧ found ≠ (Path.ofString "/p").join (.ofString "conf/..") ∧
      ¬ Unsupported files found := by
  intro files found
  have located : findModule files (.ofString "/p") "conf/.." = .ok found := by rfl
  have other : found ≠ (Path.ofString "/p").join (.ofString "conf/..") := by decide
  refine ⟨located, other, fun unsupported => ?_⟩
  obtain ⟨bare, -⟩ := (unsupported_iff_extension_alone located other rfl).1.1 unsupported
  revert bare
  decide

/-- A directory that is written with its slash hides its index behind a file that is then refused. -/
theorem extension_alone_unsupported :
    let files := filesAt ["/p/config/.json", "/p/config/index.json"]
    let found := Path.ofString "/p/config/.json"
    findModule files (.ofString "/p") "config/" = .ok found ∧
      found ≠ (Path.ofString "/p").join (.ofString "config/") ∧ (∃ text, files.read found = .ok text) ∧
      loadFile files found = .error (.unsupportedFormat found) :=
  ⟨rfl, by decide, ⟨_, rfl⟩, rfl⟩

end ModuleSystem

end SassRenderLint
