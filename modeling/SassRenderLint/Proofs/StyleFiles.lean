/-
Module: SassRenderLint.Proofs.StyleFiles
Layer: Proofs
Purpose: Which identifiers name style files, told by their text alone. Slashes and `/.` segments at the end add no
  component, so the file name is the segment before them, if that is a name at all. An extension is split off at the
  last dot of it, and only where something stands before that dot. Since the extension is one of the last component,
  identifiers of the same place are classified alike.
Main exports: Target.dropTrailers, Target.lastSegment, Path.fileName?_append_slash, Path.fileName?_of_reverse,
  Path.extensionOf?_eq_some_iff, Target.isStyleFile_iff_lastSegment
-/
import Mathlib.Data.List.TakeWhile
import SassRenderLint.Proofs.PathParts
import SassRenderLint.Rule.Target

namespace SassRenderLint

namespace Target

/-- Reversed text without the slashes and `/.` segments that come first in it. -/
def dropTrailers : List Char → List Char
  | '/' :: rest => dropTrailers rest
  | '.' :: '/' :: rest => dropTrailers rest
  | cs => cs

/-- The last segment of a text, when slashes and `/.` segments at its end are dropped. -/
def lastSegment (text : String) : List Char :=
  ((dropTrailers text.toList.reverse).takeWhile (· ≠ '/')).reverse

end Target

namespace Path

/-! ### What adds no component -/

/-- A slash after a path is no component. -/
theorem components_concat_slash {gs : List Glyph} (something : gs ≠ []) :
    components ⟨gs ++ [slash]⟩ = components ⟨gs⟩ := by
  have same : (Path.mk (gs ++ [slash])).isAbsolute = (Path.mk gs).isAbsolute := by
    obtain ⟨g, rest, rfl⟩ := List.exists_cons_of_ne_nil something
    rfl
  have adds (earlier : List (List Glyph)) :
      (earlier ++ segments []).filterMap component? = earlier.filterMap component? := by
    have nothing : (segments []).filterMap component? = [] := rfl
    rw [List.filterMap_append, nothing, List.append_nil]
  rw [components, components, same, segments_append_slash, adds]
  cases parts : segments gs with
  | nil => exact absurd parts (segments_ne_nil gs)
  | cons first more =>
      have all := adds (first :: more)
      rw [List.cons_append] at all
      simp only [List.cons_append, all, adds]

/-- What is written after a slash and has no component leaves the file name as it is. -/
theorem fileName?_append_slash (gs more : List Glyph) (nothing : inner more = []) :
    fileName? ⟨gs ++ slash :: more⟩ = fileName? ⟨gs⟩ := by
  rw [fileName?, components_append_slash, nothing, List.append_nil]
  by_cases empty : gs = []
  · subst empty
    rfl
  · rw [components_concat_slash empty]
    rfl

/-! ### File names -/

/-- A segment, if it is a name. -/
def name? (segment : List Glyph) : Option (List Glyph) :=
  if component? segment = some (.name segment) then some segment else none

/-- The last segment is the file name if it is a name. If it is no component at all, nothing may stand before it. -/
theorem AwaitsSegment.fileName?_append_eq {before segment : List Glyph} (awaits : AwaitsSegment ⟨before⟩)
    (whole : slash ∉ segment) (stands : counts segment = true ∨ before = []) :
    fileName? ⟨before ++ segment⟩ = name? segment := by
  by_cases named : component? segment = some (.name segment)
  · rw [awaits.fileName?_append whole named, name?, if_pos named]
  · rw [name?, if_neg named]
    by_cases up : segment = [dot, dot]
    · subst up
      obtain ⟨earlier, split⟩ := awaits.exists_components_append whole rfl
      rw [fileName?, split, List.getLast?_concat]
    · have uncounted : ¬ counts segment = true := by
        rw [counts_iff]
        rintro ⟨something, notDot⟩
        exact named ((component?_eq_name_iff segment).2 ⟨something, notDot, up⟩)
      have improper : segment = [] ∨ segment = [dot] := by
        by_cases something : segment = []
        · exact Or.inl something
        · exact Or.inr (Classical.byContradiction fun notDot => uncounted ((counts_iff segment).2 ⟨something, notDot⟩))
      rw [stands.resolve_left uncounted]
      rcases improper with rfl | rfl <;> rfl

/-- The file name of a text that is given in reverse. -/
theorem fileName?_of_reverse (reversed : List Char) :
    fileName? ⟨reversed.reverse.map .char⟩ =
      name? (((Target.dropTrailers reversed).takeWhile (· ≠ '/')).reverse.map .char) := by
  fun_induction Target.dropTrailers reversed with
  | case1 rest ih =>
      rw [← ih, ← fileName?_append_slash (rest.reverse.map .char) [] rfl]
      simp [slash]
  | case2 rest ih =>
      rw [← ih, ← fileName?_append_slash (rest.reverse.map .char) [dot] rfl]
      simp [slash, dot]
  | case3 reversed noSlash noDot =>
      have passes {segment : List Char} (whole : '/' ∉ segment) : ∀ c ∈ segment, decide (c ≠ '/') = true := by
        intro c member
        exact decide_eq_true fun same => whole (same ▸ member)
      by_cases inside : '/' ∈ reversed
      · obtain ⟨segment, before, rfl, whole⟩ := List.eq_append_cons_of_mem inside
        have last : (segment ++ '/' :: before).takeWhile (· ≠ '/') = segment := by
          rw [List.takeWhile_append_of_pos (passes whole)]
          simp
        have counted : counts (segment.reverse.map .char) = true := by
          rw [List.map_reverse, counts_reverse, counts_iff]
          constructor
          · intro empty
            exact noSlash before (by simpa using empty)
          · intro single
            obtain rfl : segment = ['.'] := by simpa [dot] using single
            exact noDot before rfl
        have awaits : AwaitsSegment ⟨before.reverse.map .char ++ [slash]⟩ := Or.inr List.getLast?_concat
        rw [last, ← awaits.fileName?_append_eq (by simpa [slash] using whole) (Or.inl counted)]
        simp [slash]
      · have awaits : AwaitsSegment ⟨[]⟩ := Or.inl rfl
        rw [List.takeWhile_eq_self_iff.2 (passes inside)]
        exact awaits.fileName?_append_eq (by simpa [slash] using inside) (Or.inr rfl)

/-! ### Extensions -/

/-- A name has an extension just if the extension stands after something and a dot. -/
theorem extensionOf?_eq_some_iff {name extension : List Glyph} (plain : dot ∉ extension) :
    extensionOf? name = some extension ↔ ∃ stem, stem ≠ [] ∧ name = stem ++ dot :: extension := by
  constructor
  · intro found
    rcases exists_last dot name with absent | ⟨stem, after, rfl, last⟩
    · rw [extensionOf?, List.dropWhile_eq_nil_iff.2 (passes_of_notMem absent)] at found
      cases found
    · rw [extensionOf?_append stem last] at found
      split at found
      · cases found
      · rename_i something
        cases found
        exact ⟨stem, something, rfl⟩
  · rintro ⟨stem, something, rfl⟩
    rw [extensionOf?_append stem plain, if_neg something]

/-- A path has an extension just if its last segment is something, a dot and the extension. -/
theorem extension?_ofString_eq_some_iff (text : String) {extension : List Char} (plain : '.' ∉ extension)
    (something : extension ≠ []) :
    (ofString text).extension? = some (extension.map .char) ↔
      ∃ stem, stem ≠ [] ∧ Target.lastSegment text = stem ++ '.' :: extension := by
  have plainGlyphs : dot ∉ extension.map Glyph.char := by simpa [dot] using plain
  have named := fileName?_of_reverse text.toList.reverse
  rw [List.reverse_reverse] at named
  rw [extension?, ofString, named, Target.lastSegment, name?]
  generalize ((Target.dropTrailers text.toList.reverse).takeWhile (· ≠ '/')).reverse = segment
  constructor
  · intro found
    split at found
    · obtain ⟨stem, before, split⟩ := (extensionOf?_eq_some_iff plainGlyphs).1 found
      obtain ⟨front, back, rfl, rfl, same⟩ := List.map_eq_append_iff.1 split
      have back : back = '.' :: extension := by
        rw [dot, ← List.map_cons] at same
        exact (List.map_inj_right fun _ _ => Glyph.char.inj).1 same
      exact ⟨front, by simpa using before, by rw [back]⟩
    · cases found
  · rintro ⟨stem, before, rfl⟩
    have written : (stem ++ '.' :: extension).map Glyph.char = stem.map .char ++ dot :: extension.map .char := by
      simp [dot]
    rw [written, if_pos (component?_append_dot _ plainGlyphs (by simpa using something))]
    exact (extensionOf?_eq_some_iff plainGlyphs).2 ⟨_, by simpa using before, rfl⟩

end Path

namespace Target

/-! ### Style files -/

/-- A style extension is a dot and something without one. -/
theorem styleExtension_cases {extension : String} (known : extension ∈ styleExtensions) :
    extension.toList = '.' :: extension.toList.drop 1 ∧ '.' ∉ extension.toList.drop 1 ∧
      extension.toList.drop 1 ≠ [] := by
  simp only [styleExtensions, List.mem_cons, List.not_mem_nil, or_false] at known
  rcases known with rfl | rfl | rfl <;> decide

/-- A path has the extension of style files when its last segment ends in one and has something before it. -/
theorem hasStyleExtension_iff (text : String) :
    hasStyleExtension (.ofString text) = true ↔
      ∃ extension ∈ styleExtensions, ∃ stem, stem ≠ [] ∧ lastSegment text = stem ++ extension.toList := by
  rw [hasStyleExtension, List.any_eq_true]
  apply exists_congr
  intro extension
  apply and_congr_right
  intro known
  obtain ⟨dotted, plain, something⟩ := styleExtension_cases known
  rw [Path.hasExtension, decide_eq_true_iff, String.toList_ofList,
    Path.extension?_ofString_eq_some_iff text plain something, ← dotted]

/-- Targets that are the same are both style files or neither is. -/
theorem isStyleFile_of_same {first second : Target} (same : first.same second = true) :
    first.isStyleFile = second.isStyleFile := by
  cases first with
  | stdin =>
      cases second with
      | stdin => rfl
      | path q => cases same
  | path p =>
      cases second with
      | stdin => cases same
      | path q =>
          have places : p.components = q.components := of_decide_eq_true same
          have extensions : p.extension? = q.extension? := by
            rw [Path.extension?, Path.extension?, Path.fileName?, Path.fileName?, places]
          simp only [isStyleFile, hasStyleExtension, Path.hasExtension, extensions]

/-- An identifier names a style file if it is neither empty nor the name of standard input and its last segment is
    something followed by a style extension, where slashes and `/.` segments at the end are dropped first.
    Identifiers of the same target are classified alike. -/
theorem isStyleFile_iff_lastSegment (identifier : String) :
    ((parse identifier).isStyleFile = true ↔
      identifier ≠ "" ∧ identifier ≠ "stdin" ∧
        ∃ extension ∈ [".scss", ".sass", ".css"], ∃ stem, stem ≠ [] ∧
          lastSegment identifier = stem ++ extension.toList) ∧
    ∀ other, (parse identifier).same (parse other) = true →
      (parse identifier).isStyleFile = (parse other).isStyleFile := by
  refine ⟨?_, fun other => isStyleFile_of_same⟩
  rw [parse]
  by_cases standard : identifier = "" ∨ identifier = stdinName
  · rw [if_pos standard]
    refine iff_of_false Bool.false_ne_true ?_
    rintro ⟨something, other, -⟩
    exact standard.elim something other
  · obtain ⟨something, other⟩ := not_or.1 standard
    rw [if_neg standard, isStyleFile, hasStyleExtension_iff]
    constructor
    · intro styled
      exact ⟨something, other, styled⟩
    · rintro ⟨-, -, styled⟩
      exact styled

/-- A name with several dots, behind which slashes and a `.` segment are written. -/
theorem isStyleFile_iff_lastSegment_trailers :
    lastSegment "src//..theme.v2.sass/.//" = "..theme.v2".toList ++ ".sass".toList ∧
      (parse "src//..theme.v2.sass/.//").isStyleFile = true ∧
      (parse "src//..theme.v2.sass/.//").same (parse "src/./..theme.v2.sass") = true ∧
      (parse "src/./..theme.v2.sass").isStyleFile = true := by
  have segment : lastSegment "src//..theme.v2.sass/.//" = "..theme.v2".toList ++ ".sass".toList := by decide
  have same : (parse "src//..theme.v2.sass/.//").same (parse "src/./..theme.v2.sass") = true := by decide
  obtain ⟨classified, alike⟩ := isStyleFile_iff_lastSegment "src//..theme.v2.sass/.//"
  have styled := classified.2 ⟨by decide, by decide, ".sass", by decide, _, by decide, segment⟩
  exact ⟨segment, styled, same, (alike _ same).symm.trans styled⟩

end Target

end SassRenderLint
