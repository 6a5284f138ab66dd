/-
Module: SassRenderLint.Proofs.PathParts
Layer: Proofs
Purpose: What the written form of a path says about its components. A path is a front, which stands for the
  root, for a leading `.` or for nothing, and segments after it. Cutting it before a slash keeps the front
  and the first components. So the parent of a path lacks just its last component, and going up from
  parent to parent ends at the root or at the empty path. A name that is written last is the file name, and
  an extension that is written after it is the extension.
Main exports: Path.segments_append_slash, Path.inner, Path.exists_trimEnd, Path.Front, Path.parent?_cases,
  Path.above?, Path.components_above?, Path.getElem?_ancestors, Path.AwaitsSegment, Path.awaitsSegment_join,
  Path.AwaitsSegment.fileName?_append, Path.extension?_append_dot, Path.join_append
-/
import SassRenderLint.Path.Basic

namespace SassRenderLint

namespace Path

/-! ### Segments -/

/-- The segments of a path are what splitting at slashes gives. -/
theorem segments_eq_splitOn (gs : List Glyph) : segments gs = gs.splitOn slash := by
  induction gs with
  | nil => rfl
  | cons g rest ih =>
      rw [segments, List.splitOn_cons_eq_if_modifyHead, ih]
      by_cases sep : g = slash
      · simp [sep]
      · have first := List.splitOn_ne_nil slash rest
        cases parts : rest.splitOn slash with
        | nil => exact absurd parts first
        | cons part more => simp [sep]

/-- A slash cuts the segments in two. -/
theorem segments_append_slash (xs ys : List Glyph) : segments (xs ++ slash :: ys) = segments xs ++ segments ys := by
  simp only [segments_eq_splitOn, List.splitOn_append_cons_self]

/-- Without a slash there is one segment. -/
theorem segments_of_notMem {gs : List Glyph} (whole : slash ∉ gs) : segments gs = [gs] := by
  rw [segments_eq_splitOn, List.splitOn_eq_singleton whole]

/-- Glyphs are cut at the last place of one that is among them. -/
theorem exists_last (stop : Glyph) (gs : List Glyph) :
    stop ∉ gs ∨ ∃ before after, gs = before ++ stop :: after ∧ stop ∉ after := by
  by_cases inside : stop ∈ gs
  · obtain ⟨after, before, split, whole⟩ := List.eq_append_cons_of_mem (List.mem_reverse.2 inside)
    refine Or.inr ⟨before.reverse, after.reverse, ?_, by simpa using whole⟩
    rw [← List.reverse_reverse gs, split]
    simp
  · exact Or.inl inside

/-- The components of glyphs that follow the front of a path. -/
def inner (gs : List Glyph) : List Component := (segments gs).filterMap component?

/-- A slash cuts the components in two as well, since each segment gives its own. -/
theorem inner_append_slash (xs ys : List Glyph) : inner (xs ++ slash :: ys) = inner xs ++ inner ys := by
  rw [inner, segments_append_slash, List.filterMap_append]
  rfl

/-- Without a slash there is at most one component. -/
theorem inner_of_notMem {gs : List Glyph} (whole : slash ∉ gs) : inner gs = (component? gs).toList := by
  rw [inner, segments_of_notMem whole]
  cases h : component? gs <;> simp [h]

/-- Empty segments and `.` do not count. -/
theorem counts_iff (segment : List Glyph) : counts segment = true ↔ segment ≠ [] ∧ segment ≠ [dot] := by
  rw [counts, component?, ← not_or]
  split
  · rename_i nothing
    simp [nothing]
  · rename_i something
    split <;> simp [something]

/-- Whether a segment counts can be seen from either end, as the code does that reads backwards. -/
theorem counts_reverse (segment : List Glyph) : counts segment.reverse = counts segment := by
  rw [Bool.eq_iff_iff, counts_iff, counts_iff]
  simp [List.reverse_eq_iff]

/-- A scan from the end for a glyph goes on through glyphs among which it is not. -/
theorem passes_of_notMem {stop : Glyph} {gs : List Glyph} (absent : stop ∉ gs) :
    ∀ g ∈ gs.reverse, decide (g ≠ stop) = true := by
  intro g member
  have other : g ≠ stop := fun same => absent (same ▸ List.mem_reverse.1 member)
  exact decide_eq_true other

/-- The last segment of reversed glyphs is what comes before their first slash. -/
theorem splitLast_reverse_append {name : List Glyph} (whole : slash ∉ name) (rest : List Glyph) :
    splitLast (name.reverse ++ rest) =
      (name.reverse ++ rest.takeWhile (· ≠ slash), (rest.dropWhile (· ≠ slash)).tail?) := by
  have passes := passes_of_notMem whole
  rw [splitLast, List.takeWhile_append_of_pos passes, List.dropWhile_append_of_pos passes]
  cases rest.dropWhile (· ≠ slash) <;> rfl

theorem splitLast_of_notMem {name : List Glyph} (whole : slash ∉ name) :
    splitLast name.reverse = (name.reverse, none) := by
  have split := splitLast_reverse_append whole []
  simpa using split

/-- Read backwards, the last segment ends at the last slash. -/
theorem splitLast_append_slash (before : List Glyph) {name : List Glyph} (whole : slash ∉ name) :
    splitLast (before ++ slash :: name).reverse = (name.reverse, some before.reverse) := by
  have split := splitLast_reverse_append whole (slash :: before.reverse)
  simpa using split

/-- Dropping the last segment with its slash gives what is before it. -/
theorem drop_last_segment (front before name : List Glyph) :
    (front ++ (before ++ slash :: name)).reverse.drop (name.reverse.length + 1) = (front ++ before).reverse := by
  have reversed : (front ++ (before ++ slash :: name)).reverse =
      name.reverse ++ slash :: (front ++ before).reverse := by simp
  rw [reversed, List.drop_length_add_append]
  rfl

/-! ### Dropping what is no component from the end -/

/-- The first glyphs up to a slash, all of them, or none. -/
def Cut (part whole : List Glyph) : Prop := part = [] ∨ part = whole ∨ ∃ more, whole = part ++ slash :: more

/-- Cutting twice is cutting once. -/
theorem Cut.trans {a b c : List Glyph} (first : Cut a b) (second : Cut b c) : Cut a c := by
  rcases first with rfl | rfl | ⟨more, rfl⟩
  · exact Or.inl rfl
  · exact second
  · rcases second with empty | rfl | ⟨others, rfl⟩
    · simp at empty
    · exact Or.inr (Or.inr ⟨more, rfl⟩)
    · exact Or.inr (Or.inr ⟨more ++ slash :: others, by simp⟩)

theorem Cut.length_le {part whole : List Glyph} (cut : Cut part whole) : part.length ≤ whole.length := by
  rcases cut with rfl | rfl | ⟨more, rfl⟩ <;> simp

/-- Nothing is left, or a segment that is a component comes last. -/
inductive Trimmed : List Glyph → Prop where
  | empty : Trimmed []
  | single {name : List Glyph} (whole : slash ∉ name) (counted : counts name = true) : Trimmed name
  | after (before : List Glyph) {name : List Glyph} (whole : slash ∉ name) (counted : counts name = true) :
      Trimmed (before ++ slash :: name)

/-- A segment that does not count is no component. -/
theorem component?_of_not_counts {segment : List Glyph} (uncounted : ¬ counts segment = true) :
    component? segment = none := by
  rw [counts] at uncounted
  simpa using uncounted

/-- The front is reached when nothing is left behind it. -/
theorem length_le_front_iff (front rest : List Glyph) :
    (front ++ rest).reverse.length ≤ front.length ↔ rest = [] := by
  rw [← List.length_eq_zero_iff, List.length_reverse, List.length_append]
  omega

theorem take_behind_front (front rest : List Glyph) :
    (front ++ rest).reverse.take ((front ++ rest).reverse.length - front.length) = rest.reverse := by simp

/-- The one segment behind the front is dropped unless it counts. -/
theorem trimEnd_of_notMem (bound : Nat) (front : List Glyph) {name : List Glyph} (whole : slash ∉ name) :
    trimEnd (bound + 1) front.length (front ++ name).reverse =
      (front ++ if counts name then name else []).reverse := by
  simp only [trimEnd, length_le_front_iff, take_behind_front, splitLast_of_notMem whole, counts_reverse]
  by_cases nothing : name = []
  · subst nothing
    simp
  · rw [if_neg nothing]
    split <;> simp

/-- One step of trimming: stop at a segment that counts, or else drop it and go on. -/
theorem trimEnd_append_slash (bound : Nat) (front before : List Glyph) {name : List Glyph} (whole : slash ∉ name) :
    trimEnd (bound + 1) front.length (front ++ (before ++ slash :: name)).reverse =
      if counts name then (front ++ (before ++ slash :: name)).reverse
      else trimEnd bound front.length (front ++ before).reverse := by
  have something : before ++ slash :: name ≠ [] := by simp
  simp only [trimEnd, length_le_front_iff, take_behind_front, splitLast_append_slash before whole, counts_reverse,
    drop_last_segment]
  rw [if_neg something]

/-- What `trimEnd` leaves of a path behind its front. -/
theorem exists_trimEnd {bound : Nat} (front rest : List Glyph) (enough : rest.length ≤ bound) :
    ∃ kept, trimEnd bound front.length (front ++ rest).reverse = (front ++ kept).reverse ∧
      Cut kept rest ∧ inner kept = inner rest ∧ Trimmed kept := by
  induction bound generalizing rest with
  | zero =>
      have none : rest = [] := List.length_eq_zero_iff.1 (Nat.le_zero.1 enough)
      exact ⟨rest, rfl, Or.inr (Or.inl rfl), rfl, none ▸ .empty⟩
  | succ bound ih =>
      rcases exists_last slash rest with whole | ⟨before, name, rfl, whole⟩
      · rw [trimEnd_of_notMem bound front whole]
        by_cases counted : counts rest = true
        · exact ⟨rest, by rw [if_pos counted], Or.inr (Or.inl rfl), rfl, .single whole counted⟩
        · refine ⟨[], by rw [if_neg counted], Or.inl rfl, ?_, .empty⟩
          rw [inner_of_notMem whole, component?_of_not_counts counted]
          rfl
      · rw [trimEnd_append_slash bound front before whole]
        by_cases counted : counts name = true
        · exact ⟨_, by rw [if_pos counted], Or.inr (Or.inl rfl), rfl, .after before whole counted⟩
        · have shorter : before.length ≤ bound := by
            simp only [List.length_append, List.length_cons] at enough
            omega
          obtain ⟨kept, trimmed, cut, same, ends⟩ := ih before shorter
          refine ⟨kept, by rw [if_neg counted, trimmed], cut.trans (Or.inr (Or.inr ⟨name, rfl⟩)), ?_, ends⟩
          rw [same, inner_append_slash, inner_of_notMem whole, component?_of_not_counts counted]
          simp

/-! ### Fronts -/

theorem segments_ne_nil (gs : List Glyph) : segments gs ≠ [] := by
  rw [segments_eq_splitOn]
  exact List.splitOn_ne_nil slash gs

/-- Glyphs that go on with a slash after a segment have it as their first one. What follows the slash does not
    depend on it. -/
theorem segments_of_first (first : List Glyph) {rest : List Glyph} (whole : slash ∉ first)
    (ends : rest = [] ∨ rest.head? = some slash) :
    segments (first ++ rest) = first :: (segments rest).tail ∧
      inner rest = (segments rest).tail.filterMap component? := by
  rcases ends with rfl | slashed
  · rw [List.append_nil, segments_of_notMem whole]
    exact ⟨rfl, rfl⟩
  · obtain ⟨more, rfl⟩ := List.head?_eq_some_iff.1 slashed
    rw [segments_append_slash, segments_of_notMem whole]
    exact ⟨rfl, rfl⟩

/-- Glyphs start with their first segment, and then end or go on with a slash. -/
theorem exists_first_segment (gs : List Glyph) :
    ∃ first rest, gs = first ++ rest ∧ slash ∉ first ∧ (rest = [] ∨ rest.head? = some slash) := by
  by_cases inside : slash ∈ gs
  · obtain ⟨first, more, rfl, whole⟩ := List.eq_append_cons_of_mem inside
    exact ⟨first, slash :: more, rfl, whole, Or.inr rfl⟩
  · exact ⟨gs, [], (List.append_nil gs).symm, inside, Or.inl rfl⟩

/-- A path is a front, which stands for the root, for a leading `.` or for nothing, and what follows it. -/
inductive Front : List Glyph → List Component → List Glyph → Prop where
  | root (rest : List Glyph) : Front [slash] [.root] rest
  | current {rest : List Glyph} (ends : rest = [] ∨ rest.head? = some slash) : Front [dot] [.current] rest
  | none {rest : List Glyph} (relative : rest.head? ≠ some slash)
      (plain : (segments rest).head? ≠ some [dot]) : Front [] [] rest

/-- Every path has a front. -/
theorem exists_front (gs : List Glyph) : ∃ front lead rest, gs = front ++ rest ∧ Front front lead rest := by
  by_cases absolute : gs.head? = some slash
  · obtain ⟨rest, rfl⟩ := List.head?_eq_some_iff.1 absolute
    exact ⟨_, _, rest, rfl, .root rest⟩
  · by_cases current : (segments gs).head? = some [dot]
    · obtain ⟨first, rest, rfl, whole, ends⟩ := exists_first_segment gs
      rw [(segments_of_first first whole ends).1, List.head?_cons, Option.some.injEq] at current
      subst current
      exact ⟨_, _, rest, rfl, .current ends⟩
    · exact ⟨_, _, gs, rfl, .none absolute current⟩

namespace Front

variable {front rest : List Glyph} {lead : List Component}

/-- What follows a front can be cut. -/
theorem cut {part : List Glyph} (stands : Front front lead rest) (cut : Cut part rest) : Front front lead part := by
  rcases cut with rfl | rfl | ⟨more, rfl⟩
  · cases stands with
    | root => exact .root []
    | current => exact .current (Or.inl rfl)
    | none => exact .none (by decide) (by decide)
  · exact stands
  · cases stands with
    | root => exact .root part
    | current ends =>
        refine .current ?_
        cases part with
        | nil => exact Or.inl rfl
        | cons g part => exact Or.inr (ends.resolve_left (by simp))
    | none relative plain =>
        refine .none ?_ ?_
        · cases part with
          | nil => simp
          | cons g part => exact relative
        · obtain ⟨first, others, split⟩ := List.exists_cons_of_ne_nil (segments_ne_nil part)
          rw [segments_append_slash, split] at plain
          rw [split]
          exact plain

/-- The front tells whether a path is absolute. -/
theorem isAbsolute_eq (stands : Front front lead rest) :
    (Path.mk (front ++ rest)).isAbsolute = decide (lead = [.root]) := by
  cases stands with
  | root => rfl
  | current => rfl
  | none relative => simpa [isAbsolute] using relative

/-- The glyphs that trimming does not touch are those of the front. -/
theorem fixedLength_eq (stands : Front front lead rest) : (Path.mk (front ++ rest)).fixedLength = front.length := by
  rw [fixedLength, stands.isAbsolute_eq]
  cases stands with
  | root => rfl
  | current ends =>
      rw [(segments_of_first [dot] (by decide) ends).1]
      rfl
  | none relative plain => simp [plain]

/-- The components are what the front stands for and those behind it. -/
theorem components_eq (stands : Front front lead rest) : (Path.mk (front ++ rest)).components = lead ++ inner rest := by
  rw [components, stands.isAbsolute_eq]
  cases stands with
  | root => rfl
  | current ends =>
      obtain ⟨split, parts⟩ := segments_of_first [dot] (by decide) ends
      rw [split, parts]
      rfl
  | none relative plain =>
      simp only [List.nil_append]
      cases split : segments rest with
      | nil => exact absurd split (segments_ne_nil rest)
      | cons first more =>
          have other : first ≠ [dot] := by simpa [split] using plain
          simp [inner, split, other]

end Front

/-! ### Parents -/

/-- A segment that counts is a component, and not the root. -/
theorem exists_component {segment : List Glyph} (counted : counts segment = true) :
    ∃ c, component? segment = some c ∧ c ≠ .root := by
  obtain ⟨c, found⟩ := Option.isSome_iff_exists.1 counted
  refine ⟨c, found, ?_⟩
  rintro rfl
  simp only [component?] at found
  split at found
  · cases found
  · split at found <;> cases found

/-- What a trimmed rest is without its last component, and that taking the last segment off gives it. -/
theorem Trimmed.exists_rest {kept : List Glyph} (trimmed : Trimmed kept) (something : kept ≠ []) :
    ∃ rest c, Cut rest kept ∧ rest.length < kept.length ∧ inner kept = inner rest ++ [c] ∧ c ≠ .root ∧
      ∀ front, (front ++ kept).reverse.drop ((splitLast kept.reverse).1.length +
        if (splitLast kept.reverse).2.isSome then 1 else 0) = (front ++ rest).reverse := by
  cases trimmed with
  | empty => exact absurd rfl something
  | single whole counted =>
      obtain ⟨c, found, other⟩ := exists_component counted
      refine ⟨[], c, Or.inl rfl, List.length_pos_iff.2 something, ?_, other, ?_⟩
      · rw [inner_of_notMem whole, found]
        rfl
      · intro front
        rw [splitLast_of_notMem whole]
        simp
  | after before whole counted =>
      rename_i name
      obtain ⟨c, found, other⟩ := exists_component counted
      refine ⟨before, c, Or.inr (Or.inr ⟨name, rfl⟩), ?_, ?_, other, ?_⟩
      · simp
      · rw [inner_append_slash, inner_of_notMem whole, found]
        rfl
      · intro front
        rw [splitLast_append_slash before whole]
        exact drop_last_segment front before name

/-- A path that is not absolute and has no component is empty. -/
theorem Front.rest_eq_nil {rest : List Glyph} (stands : Front [] [] rest) (nothing : inner rest = []) : rest = [] := by
  cases stands with
  | none relative plain =>
      obtain ⟨first, more, rfl, whole, ends⟩ := exists_first_segment rest
      obtain ⟨split, -⟩ := segments_of_first first whole ends
      rw [inner, split, List.filterMap_eq_nil_iff] at nothing
      have uncounted : ¬ counts first = true := by
        rw [counts, nothing first List.mem_cons_self]
        decide
      have notDot : first ≠ [dot] := by simpa [split] using plain
      have empty : first = [] := by
        by_cases something : first = []
        · exact something
        · exact absurd ((counts_iff first).2 ⟨something, notDot⟩) uncounted
      subst empty
      exact ends.resolve_right relative

/-- The parent in terms of what is left when the end is trimmed. -/
theorem parent?_of_trimEnd {front rest kept : List Glyph} {lead : List Component} (stands : Front front lead rest)
    (trims : trimEnd (front ++ rest).length front.length (front ++ rest).reverse = (front ++ kept).reverse) :
    (Path.mk (front ++ rest)).parent? =
      if kept = [] then
        if (Path.mk (front ++ rest)).isAbsolute = true ∨ front ++ rest = [] then none else some ⟨[]⟩
      else
        some ⟨(trimEnd (front ++ rest).length front.length
          ((front ++ kept).reverse.drop ((splitLast kept.reverse).1.length +
            if (splitLast kept.reverse).2.isSome then 1 else 0))).reverse⟩ := by
  simp only [parent?, stands.fixedLength_eq, trims, length_le_front_iff, take_behind_front]

/-- The root and the empty path have no parent. Any other path has one, which lacks just its last component and is
    shorter. -/
theorem parent?_cases (p : Path) :
    (p.parent? = none ∧ (p.components = [] ∨ p.components = [.root])) ∨
      ∃ q c, p.parent? = some q ∧ p.components = q.components ++ [c] ∧ c ≠ .root ∧
        q.glyphs.length < p.glyphs.length := by
  obtain ⟨gs⟩ := p
  obtain ⟨front, lead, rest, rfl, stands⟩ := exists_front gs
  have enough : rest.length ≤ (front ++ rest).length := by simp
  obtain ⟨kept, trims, cut, same, trimmed⟩ := exists_trimEnd front rest enough
  rw [parent?_of_trimEnd stands trims, stands.components_eq, ← same]
  by_cases empty : kept = []
  · subst empty
    rw [if_pos rfl, stands.isAbsolute_eq]
    cases stands with
    | root => exact Or.inl ⟨by simp, Or.inr rfl⟩
    | current ends => exact Or.inr ⟨⟨[]⟩, .current, by simp, rfl, by decide, by simp⟩
    | none relative plain =>
        have nothing := Front.rest_eq_nil (.none relative plain) same.symm
        exact Or.inl ⟨by simp [nothing], Or.inl rfl⟩
  · obtain ⟨above, c, part, shorter, last, other, dropped⟩ := trimmed.exists_rest empty
    have room : above.length ≤ (front ++ rest).length := by
      have lengths := cut.length_le
      rw [List.length_append]
      omega
    obtain ⟨keptAbove, trimsAbove, cutAbove, sameAbove, -⟩ := exists_trimEnd front above room
    have standsAbove : Front front lead keptAbove := stands.cut (cutAbove.trans (part.trans cut))
    rw [if_neg empty, dropped, trimsAbove, List.reverse_reverse]
    refine Or.inr ⟨_, c, rfl, ?_, other, ?_⟩
    · rw [standsAbove.components_eq, sameAbove, last, List.append_assoc]
    · have lengths := cut.length_le
      have lengthsAbove := cutAbove.length_le
      rw [List.length_append, List.length_append]
      omega

/-! ### Ancestors -/

/-- The path so many parents further up. -/
def above? : Nat → Path → Option Path
  | 0, p => some p
  | n + 1, p => p.parent?.bind (above? n)

/-- The components further up are the first ones, and each parent has one less. -/
theorem components_above? {n : Nat} {p q : Path} (stands : p.above? n = some q) :
    q.components <+: p.components ∧ q.components.length + n = p.components.length := by
  induction n generalizing p with
  | zero =>
      cases stands
      exact ⟨List.prefix_rfl, rfl⟩
  | succ n ih =>
      rw [above?] at stands
      rcases parent?_cases p with ⟨top, -⟩ | ⟨parent, c, found, last, -, -⟩
      · rw [top] at stands
        cases stands
      · rw [found, Option.bind_some] at stands
        obtain ⟨first, length⟩ := ih stands
        rw [last, List.length_append, List.length_singleton]
        exact ⟨first.trans (List.prefix_append _ _), by omega⟩

/-- The bound of the ancestors is large enough for all of them. -/
theorem getElem?_ancestorsWithin {bound : Nat} {p : Path} (enough : p.glyphs.length ≤ bound) (n : Nat) :
    (ancestorsWithin bound p)[n]? = p.above? n := by
  induction bound generalizing p n with
  | zero =>
      obtain ⟨gs⟩ := p
      have empty : gs = [] := List.length_eq_zero_iff.1 (Nat.le_zero.1 enough)
      subst empty
      cases n <;> rfl
  | succ bound ih =>
      rw [ancestorsWithin]
      rcases parent?_cases p with ⟨top, -⟩ | ⟨parent, c, found, -, -, shorter⟩
      · rw [top]
        cases n with
        | zero => rfl
        | succ n =>
            rw [above?, top]
            rfl
      · rw [found]
        cases n with
        | zero => rfl
        | succ n =>
            rw [above?, found]
            exact ih (by omega) n

/-- The ancestors of a path are its parents, in so many steps each. The bound on their number is never reached.
    -/
theorem getElem?_ancestors (p : Path) (n : Nat) : p.ancestors[n]? = p.above? n :=
  getElem?_ancestorsWithin (Nat.le_refl _) n

/-! ### File names -/

/-- What is written after the path starts a segment. -/
def AwaitsSegment (p : Path) : Prop := p.glyphs = [] ∨ p.glyphs.getLast? = some slash

instance (p : Path) : Decidable p.AwaitsSegment := inferInstanceAs (Decidable (_ ∨ _))

/-- Glyphs end in one segment, which may be empty. -/
theorem exists_awaitsSegment (gs : List Glyph) :
    ∃ before name, gs = before ++ name ∧ slash ∉ name ∧ AwaitsSegment ⟨before⟩ := by
  rcases exists_last slash gs with whole | ⟨before, name, rfl, whole⟩
  · exact ⟨[], gs, rfl, whole, Or.inl rfl⟩
  · exact ⟨before ++ [slash], name, by simp, whole, Or.inr List.getLast?_concat⟩

theorem awaitsSegment_of_notMem {name : List Glyph} (whole : slash ∉ name) : AwaitsSegment ⟨name⟩ ↔ name = [] := by
  constructor
  · rintro (empty | ends)
    · exact empty
    · exact absurd (List.mem_of_getLast? ends) whole
  · exact Or.inl

/-- Whether a segment starts at the end depends on what was written last. -/
theorem AwaitsSegment.append_iff {before : List Glyph} (awaits : AwaitsSegment ⟨before⟩) (gs : List Glyph) :
    AwaitsSegment ⟨before ++ gs⟩ ↔ AwaitsSegment ⟨gs⟩ := by
  rcases List.eq_nil_or_concat gs with rfl | ⟨init, last, rfl⟩
  · rw [List.append_nil]
    exact iff_of_true awaits (Or.inl rfl)
  · simp [AwaitsSegment]

/-- Joining writes a relative path where a segment starts. -/
theorem exists_join (p : Path) {q : Path} (relative : q.isAbsolute = false) :
    ∃ before, AwaitsSegment ⟨before⟩ ∧ p.join q = ⟨before ++ q.glyphs⟩ := by
  rw [join, relative, if_neg Bool.false_ne_true]
  by_cases awaits : p.glyphs = [] ∨ p.glyphs.getLast? = some slash
  · exact ⟨p.glyphs, awaits, if_pos awaits⟩
  · refine ⟨p.glyphs ++ [slash], Or.inr List.getLast?_concat, ?_⟩
    rw [if_neg awaits, List.append_assoc, List.singleton_append]

/-- Joined paths end as the second one does. -/
theorem awaitsSegment_join (p q : Path) : (p.join q).AwaitsSegment ↔ q.AwaitsSegment := by
  cases absolute : q.isAbsolute with
  | true => rw [join, if_pos absolute]
  | false =>
      obtain ⟨before, awaits, joined⟩ := exists_join p absolute
      rw [joined]
      exact awaits.append_iff q.glyphs

/-- A segment is a name unless it is empty, `.` or `..`. -/
theorem component?_eq_name_iff (segment : List Glyph) :
    component? segment = some (.name segment) ↔ segment ≠ [] ∧ segment ≠ [dot] ∧ segment ≠ [dot, dot] := by
  rw [component?, ← and_assoc, ← not_or]
  split
  · rename_i nothing
    simp [nothing]
  · rename_i something
    split
    · rename_i up
      simp [up]
    · rename_i proper
      simp [something, proper]

/-- After a slash, what is written adds its own components. -/
theorem components_append_slash (before gs : List Glyph) :
    components ⟨before ++ slash :: gs⟩ = components ⟨before ++ [slash]⟩ ++ inner gs := by
  have same : (Path.mk (before ++ slash :: gs)).isAbsolute = (Path.mk (before ++ [slash])).isAbsolute := by
    cases before <;> rfl
  obtain ⟨first, more, parts⟩ := List.exists_cons_of_ne_nil (segments_ne_nil before)
  have adds (earlier : List (List Glyph)) : (earlier ++ segments gs).filterMap component? =
      (earlier ++ segments []).filterMap component? ++ inner gs := by
    have nothing : (segments []).filterMap component? = [] := rfl
    rw [List.filterMap_append, List.filterMap_append, nothing, List.append_nil, inner]
  rw [components, components, same, segments_append_slash, segments_append_slash, parts]
  split
  · exact congrArg (.root :: ·) (adds (first :: more))
  · by_cases current : first = [dot]
    · simp only [List.cons_append, if_pos current, adds]
    · simp only [List.cons_append, if_neg current]
      exact adds (first :: more)

/-- A segment other than `.` that comes first is like any other. -/
theorem components_of_notMem {name : List Glyph} (whole : slash ∉ name) (plain : name ≠ [dot]) :
    components ⟨name⟩ = inner name := by
  have relative : (Path.mk name).isAbsolute = false := by
    rw [isAbsolute, decide_eq_false_iff_not]
    exact fun starts => whole (List.mem_of_head? starts)
  rw [components, relative, inner, segments_of_notMem whole]
  simp [plain]

/-- A component that is written last is the last one. -/
theorem AwaitsSegment.exists_components_append {before segment : List Glyph} {c : Component}
    (awaits : AwaitsSegment ⟨before⟩) (whole : slash ∉ segment) (found : component? segment = some c) :
    ∃ earlier, components ⟨before ++ segment⟩ = earlier ++ [c] := by
  have added : inner segment = [c] := by
    rw [inner_of_notMem whole, found]
    rfl
  rcases awaits with empty | ends
  · have notDot : segment ≠ [dot] := by
      rintro rfl
      cases found
    rw [show before = [] from empty, List.nil_append, components_of_notMem whole notDot]
    exact ⟨[], added⟩
  · obtain ⟨init, rfl⟩ := List.getLast?_eq_some_iff.1 ends
    rw [List.append_assoc, List.singleton_append, components_append_slash, added]
    exact ⟨_, rfl⟩

/-- A name that is written last is the file name. -/
theorem AwaitsSegment.fileName?_append {before name : List Glyph} (awaits : AwaitsSegment ⟨before⟩)
    (whole : slash ∉ name) (named : component? name = some (.name name)) : fileName? ⟨before ++ name⟩ = some name := by
  obtain ⟨earlier, split⟩ := awaits.exists_components_append whole named
  rw [fileName?, split, List.getLast?_concat]

/-- The extension is what follows the last dot, unless nothing is before that dot. -/
theorem extensionOf?_append (stem : List Glyph) {extension : List Glyph} (plain : dot ∉ extension) :
    extensionOf? (stem ++ dot :: extension) = if stem = [] then none else some extension := by
  have passes := passes_of_notMem plain
  have reversed : (stem ++ dot :: extension).reverse = extension.reverse ++ dot :: stem.reverse := by simp
  rw [extensionOf?, reversed, List.takeWhile_append_of_pos passes, List.dropWhile_append_of_pos passes]
  rcases List.eq_nil_or_concat stem with rfl | ⟨init, last, rfl⟩
  · simp
  · simp

/-- A segment that ends in an extension is a name. -/
theorem component?_append_dot (stem : List Glyph) {extension : List Glyph} (plain : dot ∉ extension)
    (something : extension ≠ []) :
    component? (stem ++ dot :: extension) = some (.name (stem ++ dot :: extension)) := by
  obtain ⟨g, more, rfl⟩ := List.exists_cons_of_ne_nil something
  have notDot : g ≠ dot := fun same => plain (same ▸ List.mem_cons_self)
  have member : g ∈ stem ++ dot :: g :: more := by simp
  rw [component?_eq_name_iff]
  refine ⟨List.ne_nil_of_mem member, ?_, ?_⟩
  · intro same
    rw [same] at member
    exact notDot (by simpa using member)
  · intro same
    rw [same] at member
    exact notDot (by simpa using member)

/-- An extension that is written after a path is the extension of the whole, unless it would start a segment. -/
theorem extension?_append_dot (p : Path) {extension : List Glyph} (whole : slash ∉ extension) (plain : dot ∉ extension)
    (something : extension ≠ []) :
    extension? ⟨p.glyphs ++ dot :: extension⟩ = if p.AwaitsSegment then none else some extension := by
  obtain ⟨gs⟩ := p
  obtain ⟨before, stem, rfl, stemWhole, awaits⟩ := exists_awaitsSegment gs
  have nameWhole : slash ∉ stem ++ dot :: extension := by
    have notDot : slash ≠ dot := by decide
    simp [stemWhole, whole, notDot]
  have named := awaits.fileName?_append nameWhole (component?_append_dot stem plain something)
  have empty : AwaitsSegment ⟨before ++ stem⟩ ↔ stem = [] :=
    (awaits.append_iff stem).trans (awaitsSegment_of_notMem stemWhole)
  rw [extension?, List.append_assoc, named, Option.bind_some, extensionOf?_append stem plain]
  simp only [empty]

/-- Text that is written after a path stays there when the path is put below another one. -/
theorem join_append (p : Path) {q : Path} (something : q.glyphs ≠ []) (text : String) :
    p.join (q.append text) = (p.join q).append text := by
  obtain ⟨g, gs, starts⟩ := List.exists_cons_of_ne_nil something
  have same : (q.append text).isAbsolute = q.isAbsolute := by simp [isAbsolute, append, starts]
  rw [join, join, same]
  split
  · rfl
  · split <;> simp [append]

end Path

end SassRenderLint
