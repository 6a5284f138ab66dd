/-
Module: SassRenderLint.Proofs.WindowBounds
Layer: Proofs
Purpose: The part of a source that a report shows around a span. It starts where a line starts and ends where one
  ends, or at the end of the source; a line ends with a byte that is a character of its own, so neither place
  falls inside a character. A span that lies in the source always has such a part around it.
Main exports: Text.boundary_after_byte, Report.StartsLine, Report.WindowScan.Passes, Report.WindowScan.Follows,
  Report.WindowScan.complete_run, Report.exists_window
-/
import SassRenderLint.Proofs.OffsetInverse
import SassRenderLint.Report.Snippet

namespace SassRenderLint

namespace Text

/-! ### Bytes that are characters -/

/-- A byte below 128 is a character of its own. -/
theorem encode_eq_singleton {c : Char} {b : UInt8} (mem : b ∈ String.utf8EncodeChar c) (plain : b < 0x80) :
    String.utf8EncodeChar c = [b] := by
  have small : b.toNat < 128 := UInt8.lt_iff_toNat_lt.1 plain
  simp only [String.utf8EncodeChar] at mem ⊢
  split at mem
  · simp_all
  · -- All bytes of a longer character are at least 128.
    exfalso
    split at mem
    · simp only [List.mem_cons, List.not_mem_nil, or_false] at mem
      rcases mem with rfl | rfl <;> simp at small <;> omega
    split at mem
    · simp only [List.mem_cons, List.not_mem_nil, or_false] at mem
      rcases mem with rfl | rfl | rfl <;> simp at small <;> omega
    · simp only [List.mem_cons, List.not_mem_nil, or_false] at mem
      rcases mem with rfl | rfl | rfl | rfl <;> simp at small <;> omega

/-- A text can be cut after any of its bytes that is below 128. -/
theorem boundary_after_byte {cs : List Char} {passed rest : List UInt8} {b : UInt8} (plain : b < 0x80)
    (same : cs.flatMap String.utf8EncodeChar = passed ++ b :: rest) : Boundary cs (passed.length + 1) := by
  induction cs generalizing passed with
  | nil => simp at same
  | cons c cs ih =>
      rw [List.flatMap_cons] at same
      rcases List.append_eq_append_iff.1 same with ⟨more, rfl, others⟩ | ⟨more, whole, others⟩
      · -- The byte comes after the first character.
        obtain ⟨before, after, rfl, bytes⟩ := ih others
        refine ⟨c :: before, after, rfl, ?_⟩
        rw [byteLength_cons, bytes, List.length_append, String.length_utf8EncodeChar]
        omega
      · cases more with
        | nil =>
            have first : cs.flatMap String.utf8EncodeChar = [] ++ b :: rest := others.symm
            obtain ⟨before, after, rfl, bytes⟩ := ih first
            refine ⟨c :: before, after, rfl, ?_⟩
            rw [List.append_nil] at whole
            rw [byteLength_cons, bytes, ← whole, String.length_utf8EncodeChar]
            rfl
        | cons d more =>
            -- The byte belongs to the first character, so it is all of it.
            rw [List.cons_append] at others
            cases others
            have single := encode_eq_singleton (c := c) (b := b) (by simp [whole]) plain
            have length := String.length_utf8EncodeChar c
            have none : passed = [] := by
              rw [single] at whole
              cases passed with
              | nil => rfl
              | cons d passed => simp at whole
            refine ⟨[c], cs, rfl, ?_⟩
            rw [single] at length
            simp [none, ← length]

end Text

namespace Report

/-! ### One byte of the scan -/

/-- A byte that ends a line. -/
def EndsLine (b : UInt8) : Prop := b = 0x0D ∨ b = 0x0A

/-- An offset at which a line starts: the first one, or one right after a byte that ends a line. -/
def StartsLine (bytes : List UInt8) (offset : Nat) : Prop :=
  offset = 0 ∨ ∃ passed b rest, bytes = passed ++ b :: rest ∧ EndsLine b ∧ offset = passed.length + 1

/-- A text can be cut where a line starts. -/
theorem StartsLine.boundary {cs : List Char} {offset : Nat}
    (starts : StartsLine (cs.flatMap String.utf8EncodeChar) offset) : Text.Boundary cs offset := by
  rcases starts with rfl | ⟨passed, b, rest, same, isEnd, rfl⟩
  · exact ⟨[], cs, rfl, rfl⟩
  · apply Text.boundary_after_byte _ same
    rcases isEnd with rfl | rfl <;> decide

namespace WindowScan

/-- What passing one more byte does to a scan: `endsLine` says that the byte ends a line, and `ended` that the
    window is complete with it. -/
structure Passes (span : ByteSpan) (after : Nat) (endsLine : Prop) (s t : WindowScan) (ended : Bool) : Prop where
  offset : t.offset = s.offset + 1
  lineStart : t.lineStart = s.lineStart ∨ endsLine ∧ t.lineStart = s.offset + 1
  starts : ∀ o ∈ t.starts, o ∈ s.starts ∨ o = s.lineStart
  goesOn : s.linesAfter < after → ended = false → t.linesAfter < after
  stops : s.linesAfter < after → ended = true → endsLine
  covers : ended = true → span.stop ≤ t.offset

variable {span : ByteSpan} {before after : Nat} {s t : WindowScan} {ended : Bool}

/-- The last step at every byte. Before it the scan may have noted the start of its line and moved on to the
    next line. -/
theorem passes_of_finish {u : WindowScan} {endsLine : Prop} (finished : finish span after u = (t, ended))
    (offset : u.offset = s.offset) (lineStart : u.lineStart = s.lineStart ∨ endsLine ∧ u.lineStart = s.offset + 1)
    (starts : ∀ o ∈ u.starts, o ∈ s.starts ∨ o = s.lineStart)
    (few : s.linesAfter < after → u.linesAfter < after) : Passes span after endsLine s t ended := by
  rw [finish, offset] at finished
  split at finished
  · cases finished
    refine ⟨rfl, lineStart, starts, fun less _ => few less, ?_, ?_⟩
    · intro less enough
      exact absurd (of_decide_eq_true enough) (Nat.not_le.2 (few less))
    · intro _
      show span.stop ≤ s.offset + 1
      omega
  · cases finished
    exact ⟨rfl, lineStart, starts, fun less _ => few less, nofun, nofun⟩

/-- A byte that ends no line is passed as such. -/
theorem passes_plain (passed : plain span after s = (t, ended)) {endsLine : Prop} :
    Passes span after endsLine s t ended := by
  rw [plain] at passed
  split at passed
  · exact passes_of_finish passed rfl (Or.inl rfl) (fun _ => Or.inl) id
  · exact passes_of_finish passed rfl (Or.inl rfl) (fun _ => Or.inl) id

/-- The line starts that are kept are old ones or the start of the line that ends. -/
theorem mem_starts_endBefore {o : Nat} (mem : o ∈ (s.endBefore before).starts) : o ∈ s.starts ∨ o = s.lineStart := by
  have kept : o ∈ s.starts ++ [s.lineStart] := by
    rw [endBefore] at mem
    split at mem
    · exact List.mem_of_mem_drop mem
    · exact mem
  simpa using kept

theorem endBefore_unchanged (s : WindowScan) (before : Nat) :
    (s.endBefore before).offset = s.offset ∧ (s.endBefore before).linesAfter = s.linesAfter := by
  rw [endBefore]
  split <;> simp

theorem endAfter_unchanged (s : WindowScan) :
    s.endAfter.offset = s.offset ∧ s.endAfter.lineStart = s.lineStart ∧ s.endAfter.starts = s.starts := by
  rw [endAfter]
  split <;> simp

/-- A byte that ends a line is passed as such, before the span, inside it or after it. -/
theorem passes_lineEnd {endsLine : Prop} (isEnd : endsLine) (passed : lineEnd span before after s = (t, ended)) :
    Passes span after endsLine s t ended := by
  rw [lineEnd] at passed
  split at passed
  · obtain ⟨offset, lines⟩ := endBefore_unchanged s before
    exact passes_of_finish passed offset (Or.inr ⟨isEnd, rfl⟩) (fun _ => mem_starts_endBefore)
      fun few => lines ▸ few
  obtain ⟨offset, lineStart, starts⟩ := endAfter_unchanged s
  split at passed
  · rename_i beyond
    simp only at passed
    split at passed
    · -- The last line wanted after the span has ended.
      cases passed
      refine ⟨congrArg (· + 1) offset, Or.inl lineStart, fun o mem => Or.inl (starts ▸ mem), nofun, fun _ _ => isEnd, ?_⟩
      intro _
      show span.start + span.length ≤ s.endAfter.offset + 1
      omega
    · rename_i few
      exact passes_of_finish passed offset (Or.inr ⟨isEnd, congrArg (· + 1) offset⟩)
        (fun o mem => Or.inl (starts ▸ mem)) fun _ => Nat.not_le.1 few
  · exact passes_of_finish passed rfl (Or.inr ⟨isEnd, rfl⟩) (fun _ => Or.inl) id

/-- Both kinds of bytes together, as the scan tells them apart. -/
theorem passes_byte {b : UInt8}
    (passed : (if b = 0x0D ∨ b = 0x0A then lineEnd span before after s else plain span after s) = (t, ended)) :
    Passes span after (EndsLine b) s t ended := by
  split at passed
  · rename_i isEnd
    exact passes_lineEnd isEnd passed
  · exact passes_plain passed

/-! ### The whole scan -/

/-- A scan that has still to pass the last bytes of all. -/
structure Follows (bytes rest : List UInt8) (s : WindowScan) : Prop where
  passed : ∃ passed, bytes = passed ++ rest ∧ passed.length = s.offset
  lineStart : StartsLine bytes s.lineStart ∧ s.lineStart ≤ s.offset
  starts : ∀ o ∈ s.starts, StartsLine bytes o ∧ o ≤ s.offset

/-- Passing a byte, a scan stays in step with the bytes. -/
theorem Follows.next {bytes rest : List UInt8} {b : UInt8} (follows : Follows bytes (b :: rest) s)
    (passes : Passes span after (EndsLine b) s t ended) : Follows bytes rest t := by
  obtain ⟨passed, same, length⟩ := follows.passed
  refine ⟨⟨passed ++ [b], ?_, ?_⟩, ?_, ?_⟩
  · rw [same, List.append_assoc, List.singleton_append]
  · rw [List.length_append, length, passes.offset, List.length_singleton]
  · rw [passes.offset]
    rcases passes.lineStart with stays | ⟨isEnd, moves⟩
    · rw [stays]
      exact ⟨follows.lineStart.1, Nat.le_succ_of_le follows.lineStart.2⟩
    · rw [moves]
      exact ⟨Or.inr ⟨passed, b, rest, same, isEnd, by rw [length]⟩, Nat.le_refl _⟩
  · intro o mem
    rw [passes.offset]
    rcases passes.starts o mem with kept | rfl
    · exact ⟨(follows.starts o kept).1, Nat.le_succ_of_le (follows.starts o kept).2⟩
    · exact ⟨follows.lineStart.1, Nat.le_succ_of_le follows.lineStart.2⟩

/-- A carriage return before a line feed is passed without a look at it. -/
theorem Follows.skip {bytes rest : List UInt8} {b : UInt8} (follows : Follows bytes (b :: rest) s) :
    Follows bytes rest { s with offset := s.offset + 1 } := by
  have passes : Passes ⟨0, 0⟩ 0 (EndsLine b) s { s with offset := s.offset + 1 } false :=
    ⟨rfl, Or.inl rfl, fun _ => Or.inl, nofun, nofun, nofun⟩
  exact follows.next passes

/-- A scan that is over: it has stopped at the end of all bytes or after the span, and, if lines are wanted
    after the span, at the end of all bytes or at the start of a line. -/
structure Complete (bytes : List UInt8) (span : ByteSpan) (after : Nat) (s : WindowScan) : Prop where
  inside : s.offset ≤ bytes.length
  starts : ∀ o ∈ s.starts, StartsLine bytes o ∧ o ≤ s.offset
  covers : s.offset = bytes.length ∨ span.stop ≤ s.offset
  ends : 0 < after → s.offset = bytes.length ∨ StartsLine bytes s.offset

theorem Follows.inside {bytes rest : List UInt8} (follows : Follows bytes rest s) : s.offset ≤ bytes.length := by
  obtain ⟨passed, same, length⟩ := follows.passed
  rw [same, List.length_append, length]
  exact Nat.le_add_right _ _

/-- A scan that ends early has passed the span and the lines after it. -/
theorem Follows.complete_of_ended {bytes rest : List UInt8} {b : UInt8} (follows : Follows bytes (b :: rest) s)
    (few : 0 < after → s.linesAfter < after) (passes : Passes span after (EndsLine b) s t true) :
    Complete bytes span after t := by
  have next := follows.next passes
  refine ⟨next.inside, next.starts, Or.inr (passes.covers rfl), fun wanted => Or.inr ?_⟩
  obtain ⟨passed, same, length⟩ := follows.passed
  exact Or.inr ⟨passed, b, rest, same, passes.stops (few wanted) rfl, by rw [passes.offset, length]⟩

/-- Every scan comes to an end with a complete window, by induction on the bytes that are left. -/
theorem complete_run {bytes rest : List UInt8} (follows : Follows bytes rest s)
    (few : 0 < after → s.linesAfter < after) : Complete bytes span after (run span before after s rest) := by
  fun_induction run span before after s rest with
  | case1 s =>
      obtain ⟨passed, same, length⟩ := follows.passed
      have all : s.offset = bytes.length := by rw [same, List.append_nil, length]
      exact ⟨Nat.le_of_eq all, follows.starts, Or.inl all, fun _ => Or.inl all⟩
  | case2 s rest t stops =>
      have isEnd : EndsLine 0x0A := Or.inr rfl
      exact follows.skip.complete_of_ended few (passes_lineEnd isEnd stops)
  | case3 s rest t goesOn ih =>
      have isEnd : EndsLine 0x0A := Or.inr rfl
      have passes := passes_lineEnd isEnd goesOn
      exact ih (follows.skip.next passes) fun wanted => passes.goesOn (few wanted) rfl
  | case4 s b rest _ t stops => exact follows.complete_of_ended few (passes_byte stops)
  | case5 s b rest _ t goesOn ih =>
      have passes := passes_byte goesOn
      exact ih (follows.next passes) fun wanted => passes.goesOn (few wanted) rfl

theorem follows_start (bytes : List UInt8) : Follows bytes bytes start :=
  ⟨⟨[], rfl, rfl⟩, ⟨Or.inl rfl, Nat.le_refl 0⟩, nofun⟩

end WindowScan

/-- A span that lies in a source has a window around it. The window covers the span to its end and lies in the
    source; with lines before and after the span it starts where a line starts, and ends where one starts or
    where the source ends. -/
theorem exists_window {bytes : List UInt8} {span : ByteSpan} (inside : span.stop ≤ bytes.length) (before after : Nat) :
    ∃ w, window? bytes span before after = some w ∧ w.start ≤ w.stop ∧ w.stop ≤ bytes.length ∧
      (before ≠ 0 → StartsLine bytes w.start) ∧
      (0 < after → w.stop = bytes.length ∨ StartsLine bytes w.stop) := by
  have complete : WindowScan.Complete bytes span after (.run span before after .start bytes) :=
    WindowScan.complete_run (WindowScan.follows_start bytes) id
  have past : span.stop ≤ (WindowScan.run span before after .start bytes).offset := by
    rcases complete.covers with all | covers
    · rw [all]
      exact inside
    · exact covers
  rw [window?]
  generalize WindowScan.run span before after .start bytes = s at complete past
  have starts : ∀ other, other ≤ s.offset → s.starts.head?.getD other ≤ s.offset := by
    intro other early
    cases kept : s.starts with
    | nil => simpa using early
    | cons first rest => exact (complete.starts first (by simp [kept])).2
  simp only [Nat.not_lt.2 (Nat.le_trans (Nat.sub_le _ 1) past), ↓reduceIte, Option.some.injEq, exists_eq_left']
  refine ⟨starts _ ?_, complete.inside, ?_, complete.ends⟩
  · split
    · exact Nat.le_trans (Nat.le_add_right _ _) past
    · exact Nat.zero_le _
  · intro wanted
    simp only [wanted, ↓reduceIte]
    cases kept : s.starts with
    | nil => exact Or.inl rfl
    | cons first rest => exact (complete.starts first (by simp [kept])).1

end Report

end SassRenderLint
