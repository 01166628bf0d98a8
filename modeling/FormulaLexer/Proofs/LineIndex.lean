import Mathlib.Data.List.Induction
import FormulaLexer.Source.Lines
import FormulaLexer.Proofs.Progress

/-! Lines in two ways. A position counts the lines that it passes, and starts a new column behind each
newline; the lines of a source are found by the offsets of the bytes behind its newlines, and end in front
of the next one. A source cut behind a newline, and cut again in front of the first newline behind that,
has the same line between the two cuts in both ways. -/
namespace FormulaLexer.LineIndex
open Text TextCuts Progress SourceLines

/-! ## Cutting lines -/

/-- A text at whose end a line begins. -/
def EndsLines (text : Text) : Prop := text = [] ∨ ∃ front, text = front ++ ['\n']

/-- A text at whose start a line ends. -/
def StopsLine (text : Text) : Prop := text = [] ∨ ∃ rest, text = '\n' :: rest

/-- In front of a cut stand lines that have ended and the begun one. -/
theorem last_line (text : Text) :
    ∃ before line, text = before ++ line ∧ EndsLines before ∧ '\n' ∉ line := by
  induction text using List.reverseRecOn with
  | nil => exact ⟨[], [], rfl, .inl rfl, List.not_mem_nil⟩
  | append_singleton text c ih =>
    by_cases newline : c = '\n'
    · subst newline
      exact ⟨text ++ ['\n'], [], by simp, .inr ⟨text, rfl⟩, List.not_mem_nil⟩
    · obtain ⟨before, line, rfl, ends, within⟩ := ih
      refine ⟨before, line ++ [c], by simp, ends, fun member => ?_⟩
      rcases List.mem_append.mp member with member | member
      · exact within member
      · exact newline (List.mem_singleton.mp member).symm

/-- Behind a cut stands what is left of a line, up to the first newline. -/
theorem first_line (text : Text) :
    ∃ line after, text = line ++ after ∧ '\n' ∉ line ∧ StopsLine after := by
  induction text with
  | nil => exact ⟨[], [], rfl, List.not_mem_nil, .inl rfl⟩
  | cons c text ih =>
    by_cases newline : c = '\n'
    · subst newline
      exact ⟨[], _, rfl, List.not_mem_nil, .inr ⟨text, rfl⟩⟩
    · obtain ⟨line, after, rfl, within, stops⟩ := ih
      refine ⟨c :: line, after, rfl, fun member => ?_, stops⟩
      rcases List.mem_cons.mp member with same | member
      · exact newline same.symm
      · exact within member

/-! ## Positions -/

theorem moved_append (p : Position) (front back : Text) :
    moved p (front ++ back) = moved (moved p front) back := List.foldl_append

/-- Lines are counted by newlines. -/
theorem moved_lines (p : Position) (text : Text) :
    (moved p text).line = p.line + text.count '\n' := by
  induction text generalizing p with
  | nil => rfl
  | cons c text ih =>
    rw [moved_cons, ih, Position.next]
    by_cases newline : c = '\n'
    · subst newline
      rw [if_pos rfl, List.count_cons_self]
      dsimp only
      omega
    · rw [if_neg newline, List.count_cons_of_ne newline]

/-- Within a line columns are counted by characters. -/
theorem moved_within (p : Position) {line : Text} (within : '\n' ∉ line) :
    (moved p line).column = p.column + line.length := by
  induction line generalizing p with
  | nil => rfl
  | cons c line ih =>
    have other : c ≠ '\n' := fun newline => within (by simp [newline])
    rw [moved_cons, ih _ fun member => within (List.mem_cons_of_mem _ member), Position.next,
      if_neg other, List.length_cons]
    dsimp only
    omega

/-- The position behind ended lines and some characters of the next one. -/
theorem moved_line {before line : Text} (ends : EndsLines before) (within : '\n' ∉ line) :
    moved .start (before ++ line) =
      ⟨byteSize (before ++ line), before.count '\n' + 1, line.length + 1⟩ := by
  have lines : (moved .start (before ++ line)).line = before.count '\n' + 1 := by
    rw [moved_lines, List.count_append, List.count_eq_zero.mpr within, Nat.add_comm]
    rfl
  have first : (moved .start before).column = 1 := by
    rcases ends with rfl | ⟨front, rfl⟩
    · rfl
    · rw [moved_append]
      rfl
  have columns : (moved .start (before ++ line)).column = line.length + 1 := by
    rw [moved_append, moved_within _ within, first, Nat.add_comm]
  have offset := moved_offset .start (before ++ line)
  rw [show Position.start.offset = 0 from rfl, Nat.zero_add] at offset
  rw [← lines, ← columns, ← offset]

/-! ## Line starts -/

theorem starts_append (offset : Nat) (front back : Text) :
    startsAfterNewlines offset (front ++ back) =
      startsAfterNewlines offset front ++ startsAfterNewlines (offset + byteSize front) back := by
  induction front generalizing offset with
  | nil => rfl
  | cons c front ih =>
    rw [List.cons_append, startsAfterNewlines, startsAfterNewlines, byte_size_cons]
    by_cases newline : c = '\n'
    · subst newline
      rw [if_pos rfl, if_pos rfl, ih, List.cons_append, Nat.add_assoc]
      rfl
    · rw [if_neg newline, if_neg newline, ih, Nat.add_assoc]

theorem starts_length (offset : Nat) (text : Text) :
    (startsAfterNewlines offset text).length = text.count '\n' := by
  induction text generalizing offset with
  | nil => rfl
  | cons c text ih =>
    rw [startsAfterNewlines]
    by_cases newline : c = '\n'
    · subst newline
      rw [if_pos rfl, List.length_cons, ih, List.count_cons_self]
    · rw [if_neg newline, ih, List.count_cons_of_ne newline]

/-- Behind ended lines the next one starts. -/
theorem start_found {before : Text} (ends : EndsLines before) (rest : Text) :
    (ofSource (before ++ rest)).starts[before.count '\n']? = some (byteSize before) := by
  rw [ofSource]
  rcases ends with rfl | ⟨front, rfl⟩
  · rfl
  · have newlines : (front ++ ['\n']).count '\n' = (startsAfterNewlines 0 front).length + 1 := by
      rw [List.count_append, starts_length]
      rfl
    rw [newlines, List.getElem?_cons_succ, List.append_assoc, starts_append,
      List.getElem?_append_right (Nat.le_refl _), Nat.sub_self, List.singleton_append,
      startsAfterNewlines, if_pos rfl, List.getElem?_cons_zero, byte_size_append, Nat.zero_add]
    rfl

/-- No more lines start than there are newlines, apart from the first one. -/
theorem start_missing {source : Text} {index : Nat} (beyond : source.count '\n' < index) :
    (ofSource source).starts[index]? = none := by
  rw [ofSource, List.getElem?_eq_none_iff, List.length_cons, starts_length]
  exact beyond

/-- A line of a source is what stands between two newlines, without the carriage returns at its end. -/
theorem line_found {before line after : Text} (ends : EndsLines before) (within : '\n' ∉ line)
    (stops : StopsLine after) :
    (ofSource (before ++ (line ++ after))).line? (before.count '\n' + 1) =
      some (dropEndWhile (· = '\r') line) := by
  have sliced : ∀ stop, stop = byteSize before + byteSize line →
      (slice? (before ++ (line ++ after)) (byteSize before) stop).map (dropEndWhile (· = '\r')) =
        some (dropEndWhile (· = '\r') line) := by
    rintro stop rfl
    rw [slice_behind, split_at_end]
    rfl
  have whole : line.count '\n' = 0 := List.count_eq_zero.mpr within
  rw [SourceLines.line?, start_found ends]
  dsimp only
  rcases stops with rfl | ⟨rest, rfl⟩
  · rw [start_missing (by rw [List.append_nil, List.count_append, whole]; omega)]
    refine sliced _ ?_
    rw [ofSource, List.append_nil, byte_size_append]
  · have next : (ofSource (before ++ (line ++ '\n' :: rest))).starts[before.count '\n' + 1]? =
        some (byteSize before + byteSize line + 1) := by
      have closed : EndsLines (before ++ line ++ ['\n']) := .inr ⟨_, rfl⟩
      have start := start_found closed rest
      have newline : '\n'.utf8Size = 1 := rfl
      rw [List.count_append, List.count_append, whole] at start
      simpa [newline, Nat.add_assoc] using start
    rw [next]
    exact sliced _ rfl

/-! ## Lines shown -/

/-- Characters in front of one that is kept are kept too. -/
theorem drop_end_behind {p : Char → Bool} {c : Char} (keeps : p c = false) (front back : Text) :
    dropEndWhile p (front ++ c :: back) = front ++ c :: dropEndWhile p back := by
  have kept : (back.reverse ++ c :: front.reverse).dropWhile p =
      back.reverse.dropWhile p ++ c :: front.reverse := by
    rw [List.dropWhile_append]
    split
    · next none =>
      rw [List.isEmpty_iff.mp none, List.dropWhile_cons_of_neg (by simp [keeps])]
      rfl
    · rfl
  have turned : (front ++ c :: back).reverse = back.reverse ++ c :: front.reverse := by simp
  rw [dropEndWhile, turned, kept, dropEndWhile]
  simp

/-- The line of the position behind some text is always found. What stands behind the position, if it is
part of the line that is shown, stands in the column of the position. -/
theorem line_at (front back : Text) :
    ∃ shown, (ofSource (front ++ back)).line? (moved .start front).line = some shown ∧
      ∀ c rest, back = c :: rest → c ≠ '\r' → c ≠ '\n' →
        shown[(moved .start front).column - 1]? = some c := by
  obtain ⟨before, head, rfl, ends, within⟩ := last_line front
  obtain ⟨tail, after, rfl, within', stops⟩ := first_line back
  have undivided : '\n' ∉ head ++ tail := by simp [within, within']
  have found := line_found ends undivided stops
  rw [List.append_assoc head, ← List.append_assoc before] at found
  rw [moved_line ends within]
  refine ⟨_, found, fun c rest behind carriage newline => ?_⟩
  cases tail with
  | nil =>
    rcases stops with rfl | ⟨others, rfl⟩
    · cases behind
    · cases behind
      exact absurd rfl newline
  | cons d tail =>
    cases behind
    rw [drop_end_behind (by simp [carriage])]
    simp

end FormulaLexer.LineIndex
