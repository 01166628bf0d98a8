import FormulaLexer.Proofs.PositionMeasure

/-! The lines of a source are the parts between its newlines. Line starts are offsets of bytes, and a
line ends one byte in front of the next start, or with the source; still every line that starts can be
sliced, and what is sliced is the part of the same number when the source is split at its newlines. A
position located in the source has the number of the part in which it lies. -/
namespace FormulaLexer.LineSplit
open Text TextCuts Progress LineIndex PositionMeasure

variable {source before line after : Text}

/-- The parts of a source between its newlines, without them. -/
def parts (source : Text) : List Text := List.splitOn '\n' source

/-! ## The parts of a source -/

theorem parts_newline (front back : Text) :
    parts (front ++ '\n' :: back) = parts front ++ parts back :=
  List.splitOn_append_cons_self front back

theorem parts_length (source : Text) : (parts source).length = source.count '\n' + 1 := by
  induction source with
  | nil => rfl
  | cons c source ih =>
    rw [parts, List.splitOn, List.splitOnP_cons_eq_if_modifyHead]
    by_cases newline : c = '\n'
    · subst newline
      rw [if_pos (beq_self_eq_true _), List.length_cons, List.count_cons_self]
      exact congrArg (· + 1) ih
    · rw [if_neg (by simpa using newline), List.length_modifyHead, List.count_cons_of_ne newline]
      exact ih

/-- The line behind ended ones is the part whose number counts them. -/
theorem part_found (ends : EndsLines before) (within : '\n' ∉ line) (stops : StopsLine after) :
    (parts (before ++ (line ++ after)))[before.count '\n']? = some line := by
  have first : (parts (line ++ after))[0]? = some line := by
    have whole : parts line = [line] := List.splitOn_eq_singleton within
    rcases stops with rfl | ⟨rest, rfl⟩
    · rw [List.append_nil, whole]
      rfl
    · rw [parts_newline, whole]
      rfl
  rcases ends with rfl | ⟨front, rfl⟩
  · exact first
  · have number : (front ++ ['\n']).count '\n' = (parts front).length := by
      rw [List.count_append, parts_length]
      rfl
    rw [List.append_assoc, List.singleton_append, parts_newline, number,
      List.getElem?_append_right (Nat.le_refl _), Nat.sub_self, first]

/-- Each number up to that of the newlines is the number of a line. -/
theorem cut_at_line {number : Nat} (bound : number ≤ source.count '\n') :
    ∃ before line after, source = before ++ (line ++ after) ∧ EndsLines before ∧ '\n' ∉ line ∧
      StopsLine after ∧ before.count '\n' = number := by
  induction number with
  | zero =>
    obtain ⟨line, after, whole, within, stops⟩ := first_line source
    exact ⟨[], line, after, whole, .inl rfl, within, stops, rfl⟩
  | succ number ih =>
    obtain ⟨before, line, after, rfl, ends, within, stops, same⟩ := ih (Nat.le_of_succ_le bound)
    have none : line.count '\n' = 0 := List.count_eq_zero.mpr within
    rcases stops with rfl | ⟨rest, rfl⟩
    · rw [List.append_nil, List.count_append] at bound
      omega
    · obtain ⟨line', after, rfl, within', stops⟩ := first_line rest
      have closed : EndsLines (before ++ line ++ ['\n']) := .inr ⟨_, rfl⟩
      refine ⟨before ++ line ++ ['\n'], line', after, by simp, closed, within', stops, ?_⟩
      rw [List.count_append, List.count_append, none, same]
      rfl

/-! ## Starts -/

/-- A line starts for each part. -/
theorem starts_parts (source : Text) :
    (SourceLines.ofSource source).starts.length = (parts source).length := by
  rw [parts_length, SourceLines.ofSource, List.length_cons, starts_length]

/-- Behind the first line no line starts at the front of the source. -/
theorem start_positive {offset index next : Nat} {text : Text}
    (starts : (SourceLines.startsAfterNewlines offset text)[index]? = some next) : offset < next := by
  induction text generalizing offset index with
  | nil => cases starts
  | cons c text ih =>
    have positive := c.utf8Size_pos
    rw [SourceLines.startsAfterNewlines] at starts
    split at starts
    · cases index with
      | zero =>
        cases starts
        exact Nat.lt_succ_self _
      | succ index => exact Nat.lt_of_succ_lt (ih starts)
    · have further := ih starts
      omega

/-! ## Lines -/

/-- What an index of lines says of its source. As many lines start as there are parts; a start behind
the first one has the byte of a newline in front of it, and from every start the line can be sliced. The
line of a number is the part of that number without the carriage returns at its end, and other numbers
have no line. -/
structure Splits (source : Text) (lines : SourceLines) : Prop where
  starts : lines.starts.length = (parts source).length
  preceded : ∀ index next, lines.starts[index + 1]? = some next → 0 < next
  sliced : ∀ index start, lines.starts[index]? = some start → (lines.line? (index + 1)).isSome
  shown : ∀ index part, (parts source)[index]? = some part →
    lines.line? (index + 1) = some (part.rdropWhile (· = '\r'))
  zero : lines.line? 0 = none
  beyond : ∀ number, (parts source).length < number → lines.line? number = none

theorem index_splits (source : Text) : Splits source (SourceLines.ofSource source) := by
  have shown : ∀ index part, (parts source)[index]? = some part →
      (SourceLines.ofSource source).line? (index + 1) = some (part.rdropWhile (· = '\r')) := by
    intro index part found
    have listed := (List.getElem?_eq_some_iff.mp found).1
    rw [parts_length] at listed
    obtain ⟨before, line, after, rfl, ends, within, stops, rfl⟩ :=
      cut_at_line (Nat.le_of_lt_succ listed)
    rw [part_found ends within stops] at found
    cases found
    exact line_found ends within stops
  refine ⟨starts_parts source, fun index next => start_positive, ?_, shown, rfl, ?_⟩
  · intro index start starts
    have listed := (List.getElem?_eq_some_iff.mp starts).1
    rw [starts_parts] at listed
    rw [shown index _ (List.getElem?_eq_getElem listed)]
    rfl
  · intro number beyond
    cases number with
    | zero => rfl
    | succ index =>
      rw [parts_length] at beyond
      rw [SourceLines.line?, start_missing (by omega)]

/-- Where a position lies among the parts: in the part of its line, behind as many characters as its
column counts, and these are the text between the start of the line and the offset. -/
structure Within (source : Text) (offset : Nat) (p : Position) : Prop where
  numbered : 1 ≤ p.line
  begun : ∃ part start, (parts source)[p.line - 1]? = some part ∧
    (SourceLines.ofSource source).starts[p.line - 1]? = some start ∧ p.column - 1 ≤ part.length ∧
    source.slice? start offset = some (part.take (p.column - 1))

theorem position_within (front back : Text) :
    Within (front ++ back) (byteSize front) (moved .start front) := by
  obtain ⟨before, head, rfl, ends, within⟩ := last_line front
  obtain ⟨tail, after, rfl, within', stops⟩ := first_line back
  have undivided : '\n' ∉ head ++ tail := by simp [within, within']
  have whole : before ++ head ++ (tail ++ after) = before ++ (head ++ tail ++ after) := by simp
  rw [moved_line ends within, whole]
  refine ⟨Nat.le_add_left _ _, head ++ tail, byteSize before, part_found ends undivided stops,
    start_found ends _, ?_, ?_⟩
  · rw [List.length_append]
    exact Nat.le_add_right _ _
  · dsimp only
    rw [byte_size_append, slice_behind, List.append_assoc head, split_at_end, Nat.add_sub_cancel,
      List.take_left]
    rfl

/-- The lines of a short source are its parts between newlines, and the position of each place between
two characters lies in the part of its line. -/
theorem lines_split (source : Text) (short : source.length ≤ 2 ^ 32 - 2) :
    Splits source (SourceLines.ofSource source) ∧
      ∀ offset, Boundary source offset →
        ∃ p, Position.locate? source offset = some p ∧ Within source offset p := by
  refine ⟨index_splits source, ?_⟩
  rintro offset ⟨front, back, rfl, rfl⟩
  have bounded : (front ++ back).length + 1 < Position.counterBound := by
    rw [show Position.counterBound = 2 ^ 32 from rfl]
    omega
  exact ⟨_, locate_behind bounded, position_within front back⟩

/-- Carriage returns in front of a newline are not shown, and a newline at the end opens one more
line. -/
theorem carriage_split :
    "é\r\r\nb\n".toList.length ≤ 2 ^ 32 - 2 ∧
      (SourceLines.ofSource "é\r\r\nb\n".toList).line? 1 = some ['é'] ∧
      (SourceLines.ofSource "é\r\r\nb\n".toList).line? 3 = some [] ∧
      Boundary "é\r\r\nb\n".toList 6 ∧ Within "é\r\r\nb\n".toList 6 ⟨6, 2, 2⟩ := by
  have short : "é\r\r\nb\n".toList.length ≤ 2 ^ 32 - 2 := by decide
  have boundary : Boundary "é\r\r\nb\n".toList 6 := ⟨"é\r\r\nb".toList, ['\n'], rfl, rfl⟩
  obtain ⟨splits, within⟩ := lines_split "é\r\r\nb\n".toList short
  obtain ⟨p, located, inside⟩ := within 6 boundary
  obtain rfl : ⟨6, 2, 2⟩ = p := Option.some.inj located
  exact ⟨short, splits.shown 0 _ rfl, splits.shown 2 _ rfl, boundary, inside⟩

end FormulaLexer.LineSplit
