import Mathlib.Data.List.DropRight
import Mathlib.Order.Bounds.Defs
import FormulaLexer.Source.Span
import FormulaLexer.Proofs.LineIndex

/-! What positions and spans measure. A position is moved on by one character after the other: its
offset counts their bytes, its line their newlines, and its column is set back by each newline. Located
in a source that is not too long, it measures a part of the source as a whole: the longest part at the
front that fits into the offset asked for. A span over some text of the source ends at the place that is
located behind that text. -/
namespace FormulaLexer.PositionMeasure
open Text TextCuts Progress LineIndex

variable {source front back text : Text} {p q : Position} {offset further : Nat}

/-! ## The part in front of an offset -/

theorem boundary_le_size (boundary : Boundary text offset) : offset ≤ byteSize text := by
  obtain ⟨front, back, rfl, rfl⟩ := boundary
  rw [byte_size_append]
  exact Nat.le_add_right _ _

/-- The part that is taken ends at the last boundary that is not beyond the bytes given. -/
theorem take_bytes_greatest (bytes : Nat) (text : Text) :
    takeBytes bytes text <+: text ∧
      IsGreatest {offset | Boundary text offset ∧ offset ≤ bytes}
        (byteSize (takeBytes bytes text)) := by
  induction text generalizing bytes with
  | nil =>
    refine ⟨List.prefix_rfl, ⟨⟨[], [], rfl, rfl⟩, Nat.zero_le _⟩, ?_⟩
    rintro _ ⟨⟨front, back, split, rfl⟩, -⟩
    rw [(List.nil_eq_append_iff.mp split).1]
    exact Nat.le_refl _
  | cons c text ih =>
    rw [takeBytes]
    split
    · next fits =>
      obtain ⟨leads, ⟨⟨front, back, split, size⟩, within⟩, greatest⟩ := ih (bytes - c.utf8Size)
      refine ⟨List.cons_prefix_cons.mpr ⟨rfl, leads⟩, ⟨⟨c :: front, back, ?_, ?_⟩, ?_⟩, ?_⟩
      · rw [split]
        rfl
      · rw [byte_size_cons, byte_size_cons, size]
      · rw [byte_size_cons]
        omega
      · rintro _ ⟨⟨front, back, split, rfl⟩, within⟩
        cases front with
        | nil => exact Nat.zero_le _
        | cons d front =>
          obtain ⟨rfl, rest⟩ := List.cons_eq_cons.mp split
          rw [byte_size_cons] at within ⊢
          have bound := greatest ⟨⟨front, back, rest, rfl⟩, by omega⟩
          rw [byte_size_cons]
          omega
    · next wide =>
      -- Every boundary but the one at the front is behind the first character.
      refine ⟨List.nil_prefix, ⟨⟨[], c :: text, rfl, rfl⟩, Nat.zero_le _⟩, ?_⟩
      rintro _ ⟨⟨front, back, split, rfl⟩, within⟩
      cases front with
      | nil => exact Nat.le_refl _
      | cons d front =>
        obtain ⟨rfl, -⟩ := List.cons_eq_cons.mp split
        rw [byte_size_cons] at within
        omega

/-- Taken up to a boundary is all that stands in front of it. -/
theorem take_bytes_front (front back : Text) : takeBytes (byteSize front) (front ++ back) = front := by
  obtain ⟨⟨rest, split⟩, ⟨-, within⟩, greatest⟩ :=
    take_bytes_greatest (byteSize front) (front ++ back)
  have reached := greatest ⟨⟨front, back, rfl, rfl⟩, Nat.le_refl _⟩
  exact (cut_unique split (Nat.le_antisymm within reached)).1

/-! ## Lines and columns of a part -/

/-- The line that a text has begun: what stands behind its last newline. -/
def begunLine (text : Text) : Text := text.rtakeWhile (· ≠ '\n')

theorem begun_line_eq {before line : Text} (ends : EndsLines before) (within : '\n' ∉ line) :
    begunLine (before ++ line) = line := by
  have others : ∀ c ∈ line.reverse, decide (c ≠ '\n') = true := by
    intro c member
    refine decide_eq_true fun newline => within ?_
    rw [← newline]
    exact List.mem_reverse.mp member
  have stops : before.reverse.takeWhile (fun c => decide (c ≠ '\n')) = [] := by
    rcases ends with rfl | ⟨front, rfl⟩
    · rfl
    · rw [List.reverse_append]
      rfl
  rw [begunLine, List.rtakeWhile, List.reverse_append, List.takeWhile_append_of_pos others, stops,
    List.append_nil, List.reverse_reverse]

/-- The position behind a text measures the text as a whole. -/
theorem moved_measures (text : Text) :
    moved .start text =
      ⟨byteSize text, 1 + text.count '\n', 1 + (begunLine text).length⟩ := by
  obtain ⟨before, line, rfl, ends, within⟩ := last_line text
  have newlines : (before ++ line).count '\n' = before.count '\n' := by
    rw [List.count_append, List.count_eq_zero.mpr within, Nat.add_zero]
  rw [moved_line ends within, begun_line_eq ends within, newlines, Nat.add_comm line.length,
    Nat.add_comm (before.count '\n')]

/-- What a position says of the part of a source in front of an offset. It lies at the last boundary
that is not beyond the offset or the end, in the line behind the newlines of the part, and in the column
behind the characters of the line that the part has begun. -/
structure Measures (source : Text) (offset : Nat) (p : Position) : Prop where
  greatest : IsGreatest {e | Boundary source e ∧ e ≤ min offset (byteSize source)} p.offset
  counters : ∃ front back, source = front ++ back ∧ byteSize front = p.offset ∧
    p.line = 1 + front.count '\n' ∧ p.column = 1 + (begunLine front).length

/-- In a short source every offset has the position behind the part in front of it. -/
theorem locate_eq (short : source.length + 1 < Position.counterBound) (offset : Nat) :
    Position.locate? source offset = some (moved .start (takeBytes offset source)) := by
  have leads := (take_bytes_greatest offset source).1.length_le
  exact advance_from_start (by omega)

theorem located_measures (short : source.length + 1 < Position.counterBound)
    (located : Position.locate? source offset = some p) : Measures source offset p := by
  obtain ⟨⟨back, split⟩, ⟨boundary, within⟩, greatest⟩ := take_bytes_greatest offset source
  rw [locate_eq short, moved_measures] at located
  cases located
  have bounded := Nat.le_min.mpr ⟨within, boundary_le_size boundary⟩
  refine ⟨⟨⟨boundary, bounded⟩, ?_⟩, _, back, split.symm, rfl, rfl, rfl⟩
  rintro e ⟨between, below⟩
  exact greatest ⟨between, (Nat.le_min.mp below).1⟩

/-! ## Order -/

theorem order_of_less (less : p.offset < q.offset) : p.order q = .lt := by
  rw [Position.order, Nat.compare_eq_lt.mpr less]
  rfl

theorem order_self (p : Position) : p.order p = .eq := by
  simp [Position.order]

/-- Positions of a source at one offset are the same. -/
theorem located_unique (short : source.length + 1 < Position.counterBound)
    (first : Position.locate? source offset = some p)
    (second : Position.locate? source further = some q) (same : p.offset = q.offset) : p = q := by
  obtain ⟨⟨back, split⟩, -⟩ := take_bytes_greatest offset source
  obtain ⟨⟨back', split'⟩, -⟩ := take_bytes_greatest further source
  rw [locate_eq short] at first second
  cases first
  cases second
  rw [moved_measures, moved_measures] at same
  rw [(cut_unique (split.trans split'.symm) same).1]

/-- A larger offset never has a lesser position. -/
theorem located_monotone (short : source.length + 1 < Position.counterBound)
    (le : offset ≤ further) (first : Position.locate? source offset = some p)
    (second : Position.locate? source further = some q) : p.order q ≠ .gt := by
  obtain ⟨boundary, within⟩ := (located_measures short first).greatest.1
  have between := (located_measures short second).greatest.2 ⟨boundary, by omega⟩
  rcases Nat.lt_or_eq_of_le between with less | same
  · rw [order_of_less less]
    decide
  · rw [located_unique short first second same, order_self]
    decide

/-- At a boundary the position has the offset itself. -/
theorem located_offset (short : source.length + 1 < Position.counterBound)
    (boundary : Boundary source offset) (located : Position.locate? source offset = some p) :
    p.offset = offset := by
  obtain ⟨⟨-, within⟩, greatest⟩ := (located_measures short located).greatest
  have inside := Nat.le_min.mpr ⟨Nat.le_refl _, boundary_le_size boundary⟩
  exact Nat.le_antisymm (Nat.le_min.mp within).1 (greatest ⟨boundary, inside⟩)

/-! ## Spans -/

/-- Behind a part of the source lies the position that has moved over it. -/
theorem locate_behind (short : (front ++ back).length + 1 < Position.counterBound) :
    Position.locate? (front ++ back) (byteSize front) = some (moved .start front) := by
  rw [locate_eq short, take_bytes_front]

/-- A text of the source is covered by a span from the place in front of it to the place behind. -/
theorem covering_located
    (short : (front ++ (text ++ back)).length + 1 < Position.counterBound) :
    ∃ span, Span.covering? (moved .start front) text = some span ∧
      span.start = moved .start front ∧ span.stop = moved .start (front ++ text) ∧
      span.byteSize = byteSize text ∧ span.slice? (front ++ (text ++ back)) = some text := by
  have size : (moved .start (front ++ text)).offset =
      (moved .start front).offset + byteSize text := by
    rw [moved_measures, moved_measures, byte_size_append]
  have moves : (moved .start front).advanceText? text = some (moved .start (front ++ text)) := by
    simp only [List.length_append] at short
    have passed : Position.start.advanceText? (front ++ text) = some (moved .start (front ++ text)) :=
      advance_from_start (by rw [List.length_append]; omega)
    rwa [advance_text_append (advance_from_start (by omega))] at passed
  have ordered : (moved .start front).offset ≤ (moved .start (front ++ text)).offset := by
    rw [size]
    exact Nat.le_add_right _ _
  refine ⟨⟨moved .start front, moved .start (front ++ text), ordered⟩, ?_, rfl, rfl, ?_, ?_⟩
  · rw [Span.covering?, moves, Option.bind_some, Span.between?, dif_pos ordered]
  · rw [Span.byteSize, size, Nat.add_sub_cancel_left]
  · rw [Span.slice?]
    dsimp only
    rw [size, moved_measures, slice_behind, split_at_end]
    rfl

/-- Positions and spans measure the source. Every offset has a position, which measures the part in
front of it; larger offsets have no lesser positions, and different boundaries have different ones; and
the span that covers a text of the source reaches from the place in front of it to the place behind it,
has the bytes of the text, and cuts the text out of the source. -/
theorem places_measure (source : Text) (short : source.length ≤ 2 ^ 32 - 2) :
    (∀ offset, ∃ p, Position.locate? source offset = some p ∧ Measures source offset p) ∧
    (∀ offset further p q, offset ≤ further → Position.locate? source offset = some p →
      Position.locate? source further = some q → p.order q ≠ .gt) ∧
    (∀ offset further, Boundary source offset → Boundary source further →
      Position.locate? source offset = Position.locate? source further → offset = further) ∧
    ∀ front text back, source = front ++ (text ++ back) →
      ∃ start span, Position.locate? source (byteSize front) = some start ∧
        Span.covering? start text = some span ∧ span.start = start ∧
        Position.locate? source (byteSize front + byteSize text) = some span.stop ∧
        span.byteSize = byteSize text ∧ span.slice? source = some text := by
  have bounded : source.length + 1 < Position.counterBound := by
    rw [show Position.counterBound = 2 ^ 32 from rfl]
    omega
  refine ⟨fun offset => ?_, fun offset further p q le => located_monotone bounded le, ?_, ?_⟩
  · exact ⟨_, locate_eq bounded offset, located_measures bounded (locate_eq bounded offset)⟩
  · intro offset further boundary boundary' same
    have first := locate_eq bounded offset
    have second := same.symm.trans first
    exact (located_offset bounded boundary first).symm.trans
      (located_offset bounded boundary' second)
  · rintro front text back rfl
    obtain ⟨span, covered, begins, ends, size, slice⟩ := covering_located bounded
    refine ⟨_, span, locate_behind bounded, covered, begins, ?_, size, slice⟩
    rw [ends, ← byte_size_append, ← List.append_assoc]
    rw [← List.append_assoc] at bounded
    exact locate_behind bounded

/-- A letter of two bytes and a second line. An offset inside of the letter stands for the place in
front of it, and behind the newline columns are counted anew. -/
theorem letter_measured :
    "é\nb".toList.length ≤ 2 ^ 32 - 2 ∧ Measures "é\nb".toList 1 .start ∧
      Measures "é\nb".toList 4 ⟨4, 2, 2⟩ := by
  have short : "é\nb".toList.length ≤ 2 ^ 32 - 2 := by decide
  obtain ⟨places, -⟩ := places_measure "é\nb".toList short
  obtain ⟨p, located, inside⟩ := places 1
  obtain ⟨q, located', behind⟩ := places 4
  obtain rfl : .start = p := Option.some.inj located
  obtain rfl : ⟨4, 2, 2⟩ = q := Option.some.inj located'
  exact ⟨short, inside, behind⟩

end FormulaLexer.PositionMeasure
