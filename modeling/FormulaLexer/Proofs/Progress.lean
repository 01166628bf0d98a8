import FormulaLexer.Source.Position
import FormulaLexer.Proofs.TextCuts

/-! How positions move over a text. Apart from the bounds of its counters, a position behind a
text is a fold over the characters, and the bounds can only stop a position that has passed at
least as many characters as its smallest bound. -/
namespace FormulaLexer.Progress
open Text TextCuts

/-- The position behind a text, without regard to the bounds. -/
def moved (p : Position) (text : Text) : Position := text.foldl Position.next p

@[simp] theorem moved_nil (p : Position) : moved p [] = p := rfl

@[simp] theorem moved_cons (p : Position) (c : Char) (text : Text) :
    moved p (c :: text) = moved (p.next c) text := rfl

/-- The offset counts bytes; the newline is one of them. -/
theorem next_offset (p : Position) (c : Char) : (p.next c).offset = p.offset + c.utf8Size := by
  by_cases newline : c = '\n'
  · subst newline
    rfl
  · simp [Position.next, newline]

theorem moved_offset (p : Position) (text : Text) :
    (moved p text).offset = p.offset + byteSize text := by
  induction text generalizing p with
  | nil => simp
  | cons c text ih => simp [ih, next_offset, Nat.add_assoc]

/-- Line and column grow by at most one for each character, and never fall below one. -/
theorem moved_counters (p : Position) (text : Text) (column : 1 ≤ p.column) :
    p.line ≤ (moved p text).line ∧ (moved p text).line ≤ p.line + text.length ∧
      1 ≤ (moved p text).column ∧ (moved p text).column ≤ p.column + text.length := by
  induction text generalizing p with
  | nil => simp [column]
  | cons c text ih =>
    have step : p.line ≤ (p.next c).line ∧ (p.next c).line ≤ p.line + 1 ∧
        1 ≤ (p.next c).column ∧ (p.next c).column ≤ p.column + 1 := by
      simp only [Position.next]
      split <;> simp
    obtain ⟨lineGrows, lineBound, columnPositive, columnBound⟩ := ih _ step.2.2.1
    simp only [moved_cons, List.length_cons]
    omega

/-! ## Movement within the bounds -/

theorem advance_text_eq {p q : Position} {text : Text} (moves : p.advanceText? text = some q) :
    q = moved p text := by
  induction text generalizing p with
  | nil =>
    cases moves
    rfl
  | cons c text ih =>
    rw [Position.advanceText?, Position.advance?] at moves
    split at moves
    · next reached step =>
      split at step
      · cases step
        exact ih moves
      · cases step
    · cases moves

theorem advance_text_append {p q : Position} {front back : Text}
    (moves : p.advanceText? front = some q) :
    p.advanceText? (front ++ back) = q.advanceText? back := by
  induction front generalizing p with
  | nil =>
    cases moves
    rfl
  | cons c front ih =>
    rw [Position.advanceText?] at moves
    rw [List.cons_append, Position.advanceText?]
    split at moves
    · exact ih moves
    · cases moves

/-- A position that passes a text passes each part of it. -/
theorem advance_text_parts {p reached : Position} {front back : Text}
    (moves : p.advanceText? (front ++ back) = some reached) :
    ∃ middle, p.advanceText? front = some middle ∧ middle.advanceText? back = some reached := by
  induction front generalizing p with
  | nil => exact ⟨p, rfl, moves⟩
  | cons c front ih =>
    rw [List.cons_append, Position.advanceText?] at moves
    rw [Position.advanceText?]
    split at moves
    · exact ih moves
    · cases moves

/-- A position that moves within its bounds ends within them. -/
theorem advance_text_in_bounds {p q : Position} {text : Text} (inside : p.inBounds)
    (moves : p.advanceText? text = some q) : q.inBounds := by
  induction text generalizing p with
  | nil =>
    cases moves
    exact inside
  | cons c text ih =>
    rw [Position.advanceText?, Position.advance?] at moves
    split at moves
    · next reached step =>
      split at step
      · next within =>
        cases step
        exact ih within moves
      · cases step
    · cases moves

/-- No counter of the first position is beyond that of the second. -/
def Behind (p q : Position) : Prop :=
  p.offset ≤ q.offset ∧ p.line ≤ q.line ∧ p.column ≤ q.column

theorem next_behind {p q : Position} (behind : Behind p q) (c : Char) :
    Behind (p.next c) (q.next c) := by
  obtain ⟨offset, line, column⟩ := behind
  simp only [Position.next]
  split <;> refine ⟨?_, ?_, ?_⟩ <;> simp <;> omega

theorem in_bounds_behind {p q : Position} (behind : Behind p q) (inside : q.inBounds) :
    p.inBounds := by
  obtain ⟨offset, line, column⟩ := behind
  simp only [Position.inBounds, Bool.and_eq_true, decide_eq_true_eq] at inside ⊢
  omega

/-- What a position can pass, any position behind it can pass too. -/
theorem advance_text_behind {p q reached : Position} {text : Text} (behind : Behind p q)
    (moves : q.advanceText? text = some reached) : p.advanceText? text = some (moved p text) := by
  induction text generalizing p q with
  | nil => rfl
  | cons c text ih =>
    rw [Position.advanceText?, Position.advance?] at moves
    split at moves
    · next middle step =>
      split at step
      · next within =>
        cases step
        have further := next_behind behind c
        rw [Position.advanceText?, Position.advance?, if_pos (in_bounds_behind further within)]
        exact ih further moves
      · cases step
    · cases moves

theorem start_behind {p : Position} (line : 1 ≤ p.line) (column : 1 ≤ p.column) :
    Behind .start p := ⟨Nat.zero_le _, line, column⟩

theorem start_behind_reached {p reached : Position} {text : Text} (behind : Behind .start p)
    (moves : p.advanceText? text = some reached) : Behind .start reached := by
  obtain ⟨-, line, column⟩ := behind
  obtain ⟨grows, -, positive, -⟩ := moved_counters p text column
  rw [advance_text_eq moves]
  exact start_behind (Nat.le_trans line grows) positive

/-- A text of fewer characters than a counter can hold is passed from the start. -/
theorem advance_from_start {text : Text} (short : text.length + 1 < Position.counterBound) :
    Position.start.advanceText? text = some (moved .start text) := by
  suffices general : ∀ (p : Position) (left : Text), 1 ≤ p.column →
      p.offset + 4 * left.length < Position.offsetBound →
      p.line + left.length < Position.counterBound →
      p.column + left.length < Position.counterBound →
      p.advanceText? left = some (moved p left) by
    have bound : Position.counterBound = 2 ^ 32 := rfl
    have bytes : Position.offsetBound = 2 ^ 64 := rfl
    apply general <;> simp only [Position.start] <;> omega
  intro p left
  induction left generalizing p with
  | nil => intros; rfl
  | cons c left ih =>
    intro column offset line width
    have size := c.utf8Size_le_four
    simp only [List.length_cons] at offset line width
    have step : (p.next c).offset ≤ p.offset + 4 ∧ (p.next c).line ≤ p.line + 1 ∧
        1 ≤ (p.next c).column ∧ (p.next c).column ≤ p.column + 1 := by
      refine ⟨by rw [next_offset]; omega, ?_⟩
      simp only [Position.next]
      split <;> simp
    have inside : (p.next c).inBounds = true := by
      simp only [Position.inBounds, Bool.and_eq_true, decide_eq_true_eq]
      omega
    rw [Position.advanceText?, Position.advance?, if_pos inside]
    exact ih _ step.2.2.1 (by omega) (by omega) (by omega)

/-- A position within its bounds has come over fewer characters than 64 bits count: no line is
longer than its counter and there are no more lines than theirs. -/
theorem length_lt_of_in_bounds {p : Position} {text : Text}
    (moves : Position.start.advanceText? text = some p) : text.length + 1 < 2 ^ 64 := by
  suffices general : ∀ (q : Position) (passed : Nat) (left : Text), q.inBounds →
      passed + 1 ≤ (q.line - 1) * (2 ^ 32 - 1) + q.column → 1 ≤ q.line → 1 ≤ q.column →
      q.advanceText? left = some p →
      p.inBounds ∧ passed + left.length + 1 ≤ (p.line - 1) * (2 ^ 32 - 1) + p.column by
    obtain ⟨inside, count⟩ := general .start 0 text (by decide) (by decide) (by decide)
      (by decide) moves
    simp only [Position.inBounds, Bool.and_eq_true, decide_eq_true_eq] at inside
    have bound : Position.counterBound = 2 ^ 32 := rfl
    omega
  intro q passed left
  induction left generalizing q passed with
  | nil =>
    intro inside count line column moves
    cases moves
    exact ⟨inside, count⟩
  | cons c left ih =>
    intro inside count line column moves
    rw [Position.advanceText?, Position.advance?] at moves
    split at moves
    · next middle step =>
      split at step
      · next within =>
        cases step
        simp only [Position.inBounds, Bool.and_eq_true, decide_eq_true_eq] at inside
        have bound : Position.counterBound = 2 ^ 32 := rfl
        have counted : passed + 1 + 1 ≤ ((q.next c).line - 1) * (2 ^ 32 - 1) + (q.next c).column ∧
            1 ≤ (q.next c).line ∧ 1 ≤ (q.next c).column := by
          simp only [Position.next]
          split <;> refine ⟨?_, ?_, ?_⟩ <;> dsimp only <;> omega
        have result := ih (q.next c) (passed + 1) within counted.1 counted.2.1 counted.2.2 moves
        simp only [List.length_cons]
        refine ⟨result.1, ?_⟩
        omega
      · cases step
    · cases moves

end FormulaLexer.Progress
