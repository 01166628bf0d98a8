import FormulaLexer.CommandLine.Report
import FormulaLexer.Proofs.ErrorPlaces
import FormulaLexer.Proofs.LineIndex
import FormulaLexer.Proofs.Resources

/-! Errors above an excerpt of the input. An error is shown at its own position, and where it has none, at
the end of the input. In both cases some part of the input leads to the position, so that the line of the
position exists, and the caret stands below the character behind that part. -/
namespace FormulaLexer.RenderedErrors
open Text TextCuts Progress LoopSteps LineIndex PositionMeasure Resources

variable {input : Text} {e : TokenizerError} {p : Position} {row : Text}

/-! ## The position shown -/

/-- Short texts have a position at their end. -/
theorem end_located (short : input.length + 1 < Position.counterBound) :
    Position.locate? input (byteSize input) = some (moved .start input) := by
  have located : Position.locate? (input ++ []) (byteSize input) = some (moved .start input) :=
    locate_behind (by rwa [List.append_nil])
  rwa [List.append_nil] at located

/-! ## The excerpt -/

/-- What stands in front of the line that is shown: its number between two blanks, and a bar. -/
def margin (p : Position) : Text := ' ' :: Text.ofNat p.line ++ " | ".toList

/-- What stands in front of the row of the caret: blanks instead of the number, and a bar. -/
def gutter (p : Position) : Text :=
  ' ' :: List.replicate (Text.ofNat p.line).length ' ' ++ " | ".toList

/-- The line and the caret begin in the same column. -/
theorem gutter_length (p : Position) : (gutter p).length = (margin p).length := by
  simp [gutter, margin]

/-- The last two rows of an excerpt are the line and the caret. -/
theorem excerpt_rows (p : Position) (row : Text) :
    ∃ bar, SourceLines.excerpt p row = bar ++ ('\n' :: margin p ++ row ++
      '\n' :: gutter p ++ List.replicate (p.column - 1) ' ' ++ "^\n".toList) := by
  refine ⟨' ' :: List.replicate (Text.ofNat p.line).length ' ' ++ " |".toList, ?_⟩
  simp [SourceLines.excerpt, margin, gutter]

/-- Where the line of a position is found, a message ends with the excerpt. -/
theorem render_ends {lines : SourceLines} {bar rows : Text} (found : lines.line? p.line = some row)
    (ends : SourceLines.excerpt p row = bar ++ rows) (message : Text) :
    ∃ head, lines.renderError p message = head ++ rows := by
  refine ⟨"error: ".toList ++ message ++ "\n  --> ".toList ++ p.write ++ '\n' :: bar, ?_⟩
  unfold SourceLines.renderError
  simp only [found, ends, List.append_assoc, List.cons_append]

/-- What the rendering of an error points at. The position shown is the one of the error, or the end of
the input; its line is found; the caret stands behind as many blanks as there are columns in front of it;
and if the position is not the end of the input, the character there, unless it ends the line, is the one
above the caret. -/
structure PointsAt (input : Text) (e : TokenizerError) (p : Position) (row : Text) : Prop where
  place : e.position? = some p ∨
    e.position? = none ∧ Position.locate? input (byteSize input) = some p
  shown : CommandLine.errorPosition input e = p
  found : (SourceLines.ofSource input).line? p.line = some row
  rendered : ∃ head, CommandLine.renderError input e = head ++ ('\n' :: margin p ++ row ++
    '\n' :: gutter p ++ List.replicate (p.column - 1) ' ' ++ "^\n".toList)
  aligned : (gutter p).length = (margin p).length
  under : p.offset < byteSize input → ∃ front c back, input = front ++ c :: back ∧
    byteSize front = p.offset ∧ (c ≠ '\r' → c ≠ '\n' → row[p.column - 1]? = some c)

theorem points_at (located : Located input p) (shown : CommandLine.errorPosition input e = p)
    (place : e.position? = some p ∨
      e.position? = none ∧ Position.locate? input (byteSize input) = some p) :
    ∃ row, PointsAt input e p row := by
  obtain ⟨front, back, rfl, moves⟩ := located
  obtain rfl := advance_text_eq moves
  obtain ⟨row, found, above⟩ := line_at front back
  have offset : byteSize front = (moved .start front).offset := by
    rw [moved_offset]
    exact (Nat.zero_add _).symm
  obtain ⟨bar, ends⟩ := excerpt_rows (moved .start front) row
  obtain ⟨head, rendered⟩ := render_ends found ends e.message
  have whole : CommandLine.renderError (front ++ back) e =
      (SourceLines.ofSource (front ++ back)).renderError (moved .start front) e.message := by
    rw [CommandLine.renderError, shown]
  refine ⟨row, place, shown, found, ⟨head, whole.trans rendered⟩, gutter_length _,
    fun inside => ?_⟩
  cases back with
  | nil =>
    rw [List.append_nil, offset] at inside
    exact absurd inside (Nat.lt_irrefl _)
  | cons c back => exact ⟨front, c, back, rfl, offset, above c back rfl⟩

/-- Every error of a run over an input that is not too long is rendered above its line, with the caret
below the character at which it lies. -/
theorem run_rendered (t : Tokenizer) (input : Text) (short : input.length ≤ 2 ^ 32 - 2)
    (e : TokenizerError) (rejected : t.run input = .rejected e) :
    ∃ p row, PointsAt input e p row := by
  cases placed : e.position? with
  | some p =>
    have shown : CommandLine.errorPosition input e = p := by
      rw [CommandLine.errorPosition, placed]
      rfl
    exact ⟨p, points_at (rejected_located rejected p placed) shown (.inl placed)⟩
  | none =>
    have bounded : input.length + 1 < Position.counterBound := by
      rw [show Position.counterBound = 2 ^ 32 from rfl]
      omega
    have ended := end_located bounded
    have located : Located input (moved .start input) :=
      ⟨input, [], (List.append_nil _).symm, advance_from_start bounded⟩
    have shown : CommandLine.errorPosition input e = moved .start input := by
      rw [CommandLine.errorPosition, placed, ended]
      rfl
    exact ⟨_, points_at located shown (.inr ⟨placed, ended⟩)⟩

/-- A parenthesis too many in the second line, behind a letter of two bytes. -/
theorem call_rendered :
    PointsAt "f(é)\n )".toList (.tooManyClosing ⟨7, 2, 2⟩) ⟨7, 2, 2⟩ " )".toList := by
  have rejected : (Tokenizer.mk .default .builtIn).run "f(é)\n )".toList =
      .rejected (.tooManyClosing ⟨7, 2, 2⟩) := by decide +kernel
  have line : (SourceLines.ofSource "f(é)\n )".toList).line? 2 = some " )".toList := by decide
  obtain ⟨p, row, points⟩ := run_rendered _ _ (by decide) _ rejected
  obtain rfl : ⟨7, 2, 2⟩ = p := points.shown
  obtain rfl : " )".toList = row := Option.some.inj (line.symm.trans points.found)
  exact points

example : CommandLine.renderError "f(é)\n )".toList (.tooManyClosing ⟨7, 2, 2⟩) =
    ("error: too many closing parentheses at 2:2\n  --> 2:2\n" ++
      "   |\n 2 |  )\n   |  ^\n").toList := by decide +kernel

end FormulaLexer.RenderedErrors
