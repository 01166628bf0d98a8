import FormulaLexer.Tokenizer.Events
import FormulaLexer.Proofs.LoopAgreement
import FormulaLexer.Proofs.PositionMeasure

/-! What a run costs and what it cannot do. Whatever tokens the converters hand back, each pass
over an input covers at least one character of it, and no slice or counter leaves its bounds as
long as the input has fewer characters than lines and columns can count. -/
namespace FormulaLexer.Resources
open Text TextCuts Progress Loop LoopSteps LoopAgreement PositionMeasure

/-- What holds whenever a pass begins: there is more of the input behind a place between two
characters, and the counters are below their bounds. -/
structure Within (input : Text) (s : State) : Prop where
  offset : s.offset < byteSize input
  boundary : Boundary input s.offset
  position : s.position.inBounds
  balance : s.tally.balance < balanceBound

theorem Reached.within {front rest : Text} {s : State} (reached : Reached front s)
    (offset : s.offset = byteSize front) (left : s.offset < byteSize (front ++ rest)) :
    Within (front ++ rest) s := by
  have room := length_lt_of_in_bounds reached.position
  have groups := reached.balance
  have bound : balanceBound = 2 ^ 64 := rfl
  exact ⟨left, ⟨front, rest, rfl, offset.symm⟩,
    advance_text_in_bounds (by decide) reached.position, by omega⟩

/-- A course begins at most as many passes as there are characters left, each of them within the
bounds, and unless it accepts the input it ends with a refusal. -/
theorem course_within (counting : Bool) (set : ScannerSet) {input : Text} (s : State) :
    ∀ front rest, input = front ++ rest → s.offset = byteSize front → Reached front s →
      (course counting set input s).passes.length ≤ rest.length ∧
        (∀ begun ∈ (course counting set input s).passes, Within input begun) ∧
        ∀ outcome, (course counting set input s).verdict = .outcome outcome →
          Refusal input outcome ∨ ∃ tokens metrics, outcome = .accepted tokens metrics := by
  refine course_induction (motive := fun s c => ∀ front rest, input = front ++ rest →
    s.offset = byteSize front → Reached front s →
      c.passes.length ≤ rest.length ∧ (∀ begun ∈ c.passes, Within input begun) ∧
        ∀ outcome, c.verdict = .outcome outcome →
          Refusal input outcome ∨ ∃ tokens metrics, outcome = .accepted tokens metrics) ?_ ?_ ?_ s
  · intro s used front rest whole offset reached
    refine ⟨Nat.zero_le _, by simp, fun outcome same => ?_⟩
    simp only [finish] at same
    split at same
    · cases same
      exact .inl (.rejected fun position none => by cases none)
    · cases same
      exact .inr ⟨_, _, rfl⟩
  · intro s stop left stopped front rest whole offset reached
    subst whole
    have more : 0 < rest.length := by
      cases rest with
      | nil => simp [offset] at left
      | cons c rest => simp
    refine ⟨more, by simpa using Reached.within reached offset left, fun outcome same => ?_⟩
    obtain ⟨refused, produced, refusal, failed⟩ | ⟨_, _, _, _, _, _, _, passed⟩ :=
      pass_cases counting set rest reached offset
    · rw [stopped] at failed
      cases failed
      cases same
      exact .inl refusal
    · rw [stopped] at passed
      cases passed
  · intro s after left passed later front rest whole offset reached
    subst whole
    obtain ⟨_, _, _, failed⟩ | ⟨covered, back, _, rfl, filled, further, place, same⟩ :=
      pass_cases counting set rest reached offset
    · rw [passed] at failed
      cases failed
    · rw [passed] at same
      cases same
      obtain ⟨length, within, outcome⟩ := later (front ++ covered) back (by simp) place further
      have positive := List.length_pos_iff.mpr filled
      refine ⟨?_, ?_, outcome⟩
      · simp only [List.length_cons, List.length_append]
        omega
      · intro begun member
        rcases List.mem_cons.mp member with rfl | member
        · exact Reached.within reached offset left
        · exact within begun member

/-- Only inputs with more characters than a counter can hold are given up for their length. -/
theorem long_of_overflowed {set : ScannerSet} {input : Text}
    (overflowed : (trace set input).outcome = .overflowed) :
    Position.counterBound ≤ input.length + 1 := by
  obtain ⟨-, -, ends⟩ := course_within true set .start [] input rfl rfl reached_start
  rcases ends _ (run_verdict set input) with refusal | ⟨_, _, accepted⟩
  · rw [overflowed] at refusal
    cases refusal with
    | overflowed long => exact long
  · rw [overflowed] at accepted
    cases accepted

/-- The errors of a run lie behind a part of the input. -/
theorem rejected_located {set : ScannerSet} {input : Text} {e : TokenizerError}
    (rejected : (trace set input).outcome = .rejected e) :
    ∀ position, e.position? = some position → Located input position := by
  obtain ⟨-, -, ends⟩ := course_within true set .start [] input rfl rfl reached_start
  rcases ends _ (run_verdict set input) with refusal | ⟨_, _, accepted⟩
  · rw [rejected] at refusal
    cases refusal with
    | rejected place => exact place
  · rw [rejected] at accepted
    cases accepted

/-! ## The offending span -/

/-- The text that an error points at is the character that comes next, if there is one. -/
theorem offending_text_eq (front back : Text) :
    Tokenizer.offendingText (front ++ back) (moved .start front) = back.take 1 := by
  rw [Tokenizer.offendingText, moved_measures, split_at_end]
  cases back <;> rfl

/-- At every place of a short input there is a span over the character that comes next, or an
empty one at the end. -/
theorem offending_span_exists {input : Text} {position : Position}
    (short : input.length + 1 < Position.counterBound) (place : Located input position) :
    ∃ span, Tokenizer.offendingSpan? input position = some span ∧ span.start = position ∧
      span.stop.inBounds ∧
      span.slice? input = some (Tokenizer.offendingText input position) := by
  obtain ⟨front, back, rfl, moves⟩ := place
  obtain rfl := advance_text_eq moves
  have text := offending_text_eq front back
  obtain ⟨shown, rest, rfl, next⟩ : ∃ shown rest, back = shown ++ rest ∧ back.take 1 = shown :=
    ⟨_, _, (List.take_append_drop 1 back).symm, rfl⟩
  obtain ⟨span, covered, begins, ends, -, slice⟩ := covering_located short
  have bound : (front ++ shown).length + 1 < Position.counterBound := by
    simp only [List.length_append] at short ⊢
    omega
  refine ⟨span, ?_, begins, ?_, ?_⟩
  · rw [Tokenizer.offendingSpan?, text, next, covered]
  · rw [ends]
    exact advance_text_in_bounds (by decide) (advance_from_start bound)
  · rw [text, next, slice]

/-! ## The whole run -/

/-- A run over an input of at most `2 ^ 32 - 2` characters keeps within all bounds. As a loop it
breaks down nowhere and has the outcome of the run, which is no overflow; it takes at most one
pass for each character, and every pass begins within the bounds; an error points at a span of
the input; and the tokens of an input that is accepted are no more than its characters and cover
all of its bytes. -/
theorem run_within_bounds (t : Tokenizer) (input : Text) (short : input.length ≤ 2 ^ 32 - 2) :
    (run true t.scanners input).verdict = .outcome (t.run input) ∧
    t.run input ≠ .overflowed ∧
    (run true t.scanners input).passes.length ≤ input.length ∧
    (∀ s ∈ (run true t.scanners input).passes, Within input s) ∧
    (∀ e position, t.run input = .rejected e → e.position? = some position →
      ∃ span, Tokenizer.offendingSpan? input position = some span ∧ span.start = position ∧
        span.stop.inBounds ∧
        span.slice? input = some (Tokenizer.offendingText input position)) ∧
    ∀ tokens metrics, t.run input = .accepted tokens metrics →
      metrics.totalTokens + metrics.whitespaceSkipped ≤ input.length ∧
      ((trace t.scanners input).produced.map fun item => byteSize item.token.text).sum =
        byteSize input := by
  have bound : Position.counterBound = 2 ^ 32 := rfl
  have room : input.length + 1 < Position.counterBound := by omega
  have verdict : (run true t.scanners input).verdict = .outcome (t.run input) :=
    run_verdict t.scanners input
  obtain ⟨length, within, ends⟩ :=
    course_within true t.scanners .start [] input rfl rfl reached_start
  have outcome := ends (t.run input) verdict
  refine ⟨verdict, ?_, length, within, ?_, ?_⟩
  · intro overflowed
    rw [overflowed] at outcome
    rcases outcome with refusal | ⟨_, _, same⟩
    · cases refusal with
      | overflowed long =>
        rw [List.nil_append] at long
        omega
    · cases same
  · intro e position rejected located
    rw [rejected] at outcome
    rcases outcome with refusal | ⟨_, _, same⟩
    · cases refusal with
      | rejected place => exact offending_span_exists room (place position located)
    · cases same
  · intro tokens metrics accepted
    rw [← run_produced accepted]
    rw [accepted] at verdict
    obtain ⟨last, reached, produced, -, rfl⟩ := accepted_run verdict
    rw [reached.counted, produced, List.map_reverse, List.sum_reverse]
    exact ⟨reached.produced, reached.bytes⟩

/-- An input that is accepted, cut into three tokens and two blanks. -/
theorem sum_within_bounds :
    "1 + 2".toList.length ≤ 2 ^ 32 - 2 ∧
      (run true ScannerSet.default "1 + 2".toList).passes.length ≤ 5 :=
  ⟨by decide, (run_within_bounds ⟨.default, .builtIn⟩ "1 + 2".toList (by decide)).2.2.1⟩

end FormulaLexer.Resources
