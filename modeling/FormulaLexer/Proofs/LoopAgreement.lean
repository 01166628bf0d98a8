import FormulaLexer.Proofs.LoopSteps
import FormulaLexer.Proofs.Steps

/-! The loop over byte offsets and the run by its trace are the same. The trace of a run is
lexed first and its tokens are counted behind that, while the loop counts each token before it
looks at the next one; both end with the same outcome, because a tally that fails hides
whatever the trace says behind it. -/
namespace FormulaLexer.LoopAgreement
open Text TextCuts Progress Steps Loop LoopSteps

/-- The outcome of a tally with the way in which the lexing ended. -/
def conclude (tally : Tally) : Ending → Outcome
  | .failed e => .rejected e
  | .overflow => .overflowed
  | .complete =>
    if 0 < tally.balance then .rejected (.tooManyOpening tally.balance)
    else .accepted tally.tokens.reverse tally.metrics

/-- The outcome of what is left of a trace, behind a tally of what came before. -/
def summary (tally : Tally) (t : Trace) : Outcome :=
  match tally.addSteps t.steps with
  | .error e => .rejected e
  | .ok tally => conclude tally t.ending

theorem outcome_eq_summary (t : Trace) : t.outcome = summary .zero t := by
  rw [Trace.outcome, summary]
  cases Tally.zero.addSteps t.steps with
  | error e => rfl
  | ok tally => cases t.ending <;> rfl

/-! ## The last significant token -/

theorem add_head {tally after : Tally} {item : PlacedToken} (added : tally.add item = .ok after) :
    after.tokens.head? = lastSignificant tally.tokens.head? [item] := by
  rw [Tally.add] at added
  split at added
  · next grouped =>
    cases added
    have frame := congrArg Tally.tokens (add_grouping_frame grouped).1
    simp only [lastSignificant, List.foldl_cons, List.foldl_nil, Tally.addToken]
    split
    · exact congrArg List.head? frame
    · rfl
  · cases added

theorem add_all_head {tally after : Tally} {items : List PlacedToken}
    (added : tally.addAll items = .ok after) :
    after.tokens.head? = lastSignificant tally.tokens.head? items := by
  induction items generalizing tally with
  | nil =>
    cases added
    rfl
  | cons item items ih =>
    rw [Tally.addAll] at added
    split at added
    · next first =>
      rw [ih added, add_head first]
      rfl
    · cases added

/-! ## Tokens laid and tokens placed -/

/-- Laying tokens while they are counted comes to the same as placing them first. -/
theorem lay_tokens_place (front rest : Text) {text : Text} {tokens : List Token} {s : State}
    (reached : Reached text s) (filled : ∀ token ∈ tokens, token.text ≠ []) :
    match s.tally.addAll (place tokens rest s.position).placed with
    | .error e => ∃ produced, layTokens true (front ++ rest) tokens (byteSize front) s =
        .error ⟨.outcome (.rejected e), produced⟩
    | .ok tally =>
      match (place tokens rest s.position).outcome with
      | .error ending => layTokens true (front ++ rest) tokens (byteSize front) s =
          .error ⟨.outcome (conclude tally ending),
            (place tokens rest s.position).placed.reverse ++ s.produced⟩
      | .ok further => ∃ covered back, rest = covered ++ back ∧
          covered.length = further.covered ∧
          layTokens true (front ++ rest) tokens (byteSize front) s =
            .ok (byteSize (front ++ covered), ⟨s.offset, further.reached, tally,
              (place tokens rest s.position).placed.reverse ++ s.produced⟩) := by
  induction tokens generalizing text front rest s with
  | nil => exact ⟨[], rest, rfl, rfl, by simp [layTokens, place]⟩
  | cons token tokens ih =>
    rw [place, layTokens, lay_token_eq]
    cases cut : splitAtByte? (byteSize token.text) rest with
    | none => simp [Tally.addAll, conclude]
    | some parts =>
      obtain ⟨covered, back⟩ := parts
      obtain ⟨rfl, size⟩ := split_exact cut
      dsimp only
      rw [count_eq reached]
      cases moves : s.position.advanceText? covered with
      | none =>
        simp only [Tally.addAll, Tally.add]
        cases grouped : s.tally.addGrouping ⟨token, s.position⟩ with
        | error e => exact ⟨_, rfl⟩
        | ok tally => rfl
      | some position =>
        simp only [Tally.addAll, Tally.add]
        cases grouped : s.tally.addGrouping ⟨token, s.position⟩ with
        | error e => exact ⟨_, rfl⟩
        | ok tally =>
          have counted : count true s.tally ⟨token, s.position⟩ = .ok tally := by
            rw [count_eq reached, grouped]
          have next := reached.token (filled token (by simp)) size counted moves
          have laid := ih (front ++ covered) back next
            fun other member => filled other (by simp [member])
          rw [List.append_assoc, byte_size_append, size] at laid
          dsimp only at laid ⊢
          split at laid
          · exact laid
          · next after added =>
            split at laid
            · next ending ended =>
              simpa [ended, Except.map] using laid
            · next further ended =>
              obtain ⟨more, left, rfl, length, done⟩ := laid
              simp only [ended, Except.map]
              refine ⟨covered ++ more, left, by simp, ?_, ?_⟩
              · simp [length]
              · simpa [size, Nat.add_assoc] using done

/-! ## Steps and passes -/

theorem add_steps_one (tally : Tally) (step : Step) :
    tally.addSteps [step] = (tried tally step.attempts).addAll step.produced := by
  rw [Tally.addSteps, Tally.addStep, tried]
  split <;> simp_all [Tally.addSteps]

/-- Taking tokens while they are counted comes to the same as taking a step first. -/
theorem take_tokens_step (set : ScannerSet) (rest : Text) {text : Text} {s : State}
    (reached : Reached text s) :
    match s.tally.addSteps (takeStep set rest s.tally.tokens.head? s.position).step.toList with
    | .error e => ∃ produced, takeTokens true set rest s =
        .error ⟨.outcome (.rejected e), produced⟩
    | .ok tally =>
      let placed := (takeStep set rest s.tally.tokens.head? s.position).step.toList.flatMap
        Step.produced
      match (takeStep set rest s.tally.tokens.head? s.position).outcome with
      | .error ending => takeTokens true set rest s =
          .error ⟨.outcome (conclude tally ending), placed.reverse ++ s.produced⟩
      | .ok further => tally.tokens.head? = lastSignificant s.tally.tokens.head? placed ∧
          ∃ covered back, rest = covered ++ back ∧ covered.length = further.covered ∧
            takeTokens true set rest s = .ok (byteSize covered,
              ⟨s.offset, further.reached, tally, placed.reverse ++ s.produced⟩) := by
  cases accepted : acceptFirst rest s.tally.tokens.head? 0 set.entries with
  | unmatched => simp [takeStep, takeTokens, accepted, Tally.addSteps, conclude, refuse_eq]
  | refused e => simp [takeStep, takeTokens, accepted, Tally.addSteps, conclude, refuse_eq]
  | accepted key attempts category tokens =>
    cases checked : zeroWidthCategory? category tokens with
    | some category =>
      simp [takeStep, takeTokens, accepted, checked, Tally.addSteps, conclude]
    | none =>
      have filled := (nonempty_of_no_zero_width checked).2
      have laid := lay_tokens_place [] rest (reached.tried attempts) filled
      simp only [List.nil_append, byte_size_nil] at laid
      simp only [takeStep, takeTokens, accepted, checked, Option.toList_some, add_steps_one,
        List.flatMap_cons, List.flatMap_nil, List.append_nil]
      split at laid
      · exact laid
      · next tally added =>
        split at laid
        · exact laid
        · have head := add_all_head added
          exact ⟨head, laid⟩

theorem add_steps_append {tally : Tally} {front back : List Step} :
    tally.addSteps (front ++ back) =
      match tally.addSteps front with
      | .ok tally => tally.addSteps back
      | .error e => .error e := by
  induction front generalizing tally with
  | nil => rfl
  | cons step front ih =>
    rw [List.cons_append, Tally.addSteps, Tally.addSteps]
    cases tally.addStep step with
    | error e => rfl
    | ok tally => exact ih

/-! ## The whole run -/

/-- The verdict of a course from a state with `rest` left of the input is that of the trace of
the rest, and an accepted course has produced what the trace has. -/
def Agrees (set : ScannerSet) (rest : Text) (s : State) (c : Course) : Prop :=
  let others := traceFrom set rest 0 s.tally.tokens.head? s.position
  c.verdict = .outcome (summary s.tally others) ∧
    ∀ tokens metrics, c.verdict = .outcome (.accepted tokens metrics) →
      c.produced = s.produced.reverse ++ others.produced

theorem stopped_agrees {set : ScannerSet} {front rest : Text} {s : State} {stop : Stop}
    (reached : Reached front s) (more : rest ≠ [])
    (taken : takeTokens true set rest s = .error stop) :
    Agrees set rest s ⟨[s], stop.verdict, stop.produced.reverse⟩ := by
  have step := take_tokens_step set rest reached
  split at step
  · next e refused =>
    obtain ⟨produced, failed⟩ := step
    rw [taken] at failed
    cases failed
    obtain ⟨others, first⟩ := trace_from_first set s.tally.tokens.head? s.position more
    refine ⟨?_, fun tokens metrics same => by cases same⟩
    dsimp only
    rw [summary, first, add_steps_append, refused]
  · next tally added =>
    dsimp only at step
    split at step
    · next ending ended =>
      rw [taken] at step
      cases step
      rw [Agrees, trace_from_stopped more ended]
      simp [summary, added, Trace.produced]
    · obtain ⟨_, covered, back, _, _, done⟩ := step
      rw [taken] at done
      cases done

theorem passed_agrees {set : ScannerSet} {input front rest : Text} {s after : State}
    (reached : Reached front s) (whole : input = front ++ rest)
    (offset : s.offset = byteSize front) (passed : pass true set input s = .ok after)
    (later : ∀ front back, input = front ++ back → after.offset = byteSize front →
      Reached front after → Agrees set back after (course true set input after)) :
    Agrees set rest s { course true set input after with
      passes := s :: (course true set input after).passes } := by
  have step := take_tokens_step set rest reached
  subst whole
  obtain ⟨_, _, _, failed⟩ | ⟨covered, back, _, rfl, filled, next, place, same⟩ :=
    pass_cases true set rest reached offset
  · rw [passed] at failed
    cases failed
  rw [passed] at same
  cases same
  rw [pass_eq true set _ offset] at passed
  split at passed
  · cases passed
  next consumed middle taken =>
  cases passed
  split at step
  · obtain ⟨produced, failed⟩ := step
    rw [taken] at failed
    cases failed
  next tally added =>
  dsimp only at step
  split at step
  · rw [taken] at step
    cases step
  next further passed =>
  obtain ⟨head, covered', back', split, length, done⟩ := step
  rw [taken] at done
  cases done
  simp only [byte_size_append, offset, Nat.add_left_cancel_iff] at place
  obtain ⟨rfl, rfl⟩ := cut_unique split place.symm
  obtain ⟨verdict, produced⟩ := later (front ++ covered) back (by simp) (by simp [offset]) next
  dsimp only at verdict produced
  rw [head] at verdict produced
  rw [Agrees, trace_from_passed filled length passed]
  constructor
  · dsimp only
    rw [verdict, summary, summary, add_steps_append, added]
  · intro tokens metrics accepted
    dsimp only
    rw [produced tokens metrics accepted]
    simp [Trace.produced]

theorem course_agrees (set : ScannerSet) (input : Text) (s : State) :
    ∀ front rest, input = front ++ rest → s.offset = byteSize front → Reached front s →
      Agrees set rest s (course true set input s) := by
  refine course_induction (motive := fun s c => ∀ front rest, input = front ++ rest →
    s.offset = byteSize front → Reached front s → Agrees set rest s c) ?_ ?_ ?_ s
  · intro s used front rest whole offset reached
    subst whole
    have done : rest = [] := by
      rw [byte_size_append] at used
      exact byte_size_eq_zero.mp (by omega)
    subst done
    simp only [Agrees, traceFrom, summary, Tally.addSteps, conclude, finish, Trace.produced,
      Bool.true_and, decide_eq_true_eq]
    split <;> simp
  · intro s stop left stopped front rest whole offset reached
    subst whole
    rw [pass_eq true set rest offset] at stopped
    split at stopped
    · next taken =>
      cases stopped
      refine stopped_agrees reached ?_ taken
      rintro rfl
      simp [offset] at left
    · cases stopped
  · intro s after left passed later front rest whole offset reached
    exact passed_agrees reached whole offset passed later

/-- The loop over byte offsets ends with the outcome of the run. -/
theorem run_verdict (set : ScannerSet) (input : Text) :
    (run true set input).verdict = .outcome (trace set input).outcome := by
  rw [outcome_eq_summary]
  exact (course_agrees set input .start [] input rfl rfl reached_start).1

/-- What an accepted loop has produced is what the steps of the run have. -/
theorem run_produced {set : ScannerSet} {input : Text} {tokens : List Token} {metrics : Metrics}
    (accepted : (trace set input).outcome = .accepted tokens metrics) :
    (run true set input).produced = (trace set input).produced := by
  have agrees := (course_agrees set input .start [] input rfl rfl reached_start).2 tokens metrics
  exact agrees (by rw [← accepted]; exact run_verdict set input)

end FormulaLexer.LoopAgreement
