import FormulaLexer.Proofs.Loop

/-! Counting the steps of a run. A step counts the tokens that it produced and the number of scanners tried
for it, and neither depends on the other. So the steps of a run count what their tokens count, all in
one, and the sum of the scanners tried. -/
namespace FormulaLexer.Counting
open Loop

/-- The number of scanners tried in some steps. -/
def attemptsOf (steps : List Step) : Nat := (steps.map Step.attempts).sum

theorem tried_tried (tally : Tally) (first second : Nat) :
    tried (tried tally first) second = tried tally (first + second) := by
  simp [tried, Nat.add_assoc]

/-! ## Tokens -/

theorem add_grouping_tried (tally : Tally) (attempts : Nat) (item : PlacedToken) :
    (tried tally attempts).addGrouping item = (tally.addGrouping item).map (tried · attempts) := by
  rw [Tally.addGrouping, Tally.addGrouping]
  split
  · rfl
  · split
    · rw [show (tried tally attempts).balance = tally.balance from rfl]
      split <;> rfl
    · rfl

theorem add_token_tried (tally : Tally) (attempts : Nat) (token : Token) :
    (tried tally attempts).addToken token = tried (tally.addToken token) attempts := by
  simp only [Tally.addToken, tried]
  split <;> rfl

/-- Counting tokens does not look at the number of scanners tried. -/
theorem add_all_tried (tally : Tally) (attempts : Nat) (items : List PlacedToken) :
    (tried tally attempts).addAll items = (tally.addAll items).map (tried · attempts) := by
  induction items generalizing tally with
  | nil => rfl
  | cons item items ih =>
    rw [Tally.addAll, Tally.addAll, Tally.add, Tally.add, add_grouping_tried]
    cases tally.addGrouping item with
    | error e => rfl
    | ok grouped =>
      simp only [Except.map, add_token_tried]
      exact ih _

theorem add_all_append (tally : Tally) (front back : List PlacedToken) :
    tally.addAll (front ++ back) = (tally.addAll front).bind fun tally => tally.addAll back := by
  induction front generalizing tally with
  | nil => rfl
  | cons item front ih =>
    rw [List.cons_append, Tally.addAll, Tally.addAll]
    cases tally.add item with
    | error e => rfl
    | ok counted => exact ih counted

/-! ## Steps -/

/-- Steps count their tokens and the scanners tried in them. -/
theorem add_steps_eq (tally : Tally) (steps : List Step) :
    tally.addSteps steps =
      (tally.addAll (steps.flatMap Step.produced)).map (tried · (attemptsOf steps)) := by
  induction steps generalizing tally with
  | nil => rfl
  | cons step steps ih =>
    have counted : tally.addStep step = (tally.addAll step.produced).map (tried · step.attempts) :=
      add_all_tried tally step.attempts step.produced
    rw [Tally.addSteps, counted, List.flatMap_cons, add_all_append]
    cases tally.addAll step.produced with
    | error e => rfl
    | ok middle =>
      simp only [Except.map, Except.bind, ih, add_all_tried]
      cases middle.addAll (steps.flatMap Step.produced) with
      | error e => rfl
      | ok after => simp [tried_tried, attemptsOf]

theorem add_steps_ok_iff {tally after : Tally} {steps : List Step} :
    tally.addSteps steps = .ok after ↔
      ∃ counted, tally.addAll (steps.flatMap Step.produced) = .ok counted ∧
        tried counted (attemptsOf steps) = after := by
  rw [add_steps_eq]
  cases tally.addAll (steps.flatMap Step.produced) <;> simp [Except.map]

theorem add_steps_error_iff {tally : Tally} {steps : List Step} {e : TokenizerError} :
    tally.addSteps steps = .error e ↔
      tally.addAll (steps.flatMap Step.produced) = .error e := by
  rw [add_steps_eq]
  cases tally.addAll (steps.flatMap Step.produced) <;> simp [Except.map]

/-- An accepted run returns what its tokens count, with no group open, and the number of scanners tried
in its steps. -/
theorem accepted_tally {t : Trace} {tokens : List Token} {metrics : Metrics}
    (accepted : t.outcome = .accepted tokens metrics) :
    ∃ tally, Tally.zero.addAll t.produced = .ok tally ∧ tally.balance = 0 ∧
      tokens = tally.tokens.reverse ∧ metrics = (tried tally (attemptsOf t.steps)).metrics := by
  rw [Trace.outcome] at accepted
  split at accepted
  · cases accepted
  · next tally added =>
    obtain ⟨plain, counted, rfl⟩ := add_steps_ok_iff.mp added
    split at accepted
    · cases accepted
    · cases accepted
    · split at accepted
      · cases accepted
      · next balanced =>
        cases accepted
        exact ⟨plain, counted, Nat.eq_zero_of_not_pos balanced, rfl, rfl⟩

end FormulaLexer.Counting
