import FormulaLexer.Proofs.Coverage

/-! Runs without positions. Which scanners win and what they make of a text depends on the text and
on the last significant token only, not on where the text stands in its source: a position can stop a
run at its bounds, and is shown in errors. The lexemes of a text are what a run over it produces,
wherever it begins, and the result of a run that accepts its input is counted from them. -/
namespace FormulaLexer.Lexemes
open Text TextCuts Progress Steps Counting Coverage

/-- What a step makes, wherever it is taken: the number of scanners tried, and the tokens. -/
structure Lexeme where
  attempts : Nat
  tokens : List Token

/-- A step without its positions. -/
def lexeme (step : Step) : Lexeme := ⟨step.attempts, step.produced.map PlacedToken.token⟩

/-- The last significant token behind more tokens. -/
def behind (previous : Option Token) (tokens : List Token) : Option Token :=
  tokens.foldl (fun previous token => if token.category = .whitespace then previous else some token)
    previous

theorem last_significant_eq (previous : Option Token) (placed : List PlacedToken) :
    lastSignificant previous placed = behind previous (placed.map PlacedToken.token) := by
  rw [lastSignificant, behind, List.foldl_map]

/-- The lexemes of a text behind a significant token, the whole text being used up. -/
inductive Lexes (set : ScannerSet) : Option Token → Text → List Lexeme → Prop where
  | done {previous : Option Token} : Lexes set previous [] []
  | more {previous : Option Token} {winner : ScannerEntry} {attempts : Nat} {tokens : List Token}
      {back : Text} {others : List Lexeme}
      (first : First set.entries (joined tokens ++ back) previous winner attempts)
      (scanned : winner.scanner.scan (joined tokens ++ back) previous = .ok (some tokens))
      (filled : zeroWidthCategory? winner.scanner.category tokens = none)
      (later : Lexes set (behind previous tokens) back others) :
      Lexes set previous (joined tokens ++ back) (⟨attempts, tokens⟩ :: others)

/-- The first lexeme is what the first scanner that takes the text makes of it. -/
theorem lexes_cons_iff {set : ScannerSet} {previous : Option Token} {attempts : Nat}
    {tokens : List Token} {back : Text} {others : List Lexeme} :
    Lexes set previous (joined tokens ++ back) (⟨attempts, tokens⟩ :: others) ↔
      ∃ winner, First set.entries (joined tokens ++ back) previous winner attempts ∧
        winner.scanner.scan (joined tokens ++ back) previous = .ok (some tokens) ∧
        zeroWidthCategory? winner.scanner.category tokens = none ∧
        Lexes set (behind previous tokens) back others := by
  constructor
  · intro lexes
    generalize whole : joined tokens ++ back = text at lexes
    cases lexes with
    | more first scanned filled later =>
      obtain rfl := List.append_cancel_left whole
      exact ⟨_, first, scanned, filled, later⟩
  · rintro ⟨winner, first, scanned, filled, later⟩
    exact .more first scanned filled later

/-! ## From runs to lexemes -/

/-- A run that comes to the end of a text has the lexemes of that text. -/
theorem lexes_of_complete {set : ScannerSet}
    (covering : ∀ entry ∈ set.entries, Covering entry.scanner) (rest : Text)
    (previous : Option Token) (position : Position)
    (complete : (traceFrom set rest 0 previous position).ending = .complete) :
    Lexes set previous rest ((traceFrom set rest 0 previous position).steps.map lexeme) := by
  revert complete
  refine trace_induction (motive := fun rest previous _ t => t.ending = .complete →
    Lexes set previous rest (t.steps.map lexeme)) ?_ ?_ ?_ rest previous position
  · intro previous position _
    exact .done
  · intro rest previous position ending _ stopped complete
    dsimp only at complete
    subst complete
    exact absurd stopped (step_not_complete set rest previous position)
  · intro covered back previous position further step others _ length passed taken _ later complete
    have whole := (step_covers covering length passed taken).1
    obtain ⟨winner, attempts, tokens, _, _, first, scanned, filled, same, placed, -⟩ :=
      step_passed passed
    rw [taken] at same
    cases same
    obtain ⟨_, _, -, -, -, -, produced⟩ := place_covers placed
    rw [produced] at whole
    have rest := later complete
    rw [last_significant_eq, produced] at rest
    subst whole
    simp only [List.map_cons, lexeme, produced]
    exact .more first scanned filled rest

/-! ## From lexemes to runs -/

/-- Tokens are laid over their own texts wherever the position can pass these. -/
theorem place_joined (tokens : List Token) (back : Text) {position reached : Position}
    (moves : position.advanceText? (joined tokens) = some reached) :
    (place tokens (joined tokens ++ back) position).outcome =
        .ok ⟨(joined tokens).length, reached⟩ ∧
      (place tokens (joined tokens ++ back) position).placed.map PlacedToken.token = tokens := by
  induction tokens generalizing position with
  | nil =>
    cases moves
    exact ⟨rfl, rfl⟩
  | cons token tokens ih =>
    rw [joined_cons] at moves ⊢
    obtain ⟨middle, first, later⟩ := advance_text_parts moves
    obtain ⟨outcome, placed⟩ := ih later
    rw [List.append_assoc, place, split_at_end]
    dsimp only
    rw [first]
    dsimp only
    rw [outcome, List.map_cons, placed, List.length_append]
    exact ⟨rfl, rfl⟩

/-- From every position that can pass a text there is a run over it with its lexemes. -/
theorem trace_of_lexes {set : ScannerSet} {previous : Option Token} {rest : Text}
    {lexemes : List Lexeme} (lexes : Lexes set previous rest lexemes) {position reached : Position}
    (moves : position.advanceText? rest = some reached) :
    (traceFrom set rest 0 previous position).ending = .complete ∧
      (traceFrom set rest 0 previous position).steps.map lexeme = lexemes := by
  induction lexes generalizing position with
  | done => exact ⟨rfl, rfl⟩
  | @more previous winner attempts tokens back others first scanned filled later ih =>
    obtain ⟨middle, moved, moves⟩ := advance_text_parts moves
    obtain ⟨outcome, placed⟩ := place_joined tokens back moved
    have step : takeStep set (joined tokens ++ back) previous position =
        ⟨some ⟨winner.key, attempts, (place tokens (joined tokens ++ back) position).placed⟩,
          .ok ⟨(joined tokens).length, middle⟩⟩ := by
      simp only [takeStep, first.accepts scanned, filled, outcome]
    have passed : (takeStep set (joined tokens ++ back) previous position).outcome =
        .ok ⟨(joined tokens).length, middle⟩ := by rw [step]
    have more : joined tokens ≠ [] := by
      obtain ⟨made, texts⟩ := Loop.nonempty_of_no_zero_width filled
      obtain ⟨token, others, rfl⟩ := List.exists_cons_of_ne_nil made
      rw [joined_cons]
      exact List.append_ne_nil_of_left_ne_nil (texts token (by simp)) _
    have trace := trace_from_passed more rfl passed
    rw [step] at trace
    simp only [Option.toList_some, List.flatMap_cons, List.flatMap_nil, List.append_nil,
      last_significant_eq, placed] at trace
    obtain ⟨complete, same⟩ := ih moves
    rw [trace]
    refine ⟨complete, ?_⟩
    rw [List.singleton_append, List.map_cons, same, lexeme, placed]

/-! ## Counting -/

/-- Two tokens that count the same: blanks are dropped, whatever they are. -/
def CountsAs (a b : Token) : Prop :=
  a = b ∨ a.category = .whitespace ∧ b.category = .whitespace

/-- Two lexemes that count the same. -/
def Alike (a b : Lexeme) : Prop :=
  a.attempts = b.attempts ∧ List.Forall₂ CountsAs a.tokens b.tokens

theorem alike_refl (lexemes : List Lexeme) : List.Forall₂ Alike lexemes lexemes :=
  List.forall₂_same.mpr fun _ _ => ⟨rfl, List.forall₂_same.mpr fun _ _ => .inl rfl⟩

/-- A blank is dropped and counted. -/
theorem add_blank (tally : Tally) {item : PlacedToken} (blank : item.token.category = .whitespace) :
    tally.add item = .ok (tally.addToken ⟨.whitespace, .null, none⟩) := by
  simp [Tally.add, Tally.addGrouping, Token.isGrouping, Tally.addToken, blank]

/-- Where a token stands matters to a group only if it closes one that is not open. -/
theorem add_grouping_moved {tally after : Tally} {item other : PlacedToken}
    (same : item.token = other.token) (added : tally.addGrouping item = .ok after) :
    tally.addGrouping other = .ok after := by
  rw [Tally.addGrouping, same] at added
  rw [Tally.addGrouping]
  split at added
  · next opens => rwa [if_pos opens]
  · next other =>
    rw [if_neg other]
    split at added
    · next closes =>
      rw [if_pos closes]
      split at added
      · cases added
      · next left => rwa [if_neg left]
    · next plain => rwa [if_neg plain]

theorem add_alike {tally after : Tally} {item other : PlacedToken}
    (same : CountsAs item.token other.token) (added : tally.add item = .ok after) :
    tally.add other = .ok after := by
  rcases same with same | ⟨blank, blank'⟩
  · rw [Tally.add] at added ⊢
    split at added
    · next grouped =>
      rw [add_grouping_moved same grouped, ← same]
      exact added
    · cases added
  · rw [add_blank tally blank] at added
    rw [add_blank tally blank', added]

theorem add_all_alike {tally after : Tally} {items others : List PlacedToken}
    (alike : List.Forall₂ CountsAs (items.map PlacedToken.token) (others.map PlacedToken.token))
    (added : tally.addAll items = .ok after) : tally.addAll others = .ok after := by
  rw [List.forall₂_map_left_iff, List.forall₂_map_right_iff] at alike
  induction alike generalizing tally with
  | nil => exact added
  | @cons item other items others same _ ih =>
    rw [Tally.addAll] at added ⊢
    cases first : tally.add item with
    | error e =>
      rw [first] at added
      cases added
    | ok middle =>
      rw [first] at added
      rw [add_alike same first]
      exact ih added

/-- Lexemes that count the same are those of steps that count the same. -/
theorem steps_alike {steps others : List Step}
    (alike : List.Forall₂ Alike (steps.map lexeme) (others.map lexeme)) :
    List.Forall₂ CountsAs ((steps.flatMap Step.produced).map PlacedToken.token)
        ((others.flatMap Step.produced).map PlacedToken.token) ∧
      attemptsOf steps = attemptsOf others := by
  rw [List.forall₂_map_left_iff, List.forall₂_map_right_iff] at alike
  induction alike with
  | nil => exact ⟨.nil, rfl⟩
  | @cons step other steps others same _ ih =>
    obtain ⟨attempts, tokens⟩ := same
    simp only [attemptsOf, List.map_cons, List.sum_cons, List.flatMap_cons, List.map_append] at ih ⊢
    exact ⟨List.rel_append tokens ih.1, congrArg₂ (· + ·) attempts ih.2⟩

theorem add_steps_alike {tally after : Tally} {steps others : List Step}
    (alike : List.Forall₂ Alike (steps.map lexeme) (others.map lexeme))
    (added : tally.addSteps steps = .ok after) : tally.addSteps others = .ok after := by
  obtain ⟨counted, tokens, rfl⟩ := add_steps_ok_iff.mp added
  obtain ⟨produced, attempts⟩ := steps_alike alike
  exact add_steps_ok_iff.mpr ⟨counted, add_all_alike produced tokens, by rw [attempts]⟩

/-- A run whose lexemes count the same as those of an accepted run is accepted with the same result,
if its input is short enough for positions. -/
theorem accepted_alike {t : Tokenizer} {input other : Text} {tokens : List Token}
    {metrics : Metrics} {lexemes : List Lexeme}
    (accepted : t.run input = .accepted tokens metrics) (lexes : Lexes t.scanners none other lexemes)
    (alike : List.Forall₂ Alike ((trace t.scanners input).steps.map lexeme) lexemes)
    (short : other.length ≤ 2 ^ 32 - 2) : t.run other = .accepted tokens metrics := by
  have bound : Position.counterBound = 2 ^ 32 := rfl
  obtain ⟨complete, same⟩ := trace_of_lexes lexes (advance_from_start (by omega))
  have ended := complete_of_accepted accepted
  rw [← same] at alike
  rw [Tokenizer.run, Trace.outcome] at accepted ⊢
  cases counted : Tally.zero.addSteps (trace t.scanners input).steps with
  | error e =>
    rw [counted] at accepted
    cases accepted
  | ok tally =>
    rw [show Tally.zero.addSteps (trace t.scanners other).steps = _ from
      add_steps_alike alike counted, show (trace t.scanners other).ending = _ from complete]
    rw [counted, ended] at accepted
    exact accepted

end FormulaLexer.Lexemes
