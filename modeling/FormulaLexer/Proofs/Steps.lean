import FormulaLexer.Tokenizer.Trace
import FormulaLexer.Proofs.Progress

/-! What a step of a run does. The scanner that wins is the first of the set that does not pass the
remaining text by, the tokens are laid over a part of that text, and the trace goes on with what
is left of it. -/
namespace FormulaLexer.Steps
open Text TextCuts Progress

/-! ## The scanner that wins -/

/-- The first scanner that does not pass a text by, with those in front of it that do. -/
structure First (entries : List ScannerEntry) (remaining : Text) (previous : Option Token)
    (winner : ScannerEntry) (attempts : Nat) : Prop where
  split : ∃ front back, entries = front ++ winner :: back ∧ attempts = front.length + 1 ∧
    ∀ entry ∈ front, entry.scanner.scan remaining previous = .ok none

theorem First.mem {entries : List ScannerEntry} {remaining : Text} {previous : Option Token}
    {winner : ScannerEntry} {attempts : Nat}
    (first : First entries remaining previous winner attempts) : winner ∈ entries := by
  obtain ⟨front, back, rfl, -⟩ := first.split
  simp

/-- The number of scanners tried tells which one has won. -/
theorem First.get {entries : List ScannerEntry} {remaining : Text} {previous : Option Token}
    {winner : ScannerEntry} {attempts : Nat}
    (first : First entries remaining previous winner attempts) :
    entries[attempts - 1]? = some winner := by
  obtain ⟨front, back, rfl, rfl, -⟩ := first.split
  simp

/-- Scanners that pass a text by leave it to those behind them. -/
theorem accept_first_skip {remaining : Text} {previous : Option Token}
    {front back : List ScannerEntry} (tried : Nat)
    (passes : ∀ entry ∈ front, entry.scanner.scan remaining previous = .ok none) :
    acceptFirst remaining previous tried (front ++ back) =
      acceptFirst remaining previous (tried + front.length) back := by
  induction front generalizing tried with
  | nil => rfl
  | cons entry front ih =>
    rw [List.cons_append, acceptFirst, passes entry (by simp)]
    dsimp only
    rw [ih (tried + 1) fun other member => passes other (by simp [member]), List.length_cons,
      Nat.add_assoc, Nat.add_comm 1]

/-- Tokens of the first scanner that does not pass a text by are accepted. -/
theorem First.accepts {entries : List ScannerEntry} {remaining : Text} {previous : Option Token}
    {winner : ScannerEntry} {attempts : Nat} {tokens : List Token}
    (first : First entries remaining previous winner attempts)
    (scanned : winner.scanner.scan remaining previous = .ok (some tokens)) :
    acceptFirst remaining previous 0 entries =
      .accepted winner.key attempts winner.scanner.category tokens := by
  obtain ⟨front, back, rfl, rfl, passes⟩ := first.split
  rw [accept_first_skip 0 passes, acceptFirst, scanned, Nat.zero_add]

/-- Either all scanners pass a text by, or the first one that does not decides. -/
theorem accept_first_cases (entries : List ScannerEntry) (remaining : Text)
    (previous : Option Token) :
    (acceptFirst remaining previous 0 entries = .unmatched ∧
      ∀ entry ∈ entries, entry.scanner.scan remaining previous = .ok none) ∨
    ∃ winner attempts, First entries remaining previous winner attempts ∧
      ((∃ e, winner.scanner.scan remaining previous = .error e ∧
          acceptFirst remaining previous 0 entries = .refused e) ∨
        ∃ tokens, winner.scanner.scan remaining previous = .ok (some tokens) ∧
          acceptFirst remaining previous 0 entries =
            .accepted winner.key attempts winner.scanner.category tokens) := by
  suffices general : ∀ front back, entries = front ++ back →
      (∀ entry ∈ front, entry.scanner.scan remaining previous = .ok none) →
      (acceptFirst remaining previous front.length back = .unmatched ∧
        ∀ entry ∈ entries, entry.scanner.scan remaining previous = .ok none) ∨
      ∃ winner attempts, First entries remaining previous winner attempts ∧
        ((∃ e, winner.scanner.scan remaining previous = .error e ∧
            acceptFirst remaining previous front.length back = .refused e) ∨
          ∃ tokens, winner.scanner.scan remaining previous = .ok (some tokens) ∧
            acceptFirst remaining previous front.length back =
              .accepted winner.key attempts winner.scanner.category tokens) by
    exact general [] entries rfl (by simp)
  intro front back whole passes
  induction back generalizing front with
  | nil =>
    refine .inl ⟨rfl, ?_⟩
    rw [whole, List.append_nil]
    exact passes
  | cons entry back ih =>
    rw [acceptFirst]
    cases scanned : entry.scanner.scan remaining previous with
    | error e =>
      exact .inr ⟨entry, _, ⟨front, back, whole, rfl, passes⟩, .inl ⟨e, scanned, rfl⟩⟩
    | ok result =>
      cases result with
      | none =>
        have later := ih (front ++ [entry]) (by simp [whole]) (by
          intro other member
          rcases List.mem_append.mp member with member | member
          · exact passes other member
          · rw [List.mem_singleton.mp member, scanned])
        simpa using later
      | some tokens =>
        exact .inr ⟨entry, _, ⟨front, back, whole, rfl, passes⟩, .inr ⟨tokens, scanned, rfl⟩⟩

/-! ## Laying tokens -/

/-- Tokens that are laid down cover a part of the text of their size. -/
theorem place_covers {tokens : List Token} {remaining : Text} {position : Position}
    {further : Advance} (placed : (place tokens remaining position).outcome = .ok further) :
    ∃ covered back, remaining = covered ++ back ∧ covered.length = further.covered ∧
      byteSize covered = (tokens.map fun token => byteSize token.text).sum ∧
      position.advanceText? covered = some further.reached ∧
      (place tokens remaining position).placed.map PlacedToken.token = tokens := by
  induction tokens generalizing remaining position further with
  | nil =>
    cases placed
    exact ⟨[], remaining, rfl, rfl, rfl, rfl, rfl⟩
  | cons token tokens ih =>
    rw [place] at placed ⊢
    split at placed
    · cases placed
    · next covered rest cut =>
      obtain ⟨rfl, size⟩ := split_exact cut
      split at placed
      · cases placed
      · next reached moves =>
        cases inner : (place tokens rest reached).outcome with
        | error ending => simp [inner, Except.map] at placed
        | ok others =>
          simp only [inner, Except.map, Except.ok.injEq] at placed
          subst placed
          obtain ⟨more, back, rfl, length, sizes, further, same⟩ := ih inner
          refine ⟨covered ++ more, back, by simp, by simp [length], ?_, ?_, ?_⟩
          · simp [size, sizes]
          · rw [advance_text_append moves, further]
          · simp [same]

/-! ## One step and the rest of the trace -/

/-- A step that goes on has a winner whose tokens cover a part of the text that is not empty. -/
theorem step_passed {set : ScannerSet} {remaining : Text} {previous : Option Token}
    {position : Position} {further : Advance}
    (passed : (takeStep set remaining previous position).outcome = .ok further) :
    ∃ winner attempts tokens covered back,
      First set.entries remaining previous winner attempts ∧
      winner.scanner.scan remaining previous = .ok (some tokens) ∧
      zeroWidthCategory? winner.scanner.category tokens = none ∧
      (takeStep set remaining previous position).step =
        some ⟨winner.key, attempts, (place tokens remaining position).placed⟩ ∧
      (place tokens remaining position).outcome = .ok further ∧
      remaining = covered ++ back ∧ covered ≠ [] ∧ covered.length = further.covered ∧
      position.advanceText? covered = some further.reached := by
  obtain ⟨unmatched, -⟩ | ⟨winner, attempts, first, ⟨e, -, refused⟩ | ⟨tokens, scanned, accepted⟩⟩ :=
    accept_first_cases set.entries remaining previous
  · simp [takeStep, unmatched] at passed
  · simp [takeStep, refused] at passed
  cases checked : zeroWidthCategory? winner.scanner.category tokens with
  | some category => simp [takeStep, accepted, checked] at passed
  | none =>
    simp only [takeStep, accepted, checked] at passed ⊢
    obtain ⟨covered, back, whole, length, size, moves, -⟩ := place_covers passed
    refine ⟨winner, attempts, tokens, covered, back, first, scanned, checked, rfl, passed, whole, ?_,
      length, moves⟩
    rintro rfl
    cases tokens with
    | nil => simp [zeroWidthCategory?] at checked
    | cons token tokens =>
      have empty : token.text = [] := by
        simp only [byte_size_nil, List.map_cons, List.sum_cons] at size
        exact byte_size_eq_zero.mp (by omega)
      simp [zeroWidthCategory?, Token.isEmpty, empty] at checked

/-- The tokens of a step are what is laid down of those that its winner makes. -/
theorem step_scanned {set : ScannerSet} {remaining : Text} {previous : Option Token}
    {position : Position} {step : Step}
    (taken : (takeStep set remaining previous position).step = some step) :
    ∃ winner attempts tokens, First set.entries remaining previous winner attempts ∧
      winner.scanner.scan remaining previous = .ok (some tokens) ∧
      step = ⟨winner.key, attempts, (place tokens remaining position).placed⟩ ∧
      (takeStep set remaining previous position).outcome =
        (place tokens remaining position).outcome := by
  obtain ⟨unmatched, -⟩ | ⟨winner, attempts, first, ⟨e, -, refused⟩ | ⟨tokens, scanned, accepted⟩⟩ :=
    accept_first_cases set.entries remaining previous
  · simp [takeStep, unmatched] at taken
  · simp [takeStep, refused] at taken
  cases checked : zeroWidthCategory? winner.scanner.category tokens with
  | some category => simp [takeStep, accepted, checked] at taken
  | none =>
    simp only [takeStep, accepted, checked, Option.some.injEq] at taken ⊢
    exact ⟨winner, attempts, tokens, first, scanned, taken.symm, rfl⟩

/-- The trace passes over the characters of a step that has been taken. -/
theorem trace_from_owed (set : ScannerSet) (covered rest : Text) (previous : Option Token)
    (position : Position) :
    traceFrom set (covered ++ rest) covered.length previous position =
      traceFrom set rest 0 previous position := by
  induction covered with
  | nil => rfl
  | cons c covered ih => rw [List.cons_append, List.length_cons, traceFrom, ih]

theorem trace_from_stopped {set : ScannerSet} {rest : Text} {previous : Option Token}
    {position : Position} {ending : Ending} (more : rest ≠ [])
    (ended : (takeStep set rest previous position).outcome = .error ending) :
    traceFrom set rest 0 previous position =
      ⟨(takeStep set rest previous position).step.toList, ending⟩ := by
  obtain ⟨c, tail, rfl⟩ := List.exists_cons_of_ne_nil more
  simp only [traceFrom, ended]

/-- Whatever comes behind it, a trace begins with its first step. -/
theorem trace_from_first (set : ScannerSet) {rest : Text} (previous : Option Token)
    (position : Position) (more : rest ≠ []) :
    ∃ others, (traceFrom set rest 0 previous position).steps =
      (takeStep set rest previous position).step.toList ++ others := by
  obtain ⟨c, tail, rfl⟩ := List.exists_cons_of_ne_nil more
  rw [traceFrom]
  dsimp only
  split
  · exact ⟨[], by simp⟩
  · exact ⟨_, rfl⟩

/-- Behind a step the trace goes on with what the step has left. -/
theorem trace_from_passed {set : ScannerSet} {covered back : Text} {previous : Option Token}
    {position : Position} {further : Advance} (filled : covered ≠ [])
    (length : covered.length = further.covered)
    (passed : (takeStep set (covered ++ back) previous position).outcome = .ok further) :
    let step := (takeStep set (covered ++ back) previous position).step.toList
    let others := traceFrom set back 0
      (lastSignificant previous (step.flatMap Step.produced)) further.reached
    traceFrom set (covered ++ back) 0 previous position = ⟨step ++ others.steps, others.ending⟩ := by
  obtain ⟨c, tail, rfl⟩ := List.exists_cons_of_ne_nil filled
  have owed : further.covered - 1 = tail.length := by
    rw [← length, List.length_cons, Nat.add_sub_cancel]
  rw [List.cons_append] at passed ⊢
  simp only [traceFrom, passed, owed, trace_from_owed]

/-- A property of what is left of a run, and of the trace of it, that holds where the run ends and
is kept by every step in front of it. -/
theorem trace_induction {set : ScannerSet}
    {motive : Text → Option Token → Position → Trace → Prop}
    (finished : ∀ previous position, motive [] previous position ⟨[], .complete⟩)
    (stopped : ∀ rest previous position ending, rest ≠ [] →
      (takeStep set rest previous position).outcome = .error ending →
      motive rest previous position
        ⟨(takeStep set rest previous position).step.toList, ending⟩)
    (passed : ∀ covered back previous position further step others, covered ≠ [] →
      covered.length = further.covered →
      (takeStep set (covered ++ back) previous position).outcome = .ok further →
      (takeStep set (covered ++ back) previous position).step = some step →
      others = traceFrom set back 0 (lastSignificant previous step.produced) further.reached →
      motive back (lastSignificant previous step.produced) further.reached others →
      motive (covered ++ back) previous position ⟨step :: others.steps, others.ending⟩)
    (rest : Text) (previous : Option Token) (position : Position) :
    motive rest previous position (traceFrom set rest 0 previous position) := by
  induction size : rest.length using Nat.strongRecOn generalizing rest previous position with
  | ind left ih =>
    by_cases used : rest = []
    · subst used
      exact finished previous position
    · cases outcome : (takeStep set rest previous position).outcome with
      | error ending =>
        rw [trace_from_stopped used outcome]
        exact stopped rest previous position ending used outcome
      | ok further =>
        obtain ⟨_, _, _, covered, back, -, -, -, step, -, rfl, filled, length, -⟩ :=
          step_passed outcome
        rw [trace_from_passed filled length outcome]
        have shorter : back.length < left := by
          have positive := List.length_pos_iff.mpr filled
          rw [← size, List.length_append]
          omega
        have whole := passed covered back previous position further _ _ filled length outcome step
          rfl (ih back.length shorter back _ _ rfl)
        simpa [step] using whole

end FormulaLexer.Steps
