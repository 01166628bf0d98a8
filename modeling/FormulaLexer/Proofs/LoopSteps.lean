import FormulaLexer.Proofs.Loop
import FormulaLexer.Proofs.Progress

/-! What a pass of the loop does. A state that has come over a part of the input keeps six facts
about that part; with them every slice of the next pass falls between two characters and the
counter of open groups stays within its bound, so that no pass can break down. -/
namespace FormulaLexer.LoopSteps
open Text TextCuts Progress Loop

/-- Whether a token is returned. All tokens are but blanks. -/
def significant (token : Token) : Bool := token.category ≠ .whitespace

/-- What holds of a state that has come over `text`: its position lies behind that text, every
group that is open and every token that was produced took at least one character of it, the
tokens cover its bytes, all of them have been counted as returned or dropped, and those to return
are the ones that are no blanks. -/
structure Reached (text : Text) (s : State) : Prop where
  position : Position.start.advanceText? text = some s.position
  balance : s.tally.balance ≤ text.length
  produced : s.produced.length ≤ text.length
  bytes : (s.produced.map fun item => byteSize item.token.text).sum = byteSize text
  counted : s.tally.metrics.totalTokens + s.tally.metrics.whitespaceSkipped = s.produced.length
  kept : s.tally.tokens = (s.produced.map PlacedToken.token).filter significant

theorem reached_start : Reached [] .start := ⟨rfl, Nat.le_refl _, Nat.le_refl _, rfl, rfl, rfl⟩

/-! ## Errors -/

/-- The cut that shortens a text never fails. -/
theorem snippet_eq (remaining : Text) :
    snippet? remaining = some (Text.abbreviate TokenizerError.snippetLimit remaining) := by
  rw [snippet?, Text.abbreviate]
  split
  · rfl
  · have cut := split_at_end (remaining.take TokenizerError.snippetLimit)
      (remaining.drop TokenizerError.snippetLimit)
    rw [List.take_append_drop] at cut
    simp [cut]

theorem refuse_eq (remaining : Text) (position : Position) (detail : Option Text) :
    refuse remaining position detail =
      .outcome (.rejected (.parseAt remaining position detail)) := by
  rw [refuse, snippet_eq, TokenizerError.parseAt]

/-! ## One token -/

/-- The counter of open groups never leaves its bounds. -/
theorem count_eq {text : Text} {s : State} (reached : Reached text s) (item : PlacedToken) :
    count true s.tally item =
      match s.tally.addGrouping item with
      | .ok tally => .ok tally
      | .error e => .error (.outcome (.rejected e)) := by
  have room := length_lt_of_in_bounds reached.position
  have bound : balanceBound = 2 ^ 64 := rfl
  have groups := reached.balance
  have raised : raise? s.tally.balance = some (s.tally.balance + 1) := by
    rw [raise?, if_pos (by omega)]
  rw [count, Tally.addGrouping, raised]
  by_cases opens : item.token.isGrouping .opening
  · simp [opens]
  by_cases closes : item.token.isGrouping .closing
  · cases balance : s.tally.balance with
    | zero => simp [opens, closes]
    | succ groups => simp [opens, closes, lower?]
  · simp [opens, closes]

/-- Opening and closing groups leaves all but the counter and the deepest nesting alone. -/
theorem add_grouping_frame {tally after : Tally} {item : PlacedToken}
    (added : tally.addGrouping item = .ok after) :
    after = ⟨tally.tokens, after.balance,
        { tally.metrics with maxNesting := after.metrics.maxNesting }⟩ ∧
      after.balance ≤ tally.balance + 1 := by
  rw [Tally.addGrouping] at added
  split at added
  · cases added
    exact ⟨rfl, Nat.le_refl _⟩
  · split at added
    · split at added
      · cases added
      · cases added
        exact ⟨rfl, Nat.le_succ_of_le (Nat.sub_le _ _)⟩
    · cases added
      exact ⟨rfl, Nat.le_succ _⟩

/-- The only error in counting is a mark without a partner. -/
theorem add_grouping_error {tally : Tally} {item : PlacedToken} {e : TokenizerError}
    (failed : tally.addGrouping item = .error e) : e = .tooManyClosing item.start := by
  rw [Tally.addGrouping] at failed
  split at failed
  · cases failed
  · split at failed
    · split at failed
      · cases failed
        rfl
      · cases failed
    · cases failed

theorem count_frame {text : Text} {counting : Bool} {s : State} {after : Tally} {item : PlacedToken}
    (reached : Reached text s) (counted : count counting s.tally item = .ok after) :
    after = ⟨s.tally.tokens, after.balance,
        { s.tally.metrics with maxNesting := after.metrics.maxNesting }⟩ ∧
      after.balance ≤ s.tally.balance + 1 := by
  cases counting with
  | false =>
    cases counted
    exact ⟨rfl, Nat.le_succ _⟩
  | true =>
    rw [count_eq reached] at counted
    split at counted
    · next added =>
      cases counted
      exact add_grouping_frame added
    · cases counted

/-- Behind a part of the rest that is covered, laying a token cuts what is left of it. -/
theorem lay_token_eq (counting : Bool) (front rest : Text) (token : Token) (s : State) :
    layToken counting (front ++ rest) token (byteSize front) s =
      match splitAtByte? (byteSize token.text) rest with
      | none =>
        .error ⟨.outcome (.rejected (.parseAt rest s.position (some (misaligned token)))),
          s.produced⟩
      | some (covered, _) =>
        match count counting s.tally ⟨token, s.position⟩ with
        | .error verdict => .error ⟨verdict, ⟨token, s.position⟩ :: s.produced⟩
        | .ok tally =>
          match s.position.advanceText? covered with
          | none => .error ⟨.outcome .overflowed, ⟨token, s.position⟩ :: s.produced⟩
          | some reached =>
            .ok (byteSize front + byteSize token.text,
              ⟨s.offset, reached, tally.addToken token, ⟨token, s.position⟩ :: s.produced⟩) := by
  rw [layToken]
  dsimp only
  rw [slice_behind, split_at_end]
  cases splitAtByte? (byteSize token.text) rest with
  | none => simp only [Option.map_none, refuse_eq]
  | some parts => rfl

/-- A token is returned or dropped, and groups are left alone. -/
theorem add_token_counts (tally : Tally) (token : Token) :
    (tally.addToken token).balance = tally.balance ∧
      (tally.addToken token).metrics.totalTokens +
          (tally.addToken token).metrics.whitespaceSkipped =
        tally.metrics.totalTokens + tally.metrics.whitespaceSkipped + 1 ∧
      (tally.addToken token).tokens = [token].filter significant ++ tally.tokens := by
  rw [Tally.addToken]
  split
  · next blank =>
    refine ⟨rfl, rfl, ?_⟩
    simp [significant, blank]
  · next visible =>
    refine ⟨rfl, ?_, ?_⟩
    · simp only [Metrics.countToken]
      omega
    · simp [significant, visible]

/-- A token with text keeps the facts about the part that has been passed. -/
theorem Reached.token {text covered : Text} {s : State} {token : Token} {counting : Bool}
    {tally : Tally} {position : Position} (reached : Reached text s) (filled : token.text ≠ [])
    (size : byteSize covered = byteSize token.text)
    (counted : count counting s.tally ⟨token, s.position⟩ = .ok tally)
    (moves : s.position.advanceText? covered = some position) :
    Reached (text ++ covered)
      ⟨s.offset, position, tally.addToken token, ⟨token, s.position⟩ :: s.produced⟩ := by
  obtain ⟨frame, groups⟩ := count_frame reached counted
  obtain ⟨balance, totals, kept⟩ := add_token_counts tally token
  have present : 0 < covered.length := by
    have positive := byte_size_pos.mpr filled
    rw [← size, byte_size_pos] at positive
    exact List.length_pos_iff.mpr positive
  refine ⟨?_, ?_, ?_, ?_, ?_, ?_⟩
  · rw [advance_text_append reached.position, moves]
  · have earlier := reached.balance
    simp only [balance, List.length_append]
    omega
  · have earlier := reached.produced
    simp only [List.length_cons, List.length_append]
    omega
  · have earlier := reached.bytes
    simp only [List.map_cons, List.sum_cons, byte_size_append]
    omega
  · have earlier := reached.counted
    have same : tally.metrics.totalTokens + tally.metrics.whitespaceSkipped =
        s.tally.metrics.totalTokens + s.tally.metrics.whitespaceSkipped := by
      rw [frame]
    simp only [List.length_cons]
    omega
  · have earlier : tally.tokens = s.tally.tokens := by rw [frame]
    rw [kept, earlier, reached.kept, ← List.filter_append]
    rfl

/-! ## One pass -/

/-- A position behind some part of the input. -/
def Located (input : Text) (position : Position) : Prop :=
  ∃ front back, input = front ++ back ∧ Position.start.advanceText? front = some position

/-- The outcomes with which a pass can stop: an input with too many characters for the counters,
or an error that lies within the input. -/
inductive Refusal (input : Text) : Outcome → Prop where
  | overflowed (long : Position.counterBound ≤ input.length + 1) : Refusal input .overflowed
  | rejected {e : TokenizerError}
      (place : ∀ position, e.position? = some position → Located input position) :
      Refusal input (.rejected e)

/-- An error behind the part that has been passed. -/
theorem Reached.refusal {text rest : Text} {s : State} {e : TokenizerError}
    (reached : Reached text s) (position : e.position? = some s.position) :
    Refusal (text ++ rest) (.rejected e) := by
  refine .rejected fun other same => ?_
  rw [position] at same
  cases same
  exact ⟨text, rest, rfl, reached.position⟩

/-- Only a long input stops a position. -/
theorem Reached.overflow {text covered back : Text} {s : State} (reached : Reached text s)
    (stops : s.position.advanceText? covered = none) :
    Refusal (text ++ (covered ++ back)) .overflowed := by
  refine .overflowed (Nat.le_of_not_lt fun short => ?_)
  have bound : (text ++ covered).length + 1 < Position.counterBound := by
    simp only [List.length_append] at short ⊢
    omega
  have moves := advance_from_start bound
  rw [advance_text_append reached.position, stops] at moves
  cases moves

/-- Tokens with text are laid without a breakdown, and over a part of the rest that begins where
the covered part ends. -/
theorem lay_tokens_cases (counting : Bool) (front rest : Text) {text : Text} {tokens : List Token}
    {s : State} (reached : Reached text s) (filled : ∀ token ∈ tokens, token.text ≠ []) :
    (∃ outcome produced, Refusal (text ++ rest) outcome ∧
      layTokens counting (front ++ rest) tokens (byteSize front) s =
        .error ⟨.outcome outcome, produced⟩) ∨
    ∃ covered back after, rest = covered ++ back ∧ Reached (text ++ covered) after ∧
      layTokens counting (front ++ rest) tokens (byteSize front) s =
        .ok (byteSize (front ++ covered), after) := by
  induction tokens generalizing text front rest s with
  | nil => exact .inr ⟨[], rest, s, rfl, by simpa using reached, by simp [layTokens]⟩
  | cons token tokens ih =>
    rw [layTokens, lay_token_eq]
    cases cut : splitAtByte? (byteSize token.text) rest with
    | none => exact .inl ⟨_, _, reached.refusal rfl, rfl⟩
    | some parts =>
      obtain ⟨covered, back⟩ := parts
      obtain ⟨rfl, size⟩ := split_exact cut
      dsimp only
      cases counted : count counting s.tally ⟨token, s.position⟩ with
      | error verdict =>
        cases counting with
        | false => simp [count] at counted
        | true =>
          rw [count_eq reached] at counted
          split at counted
          · cases counted
          · next failed =>
            cases counted
            cases add_grouping_error failed
            exact .inl ⟨_, _, reached.refusal rfl, rfl⟩
      | ok tally =>
        cases moves : s.position.advanceText? covered with
        | none => exact .inl ⟨_, _, reached.overflow moves, rfl⟩
        | some position =>
          have next := reached.token (filled token (by simp)) size counted moves
          have laid := ih (front ++ covered) back next
            fun other member => filled other (by simp [member])
          simp only [byte_size_append, List.append_assoc, size] at laid ⊢
          obtain ⟨outcome, produced, refusal, failed⟩ | ⟨more, left, after, rfl, further, done⟩ :=
            laid
          · exact .inl ⟨outcome, produced, refusal, failed⟩
          · exact .inr ⟨covered ++ more, left, after, by simp, further, by
              simpa [size, Nat.add_assoc] using done⟩

theorem Reached.tried {text : Text} {s : State} (reached : Reached text s) (attempts : Nat) :
    Reached text { s with tally := tried s.tally attempts } :=
  ⟨reached.position, reached.balance, reached.produced, reached.bytes, reached.counted,
    reached.kept⟩

theorem Reached.offset {text : Text} {s : State} (reached : Reached text s) (offset : Nat) :
    Reached text { s with offset } :=
  ⟨reached.position, reached.balance, reached.produced, reached.bytes, reached.counted,
    reached.kept⟩

theorem take_tokens_cases (counting : Bool) (set : ScannerSet) (rest : Text) {text : Text} {s : State}
    (reached : Reached text s) :
    (∃ outcome produced, Refusal (text ++ rest) outcome ∧
      takeTokens counting set rest s = .error ⟨.outcome outcome, produced⟩) ∨
    ∃ covered back after, rest = covered ++ back ∧ Reached (text ++ covered) after ∧
      takeTokens counting set rest s = .ok (byteSize covered, after) := by
  rw [takeTokens]
  split
  · exact .inl ⟨_, _, reached.refusal rfl, by rw [refuse_eq]⟩
  · exact .inl ⟨_, _, reached.refusal rfl, by rw [refuse_eq]⟩
  · next attempts category tokens _ =>
    split
    · exact .inl ⟨_, _, reached.refusal rfl, rfl⟩
    · next checked =>
      have filled := (nonempty_of_no_zero_width checked).2
      simpa using lay_tokens_cases counting [] rest (reached.tried attempts) filled

/-- From a place between two characters, a pass takes tokens from what is behind that place. -/
theorem pass_eq (counting : Bool) (set : ScannerSet) (rest : Text) {front : Text} {s : State}
    (offset : s.offset = byteSize front) :
    pass counting set (front ++ rest) s =
      match takeTokens counting set rest s with
      | .error stop => .error stop
      | .ok (consumed, s) => .ok { s with offset := s.offset + consumed } := by
  unfold Loop.pass
  cases taken : takeTokens counting set rest s <;> simp only [offset, split_at_end, taken]

/-- A pass from a place between two characters stops with an outcome, or it comes to another such
place behind at least one character. -/
theorem pass_cases (counting : Bool) (set : ScannerSet) (rest : Text) {front : Text} {s : State}
    (reached : Reached front s) (offset : s.offset = byteSize front) :
    (∃ outcome produced, Refusal (front ++ rest) outcome ∧
      pass counting set (front ++ rest) s = .error ⟨.outcome outcome, produced⟩) ∨
    ∃ covered back after, rest = covered ++ back ∧ covered ≠ [] ∧
      Reached (front ++ covered) after ∧ after.offset = byteSize (front ++ covered) ∧
      pass counting set (front ++ rest) s = .ok after := by
  rw [pass_eq counting set rest offset]
  obtain ⟨outcome, produced, refusal, failed⟩ | ⟨covered, back, after, split, further, taken⟩ :=
    take_tokens_cases counting set rest reached
  · exact .inl ⟨outcome, produced, refusal, by rw [failed]⟩
  · obtain ⟨positive, kept⟩ := take_tokens_size taken
    refine .inr ⟨covered, back, _, split, byte_size_pos.mp positive, further.offset _, ?_,
      by rw [taken]⟩
    rw [byte_size_append, kept, offset]

/-! ## The whole loop -/

/-- A loop that accepts an input has come over all of it. -/
theorem accepted_course {counting : Bool} {set : ScannerSet} {input : Text} {tokens : List Token}
    {metrics : Metrics} (s : State) :
    ∀ front rest, input = front ++ rest → s.offset = byteSize front → Reached front s →
      (course counting set input s).verdict = .outcome (.accepted tokens metrics) →
        ∃ last, Reached input last ∧ (course counting set input s).produced = last.produced.reverse ∧
          tokens = last.tally.tokens.reverse ∧ metrics = last.tally.metrics := by
  refine course_induction (motive := fun s c => ∀ front rest, input = front ++ rest →
    s.offset = byteSize front → Reached front s → c.verdict = .outcome (.accepted tokens metrics) →
      ∃ last, Reached input last ∧ c.produced = last.produced.reverse ∧
        tokens = last.tally.tokens.reverse ∧ metrics = last.tally.metrics) ?_ ?_ ?_ s
  · intro s used front rest whole offset reached accepted
    subst whole
    have done : rest = [] := by
      rw [byte_size_append] at used
      exact byte_size_eq_zero.mp (by omega)
    subst done
    rw [List.append_nil]
    refine ⟨s, reached, rfl, ?_⟩
    simp only [finish] at accepted
    split at accepted
    · cases accepted
    · cases accepted
      exact ⟨rfl, rfl⟩
  · intro s stop left stopped front rest whole offset reached accepted
    subst whole
    obtain ⟨outcome, produced, refusal, failed⟩ | ⟨_, _, after, _, _, _, _, passed⟩ :=
      pass_cases counting set rest reached offset
    · rw [stopped] at failed
      cases failed
      cases accepted
      cases refusal
    · rw [stopped] at passed
      cases passed
  · intro s after left passed later front rest whole offset reached accepted
    subst whole
    obtain ⟨outcome, produced, refusal, failed⟩ |
        ⟨covered, back, _, rfl, _, further, place, same⟩ :=
      pass_cases counting set rest reached offset
    · rw [passed] at failed
      cases failed
    · rw [passed] at same
      cases same
      exact later (front ++ covered) back (by simp) place further accepted

theorem accepted_run {counting : Bool} {set : ScannerSet} {input : Text} {tokens : List Token}
    {metrics : Metrics}
    (accepted : (run counting set input).verdict = .outcome (.accepted tokens metrics)) :
    ∃ last, Reached input last ∧ (run counting set input).produced = last.produced.reverse ∧
      tokens = last.tally.tokens.reverse ∧ metrics = last.tally.metrics :=
  accepted_course .start [] input rfl rfl reached_start accepted

/-- The tokens returned are those produced that are no blanks. -/
theorem accepted_tokens {counting : Bool} {set : ScannerSet} {input : Text} {tokens : List Token}
    {metrics : Metrics}
    (accepted : (run counting set input).verdict = .outcome (.accepted tokens metrics)) :
    tokens = ((run counting set input).produced.map PlacedToken.token).filter significant := by
  obtain ⟨last, reached, produced, rfl, rfl⟩ := accepted_run accepted
  rw [produced, reached.kept, List.map_reverse, List.filter_reverse]

end FormulaLexer.LoopSteps
