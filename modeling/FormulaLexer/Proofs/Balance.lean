import FormulaLexer.Proofs.LoopAgreement
import FormulaLexer.Proofs.Nesting

/-! The counter of open groups checks brackets on top of plain lexing. A loop that counts follows
the loop that does not, state by state, until a mark closes a group which nothing opened; its
counter is the depth behind the tokens produced so far, and its deepest nesting their peak. -/
namespace FormulaLexer.Balance
open Text TextCuts Progress Loop LoopSteps LoopAgreement Nesting

/-! ## States with and without a counter -/

/-- A tally without what counting adds to it. -/
def forget (tally : Tally) : Tally :=
  ⟨tally.tokens, 0, { tally.metrics with maxNesting := 0 }⟩

/-- The state of the plain loop that goes with a state of the counting one. -/
def bare (s : State) : State := { s with tally := forget s.tally }

/-- All tokens produced before a state, in order. -/
def tokensOf (produced : List PlacedToken) : List Token := produced.reverse.map PlacedToken.token

@[simp] theorem tokens_of_cons (item : PlacedToken) (produced : List PlacedToken) :
    tokensOf (item :: produced) = tokensOf produced ++ [item.token] := by
  simp [tokensOf]

/-- What the counter says of the tokens produced: they nest well, the counter is the depth behind
them, and the deepest nesting is their peak. -/
structure Level (produced : List PlacedToken) (tally : Tally) : Prop where
  nests : NeverNegative (tokensOf produced)
  balance : depth (tokensOf produced) = tally.balance
  peak : Peak (tokensOf produced) tally.metrics.maxNesting

theorem level_start : Level [] .zero := by
  have only : ∀ front, front <+: tokensOf [] → depth front = 0 := by
    intro front part
    rw [List.prefix_nil.mp part]
    rfl
  refine ⟨fun front part => ?_, rfl, ⟨[], List.prefix_rfl, rfl⟩, fun front part => ?_⟩
  · exact Int.le_of_eq (only front part).symm
  · exact Int.le_of_eq (only front part)

theorem forget_add_token (tally : Tally) (token : Token) :
    forget (tally.addToken token) = (forget tally).addToken token := by
  simp only [Tally.addToken, forget]
  split <;> rfl

/-- The level behind one more token, where the counters have followed its weight. -/
theorem Level.behind {produced : List PlacedToken} {tally after : Tally}
    (level : Level produced tally) {item : PlacedToken}
    (balance : depth (tokensOf produced) + weight item.token = after.balance)
    (highest : after.metrics.maxNesting = max tally.metrics.maxNesting after.balance) :
    Level (item :: produced) after := by
  have grown := depth_append (tokensOf produced) [item.token]
  rw [depth_singleton] at grown
  constructor
  · rw [tokens_of_cons]
    exact level.nests.snoc (by omega)
  · rw [tokens_of_cons, grown, balance]
  · rw [tokens_of_cons, highest]
    exact level.peak.snoc (by omega)

/-- Counting a token either keeps the level or meets the first mark without a partner. -/
theorem Level.count {produced : List PlacedToken} {tally : Tally} (level : Level produced tally)
    (item : PlacedToken) :
    (tally.addGrouping item = .error (.tooManyClosing item.start) ∧
      Unmatched (item :: produced).reverse item.start) ∨
    ∃ after, tally.addGrouping item = .ok after ∧ forget after = forget tally ∧
      Level (item :: produced) after := by
  have balance := level.balance
  have deepest : tally.balance ≤ tally.metrics.maxNesting := by
    have bound := level.peak.bound _ List.prefix_rfl
    omega
  obtain ⟨opens, grouping⟩ | ⟨closes, other, grouping⟩ | ⟨none, other, another⟩ :=
    weight_cases item.token
  · refine .inr ⟨{ tally with
        balance := tally.balance + 1
        metrics := { tally.metrics with
          maxNesting := max tally.metrics.maxNesting (tally.balance + 1) } },
      by rw [Tally.addGrouping, if_pos grouping], rfl, level.behind ?_ rfl⟩
    dsimp only
    omega
  · by_cases empty : tally.balance = 0
    · refine .inl ⟨by simp [Tally.addGrouping, other, grouping, empty], ?_⟩
      refine ⟨produced.reverse, item, [], by simp, level.nests, ?_, rfl⟩
      have grown := depth_append (tokensOf produced) [item.token]
      rw [depth_singleton, ← tokens_of_cons] at grown
      rw [← List.reverse_cons]
      change depth (tokensOf (item :: produced)) = -1
      omega
    · refine .inr ⟨{ tally with balance := tally.balance - 1 },
        by simp [Tally.addGrouping, other, grouping, empty], rfl, level.behind ?_ ?_⟩
      · dsimp only
        omega
      · dsimp only
        omega
  · refine .inr ⟨tally, by simp [Tally.addGrouping, other, another], rfl, level.behind ?_ ?_⟩
    · omega
    · omega

theorem Level.token {produced : List PlacedToken} {tally : Tally} (level : Level produced tally)
    (token : Token) : Level produced (tally.addToken token) := by
  have same : (tally.addToken token).balance = tally.balance ∧
      (tally.addToken token).metrics.maxNesting = tally.metrics.maxNesting := by
    rw [Tally.addToken]
    split <;> exact ⟨rfl, rfl⟩
  exact ⟨level.nests, by rw [level.balance, same.1], by rw [same.2]; exact level.peak⟩

/-! ## One pass -/

/-- The errors of plain lexing. -/
def Plain (v : Verdict) : Prop :=
  v = .outcome .overflowed ∨
    ∃ e, v = .outcome (.rejected e) ∧ (e.reason = .parse ∨ e.reason = .zeroWidth)

/-- The tokens produced up to a result, latest first. -/
def produced : Except Stop (Nat × State) → List PlacedToken
  | .error stop => stop.produced
  | .ok (_, s) => s.produced

/-- How a result of the counting loop goes with one of the plain loop: the counting loop met a
mark without a partner among the tokens that the plain one has produced, or both stopped with the
same error, or both went on and the counter is level. -/
inductive Follows : Except Stop (Nat × State) → Except Stop (Nat × State) → Prop where
  | unmatched {position : Position} {latest : List PlacedToken}
      {plain : Except Stop (Nat × State)} (found : Unmatched (produced plain).reverse position) :
      Follows (.error ⟨.outcome (.rejected (.tooManyClosing position)), latest⟩) plain
  | stopped {stop : Stop} (plain : Plain stop.verdict)
      (nests : NeverNegative (tokensOf stop.produced)) : Follows (.error stop) (.error stop)
  | passed {consumed : Nat} {s : State} (level : Level s.produced s.tally) :
      Follows (.ok (consumed, s)) (.ok (consumed, bare s))

theorem follows_lay_token (front rest : Text) (token : Token) {text : Text} {s : State}
    (reached : Reached text s) (level : Level s.produced s.tally) :
    Follows (layToken true (front ++ rest) token (byteSize front) s)
      (layToken false (front ++ rest) token (byteSize front) (bare s)) := by
  rw [lay_token_eq, lay_token_eq]
  cases splitAtByte? (byteSize token.text) rest with
  | none => exact .stopped (.inr ⟨_, rfl, .inl rfl⟩) level.nests
  | some parts =>
    obtain ⟨covered, back⟩ := parts
    dsimp only
    rw [count_eq reached]
    rcases level.count ⟨token, s.position⟩ with ⟨closed, unmatched⟩ | ⟨after, counted, same, next⟩
    · rw [closed]
      refine .unmatched ?_
      simp only [count, bare, Bool.false_eq_true, ↓reduceIte]
      split <;> exact unmatched
    · rw [counted]
      simp only [count, bare, Bool.false_eq_true, ↓reduceIte]
      cases s.position.advanceText? covered with
      | none => exact .stopped (.inl rfl) next.nests
      | some position =>
        dsimp only
        rw [← same, ← forget_add_token]
        exact .passed (next.token token)

/-- Laying tokens only adds to those that were produced before. -/
theorem lay_token_produced (counting : Bool) (remaining : Text) (token : Token) (consumed : Nat)
    (s : State) : s.produced <:+ produced (layToken counting remaining token consumed s) := by
  rw [layToken]
  dsimp only
  split
  · split
    · exact List.suffix_rfl
    · exact List.suffix_rfl
  · split
    · exact List.suffix_cons _ _
    · split
      · exact List.suffix_cons _ _
      · exact List.suffix_cons _ _

theorem lay_tokens_produced (counting : Bool) (remaining : Text) (tokens : List Token)
    (consumed : Nat) (s : State) :
    s.produced <:+ produced (layTokens counting remaining tokens consumed s) := by
  induction tokens generalizing consumed s with
  | nil => exact List.suffix_rfl
  | cons token tokens ih =>
    have first := lay_token_produced counting remaining token consumed s
    rw [layTokens]
    split
    · next laid => rwa [laid] at first
    · next laid =>
      rw [laid] at first
      exact first.trans (ih _ _)

theorem take_tokens_produced (counting : Bool) (set : ScannerSet) (remaining : Text) (s : State) :
    s.produced <:+ produced (takeTokens counting set remaining s) := by
  rw [takeTokens]
  split
  · exact List.suffix_rfl
  · exact List.suffix_rfl
  · split
    · exact List.suffix_rfl
    · next attempts _ tokens _ _ _ =>
      exact lay_tokens_produced counting remaining tokens 0 { s with tally := tried s.tally attempts }

theorem follows_lay_tokens (front rest : Text) {text : Text} {tokens : List Token} {s : State}
    (reached : Reached text s) (filled : ∀ token ∈ tokens, token.text ≠ [])
    (level : Level s.produced s.tally) :
    Follows (layTokens true (front ++ rest) tokens (byteSize front) s)
      (layTokens false (front ++ rest) tokens (byteSize front) (bare s)) := by
  induction tokens generalizing text front rest s with
  | nil => exact .passed level
  | cons token tokens ih =>
    have first := follows_lay_token front rest token reached level
    have single : ∀ other ∈ [token], other.text ≠ [] := by simpa using filled token (by simp)
    have one := lay_tokens_cases true front rest reached single
    simp only [layTokens] at one ⊢
    generalize layToken true (front ++ rest) token (byteSize front) s = counted at first one
    generalize layToken false (front ++ rest) token (byteSize front) (bare s) = plain at first
    cases first with
    | unmatched found =>
      refine .unmatched (found.more (List.reverse_prefix.mpr ?_))
      split
      · exact List.suffix_rfl
      · exact lay_tokens_produced _ _ _ _ _
    | stopped plain nests => exact .stopped plain nests
    | passed level =>
      rcases one with ⟨_, _, _, failed⟩ | ⟨covered, back, after, rfl, further, done⟩
      · cases failed
      · cases done
        dsimp only
        rw [← List.append_assoc]
        exact ih (front ++ covered) back further (fun other member => filled other (by simp [member])) level

theorem follows_take_tokens (set : ScannerSet) (rest : Text) {text : Text} {s : State}
    (reached : Reached text s) (level : Level s.produced s.tally) :
    Follows (takeTokens true set rest s) (takeTokens false set rest (bare s)) := by
  have same : (bare s).tally.tokens.head? = s.tally.tokens.head? := rfl
  rw [takeTokens, takeTokens, same]
  cases acceptFirst rest s.tally.tokens.head? 0 set.entries with
  | unmatched =>
    dsimp only
    rw [refuse_eq, refuse_eq]
    exact .stopped (.inr ⟨_, rfl, .inl rfl⟩) level.nests
  | refused e =>
    dsimp only
    rw [refuse_eq, refuse_eq]
    exact .stopped (.inr ⟨_, rfl, .inl rfl⟩) level.nests
  | accepted key attempts category tokens =>
    dsimp only
    cases checked : zeroWidthCategory? category tokens with
    | some category => exact .stopped (.inr ⟨_, rfl, .inr rfl⟩) level.nests
    | none =>
      have filled := (nonempty_of_no_zero_width checked).2
      exact follows_lay_tokens [] rest (reached.tried attempts) filled
        ⟨level.nests, level.balance, level.peak⟩

/-! ## The whole run -/

theorem pass_produced {counting : Bool} {set : ScannerSet} {input : Text} {s : State} :
    (∀ stop, pass counting set input s = .error stop → s.produced <:+ stop.produced) ∧
      ∀ after, pass counting set input s = .ok after → s.produced <:+ after.produced := by
  rw [Loop.pass]
  split
  · refine ⟨fun stop stopped => ?_, fun after passed => ?_⟩
    · cases stopped
      exact List.suffix_rfl
    · cases passed
  · next remaining _ =>
    have taken := take_tokens_produced counting set remaining s
    split
    · next failed =>
      rw [failed] at taken
      refine ⟨fun stop stopped => ?_, fun after passed => ?_⟩
      · cases stopped
        exact taken
      · cases passed
    · next done =>
      rw [done] at taken
      refine ⟨fun stop stopped => ?_, fun after passed => ?_⟩
      · cases stopped
      · cases passed
        exact taken

/-- A course only adds to the tokens that were produced before it. -/
theorem course_produced (counting : Bool) (set : ScannerSet) (input : Text) (s : State) :
    s.produced.reverse <+: (course counting set input s).produced := by
  refine course_induction (motive := fun s c => s.produced.reverse <+: c.produced) ?_ ?_ ?_ s
  · intro s used
    exact List.prefix_rfl
  · intro s stop left stopped
    exact List.reverse_prefix.mpr (pass_produced.1 stop stopped)
  · intro s after left passed later
    exact (List.reverse_prefix.mpr (pass_produced.2 after passed)).trans later

/-- What a pass has produced, the whole course has. -/
theorem unmatched_course (set : ScannerSet) {front rest : Text} {s : State} (position : Position)
    (offset : s.offset = byteSize front) (left : s.offset < byteSize (front ++ rest))
    (found : Unmatched (produced (takeTokens false set rest s)).reverse position) :
    Unmatched (course false set (front ++ rest) s).produced position := by
  have step := pass_eq false set rest offset
  cases taken : takeTokens false set rest s with
  | error stop =>
    rw [taken] at step found
    rw [course_stopped left step]
    exact found
  | ok result =>
    rw [taken] at step found
    rw [course_passed left step]
    have grows := course_produced false set (front ++ rest)
      { result.2 with offset := result.2.offset + result.1 }
    exact found.more grows

/-- How the verdict of the counting loop comes from the verdict of the plain one and the tokens
that it has produced. -/
inductive Settled (plain : Verdict) (produced : List PlacedToken) : Verdict → Prop where
  | unmatched {position : Position} (found : Unmatched produced position) :
      Settled plain produced (.outcome (.rejected (.tooManyClosing position)))
  | stopped (other : Plain plain) (nests : NeverNegative (produced.map PlacedToken.token)) :
      Settled plain produced plain
  | finished {tally : Tally}
      (accepted : plain = .outcome (.accepted tally.tokens.reverse (forget tally).metrics))
      (level : Level produced.reverse tally) :
      Settled plain produced (.outcome (if 0 < tally.balance
        then .rejected (.tooManyOpening tally.balance)
        else .accepted tally.tokens.reverse tally.metrics))

theorem settled_course (set : ScannerSet) (input : Text) (s : State) :
    ∀ front rest, input = front ++ rest → s.offset = byteSize front → Reached front s →
      Level s.produced s.tally →
        Settled (course false set input (bare s)).verdict
          (course false set input (bare s)).produced (course true set input s).verdict := by
  refine course_induction (motive := fun s c => ∀ front rest, input = front ++ rest →
    s.offset = byteSize front → Reached front s → Level s.produced s.tally →
      Settled (course false set input (bare s)).verdict
        (course false set input (bare s)).produced c.verdict) ?_ ?_ ?_ s
  · intro s used front rest whole offset reached level
    rw [course_finished (s := bare s) used]
    have bottom : Level s.produced.reverse.reverse s.tally := by simpa using level
    have finished := Settled.finished rfl bottom
    have same : finish true s = .outcome (if 0 < s.tally.balance
        then .rejected (.tooManyOpening s.tally.balance)
        else .accepted s.tally.tokens.reverse s.tally.metrics) := by
      simp only [finish, Bool.true_and, decide_eq_true_eq]
      split <;> rfl
    rw [same]
    exact finished
  · intro s stop left stopped front rest whole offset reached level
    subst whole
    have step := pass_eq true set rest offset
    have plain := pass_eq false set rest (s := bare s) offset
    have follows := follows_take_tokens set rest reached level
    have found := fun position => unmatched_course set (s := bare s) position offset left
    generalize takeTokens true set rest s = counted at step follows
    generalize takeTokens false set rest (bare s) = bared at plain follows found
    rw [stopped] at step
    cases follows with
    | unmatched unmatched =>
      cases step
      exact .unmatched (found _ unmatched)
    | stopped other nests =>
      cases step
      rw [course_stopped (s := bare s) left plain]
      exact .stopped other nests
    | passed level => cases step
  · intro s after left passed later front rest whole offset reached level
    subst whole
    have step := pass_eq true set rest offset
    have plain := pass_eq false set rest (s := bare s) offset
    have follows := follows_take_tokens set rest reached level
    have next := pass_cases true set rest reached offset
    generalize takeTokens true set rest s = counted at step follows
    generalize takeTokens false set rest (bare s) = bared at plain follows
    rw [passed] at step
    cases follows with
    | unmatched unmatched => cases step
    | stopped other nests => cases step
    | passed level =>
      cases step
      rcases next with ⟨_, _, _, failed⟩ | ⟨covered, back, after, rfl, _, further, place, same⟩
      · rw [passed] at failed
        cases failed
      · rw [passed] at same
        cases same
        rw [course_passed (s := bare s) left plain]
        exact later (front ++ covered) back (by simp) place further level

/-- The outcome of a run, by the verdict of plain lexing and the tokens that it has produced. -/
theorem run_cases (set : ScannerSet) (input : Text) :
    (∃ position, Unmatched (plain set input).produced position ∧
      (trace set input).outcome = .rejected (.tooManyClosing position)) ∨
    (Plain (plain set input).verdict ∧
      NeverNegative ((plain set input).produced.map PlacedToken.token) ∧
      (plain set input).verdict = .outcome (trace set input).outcome) ∨
    ∃ tally, (plain set input).verdict =
        .outcome (.accepted tally.tokens.reverse (forget tally).metrics) ∧
      Level (plain set input).produced.reverse tally ∧
      (trace set input).outcome = if 0 < tally.balance
        then .rejected (.tooManyOpening tally.balance)
        else .accepted tally.tokens.reverse tally.metrics := by
  have settled := settled_course set input .start [] input rfl rfl reached_start level_start
  change Settled (plain set input).verdict (plain set input).produced (run true set input).verdict
    at settled
  have verdict := run_verdict set input
  rw [verdict] at settled
  generalize (trace set input).outcome = outcome at settled ⊢
  generalize same : Verdict.outcome outcome = counted at settled
  cases settled with
  | unmatched found => exact .inl ⟨_, found, Verdict.outcome.inj same⟩
  | stopped other nests => exact .inr (.inl ⟨other, nests, rfl⟩)
  | finished accepted level => exact .inr (.inr ⟨_, accepted, level, Verdict.outcome.inj same⟩)

theorem Level.produced_nests {produced : List PlacedToken} {tally : Tally}
    (level : Level produced.reverse tally) :
    NeverNegative (produced.map PlacedToken.token) ∧
      depth (produced.map PlacedToken.token) = tally.balance ∧
      Peak (produced.map PlacedToken.token) tally.metrics.maxNesting := by
  have tokens : tokensOf produced.reverse = produced.map PlacedToken.token := by simp [tokensOf]
  exact ⟨tokens ▸ level.nests, tokens ▸ level.balance, tokens ▸ level.peak⟩

/-- What a check of the brackets makes of a course of plain lexing. -/
structure ChecksBrackets (lexed : Course) (outcome : Outcome) : Prop where
  /-- It accepts what plain lexing accepts, if the tokens nest well and leave nothing open. -/
  accepted : ∀ tokens metrics, outcome = .accepted tokens metrics ↔
    ∃ bareMetrics, lexed.verdict = .outcome (.accepted tokens bareMetrics) ∧
      NeverNegative tokens ∧ depth tokens = 0 ∧ Peak tokens metrics.maxNesting ∧
      metrics = { bareMetrics with maxNesting := metrics.maxNesting }
  /-- Groups are left open if the tokens that plain lexing accepts nest well but for that. -/
  unclosed : ∀ groups, outcome = .rejected (.tooManyOpening groups) ↔
    ∃ tokens metrics, lexed.verdict = .outcome (.accepted tokens metrics) ∧
      NeverNegative tokens ∧ depth tokens = groups ∧ 0 < groups
  /-- A mark has no partner if plain lexing produces it, and it is the first one of that kind. -/
  unopened : ∀ position, outcome = .rejected (.tooManyClosing position) ↔
    Unmatched lexed.produced position
  /-- In all other cases the outcome is that of plain lexing. -/
  otherwise : (∀ tokens metrics, lexed.verdict ≠ .outcome (.accepted tokens metrics)) →
    (∀ position, ¬ Unmatched lexed.produced position) → lexed.verdict = .outcome outcome

theorem checks_unopened {lexed : Course} {position : Position}
    (returned : ∀ tokens metrics, lexed.verdict = .outcome (.accepted tokens metrics) →
      tokens = (lexed.produced.map PlacedToken.token).filter significant)
    (found : Unmatched lexed.produced position) :
    ChecksBrackets lexed (.rejected (.tooManyClosing position)) := by
  have broken : ∀ tokens metrics, lexed.verdict = .outcome (.accepted tokens metrics) →
      ¬ NeverNegative tokens := by
    intro tokens metrics accepted nests
    rw [returned tokens metrics accepted, never_negative_significant] at nests
    exact found.not_never_negative nests
  refine ⟨fun tokens metrics => ⟨fun same => ?_, ?_⟩, fun groups => ⟨fun same => ?_, ?_⟩,
    fun other => ⟨fun same => ?_, fun same => ?_⟩, fun _ none => absurd found (none position)⟩
  · cases same
  · rintro ⟨bareMetrics, accepted, nests, -⟩
    exact absurd nests (broken _ _ accepted)
  · cases same
  · rintro ⟨tokens, metrics, accepted, nests, -⟩
    exact absurd nests (broken _ _ accepted)
  · cases same
    exact found
  · rw [found.unique same]

theorem checks_stopped {lexed : Course} {outcome : Outcome} (other : Plain lexed.verdict)
    (nests : NeverNegative (lexed.produced.map PlacedToken.token))
    (same : lexed.verdict = .outcome outcome) : ChecksBrackets lexed outcome := by
  have kinds : outcome = .overflowed ∨
      ∃ e, outcome = .rejected e ∧ (e.reason = .parse ∨ e.reason = .zeroWidth) := by
    rw [same] at other
    rcases other with overflow | ⟨e, failed, kind⟩
    · exact .inl (Verdict.outcome.inj overflow)
    · exact .inr ⟨e, Verdict.outcome.inj failed, kind⟩
  have unaccepted : ∀ tokens metrics, outcome ≠ .accepted tokens metrics := by
    rintro tokens metrics rfl
    simp at kinds
  refine ⟨fun tokens metrics => ⟨fun accepted => ?_, ?_⟩, fun groups => ⟨?_, ?_⟩,
    fun position => ⟨?_, fun found => ?_⟩, fun _ _ => same⟩
  · exact absurd accepted (unaccepted tokens metrics)
  · rintro ⟨bareMetrics, accepted, -⟩
    exact absurd (Verdict.outcome.inj (same.symm.trans accepted)) (unaccepted _ _)
  · rintro rfl
    simp [TokenizerError.reason] at kinds
  · rintro ⟨tokens, metrics, accepted, -⟩
    exact absurd (Verdict.outcome.inj (same.symm.trans accepted)) (unaccepted _ _)
  · rintro rfl
    simp [TokenizerError.reason] at kinds
  · exact absurd nests found.not_never_negative

theorem checks_finished {lexed : Course} {tally : Tally}
    (returned : tally.tokens.reverse = (lexed.produced.map PlacedToken.token).filter significant)
    (finished : lexed.verdict =
      .outcome (.accepted tally.tokens.reverse (forget tally).metrics))
    (level : Level lexed.produced.reverse tally) :
    ChecksBrackets lexed (if 0 < tally.balance then .rejected (.tooManyOpening tally.balance)
      else .accepted tally.tokens.reverse tally.metrics) := by
  obtain ⟨nests, balance, peak⟩ := level.produced_nests
  have whole : NeverNegative tally.tokens.reverse ∧ depth tally.tokens.reverse = tally.balance ∧
      Peak tally.tokens.reverse tally.metrics.maxNesting := by
    rw [returned, never_negative_significant, depth_significant]
    exact ⟨nests, balance, peak_significant peak⟩
  refine ⟨fun tokens metrics => ⟨fun same => ?_, ?_⟩, fun groups => ⟨fun same => ?_, ?_⟩,
    fun position => ⟨fun same => ?_, fun found => ?_⟩, fun none _ => absurd finished (none _ _)⟩
  · split at same
    · cases same
    · cases same
      refine ⟨_, finished, whole.1, by rw [whole.2.1]; omega, whole.2.2, rfl⟩
  · rintro ⟨bareMetrics, accepted, -, closed, highest, kept⟩
    rw [finished] at accepted
    cases accepted
    rw [whole.2.1] at closed
    rw [if_neg (by omega), kept, highest.unique whole.2.2]
    rfl
  · split at same
    · cases same
      exact ⟨_, _, finished, whole.1, whole.2.1, ‹_›⟩
    · cases same
  · rintro ⟨tokens, metrics, accepted, -, level, positive⟩
    rw [finished] at accepted
    cases accepted
    rw [whole.2.1, Int.ofNat_inj] at level
    rw [level, if_pos positive]
  · split at same <;> cases same
  · exact absurd nests found.not_never_negative

/-- A run is plain lexing with a check of the brackets, in which only tokens of the grouping
category count. -/
theorem run_checks_brackets (t : Tokenizer) (input : Text) :
    ChecksBrackets (plain t.scanners input) (t.run input) ∧
      ∀ token : Token, token.category ≠ .grouping → weight token = 0 := by
  refine ⟨?_, fun token other => weight_eq_zero other⟩
  rw [Tokenizer.run]
  obtain ⟨position, found, outcome⟩ | ⟨other, nests, same⟩ | ⟨tally, finished, level, outcome⟩ :=
    run_cases t.scanners input
  · rw [outcome]
    exact checks_unopened (fun _ _ accepted => accepted_tokens accepted) found
  · exact checks_stopped other nests same
  · rw [outcome]
    exact checks_finished (accepted_tokens finished) finished level

end FormulaLexer.Balance
