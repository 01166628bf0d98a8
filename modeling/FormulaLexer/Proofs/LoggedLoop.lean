import FormulaLexer.Log.Memory
import FormulaLexer.Tokenizer.Events
import FormulaLexer.Proofs.LoopAgreement

/-! The loop of a run with its log. The loop logs its start, and it reports an error at the place where
the error arises, whichever of the nested loops that is, before it stops with it; behind the last pass it
logs its success. What has been logged in the end depends on the outcome alone: no error is reported twice
or not at all, and none is reported but the one that the run ends with. -/
namespace FormulaLexer.LoggedLoop
open Text TextCuts Progress Loop LoopSteps

/-- A computation that logs to a service and that a verdict may stop. -/
abbrev Logging (α : Type) := ExceptT Verdict (StateM Log.Service) α

/-- Hands an event to the service. -/
def emit (event : Log.Event) : Logging Unit := modify fun service => service.log event

/-- Stops with a verdict; an error is reported first. -/
def halt {α : Type} (t : Tokenizer) (input : Text) : Verdict → Logging α
  | .outcome (.rejected e) => do
    emit (t.errorEvent input e)
    throw (.outcome (.rejected e))
  | verdict => throw verdict

/-- Lays one token over the rest of the input. -/
def layToken (t : Tokenizer) (input remaining : Text) (token : Token) (consumed : Nat) (s : State) :
    Logging (Nat × State) :=
  let stop := consumed + byteSize token.text
  match remaining.slice? consumed stop with
  | none =>
    match splitAtByte? consumed remaining with
    | none => halt t input (.fault .slice)
    | some (_, back) => halt t input (refuse back s.position (some (misaligned token)))
  | some covered =>
    let item : PlacedToken := ⟨token, s.position⟩
    match count true s.tally item with
    | .error verdict => halt t input verdict
    | .ok tally =>
      match s.position.advanceText? covered with
      | none => halt t input (.outcome .overflowed)
      | some reached =>
        return (stop, ⟨s.offset, reached, tally.addToken token, item :: s.produced⟩)

/-- Lays tokens over the rest of the input one by one. -/
def layTokens (t : Tokenizer) (input remaining : Text) :
    List Token → (consumed : Nat) → State → Logging (Nat × State)
  | [], consumed, s => return (consumed, s)
  | token :: tokens, consumed, s => do
    let (consumed, s) ← layToken t input remaining token consumed s
    layTokens t input remaining tokens consumed s

/-- Takes tokens from the front of the rest of the input. -/
def takeTokens (t : Tokenizer) (input remaining : Text) (s : State) : Logging (Nat × State) :=
  match acceptFirst remaining s.tally.tokens.head? 0 t.scanners.entries with
  | .unmatched => halt t input (refuse remaining s.position none)
  | .refused e => halt t input (refuse remaining s.position (some e.describe))
  | .accepted _ attempts category tokens =>
    match zeroWidthCategory? category tokens with
    | some category => halt t input (.outcome (.rejected (.zeroWidth category s.position)))
    | none => layTokens t input remaining tokens 0 { s with tally := tried s.tally attempts }

/-- One pass of the loop. -/
def pass (t : Tokenizer) (input : Text) (s : State) : Logging State :=
  match splitAtByte? s.offset input with
  | none => halt t input (.fault .slice)
  | some (_, remaining) => do
    let (consumed, s) ← takeTokens t input remaining s
    return { s with offset := s.offset + consumed }

/-! ## Passes with and without a log -/

variable {t : Tokenizer} {input : Text}

/-- What a computation without a log does if it logs its error. -/
def settle {α : Type} (t : Tokenizer) (input : Text) : Except Stop α → Logging α
  | .error stop => halt t input stop.verdict
  | .ok result => pure result

theorem halt_bind {α β : Type} (verdict : Verdict) (next : α → Logging β) :
    (halt t input verdict >>= next) = halt t input verdict := by
  cases verdict with
  | outcome outcome => cases outcome <;> rfl
  | fault fault => rfl

theorem lay_token_settles (remaining : Text) (token : Token) (consumed : Nat) (s : State) :
    layToken t input remaining token consumed s =
      settle t input (Loop.layToken true remaining token consumed s) := by
  rw [layToken, Loop.layToken]
  dsimp only
  cases remaining.slice? consumed (consumed + byteSize token.text) with
  | none => cases splitAtByte? consumed remaining <;> rfl
  | some covered =>
    dsimp only
    cases count true s.tally ⟨token, s.position⟩ with
    | error verdict => rfl
    | ok tally =>
      dsimp only
      cases s.position.advanceText? covered <;> rfl

theorem lay_tokens_settles (remaining : Text) (tokens : List Token) (consumed : Nat) (s : State) :
    layTokens t input remaining tokens consumed s =
      settle t input (Loop.layTokens true remaining tokens consumed s) := by
  induction tokens generalizing consumed s with
  | nil => rfl
  | cons token tokens ih =>
    rw [layTokens, Loop.layTokens, lay_token_settles]
    cases Loop.layToken true remaining token consumed s with
    | error stop => exact halt_bind _ _
    | ok laid => exact ih laid.1 laid.2

theorem take_tokens_settles (remaining : Text) (s : State) :
    takeTokens t input remaining s =
      settle t input (Loop.takeTokens true t.scanners remaining s) := by
  rw [takeTokens, Loop.takeTokens]
  cases acceptFirst remaining s.tally.tokens.head? 0 t.scanners.entries with
  | unmatched => rfl
  | refused e => rfl
  | accepted key attempts category tokens =>
    dsimp only
    cases zeroWidthCategory? category tokens with
    | some category => rfl
    | none => exact lay_tokens_settles _ _ _ _

theorem pass_settles (s : State) :
    pass t input s = settle t input (Loop.pass true t.scanners input s) := by
  rw [pass, Loop.pass]
  cases splitAtByte? s.offset input with
  | none => rfl
  | some parts =>
    dsimp only
    rw [take_tokens_settles]
    cases Loop.takeTokens true t.scanners parts.2 s with
    | error stop => exact halt_bind _ _
    | ok taken => rfl

/-! ## The loop -/

/-- What follows a computation starts with the service that it leaves behind, unless it stops. -/
theorem bind_run {α β : Type} (first : Logging α) (next : α → Logging β) (service : Log.Service) :
    (first >>= next) service =
      match first service with
      | (.error verdict, after) => (.error verdict, after)
      | (.ok result, after) => next result after := by
  cases ran : first service with
  | mk result after =>
    simp only [bind, ExceptT.bind, ExceptT.mk, StateT.bind, ran]
    cases result <;> rfl

theorem halt_stops {α : Type} (verdict : Verdict) (service : Log.Service) :
    ∃ after, (halt t input verdict : Logging α) service = (.error verdict, after) := by
  cases verdict with
  | outcome outcome => cases outcome <;> exact ⟨_, rfl⟩
  | fault fault => exact ⟨_, rfl⟩

/-- A pass that ends well logs nothing and leads where it leads without a log. -/
theorem plain_of_passed {s after : State} {service next : Log.Service}
    (passed : pass t input s service = (.ok after, next)) :
    Loop.pass true t.scanners input s = .ok after := by
  rw [pass_settles] at passed
  cases plain : Loop.pass true t.scanners input s with
  | error stop =>
    obtain ⟨_, stops⟩ : ∃ next, (halt t input stop.verdict : Logging State) service =
        (.error stop.verdict, next) := halt_stops stop.verdict service
    rw [plain] at passed
    cases stops.symm.trans passed
  | ok reached =>
    rw [plain] at passed
    cases passed
    rfl

/-- Passes until nothing is left of the input. -/
def loop (t : Tokenizer) (input : Text) (s : State) : Logging State := fun service =>
  if s.offset < byteSize input then
    match _passed : pass t input s service with
    | (.error verdict, service) => (.error verdict, service)
    | (.ok after, service) => loop t input after service
  else (.ok s, service)
termination_by byteSize input - s.offset
decreasing_by
  have progress := pass_progress (plain_of_passed _passed)
  omega

/-- What follows the last pass. -/
def conclude (t : Tokenizer) (input : Text) (s : State) : Logging (List Token × Metrics) := do
  if 0 < s.tally.balance then
    halt t input (.outcome (.rejected (.tooManyOpening s.tally.balance)))
  emit (Tokenizer.successEvent s.tally.metrics)
  if t.preferences.collectMetrics then
    emit (Tokenizer.countsEvent s.tally.metrics)
  return (s.tally.tokens.reverse, s.tally.metrics)

/-- The run over an input. -/
def run (t : Tokenizer) (input : Text) : Logging (List Token × Metrics) := do
  emit (t.startEvent input)
  let s ← loop t input .start
  conclude t input s

theorem loop_finished {s : State} (used : byteSize input ≤ s.offset) :
    loop t input s = pure s := by
  funext service
  rw [loop, if_neg (by omega)]
  rfl

theorem loop_left {s : State} (left : s.offset < byteSize input) :
    loop t input s = pass t input s >>= loop t input := by
  funext service
  rw [loop, if_pos left, bind_run]
  split
  · next stopped => rw [stopped]
  · next passed => rw [passed]

/-! ## The log of a run -/

/-- The result of a run with an outcome. -/
def result : Outcome → Except Verdict (List Token × Metrics)
  | .accepted tokens metrics => .ok (tokens, metrics)
  | .rejected e => .error (.outcome (.rejected e))
  | .overflowed => .error (.outcome .overflowed)

/-- The end of a run that logs what belongs to its outcome. -/
def told (t : Tokenizer) (input : Text) (outcome : Outcome) : Logging (List Token × Metrics) :=
  fun service => (result outcome, (t.endEvents input outcome).foldl Log.Service.log service)

theorem conclude_told {s : State} {outcome : Outcome} (finished : finish true s = .outcome outcome) :
    conclude t input s = told t input outcome := by
  rw [finish, Bool.true_and] at finished
  by_cases opened : 0 < s.tally.balance
  · rw [if_pos (decide_eq_true opened)] at finished
    cases finished
    rw [conclude, if_pos opened]
    rfl
  · rw [if_neg (by simpa using opened)] at finished
    cases finished
    rw [conclude, if_neg opened]
    funext service
    simp only [told, Tokenizer.endEvents]
    split <;> rfl

theorem halt_told {outcome : Outcome} (refusal : Refusal input outcome) :
    halt t input (.outcome outcome) = told t input outcome := by
  cases refusal <;> rfl

/-- From a state that has come over a part of the input, the loop logs what belongs to its outcome. -/
theorem loop_told (s : State) :
    ∀ front rest, input = front ++ rest → s.offset = byteSize front → Reached front s →
      ∀ outcome, (course true t.scanners input s).verdict = .outcome outcome →
        loop t input s >>= conclude t input = told t input outcome := by
  refine course_induction (motive := fun s c => ∀ front rest, input = front ++ rest →
    s.offset = byteSize front → Reached front s → ∀ outcome, c.verdict = .outcome outcome →
      loop t input s >>= conclude t input = told t input outcome) ?_ ?_ ?_ s
  · intro s used _ _ _ _ _ outcome finished
    rw [loop_finished used]
    exact conclude_told finished
  · intro s stop left stopped front rest whole offset reached outcome same
    have refused : Refusal input outcome := by
      subst whole
      obtain ⟨_, _, refusal, failed⟩ | ⟨_, _, _, _, _, _, _, passed⟩ :=
        pass_cases true t.scanners rest reached offset
      · rw [stopped] at failed
        cases failed
        cases same
        exact refusal
      · rw [stopped] at passed
        cases passed
    dsimp only at same
    rw [loop_left left, pass_settles, stopped, settle, same, halt_bind, halt_bind, halt_told refused]
  · intro s after left passed later front rest whole offset reached outcome same
    have further : loop t input s = loop t input after := by
      rw [loop_left left, pass_settles, passed]
      rfl
    rw [further]
    subst whole
    obtain ⟨_, _, _, failed⟩ | ⟨covered, back, _, rfl, _, next, place, ends⟩ :=
      pass_cases true t.scanners rest reached offset
    · rw [passed] at failed
      cases failed
    · rw [passed] at ends
      cases ends
      exact later (front ++ covered) back (by simp) place next outcome same

/-- A run ends with the result of its outcome and logs the events of the run, whatever the service lets
pass of them. -/
theorem run_logged (t : Tokenizer) (input : Text) (service : Log.Service) :
    run t input service =
      (result (t.run input), (t.events input).foldl Log.Service.log service) := by
  have verdict := LoopAgreement.run_verdict t.scanners input
  have loops : loop t input .start >>= conclude t input = told t input (t.run input) :=
    loop_told .start [] input rfl rfl reached_start _ verdict
  have starts : run t input service =
      (loop t input .start >>= conclude t input) (service.log (t.startEvent input)) := rfl
  rw [starts, loops]
  rfl

end FormulaLexer.LoggedLoop
