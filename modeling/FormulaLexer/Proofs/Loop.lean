import FormulaLexer.Tokenizer.Basic
import FormulaLexer.Proofs.TextCuts

/-! A run as a loop over byte offsets. The loop cuts the rest of the input at its offset, asks the
scanners for tokens, checks that none of them is empty, and lays them over the rest one by one
while it counts them. Every cut may fail and every counter has a bound, so that a run which stays
clear of both is a fact to prove and not a feature of the definition.

The loop may count groups or not. Without counting it is plain lexing: nothing but the counter of
open groups and its two errors is missing. -/
namespace FormulaLexer.Loop
open Text TextCuts

/-- The counter of open groups stays below this bound. -/
def balanceBound : Nat := 2 ^ 64

/-- Why a loop breaks down: a slice out of range or inside a character, or a counter of open
groups that leaves its bounds. -/
inductive Fault where
  | slice
  | balance

/-- What a loop ends with. -/
inductive Verdict where
  | outcome (outcome : Outcome)
  | fault (fault : Fault)

/-- What a loop carries from one pass to the next: the offset and the position of the rest of the
input, the tally of the tokens, and all tokens that passed their checks, latest first. -/
structure State where
  offset : Nat
  position : Position
  tally : Tally
  produced : List PlacedToken

/-- The state before the first pass. -/
def State.start : State := ⟨0, .start, .zero, []⟩

/-- A verdict inside of a pass, with all tokens that passed their checks, latest first. -/
structure Stop where
  verdict : Verdict
  produced : List PlacedToken

/-- The text shown with a parse error. A long one is sliced behind its first characters. -/
def snippet? (remaining : Text) : Option Text :=
  if (remaining.drop TokenizerError.snippetLimit).isEmpty then some remaining
  else
    (splitAtByte? (byteSize (remaining.take TokenizerError.snippetLimit)) remaining).map
      fun parts => parts.1 ++ "...".toList

/-- A parse error for the rest of the input. -/
def refuse (remaining : Text) (position : Position) (detail : Option Text) : Verdict :=
  match snippet? remaining with
  | some shown => .outcome (.rejected (.parse shown position detail))
  | none => .fault .slice

/-- One more open group, below the bound. -/
def raise? (balance : Nat) : Option Nat :=
  if balance + 1 < balanceBound then some (balance + 1) else none

/-- One open group less, if there is one. -/
def lower? : Nat → Option Nat
  | 0 => none
  | balance + 1 => some balance

/-- Opens or closes a group where the loop counts them. -/
def count (counting : Bool) (tally : Tally) (item : PlacedToken) : Except Verdict Tally :=
  if counting then
    if item.token.isGrouping .opening then
      match raise? tally.balance with
      | some balance =>
        let maxNesting := max tally.metrics.maxNesting balance
        .ok { tally with balance, metrics := { tally.metrics with maxNesting } }
      | none => .error (.fault .balance)
    else if item.token.isGrouping .closing then
      if tally.balance = 0 then .error (.outcome (.rejected (.tooManyClosing item.start)))
      else
        match lower? tally.balance with
        | some balance => .ok { tally with balance }
        | none => .error (.fault .balance)
    else .ok tally
  else .ok tally

/-- Lays one token over the rest of the input, `consumed` bytes of which are covered already. -/
def layToken (counting : Bool) (remaining : Text) (token : Token) (consumed : Nat) (s : State) :
    Except Stop (Nat × State) :=
  let stop := consumed + byteSize token.text
  match remaining.slice? consumed stop with
  | none =>
    match splitAtByte? consumed remaining with
    | none => .error ⟨.fault .slice, s.produced⟩
    | some (_, back) => .error ⟨refuse back s.position (some (misaligned token)), s.produced⟩
  | some covered =>
    let item : PlacedToken := ⟨token, s.position⟩
    match count counting s.tally item with
    | .error verdict => .error ⟨verdict, item :: s.produced⟩
    | .ok tally =>
      match s.position.advanceText? covered with
      | none => .error ⟨.outcome .overflowed, item :: s.produced⟩
      | some reached =>
        .ok (stop, ⟨s.offset, reached, tally.addToken token, item :: s.produced⟩)

/-- Lays tokens over the rest of the input one by one. -/
def layTokens (counting : Bool) (remaining : Text) :
    List Token → (consumed : Nat) → State → Except Stop (Nat × State)
  | [], consumed, s => .ok (consumed, s)
  | token :: tokens, consumed, s =>
    match layToken counting remaining token consumed s with
    | .error stop => .error stop
    | .ok (consumed, s) => layTokens counting remaining tokens consumed s

/-- Adds scanners tried to the metrics of a tally. -/
def tried (tally : Tally) (attempts : Nat) : Tally :=
  { tally with metrics := { tally.metrics with attempts := tally.metrics.attempts + attempts } }

/-- Takes tokens from the front of the rest of the input. -/
def takeTokens (counting : Bool) (set : ScannerSet) (remaining : Text) (s : State) :
    Except Stop (Nat × State) :=
  match acceptFirst remaining s.tally.tokens.head? 0 set.entries with
  | .unmatched => .error ⟨refuse remaining s.position none, s.produced⟩
  | .refused e => .error ⟨refuse remaining s.position (some e.describe), s.produced⟩
  | .accepted _ attempts category tokens =>
    match zeroWidthCategory? category tokens with
    | some category => .error ⟨.outcome (.rejected (.zeroWidth category s.position)), s.produced⟩
    | none => layTokens counting remaining tokens 0 { s with tally := tried s.tally attempts }

/-- One pass of the loop. -/
def pass (counting : Bool) (set : ScannerSet) (input : Text) (s : State) : Except Stop State :=
  match splitAtByte? s.offset input with
  | none => .error ⟨.fault .slice, s.produced⟩
  | some (_, remaining) =>
    match takeTokens counting set remaining s with
    | .error stop => .error stop
    | .ok (consumed, s) => .ok { s with offset := s.offset + consumed }

/-- The verdict behind the last pass. -/
def finish (counting : Bool) (s : State) : Verdict :=
  if counting && 0 < s.tally.balance then
    .outcome (.rejected (.tooManyOpening s.tally.balance))
  else .outcome (.accepted s.tally.tokens.reverse s.tally.metrics)

/-! ## Progress -/

/-- Tokens that pass the check for empty ones are there and have text. -/
theorem nonempty_of_no_zero_width {category : Category} {tokens : List Token}
    (checked : zeroWidthCategory? category tokens = none) :
    tokens ≠ [] ∧ ∀ token ∈ tokens, token.text ≠ [] := by
  cases tokens with
  | nil => simp [zeroWidthCategory?] at checked
  | cons token tokens =>
    refine ⟨by simp, fun other member empty => ?_⟩
    simp only [zeroWidthCategory?, Option.map_eq_none_iff, List.find?_eq_none] at checked
    exact checked other member (by simp [Token.isEmpty, empty])

/-- A token laid without an error covers as many bytes as it has, and the pass still starts where
it did. -/
theorem lay_token_size {counting : Bool} {remaining : Text} {token : Token}
    {consumed reached : Nat} {s after : State}
    (laid : layToken counting remaining token consumed s = .ok (reached, after)) :
    reached = consumed + byteSize token.text ∧ after.offset = s.offset := by
  rw [layToken] at laid
  dsimp only at laid
  split at laid
  · split at laid <;> cases laid
  · split at laid
    · cases laid
    · split at laid
      · cases laid
      · cases laid
        exact ⟨rfl, rfl⟩

theorem lay_tokens_size {counting : Bool} {remaining : Text} {tokens : List Token}
    {consumed reached : Nat} {s after : State}
    (laid : layTokens counting remaining tokens consumed s = .ok (reached, after)) :
    reached = consumed + (tokens.map fun token => byteSize token.text).sum ∧
      after.offset = s.offset := by
  induction tokens generalizing consumed s with
  | nil =>
    cases laid
    simp
  | cons token tokens ih =>
    rw [layTokens] at laid
    split at laid
    · cases laid
    · next middle next first =>
      obtain ⟨firstSize, firstOffset⟩ := lay_token_size first
      obtain ⟨size, offset⟩ := ih laid
      simp only [List.map_cons, List.sum_cons]
      exact ⟨by omega, offset.trans firstOffset⟩

theorem take_tokens_size {counting : Bool} {set : ScannerSet} {remaining : Text}
    {consumed : Nat} {s after : State}
    (taken : takeTokens counting set remaining s = .ok (consumed, after)) :
    0 < consumed ∧ after.offset = s.offset := by
  rw [takeTokens] at taken
  split at taken
  · cases taken
  · cases taken
  · split at taken
    · cases taken
    · next checked =>
      obtain ⟨present, filled⟩ := nonempty_of_no_zero_width checked
      obtain ⟨size, offset⟩ := lay_tokens_size taken
      obtain ⟨token, rest, rfl⟩ := List.exists_cons_of_ne_nil present
      have positive := byte_size_pos.mpr (filled token (by simp))
      simp only [List.map_cons, List.sum_cons] at size
      exact ⟨by omega, offset⟩

/-- A pass that ends well leaves less of the input to the next one. -/
theorem pass_progress {counting : Bool} {set : ScannerSet} {input : Text} {s after : State}
    (passed : pass counting set input s = .ok after) : s.offset < after.offset := by
  rw [pass] at passed
  split at passed
  · cases passed
  · split at passed
    · cases passed
    · next taken =>
      obtain ⟨positive, offset⟩ := take_tokens_size taken
      cases passed
      dsimp only
      omega

/-! ## The loop -/

/-- The course of a loop: the states in which its passes began, its verdict, and the tokens that
passed their checks. -/
structure Course where
  passes : List State
  verdict : Verdict
  produced : List PlacedToken

/-- Passes over the input until nothing is left or a pass stops. -/
def course (counting : Bool) (set : ScannerSet) (input : Text) (s : State) : Course :=
  if s.offset < byteSize input then
    match _passed : pass counting set input s with
    | .error stop => ⟨[s], stop.verdict, stop.produced.reverse⟩
    | .ok after =>
      let rest := course counting set input after
      { rest with passes := s :: rest.passes }
  else ⟨[], finish counting s, s.produced.reverse⟩
termination_by byteSize input - s.offset
decreasing_by
  have progress := pass_progress _passed
  omega

/-- The loop over a whole input. -/
def run (counting : Bool) (set : ScannerSet) (input : Text) : Course :=
  course counting set input .start

/-- Lexing without a counter of open groups and its two errors. -/
def plain (set : ScannerSet) (input : Text) : Course := run false set input

theorem course_finished {counting : Bool} {set : ScannerSet} {input : Text} {s : State}
    (used : byteSize input ≤ s.offset) :
    course counting set input s = ⟨[], finish counting s, s.produced.reverse⟩ := by
  rw [course, if_neg (by omega)]

theorem course_stopped {counting : Bool} {set : ScannerSet} {input : Text} {s : State}
    {stop : Stop} (left : s.offset < byteSize input)
    (stopped : pass counting set input s = .error stop) :
    course counting set input s = ⟨[s], stop.verdict, stop.produced.reverse⟩ := by
  rw [course, if_pos left]
  split
  · next other same =>
    rw [stopped] at same
    cases same
    rfl
  · next other same =>
    rw [stopped] at same
    cases same

theorem course_passed {counting : Bool} {set : ScannerSet} {input : Text} {s after : State}
    (left : s.offset < byteSize input) (passed : pass counting set input s = .ok after) :
    course counting set input s =
      { course counting set input after with
        passes := s :: (course counting set input after).passes } := by
  rw [course, if_pos left]
  split
  · next other same =>
    rw [passed] at same
    cases same
  · next other same =>
    rw [passed] at same
    cases same
    rfl

/-- A property of states that every pass keeps holds at the start of all passes. -/
theorem course_induction {counting : Bool} {set : ScannerSet} {input : Text}
    {motive : State → Course → Prop}
    (finished : ∀ s, byteSize input ≤ s.offset →
      motive s ⟨[], finish counting s, s.produced.reverse⟩)
    (stopped : ∀ s stop, s.offset < byteSize input → pass counting set input s = .error stop →
      motive s ⟨[s], stop.verdict, stop.produced.reverse⟩)
    (passed : ∀ s after, s.offset < byteSize input → pass counting set input s = .ok after →
      motive after (course counting set input after) →
      motive s { course counting set input after with
        passes := s :: (course counting set input after).passes })
    (s : State) : motive s (course counting set input s) := by
  induction h : byteSize input - s.offset using Nat.strongRecOn generalizing s with
  | ind left ih =>
    by_cases more : s.offset < byteSize input
    · cases step : pass counting set input s with
      | error stop =>
        rw [course_stopped more step]
        exact stopped s stop more step
      | ok after =>
        rw [course_passed more step]
        have progress := pass_progress step
        exact passed s after more step (ih _ (by omega) after rfl)
    · rw [course_finished (by omega)]
      exact finished s (by omega)

end FormulaLexer.Loop
