import FormulaLexer.Scanner.Set
import FormulaLexer.Tokenizer.Error

/-!
The course of a tokenizer run over a text. At each step the first scanner that accepts the
remaining text produces tokens, which must cover a part of that text that is not empty; the run
goes on behind that part. The trace of a run lists its steps with all tokens produced, blanks
included, and the way in which the run ended. Whether parentheses balance is not looked at here.
-/

namespace FormulaLexer

/-- A token and the position at which its text starts. -/
structure PlacedToken where
  token : Token
  start : Position

/-- One step of a run: the key of the scanner that won, the number of scanners tried, and the
tokens produced. -/
structure Step where
  key : Text
  attempts : Nat
  produced : List PlacedToken

/-- How a run ended: at the end of the text, with an error, or because a position would have
passed its bounds. -/
inductive Ending where
  | complete
  | failed (e : TokenizerError)
  | overflow

/-- The steps of a run and its ending. -/
structure Trace where
  steps : List Step
  ending : Ending

/-! ## Choosing a scanner -/

/-- What the scanners of a set make of the remaining text. -/
inductive Acceptance where
  | accepted (key : Text) (attempts : Nat) (category : Category) (tokens : List Token)
  | refused (e : ConversionError)
  | unmatched

/-- Tries scanners in order, `tried` of them having been tried before. A failed conversion ends
the search. -/
def acceptFirst (remaining : Text) (previous : Option Token) :
    (tried : Nat) → List ScannerEntry → Acceptance
  | _, [] => .unmatched
  | tried, entry :: entries =>
    match entry.scanner.scan remaining previous with
    | .ok none => acceptFirst remaining previous (tried + 1) entries
    | .ok (some tokens) => .accepted entry.key (tried + 1) entry.scanner.category tokens
    | .error e => .refused e

/-! ## Covering the text with tokens -/

/-- The detail of the error for a token whose text does not end between two characters of the
remaining text. -/
def misaligned (token : Token) : Text :=
  token.category.name ++ " token '".toList ++ token.write
    ++ "' does not align with the input".toList

/-- Where a step leads: the number of characters that it covers and the position behind them. -/
structure Advance where
  covered : Nat
  reached : Position

/-- Tokens laid over a text, as far as that goes: the tokens with their positions, and either how
far they reach or the ending of the run. -/
structure Placement where
  placed : List PlacedToken
  outcome : Except Ending Advance

/-- Lays tokens over a text one after the other. A token covers as many bytes as its own text
has. -/
def place : List Token → Text → Position → Placement
  | [], _, position => ⟨[], .ok ⟨0, position⟩⟩
  | token :: tokens, remaining, position =>
    match Text.splitAtByte? token.text.byteSize remaining with
    | none =>
      ⟨[], .error (.failed (.parseAt remaining position (some (misaligned token))))⟩
    | some (covered, rest) =>
      match position.advanceText? covered with
      | none => ⟨[⟨token, position⟩], .error .overflow⟩
      | some reached =>
        let others := place tokens rest reached
        ⟨⟨token, position⟩ :: others.placed,
          others.outcome.map fun further => ⟨covered.length + further.covered, further.reached⟩⟩

/-! ## Steps -/

/-- The category of the first token without text. An empty list of tokens counts as a token
without text of the scanner's category. -/
def zeroWidthCategory? (category : Category) : List Token → Option Category
  | [] => some category
  | tokens => (tokens.find? Token.isEmpty).map Token.category

/-- The result of one step: the step itself, unless it produced no tokens, and either how far it
leads or the ending of the run. -/
structure StepResult where
  step : Option Step
  outcome : Except Ending Advance

/-- One step from a position of a text that is not used up. -/
def takeStep (set : ScannerSet) (remaining : Text) (previous : Option Token)
    (position : Position) : StepResult :=
  match acceptFirst remaining previous 0 set.entries with
  | .unmatched => ⟨none, .error (.failed (.parseAt remaining position none))⟩
  | .refused e => ⟨none, .error (.failed (.parseAt remaining position (some e.describe)))⟩
  | .accepted key attempts category tokens =>
    match zeroWidthCategory? category tokens with
    | some category => ⟨none, .error (.failed (.zeroWidth category position))⟩
    | none =>
      let placement := place tokens remaining position
      ⟨some ⟨key, attempts, placement.placed⟩, placement.outcome⟩

/-- The last significant token after a step. -/
def lastSignificant (previous : Option Token) (placed : List PlacedToken) : Option Token :=
  placed.foldl
    (fun previous item =>
      if item.token.category = .whitespace then previous else some item.token)
    previous

/-- The trace of a run from a position on. The first `owed` characters of the text belong to a
step that has been taken already. -/
def traceFrom (set : ScannerSet) :
    Text → (owed : Nat) → (previous : Option Token) → Position → Trace
  | [], _, _, _ => ⟨[], .complete⟩
  | _ :: rest, owed + 1, previous, position => traceFrom set rest owed previous position
  | c :: rest, 0, previous, position =>
    let result := takeStep set (c :: rest) previous position
    match result.outcome with
    | .error ending => ⟨result.step.toList, ending⟩
    | .ok further =>
      let placed := result.step.toList.flatMap Step.produced
      let others :=
        traceFrom set rest (further.covered - 1) (lastSignificant previous placed) further.reached
      ⟨result.step.toList ++ others.steps, others.ending⟩

/-- The trace of the run over a whole text. -/
def trace (set : ScannerSet) (input : Text) : Trace :=
  traceFrom set input 0 none .start

/-- All tokens produced in a run, in order. -/
def Trace.produced (t : Trace) : List PlacedToken :=
  t.steps.flatMap Step.produced

end FormulaLexer
