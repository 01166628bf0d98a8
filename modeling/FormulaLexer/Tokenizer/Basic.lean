import FormulaLexer.Preferences
import FormulaLexer.Tokenizer.Trace

/-!
The result of a tokenizer run. The tokens that a run produces are counted in order: blanks are
dropped, grouping parentheses are balanced against each other, and metrics are gathered. The
first closing parenthesis without a partner is an error wherever the run would have ended.
-/

namespace FormulaLexer

/-- Counters of a run: the tokens returned, the blanks dropped, the tokens of each category by
its name, the deepest nesting of groups, and the scanners tried. -/
structure Metrics where
  totalTokens : Nat
  whitespaceSkipped : Nat
  categoryCounts : KeyMap Nat
  maxNesting : Nat
  attempts : Nat
  deriving DecidableEq

namespace Metrics

/-- The counters before a run. -/
def zero : Metrics := ⟨0, 0, [], 0, 0⟩

/-- Counts a token that is returned. -/
def countToken (m : Metrics) (token : Token) : Metrics :=
  { m with
    totalTokens := m.totalTokens + 1
    categoryCounts := m.categoryCounts.alter token.category.name fun count => count.getD 0 + 1 }

/-- The counts of the categories in the form in which they are logged. -/
def writeCounts (m : Metrics) : Text :=
  let pairs := m.categoryCounts.map fun entry =>
    Text.quoted entry.1 ++ ": ".toList ++ Text.ofNat entry.2
  '{' :: Text.join ", ".toList pairs ++ ['}']

end Metrics

/-- What has been counted so far: the tokens to return, latest first, the groups that are open,
and the metrics. -/
structure Tally where
  tokens : List Token
  balance : Nat
  metrics : Metrics

namespace Tally

/-- The tally before a run. -/
def zero : Tally := ⟨[], 0, .zero⟩

/-- Opens or closes a group. -/
def addGrouping (t : Tally) (item : PlacedToken) : Except TokenizerError Tally :=
  if item.token.isGrouping .opening then
    .ok { t with
      balance := t.balance + 1
      metrics := { t.metrics with maxNesting := max t.metrics.maxNesting (t.balance + 1) } }
  else if item.token.isGrouping .closing then
    if t.balance = 0 then .error (.tooManyClosing item.start)
    else .ok { t with balance := t.balance - 1 }
  else .ok t

/-- Drops a blank, and keeps any other token. -/
def addToken (t : Tally) (token : Token) : Tally :=
  if token.category = .whitespace then
    let skipped := t.metrics.whitespaceSkipped + 1
    { t with metrics := { t.metrics with whitespaceSkipped := skipped } }
  else { t with tokens := token :: t.tokens, metrics := t.metrics.countToken token }

/-- Counts one produced token. -/
def add (t : Tally) (item : PlacedToken) : Except TokenizerError Tally :=
  match t.addGrouping item with
  | .ok t => .ok (t.addToken item.token)
  | .error e => .error e

/-- Counts produced tokens in order. -/
def addAll (t : Tally) : List PlacedToken → Except TokenizerError Tally
  | [] => .ok t
  | item :: items =>
    match t.add item with
    | .ok t => t.addAll items
    | .error e => .error e

/-- Counts the scanners tried in a step and the tokens that it produced. -/
def addStep (t : Tally) (step : Step) : Except TokenizerError Tally :=
  Tally.addAll
    { t with metrics := { t.metrics with attempts := t.metrics.attempts + step.attempts } }
    step.produced

/-- Counts steps in order. -/
def addSteps (t : Tally) : List Step → Except TokenizerError Tally
  | [] => .ok t
  | step :: steps =>
    match t.addStep step with
    | .ok t => t.addSteps steps
    | .error e => .error e

end Tally

/-- The result of a run: tokens with their metrics, an error, or a position out of bounds. -/
inductive Outcome where
  | accepted (tokens : List Token) (metrics : Metrics)
  | rejected (e : TokenizerError)
  | overflowed
  deriving DecidableEq

/-- The result of a run with this trace. -/
def Trace.outcome (t : Trace) : Outcome :=
  match Tally.zero.addSteps t.steps with
  | .error e => .rejected e
  | .ok tally =>
    match t.ending with
    | .failed e => .rejected e
    | .overflow => .overflowed
    | .complete =>
      if 0 < tally.balance then .rejected (.tooManyOpening tally.balance)
      else .accepted tally.tokens.reverse tally.metrics

/-- A scanner set with the preferences for using it. -/
structure Tokenizer where
  scanners : ScannerSet
  preferences : LexicalPreferences

namespace Tokenizer

/-- Inputs are expected to have one token for this many bytes. -/
def bytesPerToken : Nat := 2

/-- The built-in scanners with these preferences and local clocks. -/
def ofPreferences (preferences : LexicalPreferences) (zone : LocalZone := .utc) : Tokenizer :=
  ⟨.builtIn preferences.caseSensitive zone, preferences⟩

/-- The same preferences for another scanner set. -/
def withScanners (t : Tokenizer) (scanners : ScannerSet) : Tokenizer :=
  { t with scanners }

/-- Cuts a text into its significant tokens. -/
def run (t : Tokenizer) (input : Text) : Outcome :=
  (trace t.scanners input).outcome

end Tokenizer

end FormulaLexer
