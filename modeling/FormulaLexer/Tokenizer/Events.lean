import FormulaLexer.Tokenizer.Basic

/-!
What a tokenizer run logs: one event at its start, and either one error or one success at its
end, the success followed by the counts of the categories where the preferences ask for them.
-/

namespace FormulaLexer.Tokenizer

/-- The character at a position of the input, or nothing at its end. -/
def offendingText (input : Text) (position : Position) : Text :=
  match Text.splitAtByte? position.offset input with
  | some (_, c :: _) => [c]
  | _ => []

/-- The span of the character at a position. -/
def offendingSpan? (input : Text) (position : Position) : Option Span :=
  Span.covering? position (offendingText input position)

/-- The first event of a run. -/
def startEvent (t : Tokenizer) (input : Text) : Log.Event :=
  (Log.Event.debug "Starting tokenization".toList).withContexts
    [("bytes".toList, Text.ofNat input.byteSize),
      ("scanners".toList, Text.ofNat t.scanners.size)]

/-- The event of an error, which points at the offending character where the preferences ask for
positions and the error has one. -/
def errorEvent (t : Tokenizer) (input : Text) (e : TokenizerError) : Log.Event :=
  let event :=
    (Log.Event.error e.code e.message).withContext "reason".toList e.reason.name
  if t.preferences.includePositions then
    { event with span := e.position?.bind (offendingSpan? input) }
  else event

/-- The event of a successful run. -/
def successEvent (m : Metrics) : Log.Event :=
  (Log.Event.success .tokenized "Tokenization completed".toList).withContexts
    [("tokens".toList, Text.ofNat m.totalTokens),
      ("whitespace_skipped".toList, Text.ofNat m.whitespaceSkipped),
      ("max_nesting".toList, Text.ofNat m.maxNesting)]

/-- The event with the counts of the categories. -/
def countsEvent (m : Metrics) : Log.Event :=
  (Log.Event.debug "Token categories".toList).withContexts
    [("counts".toList, m.writeCounts), ("scanner_attempts".toList, Text.ofNat m.attempts)]

/-- The events that follow the first one. -/
def endEvents (t : Tokenizer) (input : Text) : Outcome → List Log.Event
  | .accepted _ metrics =>
    successEvent metrics
      :: (if t.preferences.collectMetrics then [countsEvent metrics] else [])
  | .rejected e => [t.errorEvent input e]
  | .overflowed => []

/-- All events of the run over a text. -/
def events (t : Tokenizer) (input : Text) : List Log.Event :=
  t.startEvent input :: t.endEvents input (t.run input)

end FormulaLexer.Tokenizer
