import FormulaLexer.Json
import FormulaLexer.Log.Code
import FormulaLexer.Log.Level
import FormulaLexer.Source.Span

/-!
Log events and their two written forms, a line of text and a JSON object. An event carries a
code, a message of bounded length, an optional span of the source, and a context of named values
that is always listed by name.
-/

namespace FormulaLexer.Log

/-- Something that happened. The time is in seconds since 1970. -/
structure Event where
  time : Nat
  level : Level
  code : Code
  message : Text
  span : Option Span
  context : KeyMap Text

namespace Event

/-- Longer messages are cut to this many characters. -/
def messageLimit : Nat := 4096

/-- An event without span and context. -/
def make (level : Level) (code : Code) (message : Text) : Event :=
  ⟨0, level, code, Text.abbreviate messageLimit message, none, []⟩

/-- An error. -/
def error (code : Code) (message : Text) : Event :=
  make .error code message

/-- A warning without a code of its own. -/
def warning (message : Text) : Event :=
  make .warning .plainWarning message

/-- Information without a code of its own. -/
def info (message : Text) : Event :=
  make .info .plainInfo message

/-- Information that something succeeded. -/
def success (code : Code) (message : Text) : Event :=
  make .info code message

/-- A debug event. -/
def debug (message : Text) : Event :=
  make .debug .plainDebug message

/-- The event about a span of the source. -/
def withSpan (event : Event) (span : Span) : Event :=
  { event with span := some span }

/-- The event with one more named value in its context. -/
def withContext (event : Event) (name value : Text) : Event :=
  { event with context := event.context.insert name value }

/-- The event with the named values, in order, in its context. -/
def withContexts (event : Event) (values : List (Text × Text)) : Event :=
  values.foldl (fun event entry => event.withContext entry.1 entry.2) event

/-- The event at a time. -/
def atTime (event : Event) (time : Nat) : Event :=
  { event with time }

/-- Whether the event is an error. -/
def isError (event : Event) : Bool :=
  event.level = .error

/-- Whether the event is information. -/
def isInfo (event : Event) : Bool :=
  event.level = .info

/-- The event on one line: level, code, message, the start of the span, and the context. -/
def write (event : Event) : Text :=
  let place :=
    match event.span with
    | some span => " at ".toList ++ span.start.write
    | none => []
  let context :=
    if event.context.isEmpty then []
    else
      let pairs := event.context.map fun entry => entry.1 ++ '=' :: entry.2
      " (".toList ++ Text.join ", ".toList pairs ++ ")".toList
  '[' :: event.level.label ++ "] ".toList ++ event.code.text ++ " - ".toList ++ event.message
    ++ place ++ context

/-- The ends of a span. -/
def spanJson (span : Span) : Json :=
  .sorted
    [("start_line".toList, .nat span.start.line), ("start_column".toList, .nat span.start.column),
      ("end_line".toList, .nat span.stop.line), ("end_column".toList, .nat span.stop.column)]

/-- What the registry says about the code of an error. -/
def metadataJson (code : Code) : Json :=
  .sorted
    [("description".toList, .string code.description),
      ("recommended_action".toList, .string code.action)]

/-- The event as an object. The members about errors, spans and contexts appear only in events
that are errors, or have a span or a context. -/
def toJson (event : Event) : Json :=
  .sorted <|
    [("timestamp".toList, .nat event.time),
      ("level".toList, .string event.level.label),
      ("code".toList, .string event.code.text),
      ("message".toList, .string event.message),
      ("category".toList, .string event.code.category),
      ("severity".toList, .string event.code.severity.name)]
    ++ (if event.isError then [("error_metadata".toList, metadataJson event.code)] else [])
    ++ (event.span.toList.map fun span => ("span".toList, spanJson span))
    ++ (if event.context.isEmpty then []
        else
          let values := event.context.map fun entry => (entry.1, Json.string entry.2)
          [("context".toList, .sorted values)])

end Event

end FormulaLexer.Log
