import FormulaLexer.Source.Position

/-!
Spans: the part of a source between two positions, the second of which is not before the first.
-/

namespace FormulaLexer

/-- The part of a source from `start` up to and without `stop`. -/
structure Span where
  start : Position
  stop : Position
  start_le_stop : start.offset ≤ stop.offset

namespace Span

/-- The span between two positions, if they are in order. -/
def between? (start stop : Position) : Option Span :=
  if h : start.offset ≤ stop.offset then some ⟨start, stop, h⟩ else none

/-- The span that a text covers when it begins at `start`. -/
def covering? (start : Position) (text : Text) : Option Span :=
  (start.advanceText? text).bind (between? start)

/-- The number of bytes in the span. -/
def byteSize (span : Span) : Nat :=
  span.stop.offset - span.start.offset

/-- Whether the span covers nothing. -/
def isEmpty (span : Span) : Bool :=
  span.start.offset = span.stop.offset

/-- The text of the span, if the span lies inside the source and cuts no character. -/
def slice? (span : Span) (source : Text) : Option Text :=
  source.slice? span.start.offset span.stop.offset

/-- Both ends, the second one without its line when the span stays on one line. -/
def write (span : Span) : Text :=
  if span.start.line = span.stop.line then
    span.start.write ++ '-' :: Text.ofNat span.stop.column
  else
    span.start.write ++ '-' :: span.stop.write

end Span

end FormulaLexer
