import FormulaLexer.Text
import FormulaLexer.Unicode.CharacterClass

/-!
Conditions on places in a text. A place is known by the characters on its two sides; at an end of
the text one of them is missing.
-/

namespace FormulaLexer

/-- A place in a text, known by the last character in front of it and the first one behind it. -/
structure Place where
  before : Option Char
  next : Option Char

/-- How a place relates to a word. The halves look at one side only. -/
inductive WordEdge where
  | boundary
  | noBoundary
  | start
  | stop
  | startHalf
  | stopHalf
  deriving DecidableEq

/-- A condition on a place. Lines end at the newline, or also at the carriage return and at both
together; words are made of all word characters, or of those of ASCII. -/
inductive Anchor where
  | textStart
  | textEnd
  | lineStart (carriageReturns : Bool)
  | lineEnd (carriageReturns : Bool)
  | word (edge : WordEdge) (ascii : Bool)
  deriving DecidableEq

/-- Whether a character may be part of a word. -/
def isWordPart (ascii : Bool) (c : Char) : Bool :=
  if ascii then c.isAlphanum || c = '_' else Unicode.isWord c

/-- Whether the edge lies between two characters, of which `before` and `next` say whether they are
word characters. -/
def WordEdge.holds (edge : WordEdge) (before next : Bool) : Bool :=
  match edge with
  | .boundary => before != next
  | .noBoundary => before == next
  | .start => !before && next
  | .stop => before && !next
  | .startHalf => !before
  | .stopHalf => !next

/-- Whether the condition holds at the place. A carriage return and the newline behind it are one
end of a line, so no line ends or starts between them. -/
def Anchor.holds (condition : Anchor) (place : Place) : Bool :=
  match condition with
  | .textStart => place.before.isNone
  | .textEnd => place.next.isNone
  | .lineStart carriageReturns =>
    place.before.all fun c =>
      c = '\n' || (carriageReturns && c = '\r' && place.next ≠ some '\n')
  | .lineEnd carriageReturns =>
    place.next.all fun c =>
      if carriageReturns then c = '\r' || (c = '\n' && place.before ≠ some '\r') else c = '\n'
  | .word edge ascii =>
    edge.holds (place.before.any (isWordPart ascii)) (place.next.any (isWordPart ascii))

end FormulaLexer
