import FormulaLexer.Text

/-!
Positions in a source text. A position counts the bytes, the lines and the characters of the
current line up to a place in the text. The counters are bounded, and moving on past a bound is
the only way in which a position can fail to exist.
-/

namespace FormulaLexer

/-- A place in a source: the bytes before it, and its line and column, both counted from one.
Columns count characters. -/
structure Position where
  offset : Nat
  line : Nat
  column : Nat
  deriving DecidableEq

namespace Position

/-- The first place of every source. -/
def start : Position := ⟨0, 1, 1⟩

/-- Offsets stay below this bound. -/
def offsetBound : Nat := Nat.pow 2 64

/-- Lines and columns stay below this bound. -/
def counterBound : Nat := Nat.pow 2 32

/-- Whether all three counters are within their bounds. -/
def inBounds (p : Position) : Bool :=
  p.offset < offsetBound && p.line < counterBound && p.column < counterBound

/-- The position after the character, without regard to the bounds. -/
def next (p : Position) (c : Char) : Position :=
  if c = '\n' then ⟨p.offset + 1, p.line + 1, 1⟩
  else ⟨p.offset + c.utf8Size, p.line, p.column + 1⟩

/-- The position after the character, if its counters are within their bounds. -/
def advance? (p : Position) (c : Char) : Option Position :=
  if (p.next c).inBounds then some (p.next c) else none

/-- The position after a text. -/
def advanceText? (p : Position) : Text → Option Position
  | [] => some p
  | c :: rest =>
    match p.advance? c with
    | some q => q.advanceText? rest
    | none => none

/-- The position of the byte `offset` of a source. An offset beyond the end or inside a character
stands for the nearest boundary before it. -/
def locate? (source : Text) (offset : Nat) : Option Position :=
  start.advanceText? (source.takeBytes offset)

/-- Line and column, the way positions are named in messages. -/
def write (p : Position) : Text :=
  Text.ofNat p.line ++ ':' :: Text.ofNat p.column

/-- Positions are ordered by offset, then by line, then by column. -/
def order (p q : Position) : Ordering :=
  (compare p.offset q.offset).then ((compare p.line q.line).then (compare p.column q.column))

end Position

end FormulaLexer
