import FormulaLexer.Source.Position

/-!
The lines of a source, and the rendering of a message above the line it is about with a caret
under the offending column.
-/

namespace FormulaLexer

/-- A source together with the offset of the first byte of each of its lines. -/
structure SourceLines where
  source : Text
  starts : List Nat

namespace SourceLines

/-- The offsets of the bytes behind the newlines of a text that begins at `offset`. -/
def startsAfterNewlines : (offset : Nat) → Text → List Nat
  | _, [] => []
  | offset, c :: rest =>
    if c = '\n' then (offset + 1) :: startsAfterNewlines (offset + 1) rest
    else startsAfterNewlines (offset + c.utf8Size) rest

/-- The lines of a source; a newline at its end opens one more empty line. -/
def ofSource (source : Text) : SourceLines :=
  ⟨source, 0 :: startsAfterNewlines 0 source⟩

/-- The text of a line, counted from one, without its newline and the carriage returns before
it. -/
def line? (lines : SourceLines) (number : Nat) : Option Text :=
  match number with
  | 0 => none
  | index + 1 =>
    match lines.starts[index]? with
    | none => none
    | some start =>
      let stop :=
        match lines.starts[index + 1]? with
        | some next => next - 1
        | none => lines.source.byteSize
      (lines.source.slice? start stop).map (Text.dropEndWhile (· = '\r'))

/-- The excerpt that shows a line with its number and a caret under a column. -/
def excerpt (p : Position) (line : Text) : Text :=
  let number := Text.ofNat p.line
  let gutter := ' ' :: List.replicate number.length ' ' ++ " |".toList
  gutter ++ "\n ".toList ++ number ++ " | ".toList ++ line ++ '\n' :: gutter ++ " ".toList
    ++ List.replicate (p.column - 1) ' ' ++ "^\n".toList

/-- The message with its position, followed by the excerpt if the source has that line. -/
def renderError (lines : SourceLines) (p : Position) (message : Text) : Text :=
  "error: ".toList ++ message ++ "\n  --> ".toList ++ p.write ++ '\n' ::
    match lines.line? p.line with
    | some line => excerpt p line
    | none => []

end SourceLines

end FormulaLexer
