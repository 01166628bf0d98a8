import FormulaLexer.Log.Code
import FormulaLexer.Source.Position
import FormulaLexer.Token.Category

/-!
The errors that end a tokenizer run, with their wording, their codes and the details listed with
them.
-/

namespace FormulaLexer

/-- Why a text could not be cut into tokens. -/
inductive TokenizerError where
  | parse (remaining : Text) (position : Position) (detail : Option Text)
  | tooManyOpening (unclosed : Nat)
  | tooManyClosing (position : Position)
  | zeroWidth (category : Category) (position : Position)
  deriving DecidableEq

/-- The kinds of tokenizer errors. -/
inductive Reason where
  | parse
  | tooManyOpening
  | tooManyClosing
  | zeroWidth
  deriving DecidableEq

namespace Reason

/-- All kinds of errors. -/
def all : List Reason := [.parse, .tooManyOpening, .tooManyClosing, .zeroWidth]

/-- The name of a kind of error. -/
def name : Reason → Text
  | .parse => "parse_error".toList
  | .tooManyOpening => "too_many_opening_parentheses".toList
  | .tooManyClosing => "too_many_closing_parentheses".toList
  | .zeroWidth => "unexpected_zero_width_match".toList

/-- The kind of error with this name. -/
def ofName? (name : Text) : Option Reason :=
  all.find? fun reason => reason.name = name

/-- The wording for a name that no kind of error has. -/
def unknownMessage (name : Text) : Text :=
  "Unhandled tokenizer error reason: ".toList ++ name

/-- The code under which errors of a kind are logged. -/
def code : Reason → Log.Code
  | .parse => .parseError
  | .tooManyOpening => .tooManyOpening
  | .tooManyClosing => .tooManyClosing
  | .zeroWidth => .zeroWidth

end Reason

namespace TokenizerError

/-- At most this many characters of the remaining text are shown with an error. -/
def snippetLimit : Nat := 40

/-- The error of a text that cannot be cut any further at a position. -/
def parseAt (remaining : Text) (position : Position) (detail : Option Text) : TokenizerError :=
  .parse (Text.abbreviate snippetLimit remaining) position detail

/-- The kind of an error. -/
def reason : TokenizerError → Reason
  | .parse _ _ _ => .parse
  | .tooManyOpening _ => .tooManyOpening
  | .tooManyClosing _ => .tooManyClosing
  | .zeroWidth _ _ => .zeroWidth

/-- The code under which an error is logged. -/
def code (e : TokenizerError) : Log.Code :=
  e.reason.code

/-- Where an error lies. Groups left open belong to no single place. -/
def position? : TokenizerError → Option Position
  | .parse _ position _ => some position
  | .tooManyOpening _ => none
  | .tooManyClosing position => some position
  | .zeroWidth _ position => some position

/-- The wording of an error. -/
def message : TokenizerError → Text
  | .parse remaining position detail =>
    "parse error at ".toList ++ position.write ++ ": unable to tokenize '".toList ++ remaining
      ++ "'".toList
      ++ match detail with
        | some detail => " (".toList ++ detail ++ ")".toList
        | none => []
  | .tooManyOpening unclosed =>
    "too many opening parentheses: ".toList ++ Text.ofNat unclosed ++ " left unclosed".toList
  | .tooManyClosing position => "too many closing parentheses at ".toList ++ position.write
  | .zeroWidth category position =>
    "unexpected zero-width match for '".toList ++ category.name ++ "' at ".toList ++ position.write

/-- The details that belong to the kind of an error. -/
def ownDetails : TokenizerError → List (Text × Text)
  | .parse remaining _ detail =>
    ("at".toList, remaining) :: detail.toList.map fun detail => ("detail".toList, detail)
  | .tooManyOpening unclosed => [("unclosed".toList, Text.ofNat unclosed)]
  | .tooManyClosing _ => []
  | .zeroWidth category _ => [("token_category".toList, category.name)]

/-- The counters of a position. -/
def positionDetails (p : Position) : List (Text × Text) :=
  [("offset".toList, Text.ofNat p.offset), ("line".toList, Text.ofNat p.line),
    ("column".toList, Text.ofNat p.column)]

/-- All details of an error, its position last. -/
def details (e : TokenizerError) : List (Text × Text) :=
  e.ownDetails ++ (e.position?.toList.flatMap positionDetails)

end TokenizerError

end FormulaLexer
