import FormulaLexer.Token.Category
import FormulaLexer.Token.Value

/-!
Tokens: a category, a value, and the part of the source that they came from. Tokens made by hand
have no source text.
-/

namespace FormulaLexer

/-- A lexeme with its meaning. -/
structure Token where
  category : Category
  value : Value
  raw : Option Text
  deriving DecidableEq

namespace Token

/-- Whether two tokens have the same category and value; where they came from does not count. -/
def same (a b : Token) : Bool :=
  a.category = b.category && a.value.same b.value

/-- The source text, empty for a token that has none. -/
def text (token : Token) : Text :=
  token.raw.getD []

/-- The number of characters of the source text. -/
def size (token : Token) : Nat :=
  token.text.length

/-- Whether the token covers no source text. -/
def isEmpty (token : Token) : Bool :=
  token.text.isEmpty

/-- The source text, or the value of a token made by hand. -/
def write (token : Token) : Text :=
  token.raw.getD token.value.write

/-- Whether the token is the grouping mark with this symbol. -/
def isGrouping (token : Token) (s : Symbol) : Bool :=
  token.category = .grouping && token.value.isSymbol s

end Token

end FormulaLexer
