import FormulaLexer.DateTime.Basic
import FormulaLexer.Number.Decimal

/-!
The values that tokens carry. Numbers are compared as numbers and date-times as instants, while
an integer is never the same value as a decimal.
-/

namespace FormulaLexer

/-- The normalized name of an operator, a grouping mark, a keyword or a function. -/
structure Symbol where
  name : Text
  deriving DecidableEq

namespace Symbol

/-- The symbol with a fixed name. -/
def named (name : String) : Symbol := ⟨name.toList⟩

/-- Opens a group, and a case statement. -/
def opening : Symbol := named "open"

/-- Closes a group, and a case statement. -/
def closing : Symbol := named "close"

/-- Separates the arguments of a function. -/
def comma : Symbol := named "comma"

/-- The minus sign in front of an operand. -/
def negate : Symbol := named "negate"

/-- The minus sign between two operands. -/
def subtract : Symbol := named "subtract"

end Symbol

/-- The meaning of a token. -/
inductive Value where
  | null
  | integer (n : Int)
  | decimal (d : Number.Decimal)
  | string (text : Text)
  | boolean (b : Bool)
  | dateTime (t : DateTime)
  | symbol (s : Symbol)
  deriving DecidableEq

namespace Value

/-- Whether two values are the same: decimals as numbers, date-times as instants. -/
def same : Value → Value → Bool
  | .null, .null => true
  | .integer m, .integer n => m = n
  | .decimal c, .decimal d => c.same d
  | .string s, .string t => s = t
  | .boolean a, .boolean b => a = b
  | .dateTime t, .dateTime u => t.same u
  | .symbol s, .symbol t => s = t
  | _, _ => false

/-- The name of the kind of value. -/
def typeName : Value → Text
  | .null => "null".toList
  | .integer _ => "integer".toList
  | .decimal _ => "decimal".toList
  | .string _ => "string".toList
  | .boolean _ => "boolean".toList
  | .dateTime _ => "datetime".toList
  | .symbol _ => "symbol".toList

/-- The symbol, if the value is one. -/
def symbol? : Value → Option Symbol
  | .symbol s => some s
  | _ => none

/-- The text of a string value. -/
def string? : Value → Option Text
  | .string text => some text
  | _ => none

/-- Whether the value is the given symbol. -/
def isSymbol (value : Value) (s : Symbol) : Bool :=
  value.symbol? = some s

/-- The value as it appears in messages. -/
def write : Value → Text
  | .null => "null".toList
  | .integer n => Text.ofInt n
  | .decimal d => d.write
  | .string text => text
  | .boolean b => Text.ofBool b
  | .dateTime t => t.write .digits
  | .symbol s => s.name

end Value

end FormulaLexer
