import FormulaLexer.DateTime.Literal
import FormulaLexer.Scanner.Basic
import FormulaLexer.Unicode.LowerCase

/-!
The built-in scanners of the formula language, in the order in which they are tried. The order
matters: dates are tried before the numbers that they begin with, a negation before the
subtraction that is written the same way, and the head of a function call before the identifier
in it.
-/

namespace FormulaLexer

/-- The built-in scanners, in their canonical order. -/
inductive BuiltIn where
  | null
  | whitespace
  | dateTime
  | numeric
  | hexadecimal
  | doubleQuotedString
  | singleQuotedString
  | negate
  | booleanOperator
  | arithmeticOperator
  | grouping
  | access
  | caseStatement
  | comparisonOperator
  | boolean
  | function
  | identifier
  deriving DecidableEq

namespace BuiltIn

/-- All built-in scanners in their canonical order. -/
def all : List BuiltIn :=
  [.null, .whitespace, .dateTime, .numeric, .hexadecimal, .doubleQuotedString,
    .singleQuotedString, .negate, .booleanOperator, .arithmeticOperator, .grouping, .access,
    .caseStatement, .comparisonOperator, .boolean, .function, .identifier]

/-- The key under which a built-in scanner is registered. -/
def key : BuiltIn → Text
  | .null => "null".toList
  | .whitespace => "whitespace".toList
  | .dateTime => "datetime".toList
  | .numeric => "numeric".toList
  | .hexadecimal => "hexadecimal".toList
  | .doubleQuotedString => "double_quoted_string".toList
  | .singleQuotedString => "single_quoted_string".toList
  | .negate => "negate".toList
  | .booleanOperator => "boolean_operator".toList
  | .arithmeticOperator => "arithmetic_operator".toList
  | .grouping => "grouping".toList
  | .access => "access".toList
  | .caseStatement => "case_statement".toList
  | .comparisonOperator => "comparison_operator".toList
  | .boolean => "boolean".toList
  | .function => "function".toList
  | .identifier => "identifier".toList

/-- The built-in scanner with this key. -/
def ofKey? (key : Text) : Option BuiltIn :=
  all.find? fun builtIn => builtIn.key = key

/-- The category of the tokens of a scanner. A function scanner also produces the grouping mark
that opens its arguments. -/
def category : BuiltIn → Category
  | .null => .null
  | .whitespace => .whitespace
  | .dateTime => .dateTime
  | .numeric => .numeric
  | .hexadecimal => .numeric
  | .doubleQuotedString => .string
  | .singleQuotedString => .string
  | .negate => .arithmeticOperator
  | .booleanOperator => .booleanOperator
  | .arithmeticOperator => .arithmeticOperator
  | .grouping => .grouping
  | .access => .access
  | .caseStatement => .caseStatement
  | .comparisonOperator => .comparisonOperator
  | .boolean => .boolean
  | .function => .function
  | .identifier => .identifier

/-- The pattern of a scanner. -/
def pattern : BuiltIn → Text
  | .null => "null\\b".toList
  | .whitespace => "\\s+".toList
  | .dateTime =>
    "\\d\x7b2\x7d(?:\\d\x7b2\x7d)?-\\d\x7b1,2\x7d-\\d\x7b1,2\x7d".toList
      ++ "( \\d\x7b1,2\x7d:\\d\x7b1,2\x7d:\\d\x7b1,2\x7d)? ?".toList
      ++ "(Z|([+-]\\d\x7b2\x7d:?\\d\x7b2\x7d))?".toList
  | .numeric => "((?:\\d+(\\.\\d+)?|\\.\\d+)(?:[eE][+-]?\\d+)?)\\b".toList
  | .hexadecimal => "(0x[0-9a-f]+)\\b".toList
  | .doubleQuotedString => "\"[^\"]*\"".toList
  | .singleQuotedString => "'[^']*'".toList
  | .negate => "-".toList
  | .booleanOperator => "(and|or|&&|\\|\\|)\\s+".toList
  | .arithmeticOperator => "\\^|\\+|-|\\*|/|%|\\||&".toList
  | .grouping => "\\(|\\)|,".toList
  | .access => "\\[|\\]".toList
  | .caseStatement => "(case|end|then|when|else)\\b".toList
  | .comparisonOperator => "<=|>=|!=|<>|<|>|==|=".toList
  | .boolean => "(true|false)\\b".toList
  | .function => "\\w+!?\\s*\\(".toList
  | .identifier => "[\\w.]+\\b".toList

/-! ## Converters -/

/-- A literal without a value of its own. -/
def toConstant (v : Value) : Converter := fun _ => .ok (.value v)

/-- The symbol that a table gives for the spelling of an operator or keyword. -/
def lookUp (kind : String) (table : List (String × String)) (spelling : Text) :
    Except Text Conversion :=
  match table.find? fun entry => entry.1.toList = spelling with
  | some (_, name) => .ok (.value (.symbol (.named name)))
  | none =>
    .error ("unknown ".toList ++ kind.toList ++ " '".toList ++ spelling ++ "'".toList)

/-- Boolean operators by their spelling in lower case. -/
def booleanOperators : List (String × String) :=
  [("and", "and"), ("&&", "and"), ("or", "or"), ("||", "or")]

/-- Arithmetic operators by their spelling. -/
def arithmeticOperators : List (String × String) :=
  [("^", "pow"), ("+", "add"), ("-", "subtract"), ("*", "multiply"), ("/", "divide"),
    ("%", "mod"), ("|", "bitor"), ("&", "bitand")]

/-- Grouping marks by their spelling. -/
def groupingMarks : List (String × String) :=
  [("(", "open"), (")", "close"), (",", "comma")]

/-- Access marks by their spelling. -/
def accessMarks : List (String × String) :=
  [("[", "lbracket"), ("]", "rbracket")]

/-- Keywords of the case statement by their spelling in lower case. -/
def caseKeywords : List (String × String) :=
  [("case", "open"), ("end", "close"), ("then", "then"), ("when", "when"), ("else", "else")]

/-- Comparison operators by their spelling. -/
def comparisonOperators : List (String × String) :=
  [("<=", "le"), (">=", "ge"), ("!=", "ne"), ("<>", "ne"), ("<", "lt"), (">", "gt"), ("=", "eq"),
    ("==", "eq")]

/-- The largest number kept as an integer; larger ones become exact decimals. -/
def integerBound : Nat := Nat.pow 2 63 - 1

/-- A natural number as an integer value, or as a decimal if it is too large for one. -/
def numberValue (n : Nat) : Value :=
  if n ≤ integerBound then .integer n else .decimal (.ofInt n)

/-- A literal with a point is a decimal; the digit that may be missing before the point is zero. -/
def toDecimal (raw : Text) : Except Text Conversion :=
  match Number.Decimal.read (if raw.head? = some '.' then '0' :: raw else raw) with
  | .ok d => .ok (.value (.decimal d))
  | .error failure => .error ("invalid decimal literal: ".toList ++ failure.message)

/-- The number at the front of a literal without a point; an exponent is ignored. -/
def toWhole (raw : Text) : Except Text Conversion :=
  match Number.readUnbounded 10 (raw.takeWhile Char.isDigit) with
  | .ok n => .ok (.value (numberValue n))
  | .error _ =>
    .error ("invalid numeric literal: ".toList ++ Number.Decimal.ReadFailure.emptyDigits.message)

/-- A literal with a point is a decimal, any other one a whole number. -/
def toNumber : Converter := fun raw =>
  if raw.contains '.' then toDecimal raw else toWhole raw

/-- The number written by the hexadecimal digits behind the two characters of the marker. -/
def toHexadecimal : Converter := fun raw =>
  match Number.readUnbounded 16 (raw.drop 2) with
  | .ok n => .ok (.value (numberValue n))
  | .error _ => .error ("invalid hexadecimal literal '".toList ++ raw ++ "'".toList)

/-- The date-time that a literal stands for. -/
def toDateTime (zone : LocalZone) : Converter := fun raw =>
  match DateTime.ofLiteral raw zone with
  | .ok t => .ok (.value (.dateTime t))
  | .error e => .error e.message

/-- The text between the two quotes. -/
def unquote (raw : Text) : Text :=
  (raw.drop 1).dropLast

/-- The name of a function in lower case, and the parenthesis behind it as a token of its own. -/
def toFunctionHead : Converter := fun raw =>
  let name : Text := if raw.getLast? = some '(' then raw.dropLast else raw
  .ok (.tokens
    [⟨.function, .symbol ⟨Unicode.lowerCase name.trim⟩, some name⟩,
      ⟨.grouping, .symbol .opening, some ['(']⟩])

/-- An identifier, in lower case unless case is kept. -/
def toIdentifier (keepCase : Bool) : Converter := fun raw =>
  .ok (.value (.string (if keepCase then raw.trim else Unicode.lowerCase raw.trim)))

/-- The converter of a scanner. -/
def convert (keepCase : Bool) (zone : LocalZone) : BuiltIn → Converter
  | .null => toConstant .null
  | .whitespace => toConstant (.string [' '])
  | .dateTime => toDateTime zone
  | .numeric => toNumber
  | .hexadecimal => toHexadecimal
  | .doubleQuotedString => fun raw => .ok (.value (.string (unquote raw)))
  | .singleQuotedString => fun raw => .ok (.value (.string (unquote raw)))
  | .negate => toConstant (.symbol .negate)
  | .booleanOperator => fun raw =>
    lookUp "boolean operator" booleanOperators (Unicode.lowerCase raw.trim)
  | .arithmeticOperator => lookUp "arithmetic operator" arithmeticOperators
  | .grouping => lookUp "grouping" groupingMarks
  | .access => lookUp "access" accessMarks
  | .caseStatement => fun raw => lookUp "case keyword" caseKeywords (Unicode.lowerCase raw)
  | .comparisonOperator => lookUp "comparison operator" comparisonOperators
  | .boolean => fun raw => .ok (.value (.boolean (Text.lowerAscii raw.trim = "true".toList)))
  | .function => toFunctionHead
  | .identifier => toIdentifier keepCase

/-- A minus sign is a negation where no operand can stand before it: at the start, behind an
operator, and behind an opening or separating symbol. -/
def opensOperand : Condition := fun previous =>
  previous.all fun token =>
    token.category.isOperator || token.value.isSymbol .opening || token.value.isSymbol .comma

/-- The condition of a scanner. -/
def condition : BuiltIn → Option Condition
  | .negate => some opensOperand
  | _ => none

/-! ## The scanners -/

/-- What the pattern of a scanner reads as. -/
def expression (builtIn : BuiltIn) : Pattern :=
  match Pattern.readAnchored builtIn.pattern with
  | .ok expression => expression
  | .error _ => .empty

/-- All built-in patterns can be read. -/
theorem readAnchored_pattern (builtIn : BuiltIn) :
    Pattern.readAnchored builtIn.pattern = .ok builtIn.expression := by
  cases builtIn <;> rfl

/-- The built-in scanner; `keepCase` decides whether identifiers keep their case, and date-times
without a zone are those of local clocks. -/
def scanner (builtIn : BuiltIn) (keepCase : Bool) (zone : LocalZone := .utc) : Scanner where
  category := builtIn.category
  pattern := builtIn.pattern
  expression := builtIn.expression
  route := builtIn.expression.route
  convert := builtIn.convert keepCase zone
  condition := builtIn.condition
  reads := builtIn.readAnchored_pattern
  expands := rfl

end BuiltIn

end FormulaLexer
