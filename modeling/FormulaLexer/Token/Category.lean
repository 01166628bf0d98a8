import FormulaLexer.Text.Quoted

/-!
The categories into which tokens fall. A scanner may bring a category of its own; such a
category is never one of the built-in ones, even if it has the same name.
-/

namespace FormulaLexer

/-- What kind of lexeme a token is. -/
inductive Category where
  | null
  | whitespace
  | dateTime
  | numeric
  | string
  | arithmeticOperator
  | booleanOperator
  | comparisonOperator
  | grouping
  | access
  | caseStatement
  | boolean
  | function
  | identifier
  | custom (name : Text)
  deriving DecidableEq

namespace Category

/-- The name under which a category appears in messages and listings. -/
def name : Category → Text
  | .null => "null".toList
  | .whitespace => "whitespace".toList
  | .dateTime => "datetime".toList
  | .numeric => "numeric".toList
  | .string => "string".toList
  | .arithmeticOperator => "arithmetic_operator".toList
  | .booleanOperator => "boolean_operator".toList
  | .comparisonOperator => "comparison_operator".toList
  | .grouping => "grouping".toList
  | .access => "access".toList
  | .caseStatement => "case".toList
  | .boolean => "boolean".toList
  | .function => "function".toList
  | .identifier => "identifier".toList
  | .custom name => name

/-- The built-in categories. -/
def builtIn : List Category :=
  [.null, .whitespace, .dateTime, .numeric, .string, .arithmeticOperator, .booleanOperator,
    .comparisonOperator, .grouping, .access, .caseStatement, .boolean, .function, .identifier]

/-- The built-in category with this name. -/
def ofName? (name : Text) : Option Category :=
  builtIn.find? fun category => category.name = name

/-- Whether a minus sign behind a token of this category is a negation. -/
def isOperator : Category → Bool
  | .arithmeticOperator => true
  | .comparisonOperator => true
  | .booleanOperator => true
  | _ => false

/-- The form in which diagnostics tell the built-in categories from those of scanners. -/
def inspect : Category → Text
  | .null => "Null".toList
  | .whitespace => "Whitespace".toList
  | .dateTime => "DateTime".toList
  | .numeric => "Numeric".toList
  | .string => "String".toList
  | .arithmeticOperator => "ArithmeticOperator".toList
  | .booleanOperator => "BooleanOperator".toList
  | .comparisonOperator => "ComparisonOperator".toList
  | .grouping => "Grouping".toList
  | .access => "Access".toList
  | .caseStatement => "Case".toList
  | .boolean => "Boolean".toList
  | .function => "Function".toList
  | .identifier => "Identifier".toList
  | .custom name => "Custom(".toList ++ Text.quoted name ++ ")".toList

end Category

end FormulaLexer
