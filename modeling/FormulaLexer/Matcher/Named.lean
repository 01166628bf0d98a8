import FormulaLexer.Matcher.Basic
import FormulaLexer.Unicode.LowerCase

/-!
Matchers for the common fragments of formulas, and their names. A name without a fragment of its
own names the function that is called so.
-/

namespace FormulaLexer.Matcher

/-- Single tokens of a category with one of the named symbols. -/
def ofSymbols (category : Category) (names : List String) : Matcher :=
  ofLists [category] (names.map fun name => .symbol (.named name))

/-- The head of a call of a function, whatever the case of its name. -/
def function (name : Text) : Matcher :=
  ofLists [.function] [.symbol ⟨Unicode.lowerCase name⟩]

/-- A date-time literal. -/
def dateTime : Matcher := ofCategory .dateTime

/-- A number. -/
def numeric : Matcher := ofCategory .numeric

/-- A quoted string. -/
def string : Matcher := ofCategory .string

/-- A truth value. -/
def boolean : Matcher := ofCategory .boolean

/-- A literal operand. -/
def value : Matcher := ((dateTime.orElse numeric).orElse string).orElse boolean

/-- An addition or a subtraction. -/
def addsub : Matcher := ofSymbols .arithmeticOperator ["add", "subtract"]

/-- A subtraction. -/
def subtract : Matcher := ofSymbols .arithmeticOperator ["subtract"]

/-- A subtraction with the mark. -/
def anchoredMinus : Matcher := subtract.withCaret

/-- A multiplication or a division. -/
def muldiv : Matcher := ofSymbols .arithmeticOperator ["multiply", "divide"]

/-- A power. -/
def pow : Matcher := ofSymbols .arithmeticOperator ["pow"]

/-- A remainder. -/
def modulo : Matcher := ofSymbols .arithmeticOperator ["mod"]

/-- A boolean operator. -/
def booleanOperator : Matcher := ofCategory .booleanOperator

/-- A comparison. -/
def comparisonOperator : Matcher := ofCategory .comparisonOperator

/-- A comparison for greater values. -/
def greater : Matcher := ofSymbols .comparisonOperator ["gt", "ge"]

/-- A comparison for smaller values. -/
def less : Matcher := ofSymbols .comparisonOperator ["lt", "le"]

/-- An opening parenthesis. -/
def opening : Matcher := ofSymbols .grouping ["open"]

/-- A closing parenthesis. -/
def closing : Matcher := ofSymbols .grouping ["close"]

/-- A comma. -/
def comma : Matcher := ofSymbols .grouping ["comma"]

/-- Anything but a grouping mark. -/
def nonGroup : Matcher := (ofCategory .grouping).invert

/-- Everything up to a grouping mark. -/
def nonGroupStar : Matcher := nonGroup.star

/-- Something up to a closing parenthesis. -/
def nonClosePlus : Matcher := closing.invert.plus

/-- Literal operands with commas between them. -/
def arguments : Matcher := (value.orElse comma).plus

/-- The fragments by name. -/
def fragments : List (Text × Matcher) :=
  [("datetime".toList, dateTime), ("numeric".toList, numeric), ("string".toList, string),
    ("boolean".toList, boolean), ("value".toList, value), ("addsub".toList, addsub),
    ("subtract".toList, subtract), ("anchored_minus".toList, anchoredMinus),
    ("muldiv".toList, muldiv), ("pow".toList, pow), ("mod".toList, modulo),
    ("boolean_operator".toList, booleanOperator),
    ("comparison_operator".toList, comparisonOperator), ("comp_gt".toList, greater),
    ("comp_lt".toList, less), ("open".toList, opening), ("close".toList, closing),
    ("comma".toList, comma), ("non_group".toList, nonGroup),
    ("non_group_star".toList, nonGroupStar), ("non_close_plus".toList, nonClosePlus),
    ("arguments".toList, arguments)]

/-- The functions that have a matcher in the catalogue. -/
def listedFunctions : List Text :=
  ["if".toList, "round".toList, "roundup".toList, "rounddown".toList, "not".toList]

/-- The names of the catalogue: the fragments and the listed functions. -/
def catalogue : List Text :=
  fragments.map Prod.fst ++ listedFunctions

/-- The matcher with a name. The remainder has a second name, and any name without a fragment is
that of a function. -/
def named (name : Text) : Matcher :=
  if name = "modulo".toList then modulo
  else
    match fragments.find? fun fragment => fragment.1 = name with
    | some (_, matcher) => matcher
    | none => function name

end FormulaLexer.Matcher
