import FormulaLexer.Pattern.Memory
import FormulaLexer.Pattern.Reader
import FormulaLexer.Pattern.Search
import FormulaLexer.Token.Basic

/-!
Scanners. A scanner is a single lexical rule: a pattern that ignores case and is tried at the
start of the remaining text, a converter that gives the matched text its meaning, and an
optional condition on the last significant token.
-/

namespace FormulaLexer

/-- What a converter makes of the matched text: the value of one token that carries the text, or
tokens of its own that are used as they are. -/
inductive Conversion where
  | value (v : Value)
  | tokens (ts : List Token)

/-- A converter either converts the matched text or says why it cannot. -/
abbrev Converter := Text → Except Text Conversion

/-- A condition on the last significant token, which is missing at the start. -/
abbrev Condition := Option Token → Bool

/-- A converter refused the text that the pattern of its scanner had matched. -/
structure ConversionError where
  category : Category
  raw : Text
  message : Text
  deriving DecidableEq

/-- The wording of a refused conversion. -/
def ConversionError.describe (e : ConversionError) : Text :=
  "cannot convert '".toList ++ e.raw ++ "' as ".toList ++ e.category.name ++ ": ".toList
    ++ e.message

/-- A lexical rule. Its expression is what its pattern reads as, and its route, kept for the search, is
the route of its expression. -/
structure Scanner where
  category : Category
  pattern : Text
  expression : Pattern
  route : Route
  convert : Converter
  condition : Option Condition
  reads : Pattern.readAnchored pattern = .ok expression
  expands : expression.route = route

namespace Scanner

/-- The converter that keeps the matched text as a string. -/
def keepText : Converter := fun raw => .ok (.value (.string raw))

/-- The scanner for a pattern, if it can be read and is not too large, with the matched text as the
value of its tokens and without a condition. -/
def ofPattern? (category : Category) (pattern : Text) : Except Pattern.ReadError Scanner :=
  match h : Pattern.readAnchored pattern with
  | .ok expression =>
    if Pattern.memoryLimit < expression.memory then .error .tooLarge
    else .ok ⟨category, pattern, expression, expression.route, keepText, none, h, rfl⟩
  | .error cause => .error cause

/-- The same rule with another converter. -/
def withConverter (scanner : Scanner) (convert : Converter) : Scanner :=
  { scanner with convert }

/-- The same rule restricted by a condition. -/
def withCondition (scanner : Scanner) (condition : Condition) : Scanner :=
  { scanner with condition := some condition }

/-- Whether the condition holds for the last significant token. -/
def accepts (scanner : Scanner) (previous : Option Token) : Bool :=
  scanner.condition.all fun condition => condition previous

/-- The tokens for the text at the front of `remaining`, or `none` if the pattern does not match
or the condition refuses it. -/
def scan (scanner : Scanner) (remaining : Text) (previous : Option Token) :
    Except ConversionError (Option (List Token)) :=
  match scanner.route.find? remaining with
  | none => .ok none
  | some found =>
    if scanner.accepts previous then
      match scanner.convert found.text with
      | .ok (.value v) => .ok (some [⟨scanner.category, v, some found.text⟩])
      | .ok (.tokens ts) => .ok (some ts)
      | .error message => .error ⟨scanner.category, found.text, message⟩
    else .ok none

/-- The scanner as diagnostics show it. -/
def inspect (scanner : Scanner) : Text :=
  "Scanner \x7b category: ".toList ++ scanner.category.inspect ++ ", pattern: ".toList
    ++ Text.quoted scanner.pattern ++ ", conditional: ".toList
    ++ Text.ofBool scanner.condition.isSome ++ " \x7d".toList

end Scanner

end FormulaLexer
