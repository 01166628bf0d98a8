import FormulaLexer.Text

/-!
JSON values and their two written forms: one without blanks, and one that is indented by two
spaces with every member on a line of its own. Strings escape quotes, backslashes and control
characters only.
-/

namespace FormulaLexer

/-- A JSON value. The members of an object are written in the order in which they stand. -/
inductive Json where
  | null
  | bool (b : Bool)
  | int (n : Int)
  | string (text : Text)
  | array (items : List Json)
  | object (members : List (Text × Json))

namespace Json

/-- An object whose members are in the order of their names. -/
def sorted (members : List (Text × Json)) : Json :=
  .object (KeyMap.ofEntries members)

/-- A natural number. -/
def nat (n : Nat) : Json := .int n

/-- A character inside a string. -/
def escapeChar (c : Char) : Text :=
  if c = '"' then "\\\"".toList
  else if c = '\\' then "\\\\".toList
  else if c = '\x08' then "\\b".toList
  else if c = '\x0c' then "\\f".toList
  else if c = '\n' then "\\n".toList
  else if c = '\r' then "\\r".toList
  else if c = '\t' then "\\t".toList
  else if c.toNat < 0x20 then
    let digits := Nat.toDigits 16 c.toNat
    "\\u".toList ++ List.replicate (4 - digits.length) '0' ++ digits
  else [c]

/-- A string in quotes. -/
def writeString (text : Text) : Text :=
  '"' :: text.flatMap escapeChar ++ ['"']

/-- A value that has no parts. -/
def writeAtom : Json → Text
  | .null => "null".toList
  | .bool b => Text.ofBool b
  | .int n => Text.ofInt n
  | .string text => writeString text
  | .array _ => "[]".toList
  | .object _ => ['{', '}']

/-! ## The form without blanks -/

mutual

/-- A value without any blanks between its parts. -/
def compact : Json → Text
  | .array (item :: items) => '[' :: compact item ++ compactItems items
  | .object ((name, value) :: members) =>
    '{' :: writeString name ++ ':' :: compact value ++ compactMembers members
  | atom => writeAtom atom

/-- The items behind the first one and the closing bracket. -/
def compactItems : List Json → Text
  | [] => [']']
  | item :: items => ',' :: compact item ++ compactItems items

/-- The members behind the first one and the closing brace. -/
def compactMembers : List (Text × Json) → Text
  | [] => ['}']
  | (name, value) :: members =>
    ',' :: writeString name ++ ':' :: compact value ++ compactMembers members

end

/-! ## The indented form -/

/-- The start of a line at a depth of nesting. -/
def newLine (depth : Nat) : Text :=
  '\n' :: List.replicate (2 * depth) ' '

mutual

/-- A value whose parts stand on lines of their own, one level deeper than `depth`. -/
def prettyAt (depth : Nat) : Json → Text
  | .array (item :: items) =>
    '[' :: newLine (depth + 1) ++ prettyAt (depth + 1) item ++ prettyItems depth items
  | .object ((name, value) :: members) =>
    '{' :: newLine (depth + 1) ++ writeString name ++ ": ".toList
      ++ prettyAt (depth + 1) value ++ prettyMembers depth members
  | atom => writeAtom atom

/-- The items behind the first one and the closing bracket. -/
def prettyItems (depth : Nat) : List Json → Text
  | [] => newLine depth ++ [']']
  | item :: items =>
    ',' :: newLine (depth + 1) ++ prettyAt (depth + 1) item ++ prettyItems depth items

/-- The members behind the first one and the closing brace. -/
def prettyMembers (depth : Nat) : List (Text × Json) → Text
  | [] => newLine depth ++ ['}']
  | (name, value) :: members =>
    ',' :: newLine (depth + 1) ++ writeString name ++ ": ".toList
      ++ prettyAt (depth + 1) value ++ prettyMembers depth members

end

/-- The indented form. -/
def pretty (value : Json) : Text :=
  value.prettyAt 0

end Json

end FormulaLexer
