import FormulaLexer.Matcher.Basic
import FormulaLexer.Source.Lines
import FormulaLexer.Tokenizer.Basic

/-!
What the commands print: tokens, metrics, scanners and matches as lines of columns or as JSON,
and errors above an excerpt of the source.
-/

namespace FormulaLexer

/-! ## JSON -/

/-- A value with the name of its kind; decimals and date-times are written as strings. -/
def Value.toJson (v : Value) : Json :=
  match v with
  | .null => .object [("type".toList, .string "null".toList)]
  | .integer n => .object [("type".toList, .string "integer".toList), ("value".toList, .int n)]
  | .decimal d =>
    .object [("type".toList, .string "decimal".toList), ("value".toList, .string d.write)]
  | .string text =>
    .object [("type".toList, .string "string".toList), ("value".toList, .string text)]
  | .boolean b => .object [("type".toList, .string "boolean".toList), ("value".toList, .bool b)]
  | .dateTime t =>
    .object [("type".toList, .string "date_time".toList),
      ("value".toList, .string (t.write .letter))]
  | .symbol s =>
    .object [("type".toList, .string "symbol".toList), ("value".toList, .string s.name)]

/-- The members of a token in the order of their importance. -/
def Token.members (token : Token) : List (Text × Json) :=
  [("category".toList, .string token.category.name), ("value".toList, token.value.toJson)]
    ++ token.raw.toList.map fun raw => ("raw".toList, .string raw)

/-- The counters of a run. -/
def Metrics.toJson (m : Metrics) : Json :=
  .sorted
    [("total_tokens".toList, .nat m.totalTokens),
      ("whitespace_skipped".toList, .nat m.whitespaceSkipped),
      ("category_counts".toList,
        .sorted (m.categoryCounts.map fun entry => (entry.1, .nat entry.2))),
      ("max_nesting".toList, .nat m.maxNesting),
      ("scanner_attempts".toList, .nat m.attempts)]

namespace CommandLine

/-- Texts on lines of their own. -/
def writeLines (texts : List Text) : Text :=
  texts.flatMap fun text => text ++ ['\n']

/-- Tokens, and metrics where they are asked for, as JSON with the members in the order of their
names. -/
def tokensJson (tokens : List Token) (metrics : Option Metrics) : Json :=
  .sorted <|
    ("tokens".toList, .array (tokens.map fun token => .sorted token.members))
      :: metrics.toList.map fun metrics => ("metrics".toList, metrics.toJson)

/-- A token in columns: category, kind of value, value, source text. -/
def tokenLine (token : Token) : Text :=
  Text.padEnd 20 token.category.name ++ ' ' :: Text.padEnd 9 token.value.typeName ++
    ' ' :: Text.padEnd 24 token.value.write ++ ' ' :: token.write

/-- The metrics on lines, behind an empty one. -/
def metricsLines (m : Metrics) : List Text :=
  [[], "tokens: ".toList ++ Text.ofNat m.totalTokens,
    "whitespace skipped: ".toList ++ Text.ofNat m.whitespaceSkipped,
    "max nesting: ".toList ++ Text.ofNat m.maxNesting]
    ++ m.categoryCounts.map fun entry =>
      "  ".toList ++ Text.padEnd 20 entry.1 ++ ' ' :: Text.ofNat entry.2

/-- A scanner in columns: key, category, pattern. -/
def scannerLine (key : Text) (scanner : Scanner) : Text :=
  Text.padEnd 22 key ++ ' ' :: Text.padEnd 20 scanner.category.name ++ ' ' :: scanner.pattern

/-- The scanners that the keys of a set find, in the order of the set. -/
def scannerLines (set : ScannerSet) : List Text :=
  set.keys.filterMap fun key => (set.find? key).map (scannerLine key)

/-- The result of a matcher as JSON. -/
def matchedJson (matcher : Text) (offset : Nat) (result : Matched) : Json :=
  .object
    [("matcher".toList, .string matcher), ("offset".toList, .nat offset),
      ("matched".toList, .bool result.enough), ("consumed".toList, .nat result.tokens.length),
      ("tokens".toList, .array (result.tokens.map fun token => .object token.members))]

/-- The result of a matcher on lines: the tokens taken, or that there was no match. -/
def matchedLines (offset : Nat) (result : Matched) : List Text :=
  if result.enough then
    ("matched ".toList ++ Text.ofNat result.tokens.length ++ " token(s) at ".toList
        ++ Text.ofNat offset)
      :: result.tokens.map fun token =>
        "  ".toList ++ Text.padEnd 20 token.category.name ++ ' ' :: token.write
  else ["no match at ".toList ++ Text.ofNat offset]

/-- Where an error is shown: at its position, or at the end of the input if it has none. -/
def errorPosition (input : Text) (e : TokenizerError) : Position :=
  (e.position?.or (Position.locate? input input.byteSize)).getD .start

/-- An error above an excerpt of the input. -/
def renderError (input : Text) (e : TokenizerError) : Text :=
  (SourceLines.ofSource input).renderError (errorPosition input e) e.message

end CommandLine

end FormulaLexer
