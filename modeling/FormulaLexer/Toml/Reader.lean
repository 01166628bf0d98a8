import FormulaLexer.Toml.Scalar

/-!
Reading TOML documents. A reader takes the front of a text and leaves the rest, or answers `none`
if the text is not TOML. Values nest to a bounded depth, which bounds the recursion of their
reader; lists of things are read along the characters of the text, of which a number that is owed
belongs to what has been read.
-/

namespace FormulaLexer.Toml

/-! ## Blanks, comments and line ends -/

/-- Leaves out spaces and tabs. -/
def skipBlanks (text : Text) : Text :=
  text.dropWhile fun c => c = ' ' || c = '\t'

/-- Whether a character may stand in comments and literal strings. -/
def isPlain (c : Char) : Bool :=
  c = '\t' || (0x20 ≤ c.toNat && c.toNat != 0x7f)

/-- Leaves out blanks and a comment up to the end of the line. -/
def skipComment (text : Text) : Text :=
  match skipBlanks text with
  | '#' :: rest => rest.dropWhile isPlain
  | rest => rest

/-- The rest behind a line end. -/
def lineEnd? : Text → Option Text
  | '\n' :: rest => some rest
  | '\r' :: '\n' :: rest => some rest
  | _ => none

/-- Leaves out blanks, comments and line ends. The first `owed` characters are left out
already. -/
def skipLines : Text → (owed : Nat) → Text
  | [], _ => []
  | _ :: rest, owed + 1 => skipLines rest owed
  | c :: rest, 0 =>
    let behind := skipComment (c :: rest)
    match lineEnd? behind with
    | some left => skipLines rest (rest.length - left.length)
    | none => behind

/-! ## Strings -/

/-- The character whose code point the hexadecimal digits write. -/
def charOfDigits? (digits : Text) : Option Char :=
  match Number.readUnbounded 16 digits with
  | .ok code => if code.isValidChar then some (Char.ofNat code) else none
  | .error _ => none

/-- The character of an escape and the number of characters behind the backslash that the escape
has. -/
def escape? : Text → Option (Char × Nat)
  | [] => none
  | c :: rest =>
    match c with
    | 'b' => some ('\x08', 1)
    | 't' => some ('\t', 1)
    | 'n' => some ('\n', 1)
    | 'f' => some ('\x0c', 1)
    | 'r' => some ('\r', 1)
    | '"' => some ('"', 1)
    | '\\' => some ('\\', 1)
    | 'u' => if rest.length < 4 then none else (charOfDigits? (rest.take 4)).map fun c => (c, 5)
    | 'U' => if rest.length < 8 then none else (charOfDigits? (rest.take 8)).map fun c => (c, 9)
    | _ => none

/-- A string with escapes on one line, behind its opening quote. -/
def basicString? : Text → (owed : Nat) → Option (Text × Text)
  | [], _ => none
  | _ :: rest, owed + 1 => basicString? rest owed
  | c :: rest, 0 =>
    if c = '"' then some ([], rest)
    else if c = '\\' then
      match escape? rest with
      | none => none
      | some (escaped, size) =>
        (basicString? rest size).map fun (text, left) => (escaped :: text, left)
    else if isPlain c then (basicString? rest 0).map fun (text, left) => (c :: text, left)
    else none

/-- A string without escapes on one line, behind its opening quote. -/
def literalString? : Text → Option (Text × Text)
  | [] => none
  | c :: rest =>
    if c = '\'' then some ([], rest)
    else if isPlain c then (literalString? rest).map fun (text, left) => (c :: text, left)
    else none

/-- The number of quotes at the front of a text, at most five. -/
def quoteRun (quote : Char) (text : Text) : Nat :=
  ((text.take 5).takeWhile (· = quote)).length

/-- Whether a line ends behind blanks. -/
def endsLine (text : Text) : Bool :=
  (lineEnd? (skipBlanks text)).isSome

/-- Leaves out spaces, tabs and line ends. -/
def skipBlankLines : Text → Text
  | [] => []
  | c :: rest =>
    if c = ' ' || c = '\t' || (lineEnd? (c :: rest)).isSome then skipBlankLines rest else c :: rest

/-- A string over several lines, behind its opening quotes. Up to two quotes may stand in front of
the three that close it. With escapes, a backslash at the end of a line joins it to the next text
there is. -/
def multiLineString? (quote : Char) (escapes : Bool) :
    Text → (owed : Nat) → Option (Text × Text)
  | [], _ => none
  | _ :: rest, owed + 1 => multiLineString? quote escapes rest owed
  | c :: rest, 0 =>
    if c = quote then
      let run := quoteRun quote (c :: rest)
      if 3 ≤ run then some (List.replicate (run - 3) quote, rest.drop (run - 1))
      else (multiLineString? quote escapes rest 0).map fun (text, left) => (c :: text, left)
    else if escapes && c = '\\' then
      if endsLine rest then
        multiLineString? quote escapes rest (rest.length - (skipBlankLines rest).length)
      else
        match escape? rest with
        | none => none
        | some (escaped, size) =>
          (multiLineString? quote escapes rest size).map fun (text, left) => (escaped :: text, left)
    else if isPlain c || (lineEnd? (c :: rest)).isSome then
      (multiLineString? quote escapes rest 0).map fun (text, left) => (c :: text, left)
    else none

/-- A line end right behind the opening quotes does not belong to the string. -/
def skipFirstLineEnd (text : Text) : Text :=
  (lineEnd? text).getD text

/-- A string in any of its four forms. -/
def string? : Text → Option (Text × Text)
  | '"' :: '"' :: '"' :: rest => multiLineString? '"' true (skipFirstLineEnd rest) 0
  | '"' :: rest => basicString? rest 0
  | '\'' :: '\'' :: '\'' :: rest => multiLineString? '\'' false (skipFirstLineEnd rest) 0
  | '\'' :: rest => literalString? rest
  | _ => none

/-! ## Keys -/

/-- Whether a character may stand in a key without quotes. -/
def isBare (c : Char) : Bool :=
  c.isAlphanum || c = '-' || c = '_'

/-- A key without points. -/
def simpleKey? : Text → Option (Text × Text)
  | '"' :: rest => basicString? rest 0
  | '\'' :: rest => literalString? rest
  | text =>
    let key := text.takeWhile isBare
    if key.isEmpty then none else some (key, text.dropWhile isBare)

/-- Keys and values nest less deeply than this. -/
def depthBound : Nat := 80

/-- The keys that follow the first one, each behind a point, at most `most` of them. -/
def moreKeys? : (most : Nat) → Text → Option (List Text × Text)
  | 0, text => if (skipBlanks text).head? = some '.' then none else some ([], text)
  | most + 1, text =>
    match skipBlanks text with
    | '.' :: rest => do
      let (key, left) ← simpleKey? (skipBlanks rest)
      let (keys, left) ← moreKeys? most left
      return (key :: keys, left)
    | _ => some ([], text)

/-- A key with points in it, and the blanks around it. -/
def dottedKey? (text : Text) : Option (List Text × Text) := do
  let (key, left) ← simpleKey? (skipBlanks text)
  let (keys, left) ← moreKeys? (depthBound - 2) left
  return (key :: keys, skipBlanks left)

/-! ## Values -/

/-- Whether a character may stand in an unquoted scalar. -/
def isScalarChar (c : Char) : Bool :=
  c.isAlphanum || c ∈ ['_', '+', '-', '.', ':']

/-- An unquoted scalar. A date may be followed by a space and a time. -/
def readScalar? (text : Text) : Option (Item × Text) :=
  let first := text.takeWhile isScalarChar
  let left := text.dropWhile isScalarChar
  match left with
  | ' ' :: rest =>
    if isDate first && rest.head?.any Char.isDigit then
      let second := rest.takeWhile isScalarChar
      (scalar? (first ++ ' ' :: second)).map fun item => (item, rest.dropWhile isScalarChar)
    else (scalar? first).map fun item => (item, left)
  | _ => (scalar? first).map fun item => (item, left)

/-- The items of an array up to its closing bracket, with line ends and comments between them.
The first `owed` characters belong to an item that has been read. -/
def items? (value? : Text → Option (Item × Text)) :
    Text → (owed : Nat) → Option (List Item × Text)
  | [], _ => none
  | _ :: rest, owed + 1 => items? value? rest owed
  | c :: rest, 0 =>
    match skipLines (c :: rest) 0 with
    | ']' :: left => some ([], left)
    | text => do
      let (item, left) ← value? text
      match skipLines left 0 with
      | ']' :: left => return ([item], left)
      | ',' :: left =>
        let (items, left) ← items? value? rest (rest.length - left.length)
        return (item :: items, left)
      | _ => none

/-- One entry of an inline table, put into the entries read before it. -/
def inlineEntry? (value? : Text → Option (Item × Text)) (entries : Entries) (text : Text) :
    Option (Entries × Text) := do
  let (keys, left) ← dottedKey? text
  match left with
  | '=' :: left =>
    let (item, left) ← value? (skipBlanks left)
    let entries ← entries.assign keys item
    return (entries, skipBlanks left)
  | _ => none

/-- The entries of an inline table up to its closing brace, all on one line and with a comma
between each two. The first `owed` characters belong to an entry that has been read. -/
def inlineEntries? (value? : Text → Option (Item × Text)) :
    Text → (owed : Nat) → Entries → Option (Entries × Text)
  | [], _, _ => none
  | _ :: rest, owed + 1, entries => inlineEntries? value? rest owed entries
  | c :: rest, 0, entries => do
    let (entries, left) ← inlineEntry? value? entries (c :: rest)
    match left with
    | '}' :: left => return (entries, left)
    | ',' :: left => inlineEntries? value? rest (rest.length - left.length) entries
    | _ => none

/-- A value that nests less than `depth` levels deep. -/
def value? : (depth : Nat) → Text → Option (Item × Text)
  | 0, _ => none
  | depth + 1, text =>
    match text with
    | '[' :: rest =>
      if depth = 0 then none
      else (items? (value? depth) rest 0).map fun (items, left) => (.array items, left)
    | '{' :: rest =>
      if depth = 0 then none
      else
        match skipBlanks rest with
        | '}' :: left => some (.table .inline [], left)
        | _ =>
          (inlineEntries? (value? depth) rest 0 []).map fun (entries, left) =>
            (.table .inline entries, left)
    | '"' :: _ => (string? text).map fun (text, left) => (.string text, left)
    | '\'' :: _ => (string? text).map fun (text, left) => (.string text, left)
    | _ => readScalar? text

/-! ## Documents -/

/-- What has been read of a document: its entries and the path of the table in which the lines
stand that follow. -/
structure Document where
  entries : Entries
  current : List Text

/-- A header up to its closing brackets, which `element` doubles. -/
def header? (element : Bool) (document : Document) (text : Text) : Option (Document × Text) := do
  let (keys, left) ← dottedKey? text
  let last ← keys.getLast?
  let close := if element then Entries.addElement last else Entries.declare last
  let entries ← document.entries.changeAt keys.dropLast close
  match element, left with
  | false, ']' :: left => return (⟨entries, keys⟩, left)
  | true, ']' :: ']' :: left => return (⟨entries, keys⟩, left)
  | _, _ => none

/-- An assignment. -/
def assignment? (document : Document) (text : Text) : Option (Document × Text) := do
  let (keys, left) ← dottedKey? text
  match left with
  | '=' :: left =>
    let (item, left) ← value? depthBound (skipBlanks left)
    let entries ← document.entries.changeAt document.current fun table => table.assign keys item
    return ({ document with entries }, left)
  | _ => none

/-- A line without its end, apart from a comment. -/
def line? (document : Document) (text : Text) : Option (Document × Text) :=
  match skipComment text with
  | [] => some (document, [])
  | '[' :: '[' :: rest => header? true document rest
  | '[' :: rest => header? false document rest
  | '\n' :: rest => some (document, '\n' :: rest)
  | '\r' :: rest => some (document, '\r' :: rest)
  | text => assignment? document text

/-- Reads lines. The first `owed` characters belong to a line that has been read. -/
def lines? : Text → (owed : Nat) → Document → Option Document
  | [], _, document => some document
  | _ :: rest, owed + 1, document => lines? rest owed document
  | c :: rest, 0, document => do
    let (document, left) ← line? document (c :: rest)
    match skipComment left with
    | [] => return document
    | left =>
      let left ← lineEnd? left
      lines? rest (rest.length - left.length) document

/-- Reads a document; a byte order mark in front of it is skipped. -/
def read? (text : Text) : Option Entries :=
  let text := if text.head? = some '\ufeff' then text.drop 1 else text
  (lines? text 0 ⟨[], []⟩).map Document.entries

end FormulaLexer.Toml
