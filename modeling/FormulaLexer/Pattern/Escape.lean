import FormulaLexer.Number.Reading
import FormulaLexer.Pattern.Anchor
import FormulaLexer.Pattern.Flags
import FormulaLexer.Pattern.Property

/-!
Escapes: what stands behind a backslash in a pattern. An escape is a character, a set of
characters or a condition on the place.
-/

namespace FormulaLexer.Pattern

/-- What an escape stands for. -/
inductive Escaped where
  | literal (c : Char)
  | members (set : CharSet)
  | anchor (condition : Anchor)

/-! ## Characters by their code points -/

/-- The character with the code point that the hexadecimal digits write. -/
def charOfDigits (digits : Text) : Except ReadError Char :=
  match Number.readUnbounded 16 digits with
  | .ok code => if code.isValidChar then .ok (Char.ofNat code) else .error .unknownEscape
  | .error _ => .error .unknownEscape

/-- So many characters, with blanks and comments between them left out. -/
def readExactly (flags : Flags) : (count : Nat) → Text → Except ReadError (Text × Text)
  | 0, text => .ok ([], text)
  | _ + 1, [] => .error .unfinishedEscape
  | count + 1, c :: rest => do
    let (front, back) ← readExactly flags count (flags.significant rest)
    return (c :: front, back)

/-- The characters up to the closing brace, behind the opening one. -/
def readBraced (flags : Flags) (text : Text) : Except ReadError (Text × Text) :=
  match flags.span (· ≠ '}') false text with
  | (_, []) => .error .unfinishedEscape
  | (inside, _ :: rest) => .ok (inside, rest)

/-- A code point in braces, or in exactly `width` digits. Without Unicode, two digits write a byte,
and a byte beyond ASCII is no character. -/
def readCodePoint (flags : Flags) (width : Nat) (text : Text) :
    Except ReadError (Escaped × Text) :=
  match flags.significant text with
  | '{' :: rest => do
    let (digits, rest) ← readBraced flags rest
    return (.literal (← charOfDigits digits), rest)
  | text => do
    let (digits, rest) ← readExactly flags width text
    let c ← charOfDigits digits
    if width = 2 ∧ !flags.unicode ∧ 0x80 ≤ c.toNat then throw .outsideAscii
    return (.literal c, rest)

/-! ## Sets -/

/-- One of the sets that have a letter of their own, or its complement. Without Unicode the set within
ASCII takes its place. -/
def letterSet (flags : Flags) (complemented : Bool) (set ascii : CharSet) (rest : Text) :
    Except ReadError (Escaped × Text) := do
  let set ← flags.complement complemented (if flags.unicode then set else ascii)
  return (.members set, rest)

/-- The parts of a text before and behind the first occurrence of another one. -/
def cutAt? (mark : Text) : Text → Option (Text × Text)
  | [] => if mark.isEmpty then some ([], []) else none
  | c :: rest =>
    if mark.isPrefixOf (c :: rest) then some ([], (c :: rest).drop mark.length)
    else (cutAt? mark rest).map fun (front, back) => (c :: front, back)

/-- The set that the inside of braces names, and whether a sign in it asks for the complement. -/
def propertySet? (inside : Text) : Option (CharSet × Bool) :=
  match cutAt? "!=".toList inside with
  | some (property, value) => (CharSet.ofValue? property value).map fun set => (set, true)
  | none =>
    match (cutAt? [':'] inside).or (cutAt? ['='] inside) with
    | some (property, value) => (CharSet.ofValue? property value).map fun set => (set, false)
    | none => (CharSet.ofName? inside).map fun set => (set, false)

/-- A set named by a property, in braces or by a single letter. -/
def readProperty (flags : Flags) (complemented : Bool) (text : Text) :
    Except ReadError (Escaped × Text) := do
  let (inside, rest) ← match flags.significant text with
    | [] => throw .unfinishedEscape
    | '{' :: rest => readBraced flags rest
    | c :: rest => if c = '\\' then throw .unknownProperty else pure ([c], rest)
  if !flags.unicode then throw .outsideAscii
  match propertySet? inside with
  | none => throw .unknownProperty
  | some (set, negated) =>
    let set ← flags.complement (complemented != negated) (flags.fold set)
    return (.members set, rest)

/-! ## Conditions on the place -/

/-- The edge of a word with this name. -/
def WordEdge.named? (name : Text) : Option WordEdge :=
  match String.ofList name with
  | "start" => some .start
  | "end" => some .stop
  | "start-half" => some .startHalf
  | "end-half" => some .stopHalf
  | _ => none

/-- A word boundary, or the edge that is named in braces behind it. Braces that do not begin with a
letter or a hyphen are those of a repetition. -/
def readWordBoundary (flags : Flags) (text : Text) : Except ReadError (Escaped × Text) :=
  let ascii := !flags.unicode
  let isNamePart (c : Char) : Bool := c.isAlpha || c = '-'
  match text with
  | '{' :: rest =>
    match flags.significant rest with
    | [] => .error .unfinishedEscape
    | c :: inside =>
      if isNamePart c then
        match flags.span isNamePart false (c :: inside) with
        | (name, '}' :: rest) =>
          match WordEdge.named? name with
          | some edge => .ok (.anchor (.word edge ascii), rest)
          | none => .error .unknownEscape
        | _ => .error .unknownEscape
      else .ok (.anchor (.word .boundary ascii), text)
  | _ => .ok (.anchor (.word .boundary ascii), text)

/-! ## All escapes -/

/-- What stands behind a backslash. Punctuation stands for itself. -/
def readEscape (flags : Flags) : Text → Except ReadError (Escaped × Text)
  | [] => .error .unfinishedEscape
  | c :: rest =>
    match c with
    | 'd' => letterSet flags false .digit .asciiDigit rest
    | 'D' => letterSet flags true .digit .asciiDigit rest
    | 's' => letterSet flags false .blank .asciiBlank rest
    | 'S' => letterSet flags true .blank .asciiBlank rest
    | 'w' => letterSet flags false .word .asciiWord rest
    | 'W' => letterSet flags true .word .asciiWord rest
    | 'p' => readProperty flags false rest
    | 'P' => readProperty flags true rest
    | 'b' => readWordBoundary flags rest
    | 'B' => .ok (.anchor (.word .noBoundary !flags.unicode), rest)
    | '<' => .ok (.anchor (.word .start !flags.unicode), rest)
    | '>' => .ok (.anchor (.word .stop !flags.unicode), rest)
    | 'A' => .ok (.anchor .textStart, rest)
    | 'z' => .ok (.anchor .textEnd, rest)
    | 'n' => .ok (.literal '\n', rest)
    | 't' => .ok (.literal '\t', rest)
    | 'r' => .ok (.literal '\r', rest)
    | 'f' => .ok (.literal '\x0c', rest)
    | 'v' => .ok (.literal '\x0b', rest)
    | 'a' => .ok (.literal '\x07', rest)
    | 'x' => readCodePoint flags 2 rest
    | 'u' => readCodePoint flags 4 rest
    | 'U' => readCodePoint flags 8 rest
    | c =>
      if c.toNat < 128 && !c.isAlphanum then .ok (.literal c, rest) else .error .unknownEscape

end FormulaLexer.Pattern
