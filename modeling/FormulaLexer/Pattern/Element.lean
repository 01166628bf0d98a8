import FormulaLexer.Pattern.Basic
import FormulaLexer.Pattern.Bracket

/-!
The elements of a written pattern: pieces that match by themselves, the bars and parentheses
between them, repetitions of the piece in front of them, and changes of the settings. Settings are
resolved while reading, so that no element but a change of them carries any.
-/

namespace FormulaLexer.Pattern

/-- How a group is referred to. -/
inductive GroupKind where
  | plain
  | numbered
  | named (name : Text)

/-- The parts from which a pattern is put together. A piece says how deeply its description is
nested. -/
inductive Element where
  | piece (pattern : Pattern) (depth : Nat)
  | bar
  | opening (flags : Flags) (kind : GroupKind)
  | closing
  | quantifier (least : Nat) (most : Option Nat) (greedy : Bool)
  | settings (flags : Flags)
  | layout

/-! ## Repetition -/

/-- The numbers in a repetition have 32 bits. -/
def repetitionBound : Nat := Nat.pow 2 32 - 1

/-- The number of repetitions at the front of a text, with blanks around it. -/
def readCount (flags : Flags) (text : Text) : Except ReadError (Nat × Text) :=
  let (digits, rest) := flags.span Char.isDigit false (text.dropWhile Unicode.isBlank)
  match Number.readNat repetitionBound digits with
  | .ok count => .ok (count, rest.dropWhile Unicode.isBlank)
  | .error _ => .error .badRepetition

/-- Bounds of a repetition behind the opening brace, and the text behind the closing one. -/
def readBounds (flags : Flags) (text : Text) : Except ReadError (Nat × Option Nat × Text) := do
  let (least, rest) ← readCount flags (flags.significant text)
  match rest with
  | '}' :: rest => return (least, some least, rest)
  | ',' :: rest =>
    match flags.significant rest with
    | '}' :: rest => return (least, none, rest)
    | rest =>
      let (most, rest) ← readCount flags rest
      match rest with
      | '}' :: rest =>
        if least ≤ most then return (least, some most, rest) else throw .badRepetition
      | _ => throw .badRepetition
  | _ => throw .badRepetition

/-- A quantifier with the question mark behind it that reverses its greediness. -/
def withGreed (flags : Flags) (least : Nat) (most : Option Nat) (rest : Text) : Element × Text :=
  match rest with
  | '?' :: rest => (.quantifier least most flags.swapGreed, rest)
  | rest => (.quantifier least most (!flags.swapGreed), rest)

/-! ## Groups -/

/-- The settings with the one that the letter names switched on or off. -/
def Flags.set? (flags : Flags) (letter : Char) (on : Bool) : Option Flags :=
  match letter with
  | 'i' => some { flags with ignoreCase := on }
  | 'm' => some { flags with multiLine := on }
  | 's' => some { flags with dotMatchesNewline := on }
  | 'U' => some { flags with swapGreed := on }
  | 'x' => some { flags with verbose := on }
  | 'R' => some { flags with carriageReturns := on }
  | 'u' => some { flags with unicode := on }
  | _ => none

/-- The settings changed by the flag letters up to a colon or a closing parenthesis, that
character, and the text behind it. Letters behind a hyphen switch off. No letter stands twice,
and a hyphen is followed by a letter. -/
def readFlags : (seen : Text) → Flags → Text → Except ReadError (Flags × Char × Text)
  | _, _, [] => .error .unclosedGroup
  | seen, flags, c :: rest =>
    if c = ':' ∨ c = ')' then
      if seen.head? = some '-' ∨ (c = ')' ∧ seen = []) then .error .badFlags
      else .ok (flags, c, rest)
    else if c ∈ seen then .error .badFlags
    else if c = '-' then readFlags (c :: seen) flags rest
    else
      match flags.set? c ('-' ∉ seen) with
      | some flags => readFlags (c :: seen) flags rest
      | none => .error .badFlags

/-- Whether a text may name a group: a letter or an underscore, then letters, numbers, underscores,
points and square brackets. -/
def isGroupName : Text → Bool
  | [] => false
  | c :: rest =>
    (c = '_' || CharSet.alphabetic.contains c)
      && rest.all fun d => d ∈ ['_', '.', '[', ']'] || CharSet.alphanumeric.contains d

/-- A group name up to its closing bracket. -/
def readGroupName (flags : Flags) (text : Text) : Except ReadError (Element × Text) :=
  match text.dropWhile (· ≠ '>') with
  | [] => .error .badGroupName
  | _ :: rest =>
    let name := text.takeWhile (· ≠ '>')
    if isGroupName name then .ok (.opening flags (.named name), rest) else .error .badGroupName

/-- What stands behind an opening parenthesis. Conditions on the text ahead or behind are no
groups. -/
def readOpening (flags : Flags) (text : Text) : Except ReadError (Element × Text) :=
  match flags.significant text with
  | '?' :: 'P' :: '<' :: rest => readGroupName flags rest
  | '?' :: '<' :: '=' :: _ => .error .lookAround
  | '?' :: '<' :: '!' :: _ => .error .lookAround
  | '?' :: '<' :: rest => readGroupName flags rest
  | '?' :: rest =>
    match readFlags [] flags rest with
    | .error cause => .error cause
    | .ok (changed, ':', rest) => .ok (.opening changed .plain, rest)
    | .ok (changed, _, rest) => .ok (.settings changed, rest)
  | rest => .ok (.opening flags .numbered, rest)

/-! ## Elements -/

/-- Any character of a line. Without Unicode there is no such set, since it would hold parts of
characters. -/
def anyCharacter (flags : Flags) : Except ReadError CharSet :=
  if !flags.unicode then .error .outsideAscii
  else if flags.dotMatchesNewline then .ok .all
  else if flags.carriageReturns then .ok (.complement (.union (.single '\n') (.single '\r')))
  else .ok (.complement (.single '\n'))

/-- The element that begins with the character `c`. -/
def readElement (flags : Flags) (c : Char) (rest : Text) : Except ReadError (Element × Text) :=
  match c with
  | '|' => .ok (.bar, rest)
  | '(' => readOpening flags rest
  | ')' => .ok (.closing, rest)
  | '*' => .ok (withGreed flags 0 none rest)
  | '+' => .ok (withGreed flags 1 none rest)
  | '?' => .ok (withGreed flags 0 (some 1) rest)
  | '{' => (readBounds flags rest).map fun (least, most, left) =>
    withGreed flags least most (flags.significant left)
  | '[' => (readClass flags rest).map fun (nested, left) =>
    (.piece (.one nested.set) nested.depth, left)
  | '.' => (anyCharacter flags).map fun set => (.piece (.one set) 0, rest)
  | '^' =>
    let condition : Anchor := if flags.multiLine then .lineStart flags.carriageReturns else .textStart
    .ok (.piece (.anchor condition) 0, rest)
  | '$' =>
    let condition : Anchor := if flags.multiLine then .lineEnd flags.carriageReturns else .textEnd
    .ok (.piece (.anchor condition) 0, rest)
  | '\\' => (readEscape flags rest).map fun (escaped, left) =>
    match escaped with
    | .literal c => (.piece (.one (flags.literal c)) 0, left)
    | .members set => (.piece (.one set) 0, left)
    | .anchor condition => (.piece (.anchor condition) 0, left)
  | c =>
    if flags.startsLayout c then .ok (.layout, skipLayout (c = '#') rest)
    else .ok (.piece (.one (flags.literal c)) 0, rest)

end FormulaLexer.Pattern
