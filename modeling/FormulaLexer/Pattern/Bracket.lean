import FormulaLexer.Pattern.Escape

/-!
Bracketed classes of characters. A class lists characters, ranges, escapes that stand for sets,
named sets of ASCII, and classes of their own, and it may combine such lists by operators for the
intersection, the difference and the symmetric difference, the left ones taken first. Case is
ignored before an operator is applied and before the complement is taken.
-/

namespace FormulaLexer.Pattern

/-- An operator between two lists of a class. -/
inductive SetOperator where
  | intersection
  | difference
  | symmetricDifference

/-- The set that the operator makes of two sets. -/
def SetOperator.apply (operator : SetOperator) (left right : CharSet) : CharSet :=
  match operator with
  | .intersection => .intersection left right
  | .difference => left.difference right
  | .symmetricDifference => left.symmetricDifference right

/-- The operator that is written by the character and the same character behind it. -/
def SetOperator.ofMark? : Char → Option SetOperator
  | '&' => some .intersection
  | '-' => some .difference
  | '~' => some .symmetricDifference
  | _ => none

/-- A set and how deeply its description is nested. -/
structure NestedSet where
  set : CharSet
  depth : Nat

/-- A list of a class as far as it has been read: the union of its items, their number, and the
depth of the deepest one. -/
structure ClassItems where
  union : CharSet
  count : Nat
  depth : Nat

/-- The list without items. -/
def ClassItems.empty : ClassItems := ⟨.none, 0, 0⟩

/-- The list with one more item. -/
def ClassItems.add (items : ClassItems) (item : NestedSet) : ClassItems :=
  ⟨if items.count = 0 then item.set else .union items.union item.set, items.count + 1,
    max items.depth item.depth⟩

/-- The list as a whole. Several items together are one level deeper than the deepest of them. -/
def ClassItems.whole (items : ClassItems) : NestedSet :=
  ⟨items.union, if items.count < 2 then items.depth else items.depth + 1⟩

/-- A class that is open: whether its complement is meant, the operator that waits for its right
side, with its left side, and the list being read. -/
structure OpenClass where
  complemented : Bool
  pending : Option (SetOperator × NestedSet)
  items : ClassItems

namespace OpenClass

/-- The class with one more item. -/
def add (level : OpenClass) (item : NestedSet) : OpenClass :=
  { level with items := level.items.add item }

/-- What has been read of the class, with the operator that waited applied. -/
def whole (flags : Flags) (level : OpenClass) : NestedSet :=
  let right := level.items.whole
  match level.pending with
  | none => right
  | some (operator, left) =>
    ⟨operator.apply (flags.fold left.set) (flags.fold right.set), max left.depth right.depth + 1⟩

/-- The class behind an operator. -/
def behind (flags : Flags) (operator : SetOperator) (level : OpenClass) : OpenClass :=
  ⟨level.complemented, some (operator, level.whole flags), .empty⟩

/-- The set of a class that ends. -/
def close (flags : Flags) (level : OpenClass) : Except ReadError NestedSet := do
  let inside := level.whole flags
  return ⟨← flags.complement level.complemented (flags.fold inside.set), inside.depth + 1⟩

end OpenClass

/-! ## Named sets of ASCII -/

/-- The set of ASCII characters with this name. -/
def asciiSet? (name : Text) : Option CharSet :=
  match String.ofList name with
  | "alnum" => CharSet.asciiAlphanumeric
  | "alpha" => CharSet.asciiLetter
  | "ascii" => CharSet.range '\x00' '\x7f'
  | "blank" => CharSet.union (.single '\t') (.single ' ')
  | "cntrl" => CharSet.union (.range '\x00' '\x1f') (.single '\x7f')
  | "digit" => CharSet.asciiDigit
  | "graph" => CharSet.range '!' '~'
  | "lower" => CharSet.range 'a' 'z'
  | "print" => CharSet.range ' ' '~'
  | "punct" => CharSet.unionOf [.range '!' '/', .range ':' '@', .range '[' '\x60', .range '\x7b' '~']
  | "space" => CharSet.asciiBlank
  | "upper" => CharSet.range 'A' 'Z'
  | "word" => CharSet.asciiWord
  | "xdigit" => CharSet.unionOf [.asciiDigit, .range 'A' 'F', .range 'a' 'f']
  | _ => none

/-- A named set behind its opening bracket, whether its complement is meant, and the text behind it.
A text that is no named set begins a class of its own. -/
def namedSet? : Text → Option (CharSet × Bool × Text)
  | ':' :: text =>
    let complemented := text.head? = some '^'
    let text := if complemented then text.drop 1 else text
    match text.dropWhile (· ≠ ':') with
    | ':' :: ']' :: rest =>
      (asciiSet? (text.takeWhile (· ≠ ':'))).map fun set => (set, complemented, rest)
    | _ => none
  | _ => none

/-! ## Items -/

/-- A character or an escape inside of a class. -/
def readClassAtom (flags : Flags) : Text → Except ReadError (Escaped × Text)
  | [] => .error .unclosedClass
  | '\\' :: rest => readEscape flags rest
  | c :: rest => .ok (.literal c, rest)

/-- A character as a member of a class. Without Unicode it has to be an ASCII character. -/
def classLiteral (flags : Flags) : Escaped → Except ReadError Char
  | .literal c => if !flags.unicode && 0x80 ≤ c.toNat then .error .outsideAscii else .ok c
  | _ => .error .badRange

/-- The character behind a hyphen by which a range is told from a hyphen that stands for itself. In
the verbose form blanks and one number sign in front of it are passed over. -/
def behindHyphen (flags : Flags) (text : Text) : Option Char :=
  if flags.verbose then
    let rest := text.dropWhile Unicode.isBlank
    let rest := if rest.head? = some '#' then (rest.drop 1).dropWhile Unicode.isBlank else rest
    rest.head?.or text.head?
  else text.head?

/-- An item of a class that is no class of its own: an atom, or a range between two characters. A
hyphen in front of the closing bracket or of another hyphen makes no range. -/
def readItem (flags : Flags) (text : Text) : Except ReadError (CharSet × Text) := do
  let (first, rest) ← readClassAtom flags text
  let rest := flags.significant rest
  let ahead := behindHyphen flags (rest.drop 1)
  if rest.head? = some '-' ∧ ahead ≠ some ']' ∧ ahead ≠ some '-' then
    let (last, rest) ← readClassAtom flags (flags.significant (rest.drop 1))
    let first ← classLiteral flags first
    let last ← classLiteral flags last
    if first ≤ last then return (.range first last, rest) else throw .badRange
  else
    match first with
    | .literal _ => return (.single (← classLiteral flags first), rest)
    | .members set => return (set, rest)
    | .anchor _ => throw .unknownEscape

/-- The hyphens at the front of a text, which stand for themselves at the front of a class. -/
def readHyphens (flags : Flags) (text : Text) : Text × Text :=
  flags.span (· = '-') false text

/-- The beginning of a class behind its opening bracket: the mark of the complement, then hyphens or
a closing bracket that stand for themselves. -/
def openClass (flags : Flags) (text : Text) : OpenClass × Text :=
  let text := flags.significant text
  let complemented := text.head? = some '^'
  let text := if complemented then flags.significant (text.drop 1) else text
  let (hyphens, rest) := readHyphens flags text
  let item (c : Char) : NestedSet := ⟨.single c, 0⟩
  let items := hyphens.foldl (fun items c => items.add (item c)) ClassItems.empty
  match hyphens, rest with
  | [], ']' :: rest => (⟨complemented, none, items.add (item ']')⟩, rest)
  | _, _ => (⟨complemented, none, items⟩, rest)

/-! ## Classes -/

/-- Reads the inside of a class up to the closing bracket of the outermost one, `outer` being the
classes around the current one. The next `owed` characters belong to a part that has been read. -/
def readInside (flags : Flags) :
    Text → (owed : Nat) → OpenClass → (outer : List OpenClass) → Except ReadError (NestedSet × Text)
  | [], _, _, _ => .error .unclosedClass
  | _ :: rest, owed + 1, level, outer => readInside flags rest owed level outer
  | c :: rest, 0, level, outer =>
    if flags.startsLayout c then
      readInside flags rest (rest.length - (skipLayout (c = '#') rest).length) level outer
    else if c = '[' then
      match namedSet? rest with
      | some (set, complemented, left) => do
        let set ← flags.complement complemented (flags.fold set)
        readInside flags rest (rest.length - left.length) (level.add ⟨set, 0⟩) outer
      | none =>
        let (opened, left) := openClass flags rest
        readInside flags rest (rest.length - left.length) opened (level :: outer)
    else if c = ']' then do
      let closed ← level.close flags
      match outer with
      | [] => return (closed, rest)
      | parent :: outer => readInside flags rest 0 (parent.add closed) outer
    else
      match if rest.head? = some c then SetOperator.ofMark? c else none with
      | some operator => readInside flags rest 1 (level.behind flags operator) outer
      | none => do
        let (set, left) ← readItem flags (c :: rest)
        readInside flags rest (rest.length - left.length) (level.add ⟨set, 0⟩) outer

/-- A bracketed class behind its opening bracket. -/
def readClass (flags : Flags) (text : Text) : Except ReadError (NestedSet × Text) :=
  let (opened, rest) := openClass flags text
  readInside flags rest 0 opened []

end FormulaLexer.Pattern
