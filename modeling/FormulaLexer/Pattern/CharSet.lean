import FormulaLexer.Unicode.CaseFolding
import FormulaLexer.Unicode.CharacterClass

/-!
Sets of characters as patterns describe them. A set that ignores case holds every character of
which some case variant belongs to the set it is made from; a complement is taken after that.
-/

namespace FormulaLexer

/-- A description of a set of characters. -/
inductive CharSet where
  | all
  | range (first last : Char)
  | ranges (table : Unicode.Ranges)
  | digit
  | blank
  | word
  | union (left right : CharSet)
  | intersection (left right : CharSet)
  | complement (set : CharSet)
  | ignoringCase (set : CharSet)
  | ignoringAsciiCase (set : CharSet)
  deriving DecidableEq

namespace CharSet

/-- Whether the character belongs to the set. -/
def contains : CharSet → Char → Bool
  | .all, _ => true
  | .range first last, c => first ≤ c && c ≤ last
  | .ranges table, c => table.contains c.toNat
  | .digit, c => Unicode.isDecimalDigit c
  | .blank, c => Unicode.isBlank c
  | .word, c => Unicode.isWord c
  | .union left right, c => left.contains c || right.contains c
  | .intersection left right, c => left.contains c && right.contains c
  | .complement set, c => !set.contains c
  | .ignoringCase set, c => (Unicode.caseVariants c).any set.contains
  | .ignoringAsciiCase set, c => set.contains c.toLower || set.contains c.toUpper

/-! ## Members as ranges -/

/-- The members that a set gains when the case of its members is ignored. -/
def newcomers (set : CharSet) : List Char :=
  let known := Unicode.casedCharacters.filter set.contains
  (known.flatMap Unicode.caseVariants).filter fun c => !set.contains c

/-- Points of which one lies at each place where a character that belongs to the set stands beside
one that does not. -/
def bounds : CharSet → List Nat
  | .all => []
  | .range first last => [first.toNat, last.toNat + 1]
  | .ranges table => table.bounds
  | .digit => Unicode.decimalDigitRanges.bounds
  | .blank => Unicode.blankRanges.bounds
  | .word => Unicode.wordRanges.bounds
  | .union left right => left.bounds ++ right.bounds
  | .intersection left right => left.bounds ++ right.bounds
  | .complement set => set.bounds
  | .ignoringCase set => set.newcomers.flatMap (fun c => [c.toNat, c.toNat + 1]) ++ set.bounds
  | .ignoringAsciiCase set => List.range' 'A'.toNat ('z'.toNat + 2 - 'A'.toNat) ++ set.bounds

/-- Whether the code point is that of a character of the set. -/
def containsCode (set : CharSet) (code : Nat) : Bool :=
  decide code.isValidChar && set.contains (Char.ofNat code)

/-- The points at which the characters begin and end. -/
def codeBounds : List Nat := [0, 0xd800, 0xe000, 0x110000]

/-- The characters of the set as ranges, no two of which could be one. -/
def members (set : CharSet) : Unicode.Ranges :=
  .ofTest set.containsCode ((codeBounds ++ set.bounds).foldr Unicode.Ranges.insertPoint [])

/-! ## Sets made of others -/

/-- The set without members. -/
def none : CharSet := .complement .all

/-- The set of one character. -/
def single (c : Char) : CharSet := .range c c

/-- The members of either set. -/
def unionOf : List CharSet → CharSet
  | [] => .none
  | [set] => set
  | set :: sets => .union set (unionOf sets)

/-- The members of the first set that are not in the second. -/
def difference (left right : CharSet) : CharSet :=
  .intersection left (.complement right)

/-- The members of exactly one of the sets. -/
def symmetricDifference (left right : CharSet) : CharSet :=
  .union (left.difference right) (right.difference left)

/-! ## Sets within ASCII -/

/-- The digits of ASCII. -/
def asciiDigit : CharSet := .range '0' '9'

/-- The blanks of ASCII: the tab, the line ends and the other characters between them, and the
space. -/
def asciiBlank : CharSet := .union (.range '\t' '\r') (single ' ')

/-- The letters of ASCII. -/
def asciiLetter : CharSet := .union (.range 'A' 'Z') (.range 'a' 'z')

/-- The letters and digits of ASCII. -/
def asciiAlphanumeric : CharSet := .union asciiDigit asciiLetter

/-- The word characters of ASCII: letters, digits and the underscore. -/
def asciiWord : CharSet := .union asciiAlphanumeric (single '_')

end CharSet

end FormulaLexer
