import FormulaLexer.Pattern.Anchor
import FormulaLexer.Pattern.CharSet

/-!
Patterns of texts, and the normal form in which they are put together. Sequences and alternatives
are flat: no part of a sequence is a sequence, and no alternative is a choice of its own. Choices
between single characters are sets, the parts that all alternatives begin with are taken out in
front of them, and a pattern without width is repeated at most once.

The normal form is more than tidiness. Among the ways in which a repetition of an empty text could
go on, the search takes only some, and which ones depends on how the pattern is put together.
-/

namespace FormulaLexer

/-- A pattern of texts. Earlier alternatives are preferred, and a greedy repetition prefers to go
on. A group is a part whose match could be asked for by its number, so no two groups are alike. -/
inductive Pattern where
  | empty
  | one (set : CharSet)
  | anchor (condition : Anchor)
  | sequence (first second : Pattern)
  | either (preferred other : Pattern)
  | repetition (least : Nat) (most : Option Nat) (greedy : Bool) (body : Pattern)
  | group (number : Nat) (body : Pattern)
  deriving DecidableEq

namespace Pattern

/-- Whether the shape of the pattern allows it to match the empty text. -/
def canBeEmpty : Pattern → Bool
  | .empty => true
  | .one _ => false
  | .anchor _ => true
  | .sequence first second => first.canBeEmpty && second.canBeEmpty
  | .either preferred other => preferred.canBeEmpty || other.canBeEmpty
  | .repetition least _ _ body => least = 0 || body.canBeEmpty
  | .group _ body => body.canBeEmpty

/-- Whether the pattern can match nothing but the empty text. -/
def hasNoWidth : Pattern → Bool
  | .empty => true
  | .one _ => false
  | .anchor _ => true
  | .sequence first second => first.hasNoWidth && second.hasNoWidth
  | .either preferred other => preferred.hasNoWidth && other.hasNoWidth
  | .repetition _ _ _ body => body.hasNoWidth
  | .group _ body => body.hasNoWidth

/-! ## Sequences -/

/-- The parts of a sequence. -/
def parts : Pattern → List Pattern
  | .empty => []
  | .sequence first second => first :: second.parts
  | pattern => [pattern]

/-- One pattern behind the other. -/
def followedBy : Pattern → Pattern → Pattern
  | .empty, second => second
  | .sequence first rest, second => .sequence first (rest.followedBy second)
  | first, .empty => first
  | first, second => .sequence first second

/-- The patterns one after the other. -/
def inSequence (patterns : List Pattern) : Pattern :=
  patterns.foldr followedBy .empty

/-! ## Alternatives -/

/-- The alternatives of a choice. -/
def branches : Pattern → List Pattern
  | .either preferred other => preferred :: other.branches
  | pattern => [pattern]

/-- The sets of patterns that each match one character. -/
def setsOf? : List Pattern → Option (List CharSet)
  | [] => some []
  | .one set :: patterns => (setsOf? patterns).map (set :: ·)
  | _ => none

/-- The choice between the patterns as they are. -/
def choice : List Pattern → Pattern
  | [] => .empty
  | [pattern] => pattern
  | pattern :: patterns => .either pattern (choice patterns)

/-- The choice between the patterns, with choices among them taken apart and single characters put
together. -/
def flatChoice (patterns : List Pattern) : Pattern :=
  let alternatives := patterns.flatMap branches
  match setsOf? alternatives with
  | some sets => .one (.unionOf sets)
  | none => choice alternatives

/-- The number of parts in which two sequences agree from the start on. -/
def sharedParts : List Pattern → List Pattern → Nat
  | first :: left, second :: right => if first = second then sharedParts left right + 1 else 0
  | _, _ => 0

/-- The number of parts that all sequences begin with. A pattern of a single part shares none. -/
def sharedByAll : List Pattern → Nat
  | [] => 0
  | pattern :: patterns =>
    if (pattern :: patterns).all fun p => 2 ≤ p.parts.length then
      patterns.foldl (fun count p => min count (sharedParts pattern.parts p.parts))
        pattern.parts.length
    else 0

/-- Any of the patterns, earlier ones preferred. -/
def anyOf (patterns : List Pattern) : Pattern :=
  let alternatives := patterns.flatMap branches
  match alternatives with
  | [] => .empty
  | [pattern] => pattern
  | pattern :: _ =>
    let shared := sharedByAll alternatives
    if shared = 0 then flatChoice alternatives
    else
      let rests := alternatives.map fun p => inSequence (p.parts.drop shared)
      inSequence (pattern.parts.take shared ++ [flatChoice rests])

/-! ## Repetition -/

/-- At least `least` repetitions, and at most `most` if there is such a bound. -/
def repeated (least : Nat) (most : Option Nat) (greedy : Bool) (body : Pattern) : Pattern :=
  let least := if body.hasNoWidth then min least 1 else least
  let most := if body.hasNoWidth then some (min (most.getD 1) 1) else most
  if most = some 0 then .empty
  else if least = 1 ∧ most = some 1 then body
  else .repetition least most greedy body

end Pattern

end FormulaLexer
