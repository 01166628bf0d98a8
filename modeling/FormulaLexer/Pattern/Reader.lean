import FormulaLexer.Pattern.Element
import FormulaLexer.Pattern.Route

/-!
Reading patterns. A pattern is read element by element; the groups that are open while it is read
are kept aside, with the branches and the pieces read so far. A pattern is refused when its
description is nested too deeply.
-/

namespace FormulaLexer.Pattern

/-- A pattern and how deeply its description is nested. -/
structure Piece where
  pattern : Pattern
  depth : Nat

/-- How deeply a description may be nested. -/
def depthLimit : Nat := 250

/-- The piece, unless its description is nested too deeply. -/
def Piece.checked (piece : Piece) : Except ReadError Piece :=
  if piece.depth ≤ depthLimit then .ok piece else .error .tooDeep

/-- The depth of several descriptions side by side, which takes one more level if there are at least
two of them. -/
def depthBeside (depths : List Nat) : Nat :=
  depths.foldl max 0 + if depths.length < 2 then 0 else 1

/-- An open group: its number if it has one, its finished branches and the pieces of the branch being
read, both with the latest first. Where settings were changed, a gap stands among the pieces. -/
structure Level where
  flags : Flags
  number : Option Nat
  branches : List Piece
  pieces : List (Option Piece)

/-- A group of which nothing has been read. -/
def Level.ofFlags (flags : Flags) (number : Option Nat) : Level := ⟨flags, number, [], []⟩

/-- The branch being read. -/
def Level.branch (level : Level) : Piece :=
  ⟨inSequence ((level.pieces.filterMap id).reverse.map Piece.pattern),
    depthBeside (level.pieces.map fun piece => (piece.map Piece.depth).getD 0)⟩

/-- The branches with the one being read. -/
def Level.allBranches (level : Level) : List Piece :=
  level.branch :: level.branches

/-- The inside of a group that ends here. -/
def Level.close (level : Level) : Piece :=
  ⟨anyOf (level.allBranches.reverse.map Piece.pattern),
    depthBeside (level.allBranches.map Piece.depth)⟩

/-- The group as a piece. -/
def Level.group (level : Level) : Piece :=
  let inside := level.close
  ⟨match level.number with
    | none => inside.pattern
    | some number => .group number inside.pattern, inside.depth + 1⟩

/-- Adds a piece to the branch being read. -/
def Level.add (level : Level) (piece : Piece) : Level :=
  { level with pieces := some piece :: level.pieces }

/-- The groups that are open while a pattern is read, how many groups have a number, and the names
given so far. -/
structure Builder where
  current : Level
  outer : List Level
  groups : Nat
  names : List Text

/-- Opens a group, with the next number if it has one. -/
def Builder.opened (b : Builder) (flags : Flags) (numbered : Bool) : Builder :=
  if numbered then
    ⟨Level.ofFlags flags (some (b.groups + 1)), b.current :: b.outer, b.groups + 1, b.names⟩
  else ⟨Level.ofFlags flags none, b.current :: b.outer, b.groups, b.names⟩

/-- Takes in one element. -/
def Builder.push (b : Builder) : Element → Except ReadError Builder
  | .piece pattern depth => do
    let piece ← Piece.checked ⟨pattern, depth⟩
    return { b with current := b.current.add piece }
  | .bar =>
    .ok { b with current := ⟨b.current.flags, b.current.number, b.current.allBranches, []⟩ }
  | .opening flags .plain => .ok (b.opened flags false)
  | .opening flags .numbered => .ok (b.opened flags true)
  | .opening flags (.named name) =>
    if b.names.contains name then .error .repeatedGroupName
    else .ok { b.opened flags true with names := name :: b.names }
  | .closing =>
    match b.outer with
    | [] => .error .unopenedGroup
    | level :: outer => do
      let piece ← b.current.group.checked
      return ⟨level.add piece, outer, b.groups, b.names⟩
  | .quantifier least most greedy =>
    match b.current.pieces with
    | some piece :: pieces => do
      let piece ← Piece.checked ⟨repeated least most greedy piece.pattern, piece.depth + 1⟩
      return { b with current := { b.current with pieces := some piece :: pieces } }
    | _ => .error .nothingToRepeat
  | .settings flags =>
    .ok { b with
      current := ⟨flags, b.current.number, b.current.branches, none :: b.current.pieces⟩ }
  | .layout => .ok b

/-- Reads the elements of a text. The next `owed` characters belong to an element that has been
read. -/
def readElements : Text → (owed : Nat) → Builder → Except ReadError Builder
  | [], _, b => .ok b
  | _ :: rest, owed + 1, b => readElements rest owed b
  | c :: rest, 0, b => do
    let (element, left) ← readElement b.current.flags c rest
    let b ← b.push element
    readElements rest (rest.length - left.length) b

/-- Reads a pattern. -/
def read (ignoreCase : Bool) (text : Text) : Except ReadError Pattern := do
  let start := Level.ofFlags (Flags.initial ignoreCase) none
  let b ← readElements text 0 ⟨start, [], 0, []⟩
  if !b.outer.isEmpty then throw .unclosedGroup
  let piece ← b.current.close.checked
  return piece.pattern

/-- The text of a pattern put into a group behind the start of the text. -/
def anchoredText (text : Text) : Text :=
  "\\A(?:".toList ++ text ++ ")".toList

/-- Reads a pattern that ignores case, anchored at the start of the text it is searched in. The
anchor is put in front of the written pattern before it is read. -/
def readAnchored (text : Text) : Except ReadError Pattern :=
  read true (anchoredText text)

end FormulaLexer.Pattern
