import FormulaLexer.Pattern.Basic

/-!
How much memory the automaton of a pattern takes. The automaton reads the bytes of the UTF-8 form
of a text from the last one to the first, so a set of characters becomes a small automaton of its
own, and a repetition becomes as many copies of its body as it has repetitions. What a set takes
depends on its members alone. Patterns whose automaton would be too large are refused.
-/

namespace FormulaLexer

/-- Bytes of one state. -/
def stateSize : Nat := 32

/-- Bytes of one entry of a state with several ways on. -/
def branchSize : Nat := 4

/-- Bytes of one range of ASCII characters. -/
def asciiRangeSize : Nat := 8

/-! ## Ranges of characters in bytes -/

namespace Unicode.Ranges

/-- The part of the ranges between two code points. -/
def within (ranges : Ranges) (first last : Nat) : Ranges :=
  (ranges.map fun range => (max range.1 first, min range.2 last)).filter fun range =>
    range.1 ≤ range.2

/-- The code points from `first` up to `last` in base 64, with `count` digits behind the leading
one. Each cut gives a range for every digit, and any choice of digits in these ranges is a code
point. -/
def cut : (count first last : Nat) → List Ranges
  | 0, first, last => [[(first, last)]]
  | count + 1, first, last =>
    let block := Nat.pow 64 (count + 1)
    let lead := first / block
    let stop := last / block
    if lead = stop then (cut count (first % block) (last % block)).map ((lead, lead) :: ·)
    else
      -- A block at either end is cut further, unless all of it is wanted.
      let left :=
        if first % block = 0 then []
        else (cut count (first % block) (block - 1)).map ((lead, lead) :: ·)
      let right :=
        if (last + 1) % block = 0 then []
        else (cut count 0 (last % block)).map ((stop, stop) :: ·)
      let next := if first % block = 0 then lead else lead + 1
      let final := if (last + 1) % block = 0 then stop else stop - 1
      let whole :=
        if next ≤ final then [(next, final) :: List.replicate (count + 1) (0, 63)] else []
      left ++ whole ++ right

/-- The number of digits in which two cuts begin alike. -/
def shared : Ranges → Ranges → Nat
  | left :: lefts, right :: rights => if left = right then shared lefts rights + 1 else 0
  | _, _ => 0

/-- The memory of the automaton of cuts, which share the states of the digits in which a cut begins
like the one in front of it. -/
def cutsMemory : (previous : Ranges) → List Ranges → Nat
  | _, [] => 0
  | previous, digits :: cuts =>
    branchSize + stateSize * (digits.length - shared previous digits) + cutsMemory digits cuts

/-- The code points whose UTF-8 form has the same number of bytes behind the leading one, none at
first. -/
def forms : List (Nat × Nat) := [(0, 0x7f), (0x80, 0x7ff), (0x800, 0xffff), (0x10000, 0x10ffff)]

/-- The memory of the automaton of ranges. -/
def memory (ranges : Ranges) : Nat :=
  let sizes := forms.mapIdx fun count form =>
    cutsMemory [] ((ranges.within form.1 form.2).flatMap fun range => cut count range.1 range.2)
  sizes.foldl (· + ·) 0

end Unicode.Ranges

namespace CharSet

/-- The memory of the automaton of a set. A single character is read byte by byte, and characters of
ASCII are told apart in a single state. -/
def memory (set : CharSet) : Nat :=
  match set.members with
  | [] => 2 * stateSize
  | (first, last) :: rest =>
    let members := (first, last) :: rest
    if first = last ∧ rest = [] then stateSize * (Char.ofNat first).utf8Size
    else if members.all (·.2 < 0x80) then 2 * stateSize + asciiRangeSize * members.length
    else 2 * stateSize + Unicode.Ranges.memory members

end CharSet

namespace Pattern

/-- The memory of the automaton of a pattern. -/
def memory : Pattern → Nat
  | .empty => stateSize
  | .one set => set.memory
  | .anchor _ => stateSize
  | .sequence first second => first.memory + second.memory
  | .either preferred other => preferred.memory + other.memory + stateSize + branchSize
  | .repetition least most _ body =>
    match most with
    | none => max least 1 * body.memory + stateSize + 2 * branchSize
    | some most =>
      most * body.memory + (most - least) * (stateSize + 2 * branchSize)
  | .group _ body => 2 * stateSize + body.memory

/-- The automaton of a pattern takes at most so many bytes. -/
def memoryLimit : Nat := 10 * Nat.pow 2 20

end Pattern

end FormulaLexer
