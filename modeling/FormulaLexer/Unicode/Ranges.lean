/-!
Sets of code points given as ascending lists of inclusive ranges. Membership stops at the
first range that begins beyond the code point, so small code points are decided by the head
of a long table. Any test of code points is listed by its ranges when the points are known at which
its answer changes.
-/

namespace FormulaLexer.Unicode

/-- Inclusive ranges of code points, each one beyond the one before it. -/
abbrev Ranges := List (Nat × Nat)

namespace Ranges

/-- Whether the code point lies in one of the ascending ranges. -/
def contains : Ranges → Nat → Bool
  | [], _ => false
  | (first, last) :: rest, code =>
    if code < first then false else if code ≤ last then true else contains rest code

/-- Each range is inhabited and ends before the next one begins. -/
def ascending : Ranges → Bool
  | [] => true
  | [(first, last)] => first ≤ last
  | (first, last) :: (next, stop) :: rest =>
    first ≤ last && last < next && ascending ((next, stop) :: rest)

/-- The points at which the ranges begin and at which they have just ended. -/
def bounds (ranges : Ranges) : List Nat :=
  ranges.flatMap fun range => [range.1, range.2 + 1]

/-! ## The ranges of a test -/

/-- Adds a point to ascending points. -/
def insertPoint (point : Nat) : List Nat → List Nat
  | [] => [point]
  | other :: points =>
    if point < other then point :: other :: points
    else if point = other then other :: points
    else other :: insertPoint point points

/-- Puts a range in front of ranges that begin behind it. It becomes one with the next range if
there is no code point between them. -/
def push (first last : Nat) : Ranges → Ranges
  | [] => [(first, last)]
  | (next, stop) :: rest =>
    if next = last + 1 then (first, stop) :: rest else (first, last) :: (next, stop) :: rest

/-- The ranges of the code points that pass a test, from the first of the ascending points up to the
last one. The answer changes at some of these points, and nowhere else. -/
def ofTest (test : Nat → Bool) : (points : List Nat) → Ranges
  | [] => []
  | [_] => []
  | start :: next :: points =>
    let rest := ofTest test (next :: points)
    if test start then push start (next - 1) rest else rest

end Ranges

end FormulaLexer.Unicode
