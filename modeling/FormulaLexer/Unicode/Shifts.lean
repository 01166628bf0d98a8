/-!
One-to-one maps of code points given as ascending runs: a run carries every `stride`-th code
point between its ends to a run of the same shape elsewhere. Code points outside all runs stay
where they are.
-/

namespace FormulaLexer.Unicode

/-- The code points `first`, `first + stride`, … up to `last`, carried to `target`,
`target + stride`, … -/
structure Shift where
  first : Nat
  last : Nat
  stride : Nat
  target : Nat

namespace Shift

/-- Whether the run carries this code point. -/
def moves (run : Shift) (code : Nat) : Bool :=
  run.first ≤ code && code ≤ run.last && (code - run.first) % run.stride == 0

/-- The code points that the run carries. -/
def codes (run : Shift) : List Nat :=
  List.range' run.first ((run.last - run.first) / run.stride + 1) run.stride

/-- The code point that the run carries to `image`, if there is one. -/
def preimage? (run : Shift) (image : Nat) : Option Nat :=
  if run.target ≤ image then
    let code := run.first + (image - run.target)
    if run.moves code then some code else none
  else none

end Shift

/-- Runs with ascending starts, none of which carries a code point of another. -/
abbrev Shifts := List Shift

namespace Shifts

/-- The image of a code point: the target of the run that carries it, or itself. -/
def apply : Shifts → Nat → Nat
  | [], code => code
  | run :: rest, code =>
    if code < run.first then code
    else if run.moves code then run.target + (code - run.first)
    else apply rest code

/-- The code points that the runs carry to `image`, in the order of the runs. -/
def preimages (runs : Shifts) (image : Nat) : List Nat :=
  runs.filterMap fun run => run.preimage? image

end Shifts

end FormulaLexer.Unicode
