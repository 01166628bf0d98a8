import FormulaLexer.Pattern.Basic

/-!
Routes: patterns with their repetitions written out. What remains of a repetition is the star,
which is tried for as long as its body matches, and every place where a route divides carries a
label of its own, so that two places where the same choice is offered are told apart.
-/

namespace FormulaLexer

/-- A route through a text. -/
inductive Route where
  | empty
  | one (set : CharSet)
  | anchor (condition : Anchor)
  | sequence (first second : Route)
  | either (label : Nat) (preferred other : Route)
  | star (label : Nat) (greedy : Bool) (body : Route)
  deriving DecidableEq

namespace Route

/-- Whether every match begins at the start of the text. The answer `false` promises nothing. -/
def isAnchored : Route → Bool
  | .anchor .textStart => true
  | .sequence first _ => first.isAnchored
  | .either _ preferred other => preferred.isAnchored && other.isAnchored
  | _ => false

/-- The route or nothing; a greedy option prefers the route. -/
def optional (label : Nat) (greedy : Bool) (route : Route) : Route :=
  if greedy then .either label route .empty else .either label .empty route

/-- So many routes from one recipe, put in front of those in `done`, and the first label that is
still free. The recipe takes the first free label and returns the next one. -/
def copies (make : Nat → Route × Nat) : (count label : Nat) → (done : List Route) →
    List Route × Nat
  | 0, label, done => (done, label)
  | count + 1, label, done =>
    let (route, label) := make label
    copies make count label (route :: done)

/-- Like `copies`, with a free label beside each route. -/
def labelledCopies (make : Nat → Route × Nat) : (count label : Nat) →
    (done : List (Nat × Route)) → List (Nat × Route) × Nat
  | 0, label, done => (done, label)
  | count + 1, label, done =>
    let (route, next) := make (label + 1)
    labelledCopies make count next ((label, route) :: done)

/-- The routes one after the other, the first one last in the list, in front of `last`. -/
def inFrontOf (last : Route) (routes : List Route) : Route :=
  routes.foldl (fun behind route => .sequence route behind) last

/-- Options each of which opens the one after it, the outermost last in the list. -/
def nestedOptions (greedy : Bool) (routes : List (Nat × Route)) : Route :=
  routes.foldl (fun inner (label, route) => optional label greedy (.sequence route inner)) .empty

end Route

namespace Pattern

/-- The route of a pattern, with labels from `label` on, and the first label that is still free.

A body that can be empty is passed once before its star, which is entered only behind it. The star
repeats that very body, with the same labels, so the first pass and the later ones offer the same
choices. -/
def expand : Pattern → (label : Nat) → Route × Nat
  | .empty, label => (.empty, label)
  | .one set, label => (.one set, label)
  | .anchor condition, label => (.anchor condition, label)
  | .sequence first second, label =>
    let (first, label) := first.expand label
    let (second, label) := second.expand label
    (.sequence first second, label)
  | .either preferred other, label =>
    let (preferred, next) := preferred.expand (label + 1)
    let (other, next) := other.expand next
    (.either label preferred other, next)
  | .group _ body, label => body.expand label
  | .repetition least (some most) greedy body, label =>
    let (required, label) := Route.copies body.expand least label []
    let (options, label) := Route.labelledCopies body.expand (most - least) label []
    (Route.inFrontOf (Route.nestedOptions greedy options) required, label)
  | .repetition 0 none greedy body, label =>
    if body.canBeEmpty then
      let (body, next) := body.expand (label + 2)
      (Route.optional label greedy (.sequence body (.star (label + 1) greedy body)), next)
    else
      let (body, next) := body.expand (label + 1)
      (.star label greedy body, next)
  | .repetition (least + 1) none greedy body, label =>
    let (required, label) := Route.copies body.expand least label []
    let (body, next) := body.expand (label + 1)
    (Route.inFrontOf (.sequence body (.star label greedy body)) required, next)

/-- The route of a pattern. -/
def route (pattern : Pattern) : Route :=
  (pattern.expand 0).1

end Pattern

end FormulaLexer
