import FormulaLexer.Pattern.Route

/-!
The search for the leftmost match of a pattern. Where a pattern can match in several ways, the way
that its operators prefer wins: the left side of an alternative, and one more repetition of a
greedy star rather than one less.

All ways are followed at the same time, one character after the other. A way is known by its
trail, the routes that it has still to take, and the trails are kept in the order of preference.
Two ways that come to the same division at the same place would go on in the same manner, so the
later one is given up; this bounds the work by the size of the pattern for each character, and it
ends the repetition of an empty text.
-/

namespace FormulaLexer

/-- The routes that a way has still to take, the next one first. -/
abbrev Trail := List Route

/-- The ways found at a place: the trails that go on behind the next character, the least
preferred one first, the trails at whose divisions some way has been, and whether a way has come
to its end. -/
structure Frontier where
  trails : List Trail
  visited : List Trail
  accepted : Bool

namespace Frontier

/-- The frontier before any way has been followed. -/
def empty : Frontier := ⟨[], [], false⟩

/-- Adds a way that goes on behind the next character. Ways that are found after one that has come
to its end are less preferred than that one and are dropped. -/
def add (trail : Trail) (frontier : Frontier) : Frontier :=
  if frontier.accepted then frontier else { frontier with trails := trail :: frontier.trails }

/-- Ends a way. -/
def accept (frontier : Frontier) : Frontier := { frontier with accepted := true }

/-- Explores a division unless a way has been there or has come to its end. -/
def visit (trail : Trail) (explore : Frontier → Frontier) (frontier : Frontier) : Frontier :=
  if frontier.accepted || trail ∈ frontier.visited then frontier
  else explore { frontier with visited := trail :: frontier.visited }

end Frontier

namespace Route

/-- Follows a route from a place on. Behind it lies the trail `rest`, and `next` follows that trail
from the same place on. A star that its own body leads back to has been visited, so the body is
left without going on. -/
def enter (place : Place) :
    Route → (rest : Trail) → (next : Frontier → Frontier) → Frontier → Frontier
  | .empty, _, next, frontier => next frontier
  | .one set, rest, _, frontier =>
    if place.next.any set.contains then frontier.add rest else frontier
  | .anchor condition, _, next, frontier =>
    if condition.holds place then next frontier else frontier
  | .sequence first second, rest, next, frontier =>
    first.enter place (second :: rest) (second.enter place rest next) frontier
  | .either label preferred other, rest, next, frontier =>
    frontier.visit (.either label preferred other :: rest) fun frontier =>
      other.enter place rest next (preferred.enter place rest next frontier)
  | .star label greedy body, rest, next, frontier =>
    let trail := .star label greedy body :: rest
    frontier.visit trail fun frontier =>
      if greedy then next (body.enter place trail id frontier)
      else body.enter place trail id (next frontier)

end Route

/-- Follows a trail from a place on. -/
def Trail.enter (place : Place) : Trail → Frontier → Frontier
  | [], frontier => frontier.accept
  | route :: rest, frontier => route.enter place rest (Trail.enter place rest) frontier

/-- The ways that lead on from a place, in the order of the trails that arrive there. -/
def Frontier.arrive (place : Place) (arriving : List Trail) : Frontier :=
  arriving.foldl (fun frontier trail => trail.enter place frontier) .empty

namespace Route

/-- The number of characters up to the end of the preferred match, where `passed` characters have
been consumed, `arriving` are the ways that are left, and `found` is the end of the preferred match
among the ways that have come to theirs. -/
def follow (passed : Nat) (before : Option Char) :
    (text : Text) → (arriving : List Trail) → (found : Option Nat) → Option Nat
  | [], arriving, found =>
    if (Frontier.arrive ⟨before, none⟩ arriving).accepted then some passed else found
  | c :: rest, arriving, found =>
    let frontier := Frontier.arrive ⟨before, some c⟩ arriving
    let found := if frontier.accepted then some passed else found
    if frontier.trails.isEmpty then found
    else follow (passed + 1) (some c) rest frontier.trails.reverse found

/-- The number of characters of the preferred match at the front of a text, in front of which
stands the character `before`. -/
def matchLength? (route : Route) (before : Option Char) (text : Text) : Option Nat :=
  follow 0 before text [[route]] none

/-- A match in a text: the number of characters in front of it and its own text. -/
structure Match where
  start : Nat
  text : Text

/-- Tries the places from a given one on, `rest` being the characters behind it. -/
def findFrom (route : Route) (passed : Nat) (before : Option Char) : (rest : Text) → Option Match
  | [] => (route.matchLength? before []).map fun _ => ⟨passed, []⟩
  | c :: rest =>
    match route.matchLength? before (c :: rest) with
    | some length => some ⟨passed, (c :: rest).take length⟩
    | none => findFrom route (passed + 1) (some c) rest

/-- The leftmost match in a text. A route that matches only at the start of a text is tried
nowhere else. -/
def find? (route : Route) (text : Text) : Option Match :=
  if route.isAnchored then
    (route.matchLength? none text).map fun length => ⟨0, text.take length⟩
  else findFrom route 0 none text

end Route

end FormulaLexer
