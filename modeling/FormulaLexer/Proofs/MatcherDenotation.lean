import FormulaLexer.Matcher.Named

/-! What matchers mean as they are written. A matcher is kept flat: an alternative has a list of
leaves, and an inversion is pushed into a leaf. An expression is a matcher before that, as a tree
of the operators with which it is written. The meaning of the tree is defined on its shape, and the
flat matcher accepts exactly what the tree means. -/
namespace FormulaLexer.MatcherDenotation

/-- A matcher as it is written, from lists of categories and values up. -/
inductive Expression where
  | lists (categories : List Category) (values : List Value)
  | either (left right : Expression)
  | invert (inner : Expression)
  | star (inner : Expression)
  | plus (inner : Expression)
  | caret (inner : Expression)

/-- How many tokens an expression takes: one, any number, or at least one. -/
inductive Quantifier where
  | one
  | any
  | some
  deriving DecidableEq

/-- The least and the greatest number of tokens. -/
def Quantifier.bounds : Quantifier → Nat × Option Nat
  | .one => (1, Option.some 1)
  | .any => (0, none)
  | .some => (1, none)

namespace Expression

/-- The matcher that an expression writes. -/
def build : Expression → Matcher
  | .lists categories values => .ofLists categories values
  | .either left right => left.build.orElse right.build
  | .invert inner => inner.build.invert
  | .star inner => inner.build.star
  | .plus inner => inner.build.plus
  | .caret inner => inner.build.withCaret

/-! ## Meaning -/

/-- Whether no alternative is left in an expression, so that an inversion still reaches its lists. -/
def isSingle : Expression → Bool
  | .lists _ _ => true
  | .either _ _ => false
  | .invert inner => inner.isSingle
  | .star inner => inner.isSingle
  | .plus inner => inner.isSingle
  | .caret inner => inner.isSingle

/-- The tokens that an expression means. An empty list asks for nothing, an alternative means what
either side does, and an inversion means the others, or changes nothing behind an alternative. -/
def Admits (token : Token) : Expression → Prop
  | .lists categories values =>
    (categories = [] ∨ token.category ∈ categories) ∧
      (values = [] ∨ ∃ value ∈ values, token.value.same value = true)
  | .either left right => left.Admits token ∨ right.Admits token
  | .invert inner => if inner.isSingle then ¬ inner.Admits token else inner.Admits token
  | .star inner => inner.Admits token
  | .plus inner => inner.Admits token
  | .caret inner => inner.Admits token

instance decideAdmits (token : Token) : (e : Expression) → Decidable (e.Admits token)
  | .lists _ _ => inferInstanceAs (Decidable (_ ∧ _))
  | .either left right =>
    have := decideAdmits token left
    have := decideAdmits token right
    inferInstanceAs (Decidable (_ ∨ _))
  | .invert inner =>
    have := decideAdmits token inner
    inferInstanceAs (Decidable (if inner.isSingle then ¬ inner.Admits token else inner.Admits token))
  | .star inner => decideAdmits token inner
  | .plus inner => decideAdmits token inner
  | .caret inner => decideAdmits token inner

/-- The number of tokens that an expression takes. An alternative starts again with one. -/
def quantifier : Expression → Quantifier
  | .lists _ _ => .one
  | .either _ _ => .one
  | .invert inner => inner.quantifier
  | .star _ => .any
  | .plus inner => if inner.quantifier = .any then .any else .some
  | .caret inner => inner.quantifier

/-- Whether an expression has the mark. An alternative drops it. -/
def isMarked : Expression → Bool
  | .lists _ _ => false
  | .either _ _ => false
  | .invert inner => inner.isMarked
  | .star inner => inner.isMarked
  | .plus inner => inner.isMarked
  | .caret _ => true

/-! ## The catalogue -/

/-- Single tokens of a category. -/
def ofCategory (category : Category) : Expression := lists [category] []

/-- Single tokens of a category with one of the named symbols. -/
def ofSymbols (category : Category) (names : List String) : Expression :=
  lists [category] (names.map fun name => .symbol (.named name))

/-- The head of a call of a function. -/
def function (name : Text) : Expression := lists [.function] [.symbol ⟨Unicode.lowerCase name⟩]

/-- A literal operand. -/
def value : Expression :=
  either (either (either (ofCategory .dateTime) (ofCategory .numeric)) (ofCategory .string))
    (ofCategory .boolean)

/-- The expressions of the common fragments by their names. -/
def fragments : List (Text × Expression) :=
  [("datetime".toList, ofCategory .dateTime), ("numeric".toList, ofCategory .numeric),
    ("string".toList, ofCategory .string), ("boolean".toList, ofCategory .boolean),
    ("value".toList, value), ("addsub".toList, ofSymbols .arithmeticOperator ["add", "subtract"]),
    ("subtract".toList, ofSymbols .arithmeticOperator ["subtract"]),
    ("anchored_minus".toList, caret (ofSymbols .arithmeticOperator ["subtract"])),
    ("muldiv".toList, ofSymbols .arithmeticOperator ["multiply", "divide"]),
    ("pow".toList, ofSymbols .arithmeticOperator ["pow"]),
    ("mod".toList, ofSymbols .arithmeticOperator ["mod"]),
    ("boolean_operator".toList, ofCategory .booleanOperator),
    ("comparison_operator".toList, ofCategory .comparisonOperator),
    ("comp_gt".toList, ofSymbols .comparisonOperator ["gt", "ge"]),
    ("comp_lt".toList, ofSymbols .comparisonOperator ["lt", "le"]),
    ("open".toList, ofSymbols .grouping ["open"]), ("close".toList, ofSymbols .grouping ["close"]),
    ("comma".toList, ofSymbols .grouping ["comma"]),
    ("non_group".toList, invert (ofCategory .grouping)),
    ("non_group_star".toList, star (invert (ofCategory .grouping))),
    ("non_close_plus".toList, plus (invert (ofSymbols .grouping ["close"]))),
    ("arguments".toList, plus (either value (ofSymbols .grouping ["comma"])))]

/-- The expression of a named matcher. A name without a fragment is that of a function. -/
def named (name : Text) : Expression :=
  if name = "modulo".toList then ofSymbols .arithmeticOperator ["mod"]
  else
    match fragments.find? fun fragment => fragment.1 = name with
    | some (_, e) => e
    | none => function name

/-- Every fragment of the catalogue is written by its expression. -/
theorem build_fragments :
    fragments.map (fun fragment => (fragment.1, fragment.2.build)) = Matcher.fragments := rfl

theorem build_named (name : Text) : (named name).build = Matcher.named name := by
  rw [named, Matcher.named]
  split
  · rfl
  · have keys : (fun fragment : Text × Matcher => decide (fragment.1 = name)) ∘
        (fun fragment : Text × Expression => (fragment.1, fragment.2.build)) =
          fun fragment => decide (fragment.1 = name) := rfl
    rw [← build_fragments, List.find?_map, keys]
    cases fragments.find? fun fragment => fragment.1 = name with
    | none => rfl
    | some fragment => rfl

end Expression

/-! ## Operators -/

/-- No leaf accepts a missing token, an inverted one no more than another. -/
theorem accepts_none (m : Matcher) : m.accepts none = false := by
  rw [Matcher.accepts, Predicate.accepts, List.any_eq_false]
  intro leaf _
  simp [Leaf.accepts]

/-- An alternative accepts what one of its sides does, whatever bounds and marks they have. -/
theorem accepts_or_else (m n : Matcher) (token : Option Token) :
    (m.orElse n).accepts token = (m.accepts token || n.accepts token) := by
  simp only [Matcher.orElse, Matcher.ofPredicate, Matcher.accepts, Predicate.accepts]
  exact List.any_append

/-- An inversion takes a single leaf to its complement, and leaves an alternative alone. -/
theorem accepts_invert (m : Matcher) (token : Token) :
    m.invert.accepts (some token) =
      if m.isLeaf then !m.accepts (some token) else m.accepts (some token) := by
  obtain ⟨predicate, least, most, caret⟩ := m
  cases predicate with
  | anyOf leaves => rfl
  | leaf leaf =>
    simp [Matcher.invert, Matcher.accepts, Matcher.isLeaf, Predicate.accepts, Predicate.leaves,
      Leaf.accepts, Leaf.admits]

/-- An inversion changes the predicate only, and not whether that is a single leaf. -/
theorem invert_frame (m : Matcher) :
    m.invert.isLeaf = m.isLeaf ∧ m.invert.least = m.least ∧ m.invert.most = m.most ∧
      m.invert.caret = m.caret := by
  obtain ⟨predicate, least, most, caret⟩ := m
  cases predicate <;> exact ⟨rfl, rfl, rfl, rfl⟩

/-! ## Structural equality -/

theorem same_value (v : Value) : v.same v = true := by
  cases v <;> simp [Value.same, Number.Decimal.same, DateTime.same]

theorem same_values (vs : List Value) : Leaf.sameValues vs vs = true := by
  induction vs with
  | nil => rfl
  | cons v vs ih => rw [Leaf.sameValues, same_value, ih, Bool.and_self]

theorem same_leaf (l : Leaf) : l.same l = true := by
  simp [Leaf.same, same_values]

theorem same_leaves (ls : List Leaf) : Predicate.sameLeaves ls ls = true := by
  induction ls with
  | nil => rfl
  | cons l ls ih => rw [Predicate.sameLeaves, same_leaf, ih, Bool.and_self]

/-- A matcher is built like itself. -/
theorem same_matcher (m : Matcher) : m.same m = true := by
  have predicates : m.predicate.same m.predicate = true := by
    cases m.predicate with
    | leaf l => exact same_leaf l
    | anyOf ls => exact same_leaves ls
  simp [Matcher.same, predicates]

/-- Alternatives that are put together in the same order have the same leaves, however they are
grouped. -/
theorem or_else_assoc (l m n : Matcher) :
    (l.orElse m).orElse n = l.orElse (m.orElse n) := by
  have leaves : (l.predicate.leaves ++ m.predicate.leaves) ++ n.predicate.leaves =
      l.predicate.leaves ++ (m.predicate.leaves ++ n.predicate.leaves) := List.append_assoc ..
  simp only [Matcher.orElse, Matcher.ofPredicate, Predicate.leaves] at leaves ⊢
  rw [leaves]

/-! ## Expressions -/

open Expression

/-- The matcher of an expression is a single leaf where the expression still is. -/
theorem is_leaf_build (e : Expression) : e.build.isLeaf = e.isSingle := by
  induction e with
  | lists categories values => rfl
  | either left right => rfl
  | invert inner ih => exact (invert_frame inner.build).1.trans ih
  | star inner ih => exact ih
  | plus inner ih => exact ih
  | caret inner ih => exact ih

/-- A fresh leaf admits what its lists do. -/
theorem accepts_lists (categories : List Category) (values : List Value) (token : Token) :
    (Matcher.ofLists categories values).accepts (some token) = true ↔
      (lists categories values).Admits token := by
  simp [Matcher.ofLists, Matcher.ofPredicate, Matcher.accepts, Predicate.accepts, Predicate.leaves,
    Leaf.accepts, Leaf.admits, Admits, List.isEmpty_iff]

theorem accepts_build (e : Expression) (token : Token) :
    e.build.accepts (some token) = true ↔ e.Admits token := by
  induction e with
  | lists categories values => exact accepts_lists categories values token
  | either left right ihLeft ihRight =>
    rw [build, accepts_or_else, Bool.or_eq_true, ihLeft, ihRight, Admits]
  | invert inner ih =>
    rw [build, accepts_invert, is_leaf_build, Admits]
    split
    · rw [Bool.not_eq_true', Bool.eq_false_iff, ne_eq, ih]
    · exact ih
  | star inner ih => exact ih
  | plus inner ih => exact ih
  | caret inner ih => exact ih

theorem bounds_build (e : Expression) :
    (e.build.least, e.build.most) = e.quantifier.bounds ∧ e.build.caret = e.isMarked := by
  induction e with
  | lists categories values => exact ⟨rfl, rfl⟩
  | either left right => exact ⟨rfl, rfl⟩
  | invert inner ih =>
    obtain ⟨-, least, most, caret⟩ := invert_frame inner.build
    rw [build, least, most, caret]
    exact ih
  | star inner ih => exact ⟨rfl, ih.2⟩
  | plus inner ih =>
    obtain ⟨bounds, marked⟩ := ih
    refine ⟨?_, marked⟩
    have least : inner.build.plus.least = inner.quantifier.bounds.1 := congrArg Prod.fst bounds
    rw [build, quantifier, least]
    cases inner.quantifier <;> rfl
  | caret inner ih => exact ⟨ih.1, rfl⟩

/-- What the matcher of an expression does: it accepts no missing token, of the others exactly those
that the expression means, and takes one, any or some of them, as the expression says. -/
structure Denotes (e : Expression) : Prop where
  missing : e.build.accepts none = false
  admits : ∀ token, e.build.accepts (some token) = true ↔ e.Admits token
  bounds : (e.build.least, e.build.most) = e.quantifier.bounds
  marked : e.build.caret = e.isMarked

/-- An inversion changes nothing behind an alternative. -/
theorem invert_alternative {e : Expression} (alternative : e.isSingle = false) :
    (invert e).build = e.build := by
  rw [← is_leaf_build, Matcher.isLeaf] at alternative
  rw [build, Matcher.invert]
  split
  · next l same =>
    rw [same] at alternative
    cases alternative
  · rfl

/-- Matchers mean what they are written as, however their operators are nested: the flat form of an
expression accepts the tokens that its tree means and has the bounds and the mark of the tree. Named
matchers are written by expressions of their own, an inversion behind an alternative and the bounds
and the mark leave the predicate as it is, and alternatives may be grouped in any way. -/
theorem matchers_denote :
    (∀ e : Expression, Denotes e) ∧
      ((∀ category, (ofCategory category).build = Matcher.ofCategory category) ∧
        (∀ name, (function name).build = Matcher.function name) ∧
        ∀ name, (named name).build = Matcher.named name) ∧
      (∀ e : Expression, (e.isSingle = false → (invert e).build = e.build) ∧
        (star e).build.predicate = e.build.predicate ∧
        (plus e).build.predicate = e.build.predicate ∧
        (caret e).build.predicate = e.build.predicate) ∧
      ∀ a b c : Expression,
        ((a.either b).either c).build = (a.either (b.either c)).build ∧
          ((a.either b).either c).build.same (a.either (b.either c)).build = true := by
  refine ⟨fun e => ?_, ⟨fun _ => rfl, fun _ => rfl, build_named⟩, fun e => ?_, fun a b c => ?_⟩
  · obtain ⟨bounds, marked⟩ := bounds_build e
    exact ⟨accepts_none e.build, accepts_build e, bounds, marked⟩
  · exact ⟨invert_alternative, rfl, rfl, rfl⟩
  · have assoc := or_else_assoc a.build b.build c.build
    refine ⟨assoc, ?_⟩
    simp only [build]
    rw [assoc]
    exact same_matcher _

/-- An inversion that comes too late is dropped: behind an alternative it does not take the numbers
out again. -/
example : (invert (either (ofCategory .numeric) (ofCategory .string))).Admits
    ⟨.numeric, .integer 5, none⟩ := by decide

end FormulaLexer.MatcherDenotation
