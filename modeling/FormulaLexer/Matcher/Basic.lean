import FormulaLexer.Token.Basic

/-!
Matchers of runs of tokens. A matcher has a predicate on single tokens, made of leaves, and
bounds on the length of a run; matching takes as many tokens as the predicate and the bounds
allow. An alternative joins the leaves of both sides and starts again with the bounds of a single
token.
-/

namespace FormulaLexer

/-- A condition on the category and the value of a token. An empty list accepts anything, and an
inverted leaf accepts what the lists do not. -/
structure Leaf where
  categories : List Category
  values : List Value
  inverted : Bool

namespace Leaf

/-- Whether the lists accept a token, without regard to inversion. -/
def admits (leaf : Leaf) (token : Token) : Bool :=
  (leaf.categories.isEmpty || leaf.categories.contains token.category)
    && (leaf.values.isEmpty || leaf.values.any token.value.same)

/-- Whether the leaf accepts a token; it never accepts a missing one. -/
def accepts (leaf : Leaf) : Option Token → Bool
  | none => false
  | some token => leaf.admits token != leaf.inverted

/-- Whether two lists have the same values in the same order. -/
def sameValues : List Value → List Value → Bool
  | [], [] => true
  | v :: vs, w :: ws => v.same w && sameValues vs ws
  | _, _ => false

/-- Whether two leaves have the same lists and are both inverted or both not. -/
def same (a b : Leaf) : Bool :=
  a.categories = b.categories && sameValues a.values b.values && a.inverted = b.inverted

end Leaf

/-- A condition on one token: a leaf, or any of several leaves. -/
inductive Predicate where
  | leaf (l : Leaf)
  | anyOf (ls : List Leaf)

namespace Predicate

/-- The leaves of a predicate. -/
def leaves : Predicate → List Leaf
  | .leaf l => [l]
  | .anyOf ls => ls

/-- Whether the predicate accepts a token; it never accepts a missing one. -/
def accepts (predicate : Predicate) (token : Option Token) : Bool :=
  predicate.leaves.any fun leaf => leaf.accepts token

/-- Whether two lists have the same leaves in the same order. -/
def sameLeaves : List Leaf → List Leaf → Bool
  | [], [] => true
  | a :: as, b :: bs => a.same b && sameLeaves as bs
  | _, _ => false

/-- Whether two predicates are built alike. -/
def same : Predicate → Predicate → Bool
  | .leaf a, .leaf b => a.same b
  | .anyOf as, .anyOf bs => sameLeaves as bs
  | _, _ => false

end Predicate

/-- A predicate with the least and the greatest length of a run, the latter only if there is one.
The caret is a mark that matching ignores. -/
structure Matcher where
  predicate : Predicate
  least : Nat
  most : Option Nat
  caret : Bool

/-- The tokens that a matcher takes, and whether they are enough. -/
structure Matched where
  enough : Bool
  tokens : List Token

namespace Matcher

/-- A matcher of single tokens. -/
def ofPredicate (predicate : Predicate) : Matcher :=
  ⟨predicate, 1, some 1, false⟩

/-- Single tokens with one of the categories and one of the values. -/
def ofLists (categories : List Category) (values : List Value) : Matcher :=
  ofPredicate (.leaf ⟨categories, values, false⟩)

/-- Single tokens of a category. -/
def ofCategory (category : Category) : Matcher :=
  ofLists [category] []

/-- Accepts exactly what the leaf did not accept. An alternative stays as it is. -/
def invert (m : Matcher) : Matcher :=
  match m.predicate with
  | .leaf l => { m with predicate := .leaf { l with inverted := !l.inverted } }
  | .anyOf _ => m

/-- Sets the mark. -/
def withCaret (m : Matcher) : Matcher :=
  { m with caret := true }

/-- Any number of tokens. -/
def star (m : Matcher) : Matcher :=
  { m with least := 0, most := none }

/-- No upper bound; the lower one stays as it is. -/
def plus (m : Matcher) : Matcher :=
  { m with most := none }

/-- Single tokens that either matcher accepts. -/
def orElse (m n : Matcher) : Matcher :=
  ofPredicate (.anyOf (m.predicate.leaves ++ n.predicate.leaves))

/-- Whether the predicate is a single leaf. -/
def isLeaf (m : Matcher) : Bool :=
  match m.predicate with
  | .leaf _ => true
  | .anyOf _ => false

/-- Whether a token satisfies the predicate. -/
def accepts (m : Matcher) (token : Option Token) : Bool :=
  m.predicate.accepts token

/-- Whether two matchers are built alike and have the same bounds and mark. -/
def same (m n : Matcher) : Bool :=
  m.predicate.same n.predicate && m.least = n.least && m.most = n.most && m.caret = n.caret

/-- The longest run of accepted tokens at the front, no longer than `most` if that is given. -/
def takeRun (m : Matcher) : (most : Option Nat) → List Token → List Token
  | some 0, _ => []
  | _, [] => []
  | most, token :: tokens =>
    if m.accepts (some token) then token :: takeRun m (most.map (· - 1)) tokens else []

/-- Takes as many tokens from an offset on as the matcher allows. An offset beyond the end stands
for the end. -/
def matchAt (m : Matcher) (tokens : List Token) (offset : Nat) : Matched :=
  let run := m.takeRun m.most (tokens.drop offset)
  ⟨m.least ≤ run.length, run⟩

end Matcher

end FormulaLexer
