import Mathlib.Algebra.Ring.Int.Defs
import FormulaLexer.Proofs.LoopSteps

/-! Bracket checking on lists of tokens. The depth behind a list of tokens is the sum of their
weights, and tokens nest well when no part at the front of them has a negative depth. Blanks have
no weight, so that it is the same to check the tokens of a run before or after they are dropped. -/
namespace FormulaLexer.Nesting
open LoopSteps

/-- What a token adds to the depth: one for an opening and minus one for a closing mark. Only
tokens of the grouping category have a weight. -/
def weight (token : Token) : Int :=
  match token.category, token.value with
  | .grouping, .symbol s => if s = .opening then 1 else if s = .closing then -1 else 0
  | _, _ => 0

/-- The depth behind tokens. -/
def depth (tokens : List Token) : Int := (tokens.map weight).sum

/-- At no place more groups have been closed than opened. -/
def NeverNegative (tokens : List Token) : Prop := ∀ front, front <+: tokens → 0 ≤ depth front

/-- The deepest place among the tokens. -/
structure Peak (tokens : List Token) (deepest : Nat) : Prop where
  attained : ∃ front, front <+: tokens ∧ depth front = deepest
  bound : ∀ front, front <+: tokens → depth front ≤ deepest

@[simp] theorem depth_nil : depth [] = 0 := rfl

@[simp] theorem depth_append (front back : List Token) :
    depth (front ++ back) = depth front + depth back := by
  simp [depth]

@[simp] theorem depth_singleton (token : Token) : depth [token] = weight token := by
  simp [depth]

/-! ## Weights -/

theorem weight_cases (token : Token) :
    (weight token = 1 ∧ token.isGrouping .opening = true) ∨
    (weight token = -1 ∧ token.isGrouping .opening = false ∧ token.isGrouping .closing = true) ∨
    (weight token = 0 ∧ token.isGrouping .opening = false ∧ token.isGrouping .closing = false) := by
  obtain ⟨category, value, raw⟩ := token
  by_cases grouping : category = .grouping
  · subst grouping
    cases value with
    | symbol s =>
      by_cases opens : s = .opening
      · subst opens
        exact .inl ⟨rfl, rfl⟩
      · by_cases closes : s = .closing
        · subst closes
          exact .inr (.inl ⟨rfl, rfl, rfl⟩)
        · refine .inr (.inr ?_)
          simp [weight, Token.isGrouping, Value.isSymbol, Value.symbol?, opens, closes]
    | _ => exact .inr (.inr ⟨rfl, rfl, rfl⟩)
  · refine .inr (.inr ⟨?_, ?_, ?_⟩)
    · unfold weight
      split
      · exact absurd ‹_› grouping
      · rfl
    · simp [Token.isGrouping, grouping]
    · simp [Token.isGrouping, grouping]

theorem weight_eq_zero {token : Token} (other : token.category ≠ .grouping) :
    weight token = 0 := by
  rcases weight_cases token with ⟨-, opens⟩ | ⟨-, -, closes⟩ | ⟨none, -, -⟩
  · simp [Token.isGrouping, other] at opens
  · simp [Token.isGrouping, other] at closes
  · exact none

/-! ## Longer lists -/

theorem NeverNegative.snoc {tokens : List Token} {token : Token} (nests : NeverNegative tokens)
    (level : 0 ≤ depth (tokens ++ [token])) : NeverNegative (tokens ++ [token]) := by
  intro front part
  rcases List.prefix_concat_iff.mp part with rfl | inner
  · exact level
  · exact nests front inner

theorem Peak.snoc {tokens : List Token} {token : Token} {deepest level : Nat}
    (peak : Peak tokens deepest) (reached : depth (tokens ++ [token]) = level) :
    Peak (tokens ++ [token]) (max deepest level) := by
  constructor
  · rcases Nat.le_total deepest level with higher | lower
    · exact ⟨_, List.prefix_rfl, by omega⟩
    · obtain ⟨front, part, attained⟩ := peak.attained
      exact ⟨front, part.trans (List.prefix_append _ _), by omega⟩
  · intro front part
    rcases List.prefix_concat_iff.mp part with rfl | inner
    · omega
    · have bound := peak.bound front inner
      omega

theorem Peak.unique {tokens : List Token} {deepest other : Nat} (peak : Peak tokens deepest)
    (same : Peak tokens other) : deepest = other := by
  obtain ⟨front, part, attained⟩ := peak.attained
  obtain ⟨front', part', attained'⟩ := same.attained
  have bound := same.bound front part
  have bound' := peak.bound front' part'
  omega

/-! ## Dropping blanks -/

theorem depth_significant (tokens : List Token) : depth (tokens.filter significant) = depth tokens := by
  induction tokens with
  | nil => rfl
  | cons token tokens ih =>
    rw [← List.singleton_append, List.filter_append, depth_append, depth_append, ih]
    by_cases kept : significant token
    · simp [kept]
    · have blank : token.category = .whitespace := by simpa [significant] using kept
      have none : weight token = 0 := weight_eq_zero (by simp [blank])
      simp [kept, none]

/-- The parts at the front of the significant tokens have the depths of those of all tokens. -/
theorem front_depths (tokens : List Token) (P : Int → Prop) :
    (∀ front, front <+: tokens.filter significant → P (depth front)) ↔
      ∀ front, front <+: tokens → P (depth front) := by
  constructor
  · intro holds front part
    rw [← depth_significant]
    exact holds _ (part.filter _)
  · intro holds front part
    obtain ⟨whole, inner, rfl⟩ := List.prefix_filter_iff.mp part
    rw [depth_significant]
    exact holds whole inner

theorem never_negative_significant {tokens : List Token} :
    NeverNegative (tokens.filter significant) ↔ NeverNegative tokens :=
  front_depths tokens (0 ≤ ·)

theorem peak_significant {tokens : List Token} {deepest : Nat} (peak : Peak tokens deepest) :
    Peak (tokens.filter significant) deepest := by
  obtain ⟨front, part, attained⟩ := peak.attained
  refine ⟨⟨front.filter significant, part.filter _, ?_⟩, ?_⟩
  · rw [depth_significant, attained]
  · exact (front_depths tokens (· ≤ (deepest : Int))).mpr peak.bound

/-! ## The first mark without a partner -/

/-- Tokens that close a group which nothing opened, for the first time at `position`. -/
def Unmatched (produced : List PlacedToken) (position : Position) : Prop :=
  ∃ front item back, produced = front ++ item :: back ∧
    NeverNegative (front.map PlacedToken.token) ∧
    depth ((front ++ [item]).map PlacedToken.token) = -1 ∧ item.start = position

theorem Unmatched.more {produced longer : List PlacedToken} {position : Position}
    (unmatched : Unmatched produced position) (part : produced <+: longer) :
    Unmatched longer position := by
  obtain ⟨front, item, back, rfl, nests, closes, start⟩ := unmatched
  obtain ⟨more, rfl⟩ := part
  exact ⟨front, item, back ++ more, by simp, nests, closes, start⟩

theorem Unmatched.not_never_negative {produced : List PlacedToken} {position : Position}
    (unmatched : Unmatched produced position) :
    ¬ NeverNegative (produced.map PlacedToken.token) := by
  obtain ⟨front, item, back, rfl, -, closes, -⟩ := unmatched
  intro nests
  have level := nests ((front ++ [item]).map PlacedToken.token) ⟨back.map PlacedToken.token, by simp⟩
  omega

/-- No part that nests well goes beyond a mark without a partner. -/
theorem nesting_part_short {front front' back back' : List PlacedToken} {item : PlacedToken}
    (whole : front ++ item :: back = front' ++ back')
    (nests : NeverNegative (front'.map PlacedToken.token))
    (closes : depth ((front ++ [item]).map PlacedToken.token) = -1) :
    front'.length ≤ front.length := by
  refine Nat.le_of_not_lt fun longer => ?_
  have inner : (front ++ [item]) <+: front' := by
    have shorter : (front ++ [item]) <+: (front ++ item :: back) := ⟨back, by simp⟩
    refine List.prefix_of_prefix_length_le shorter ⟨back', whole.symm⟩ ?_
    simp only [List.length_append, List.length_cons, List.length_nil]
    omega
  have level := nests _ (inner.map PlacedToken.token)
  omega

/-- There is only one first mark without a partner. -/
theorem Unmatched.unique {produced : List PlacedToken} {position other : Position}
    (unmatched : Unmatched produced position) (same : Unmatched produced other) :
    position = other := by
  obtain ⟨front, item, back, rfl, nests, closes, rfl⟩ := unmatched
  obtain ⟨front', item', back', whole, nests', closes', rfl⟩ := same
  have length : front.length = front'.length :=
    Nat.le_antisymm (nesting_part_short whole.symm nests closes')
      (nesting_part_short whole nests' closes)
  obtain ⟨rfl, rest⟩ := List.append_inj whole length
  cases rest
  rfl

end FormulaLexer.Nesting
