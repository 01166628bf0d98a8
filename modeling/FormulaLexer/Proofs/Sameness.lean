import FormulaLexer.Proofs.DecimalForms
import FormulaLexer.Proofs.GreedyRuns

/-! When values and tokens are the same, and what cannot tell them apart. Values are the same exactly if
they mean the same: a decimal means a number, whatever its scale, a date-time means an instant, whatever
its offset, and every other value means itself. Leaves look at values through their meaning only, and so
do alternatives, runs of tokens and the condition of a negation. -/
namespace FormulaLexer.Sameness
open Number Numerals DecimalForms GreedyRuns

/-- What a value stands for. -/
inductive Meaning where
  | null
  | integer (n : Int)
  | number (q : ℚ)
  | string (text : Text)
  | boolean (b : Bool)
  | instant (seconds : Int) (nanoseconds : Nat)
  | symbol (s : Symbol)

/-- The meaning of a value. -/
def meaning : Value → Meaning
  | .null => .null
  | .integer n => .integer n
  | .decimal d => .number (worth d)
  | .string text => .string text
  | .boolean b => .boolean b
  | .dateTime t => .instant t.seconds t.nanoseconds
  | .symbol s => .symbol s

/-! ## Values and tokens -/

/-- Values are the same exactly if they mean the same. -/
theorem same_iff_meaning (v w : Value) : v.same w = true ↔ meaning v = meaning w := by
  cases v <;> cases w <;>
    simp [Value.same, meaning, same_iff_worth, DateTime.same]

theorem values_equivalence : Equivalence fun v w : Value => v.same w = true where
  refl v := (same_iff_meaning v v).mpr rfl
  symm same := (same_iff_meaning _ _).mpr ((same_iff_meaning _ _).mp same).symm
  trans first second := (same_iff_meaning _ _).mpr
    (((same_iff_meaning _ _).mp first).trans ((same_iff_meaning _ _).mp second))

/-- Tokens are the same if their categories are and their values mean the same. Their texts do not
count. -/
theorem same_token_iff (a b : Token) :
    a.same b = true ↔ a.category = b.category ∧ meaning a.value = meaning b.value := by
  rw [Token.same, Bool.and_eq_true, decide_eq_true_eq, same_iff_meaning]

theorem tokens_equivalence : Equivalence fun a b : Token => a.same b = true where
  refl a := (same_token_iff a a).mpr ⟨rfl, rfl⟩
  symm same := by
    obtain ⟨category, value⟩ := (same_token_iff _ _).mp same
    exact (same_token_iff _ _).mpr ⟨category.symm, value.symm⟩
  trans first second := by
    obtain ⟨category, value⟩ := (same_token_iff _ _).mp first
    obtain ⟨category', value'⟩ := (same_token_iff _ _).mp second
    exact (same_token_iff _ _).mpr ⟨category.trans category', value.trans value'⟩

/-- A value is a symbol if it means one. -/
theorem symbol_iff_meaning (v : Value) (s : Symbol) :
    v.isSymbol s = true ↔ meaning v = .symbol s := by
  cases v <;> simp [Value.isSymbol, Value.symbol?, meaning]

theorem symbol_of_meaning {v w : Value} (same : meaning v = meaning w) (s : Symbol) :
    v.isSymbol s = w.isSymbol s := by
  rw [Bool.eq_iff_iff, symbol_iff_meaning, symbol_iff_meaning, same]

/-! ## Matchers -/

theorem same_values_iff (vs ws : List Value) :
    Leaf.sameValues vs ws = true ↔ vs.map meaning = ws.map meaning := by
  induction vs generalizing ws with
  | nil => cases ws <;> simp [Leaf.sameValues]
  | cons v vs ih =>
    cases ws with
    | nil => simp [Leaf.sameValues]
    | cons w ws => simp [Leaf.sameValues, same_iff_meaning, ih]

/-- A leaf lists a value if it lists the meaning of the value. -/
theorem lists_iff (v : Value) (vs : List Value) :
    vs.any v.same = true ↔ meaning v ∈ vs.map meaning := by
  simp only [List.any_eq_true, same_iff_meaning, List.mem_map]
  exact exists_congr fun w => and_congr_right fun _ => eq_comm

/-- Leaves that are the same admit the same tokens. -/
theorem leaf_respects {k l : Leaf} (leaves : k.same l = true) {s t : Token}
    (tokens : s.same t = true) : k.accepts (some s) = l.accepts (some t) := by
  obtain ⟨category, value⟩ := (same_token_iff s t).mp tokens
  simp only [Leaf.same, Bool.and_eq_true, decide_eq_true_eq, same_values_iff] at leaves
  obtain ⟨⟨categories, values⟩, inverted⟩ := leaves
  have listed : k.values.any s.value.same = l.values.any t.value.same := by
    rw [Bool.eq_iff_iff, lists_iff, lists_iff, value, values]
  have empty : k.values.isEmpty = l.values.isEmpty := by
    rw [← List.isEmpty_map (f := meaning), values, List.isEmpty_map]
  simp only [Leaf.accepts, Leaf.admits, categories, category, listed, empty, inverted]

theorem leaves_respect {ks ls : List Leaf} (leaves : Predicate.sameLeaves ks ls = true)
    {s t : Token} (tokens : s.same t = true) :
    (ks.any fun leaf => leaf.accepts (some s)) = ls.any fun leaf => leaf.accepts (some t) := by
  induction ks generalizing ls with
  | nil =>
    cases ls with
    | nil => rfl
    | cons l ls => cases leaves
  | cons k ks ih =>
    cases ls with
    | nil => cases leaves
    | cons l ls =>
      rw [Predicate.sameLeaves, Bool.and_eq_true] at leaves
      rw [List.any_cons, List.any_cons, leaf_respects leaves.1 tokens, ih leaves.2]

theorem predicate_respects {p q : Predicate} (predicates : p.same q = true) {s t : Token}
    (tokens : s.same t = true) : p.accepts (some s) = q.accepts (some t) := by
  cases p with
  | leaf k =>
    cases q with
    | leaf l => simp only [Predicate.accepts, Predicate.leaves, List.any_cons, List.any_nil,
        leaf_respects predicates tokens]
    | anyOf ls => cases predicates
  | anyOf ks =>
    cases q with
    | leaf l => cases predicates
    | anyOf ls => exact leaves_respect predicates tokens

/-- Matchers that accept the same tokens take runs of the same tokens. -/
theorem take_run_respects {m n : Matcher}
    (accept : ∀ {s t : Token}, s.same t = true → m.accepts (some s) = n.accepts (some t))
    {ss ts : List Token} (tokens : List.Forall₂ (fun s t => s.same t = true) ss ts)
    (most : Option Nat) :
    List.Forall₂ (fun s t => s.same t = true) (m.takeRun most ss) (n.takeRun most ts) := by
  induction tokens generalizing most with
  | nil =>
    rw [take_run_nil, take_run_nil]
    exact .nil
  | @cons s t ss ts same _ ih =>
    by_cases goesOn : (∀ bound ∈ most, 0 < bound) ∧ m.accepts (some s) = true
    · rw [take_run_next ss goesOn.1 goesOn.2,
        take_run_next ts goesOn.1 ((accept same).symm.trans goesOn.2)]
      exact .cons same (ih _)
    · rw [take_run_stop ss goesOn, take_run_stop ts (accept same ▸ goesOn)]
      exact .nil

/-- Matchers that are the same take runs of the same tokens, and find them enough or not alike. -/
theorem match_respects {m n : Matcher} (matchers : m.same n = true) {ss ts : List Token}
    (tokens : List.Forall₂ (fun s t => s.same t = true) ss ts) (offset : Nat) :
    (m.matchAt ss offset).enough = (n.matchAt ts offset).enough ∧
      List.Forall₂ (fun s t => s.same t = true) (m.matchAt ss offset).tokens
        (n.matchAt ts offset).tokens := by
  simp only [Matcher.same, Bool.and_eq_true, decide_eq_true_eq] at matchers
  obtain ⟨⟨⟨predicates, least⟩, most⟩, -⟩ := matchers
  have runs := take_run_respects (m := m) (n := n) (predicate_respects predicates)
    (List.forall₂_drop offset tokens) m.most
  simp only [Matcher.matchAt, ← least, ← most, runs.length_eq, true_and]
  exact runs

/-! ## Negations -/

/-- Whether a minus sign is a negation depends on the meaning of the token in front of it only. -/
theorem negation_respects (keepCase : Bool) (zone : LocalZone) {s t : Token}
    (same : s.same t = true) :
    (BuiltIn.negate.scanner keepCase zone).accepts (some s) =
      (BuiltIn.negate.scanner keepCase zone).accepts (some t) := by
  obtain ⟨category, value⟩ := (same_token_iff s t).mp same
  have opens : BuiltIn.opensOperand (some s) = BuiltIn.opensOperand (some t) := by
    simp only [BuiltIn.opensOperand, Option.all_some, category, symbol_of_meaning value]
  exact opens

/-- Being the same is an equivalence of values and of tokens. Decimals are the same as numbers and
date-times as instants, no decimal is an integer, and of a token the source text does not count. Neither
the runs of matchers nor the condition of a negation can tell apart what is the same. -/
theorem matching_respects_same :
    ((∀ c d : Decimal, (Value.decimal c).same (.decimal d) = true ↔ worth c = worth d) ∧
      (∀ t u : DateTime, (Value.dateTime t).same (.dateTime u) = true ↔
        t.seconds = u.seconds ∧ t.nanoseconds = u.nanoseconds) ∧
      ∀ (d : Decimal) (n : Int), (Value.decimal d).same (.integer n) = false) ∧
    (Equivalence fun v w : Value => v.same w = true) ∧
    (∀ a b : Token, a.same b = true ↔ a.category = b.category ∧ a.value.same b.value = true) ∧
    (Equivalence fun a b : Token => a.same b = true) ∧
    (∀ m n : Matcher, m.same n = true → ∀ ss ts : List Token,
      List.Forall₂ (fun s t => s.same t = true) ss ts → ∀ offset,
        (m.matchAt ss offset).enough = (n.matchAt ts offset).enough ∧
          (m.matchAt ss offset).tokens.length = (n.matchAt ts offset).tokens.length) ∧
    ∀ (keepCase : Bool) (zone : LocalZone) (previous other : Option Token),
      Option.Rel (fun s t => s.same t = true) previous other →
        (BuiltIn.negate.scanner keepCase zone).accepts previous =
          (BuiltIn.negate.scanner keepCase zone).accepts other := by
  refine ⟨⟨same_iff_worth, fun t u => ?_, fun _ _ => rfl⟩, values_equivalence, fun a b => ?_,
    tokens_equivalence, fun m n matchers ss ts tokens offset => ?_,
    fun keepCase zone previous other same => ?_⟩
  · rw [same_iff_meaning, meaning, meaning, Meaning.instant.injEq]
  · rw [same_token_iff, same_iff_meaning]
  · obtain ⟨enough, runs⟩ := match_respects matchers tokens offset
    exact ⟨enough, runs.length_eq⟩
  · cases same with
    | none => rfl
    | some same => exact negation_respects keepCase zone same

/-- A matcher for a price finds the price with another scale, behind another spelling of it. -/
theorem price_respected :
    let price (unscaled scale : Int) : Value := .decimal ⟨unscaled, scale⟩
    let tokens (v : Value) (raw : Text) : List Token := [⟨.numeric, v, some raw⟩]
    ((Matcher.ofLists [.numeric] [price 150 2]).matchAt (tokens (price 15 1) "1.5".toList) 0).enough =
      ((Matcher.ofLists [.numeric] [price 15 1]).matchAt
        (tokens (price 1500 3) "1.500".toList) 0).enough := by
  intro price tokens
  have alike : List.Forall₂ (fun s t : Token => s.same t = true)
      (tokens (price 15 1) "1.5".toList) (tokens (price 1500 3) "1.500".toList) :=
    .cons (by decide) .nil
  exact (matching_respects_same.2.2.2.2.1 _ _ (by decide) _ _ alike 0).1

end FormulaLexer.Sameness
