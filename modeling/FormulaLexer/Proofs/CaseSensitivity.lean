import FormulaLexer.Proofs.Coverage
import FormulaLexer.Proofs.Lockstep
import FormulaLexer.Proofs.Resources

/-! What the preference about case decides. A run that keeps the case of identifiers and one that
does not are in lockstep: the two converters of identifiers are the only ones that differ, and no
condition, no group and no error depends on the name of an identifier. -/
namespace FormulaLexer.CaseSensitivity
open Lockstep Coverage

/-- A token of the run that keeps case, and the token of the other run at the same place. They
carry the same text, and differ in nothing but the names of identifiers. -/
structure CaseApart (kept lowered : Token) : Prop where
  category : kept.category = lowered.category
  raw : kept.raw = lowered.raw
  present : kept.raw.isSome = true
  value : kept.category ≠ .identifier → kept.value = lowered.value
  name : kept.category = .identifier →
    ∃ name, kept.value = .string name ∧ lowered.value = .string (Unicode.lowerCase name)

theorem CaseApart.refl {token : Token} (present : token.raw.isSome = true)
    (other : token.category ≠ .identifier) : CaseApart token token :=
  ⟨rfl, rfl, present, fun _ => rfl, fun same => absurd same other⟩

theorem CaseApart.symbol {kept lowered : Token} (apart : CaseApart kept lowered) (s : Symbol) :
    kept.value.isSymbol s = lowered.value.isSymbol s := by
  by_cases identifier : kept.category = .identifier
  · obtain ⟨name, value, lower⟩ := apart.name identifier
    rw [value, lower]
    rfl
  · rw [apart.value identifier]

theorem CaseApart.misaligned {kept lowered : Token} (apart : CaseApart kept lowered) :
    misaligned kept = misaligned lowered := by
  obtain ⟨raw, same⟩ := Option.isSome_iff_exists.mp apart.present
  rw [FormulaLexer.misaligned, FormulaLexer.misaligned, Token.write, Token.write, ← apart.category,
    ← apart.raw, same]
  rfl

theorem same_texts {u v : Text} (texts : List.Forall₂ Eq u v) : u = v := by
  rwa [List.forall₂_eq_eq_eq] at texts

/-- Runs over the same input that may differ in the names of identifiers. -/
def apart : Likeness where
  char := Eq
  token := CaseApart
  refusal := Eq
  error := Eq
  char_size same := same ▸ rfl
  char_newline same := same ▸ Iff.rfl
  token_category := CaseApart.category
  token_size apart := by rw [Token.text, Token.text, apart.raw]
  token_symbol := CaseApart.symbol
  error_refl _ := rfl
  unmatched _ texts := by rw [same_texts texts]
  refused _ texts same := by rw [same_texts texts, same]
  misfit _ texts apart := by rw [same_texts texts, apart.misaligned]

/-- What the two runs make of a match. -/
theorem converts_apart (zone : LocalZone) (builtIn : BuiltIn) (raw : Text) :
    apart.Conversions builtIn.category raw raw (builtIn.convert true zone raw)
      (builtIn.convert false zone raw) := by
  by_cases identifier : builtIn = .identifier
  · subst identifier
    exact .value ⟨rfl, rfl, rfl, fun other => absurd rfl other, fun _ => ⟨raw.trim, rfl, rfl⟩⟩
  have same : builtIn.convert false zone = builtIn.convert true zone := by
    cases builtIn <;> first | rfl | exact absurd rfl identifier
  have other : builtIn.category ≠ .identifier := by
    cases builtIn <;> first | decide | exact absurd rfl identifier
  rw [same]
  by_cases function : builtIn = .function
  · subst function
    exact .tokens (.cons (.refl rfl (by simp)) (.cons (.refl rfl (by simp)) .nil))
  · cases converts : builtIn.convert true zone raw with
    | error message => exact .refused rfl
    | ok conversion =>
      obtain ⟨v, rfl⟩ := convert_value function converts
      exact .value (.refl rfl other)

theorem scanners_apart (zone : LocalZone) :
    Alike apart (.builtIn true zone) (.builtIn false zone) := by
  refine built_in_alike fun builtIn u v texts => ?_
  cases same_texts texts
  cases builtIn.expression.route.find? u with
  | none => exact .none
  | some part => exact .some (converts_apart zone builtIn part.text)

/-- Whether identifiers keep their case decides about nothing but their names. The two runs are
rejected with the same error, or they are accepted with the same metrics and with tokens that have
the same categories and texts one by one, and the same values unless they are identifiers, of which
the names are lower-cased; or the input is too long for the counters of its positions. -/
theorem run_case_apart (preferences : LexicalPreferences) (zone : LocalZone) (input : Text) :
    let kept := (Tokenizer.ofPreferences { preferences with caseSensitive := true } zone).run input
    let lowered :=
      (Tokenizer.ofPreferences { preferences with caseSensitive := false } zone).run input
    (∃ e, kept = .rejected e ∧ lowered = .rejected e) ∨
      (∃ tokens names metrics, kept = .accepted tokens metrics ∧ lowered = .accepted names metrics ∧
        List.Forall₂ CaseApart tokens names) ∨
      (kept = .overflowed ∧ lowered = .overflowed ∧ Position.counterBound ≤ input.length + 1) := by
  intro kept lowered
  have same : apart.Texts input input := List.forall₂_same.mpr fun _ _ => rfl
  have runs : OutcomeLike apart kept lowered := run_like (scanners_apart zone) same
  have long : kept = .overflowed → Position.counterBound ≤ input.length + 1 :=
    Resources.long_of_overflowed
  generalize kept = outcome, lowered = outcome' at runs long ⊢
  cases runs with
  | rejected same => exact .inl ⟨_, rfl, same ▸ rfl⟩
  | accepted metrics alike => exact .inr (.inl ⟨_, _, metrics, rfl, rfl, alike⟩)
  | overflowed => exact .inr (.inr ⟨rfl, rfl, long rfl⟩)

example :
    let tokens (name : Text) : List Token := [⟨.identifier, .string name, some "Name".toList⟩]
    (trace (.builtIn true) "Name".toList).produced.map PlacedToken.token = tokens "Name".toList ∧
      (trace (.builtIn false) "Name".toList).produced.map PlacedToken.token =
        tokens "name".toList := by
  decide +kernel

end FormulaLexer.CaseSensitivity
