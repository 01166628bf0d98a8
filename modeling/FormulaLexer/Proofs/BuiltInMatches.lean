import FormulaLexer.Scanner.BuiltIn
import FormulaLexer.Proofs.Letters
import FormulaLexer.Proofs.SearchAgreement
import FormulaLexer.Proofs.Spelling

/-! What the built-in patterns match. All of them are tried at the start of a text only, repeat
nothing that can be empty, and match at least one character, so that a match is the part of the
text up to the end of the preferred way. -/
namespace FormulaLexer.BuiltInMatches
open Ways Spelling Letters SearchAgreement

theorem route_shape (builtIn : BuiltIn) :
    builtIn.expression.route.isAnchored = true ∧ productive builtIn.expression.route = true ∧
      nullable builtIn.expression.route = false := by
  cases builtIn <;> decide +kernel

/-- A route that is tried at the start of a text only finds a part at its front. -/
theorem found_front {route : Route} {text : Text} {found : Route.Match}
    (anchored : route.isAnchored = true) (finds : route.find? text = some found) :
    ∃ back, text = found.text ++ back := by
  rw [Route.find?, if_pos anchored] at finds
  obtain ⟨length, -, rfl⟩ := Option.map_eq_some_iff.mp finds
  exact ⟨text.drop length, (List.take_append_drop length text).symm⟩

/-- The preferred way of a built-in pattern through a text, by the part that it matches. -/
def Matches (builtIn : BuiltIn) (front back : Text) : Prop :=
  (ways builtIn.expression.route ⟨none, front ++ back⟩).head? = some ⟨lastOf none front, back⟩

/-- A built-in pattern finds what its preferred way consumes. -/
theorem found_matches {builtIn : BuiltIn} {text : Text} {found : Route.Match}
    (finds : builtIn.expression.route.find? text = some found) :
    ∃ back, text = found.text ++ back ∧ Matches builtIn found.text back := by
  rw [find_eq (route_shape builtIn).1 (route_shape builtIn).2.1] at finds
  obtain ⟨⟨before, back⟩, first, rfl⟩ := Option.map_eq_some_iff.mp finds
  obtain ⟨taken, ⟨whole, last⟩, -⟩ := ways_spell (List.mem_of_head? first)
  dsimp only at whole last
  subst whole last
  exact ⟨back, by simp, by simpa [Matches] using first⟩

/-- Where a built-in pattern has a preferred way, it finds what the way consumes. -/
theorem Matches.found {builtIn : BuiltIn} {front back : Text} (way : Matches builtIn front back) :
    builtIn.expression.route.find? (front ++ back) = some ⟨0, front⟩ := by
  rw [find_eq (route_shape builtIn).1 (route_shape builtIn).2.1, way]
  simp

theorem Matches.spells {builtIn : BuiltIn} {front back : Text} (way : Matches builtIn front back) :
    Spells builtIn.expression.route front := by
  obtain ⟨taken, ⟨whole, -⟩, spells⟩ := ways_spell (List.mem_of_head? way)
  rw [List.append_cancel_right whole]
  exact spells

/-- A match is not empty. -/
theorem Matches.filled {builtIn : BuiltIn} {front back : Text} (way : Matches builtIn front back) :
    front ≠ [] := by
  intro empty
  have shape := (route_shape builtIn).2.2
  rw [nullable_of_spells way.spells empty] at shape
  cases shape

/-! ## Blanks and function heads -/

theorem spells_blank {route : Route} (only : ∀ set ∈ sets route, set = .blank) {text : Text}
    (spells : Spells route text) : ∀ c ∈ text, Unicode.isBlank c = true := by
  intro c member
  obtain ⟨set, listed, holds⟩ := spells_sets spells c member
  rw [only set listed] at holds
  exact holds

theorem whitespace_blank {text : Text} (spells : Spells BuiltIn.whitespace.expression.route text) :
    ∀ c ∈ text, Unicode.isBlank c = true := by
  have only : sets BuiltIn.whitespace.expression.route = [.blank, .blank] := rfl
  exact spells_blank (by simp [only]) spells

/-- A function head is a name with an opening parenthesis behind it. -/
theorem function_head {text : Text} (spells : Spells BuiltIn.function.expression.route text) :
    ∃ name, text = name ++ ['('] ∧ name ≠ [] := by
  have filled : text ≠ [] := by
    rintro rfl
    have shape := nullable_of_spells spells rfl
    cases shape
  obtain ⟨name, last, rfl⟩ : ∃ name last, text = name ++ [last] :=
    ⟨text.dropLast, text.getLast filled, (List.dropLast_concat_getLast filled).symm⟩
  obtain ⟨set, listed, holds⟩ := spells_lasts spells (c := last) (by simp)
  have only : lasts BuiltIn.function.expression.route = [.ignoringCase (.single '(')] := rfl
  rw [only, List.mem_singleton] at listed
  subst listed
  have code : last.toNat ∈ [0x28] := codes_contains (by decide +kernel) holds
  obtain rfl : last = '(' := Char.toNat_inj.mp (List.mem_singleton.mp code)
  refine ⟨name, rfl, ?_⟩
  rintro rfl
  have mark : Spells BuiltIn.function.expression.route ['('] := spells
  exact not_begins mark (by decide +kernel)

end FormulaLexer.BuiltInMatches
