import FormulaLexer.Proofs.BuiltInMatches
import FormulaLexer.Proofs.PatternNesting

/-! Where a scanner finds its text. The pattern of a scanner is put into parentheses behind the start of
the text, so that a match should lie at the front of what is left. Without a bar outside of these
parentheses every match does. But a pattern may close the parentheses itself and go on with a bar: what
stands behind that bar is an alternative to the start of the text, and is found anywhere. -/
namespace FormulaLexer.MatchPlaces
open Pattern PatternNesting BuiltInMatches

/-! ## What is handed over -/

/-- The text that a scanner hands to its converter, unless its pattern finds nothing or its condition
refuses. -/
def handed? (scanner : Scanner) (remaining : Text) (previous : Option Token) : Option Text :=
  if scanner.accepts previous then (scanner.route.find? remaining).map Route.Match.text else none

/-- What a scanner makes of the text that it hands to its converter. -/
def converted (scanner : Scanner) (raw : Text) : Except ConversionError (List Token) :=
  match scanner.convert raw with
  | .ok (.value v) => .ok [⟨scanner.category, v, some raw⟩]
  | .ok (.tokens tokens) => .ok tokens
  | .error message => .error ⟨scanner.category, raw, message⟩

/-- A scan depends on the remaining text through what is handed over only. -/
theorem scan_handed (scanner : Scanner) (remaining : Text) (previous : Option Token) :
    scanner.scan remaining previous =
      match handed? scanner remaining previous with
      | none => .ok none
      | some raw => (converted scanner raw).map some := by
  rw [Scanner.scan, handed?]
  cases scanner.route.find? remaining with
  | none => simp
  | some found =>
    by_cases accepts : scanner.accepts previous = true
    · simp only [accepts, if_true, Option.map_some, converted]
      cases scanner.convert found.text with
      | error message => rfl
      | ok conversion => cases conversion <;> rfl
    · simp [accepts]

theorem handed_found {scanner : Scanner} {remaining raw : Text} {previous : Option Token}
    (handed : handed? scanner remaining previous = some raw) :
    ∃ found, scanner.expression.route.find? remaining = some found ∧ found.text = raw := by
  rw [handed?, ← scanner.expands] at handed
  split at handed
  · exact Option.map_eq_some_iff.mp handed
  · cases handed

/-! ## Where it was found -/

/-- What is found from a place on is a part of the text behind that place. -/
theorem found_part_from {route : Route} {passed : Nat} {before : Option Char} {text : Text}
    {found : Route.Match} (finds : route.findFrom passed before text = some found) :
    found.text <:+: text := by
  induction text generalizing passed before with
  | nil =>
    obtain ⟨length, -, rfl⟩ := Option.map_eq_some_iff.mp finds
    exact List.infix_rfl
  | cons c rest ih =>
    rw [Route.findFrom] at finds
    split at finds
    · next length _ =>
      cases finds
      exact (List.take_prefix length (c :: rest)).isInfix
    · exact (ih finds).trans (List.suffix_cons c rest).isInfix

theorem found_part {route : Route} {text : Text} {found : Route.Match}
    (finds : route.find? text = some found) : found.text <:+: text := by
  rw [Route.find?] at finds
  split at finds
  · obtain ⟨length, -, rfl⟩ := Option.map_eq_some_iff.mp finds
    exact (List.take_prefix length text).isInfix
  · exact found_part_from finds

/-- What is handed over is a part of the text, and what the scanner yields is made of it. It lies at the
front if no bar stands outside of the parentheses, and so if the pattern can be read on its own. -/
theorem handed_text_leads (scanner : Scanner) (remaining : Text) (previous : Option Token)
    (raw : Text) (handed : handed? scanner remaining previous = some raw) :
    scanner.scan remaining previous = (converted scanner raw).map some ∧
      raw <:+: remaining ∧
      (parted scanner.pattern = false → raw <+: remaining) ∧
      (∀ alone, Pattern.read true scanner.pattern = .ok alone → raw <+: remaining) := by
  obtain ⟨found, finds, rfl⟩ := handed_found handed
  have front : parted scanner.pattern = false → found.text <+: remaining := by
    intro whole
    obtain ⟨back, split⟩ := found_front (whole_anchored whole scanner.reads) finds
    exact ⟨back, split.symm⟩
  refine ⟨?_, found_part finds, front, fun alone reads => front (whole_of_alone reads)⟩
  rw [scan_handed, handed]

/-! ## Patterns that close the parentheses -/

/-- The pattern closes the parentheses and opens others. -/
def twoGroups : Scanner where
  category := .identifier
  pattern := "a)(?:b".toList
  expression := (Pattern.readAnchored "a)(?:b".toList).toOption.getD .empty
  route := ((Pattern.readAnchored "a)(?:b".toList).toOption.getD .empty).route
  convert := Scanner.keepText
  condition := none
  reads := by rfl
  expands := rfl

theorem two_groups_lead :
    handed? twoGroups "abx".toList none = some "ab".toList ∧ parted twoGroups.pattern = false ∧
      "ab".toList <+: "abx".toList := by
  have handed : handed? twoGroups "abx".toList none = some "ab".toList := by decide +kernel
  have whole : parted twoGroups.pattern = false := by decide +kernel
  exact ⟨handed, whole, (handed_text_leads twoGroups _ none _ handed).2.2.1 whole⟩

/-- The pattern closes the parentheses, and a bar stands in front of the others that it opens. -/
def twoBranches : Scanner where
  category := .identifier
  pattern := "a)|(?:b".toList
  expression := (Pattern.readAnchored "a)|(?:b".toList).toOption.getD .empty
  route := ((Pattern.readAnchored "a)|(?:b".toList).toOption.getD .empty).route
  convert := Scanner.keepText
  condition := none
  reads := by rfl
  expands := rfl

/-- Behind the bar the start of the text is not asked for. -/
theorem parted_pattern_strays :
    ¬ ∀ (scanner : Scanner) (remaining : Text) (previous : Option Token) (raw : Text),
      handed? scanner remaining previous = some raw → raw <+: remaining := by
  intro leads
  have handed : handed? twoBranches "xb".toList none = some "b".toList := by decide +kernel
  have front : "b".toList <+: "xb".toList := leads twoBranches _ none _ handed
  revert front
  decide

end FormulaLexer.MatchPlaces
