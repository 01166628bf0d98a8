import FormulaLexer.Proofs.Gaps
import FormulaLexer.Proofs.NumberLiterals
import FormulaLexer.Proofs.Vocabulary

/-! The tables of keywords and operators against the patterns in front of them. A pattern matches up to
case folding, and a table is looked up in lower case. The two agree on every text of every table but
one: the long s folds to an s and is its own lower-case form, so that the keywords of the case
statement with a long s in them are matched and not found. -/
namespace FormulaLexer.KeywordTables
open Unicode Ways Spelling Letters BuiltInMatches Coverage Rescan Keywords Gaps NumberLiterals

/-- The texts that begin with a keyword of the case statement, as a whole word with a long s. -/
inductive LongSpelled : Text → Prop where
  | keyword {word rest : Text} (folds : word.map fold = "case".toList ∨ word.map fold = "else".toList)
      (long : 'ſ' ∈ word) (ends : ∀ c ∈ rest.head?, isWord c = false) : LongSpelled (word ++ rest)

/-! ## Texts that fold to a word -/

/-- All texts that fold to a word. -/
def spellings : Text → List Text
  | [] => [[]]
  | letter :: word =>
    (letter :: (foldingShifts.preimages letter.toNat).map Char.ofNat).flatMap fun c =>
      (spellings word).map fun text => c :: text

theorem mem_spellings (text : Text) : text ∈ spellings (text.map fold) := by
  induction text with
  | nil => exact List.mem_singleton_self _
  | cons c text ih =>
    rw [List.map_cons, spellings, List.mem_flatMap]
    exact ⟨c, mem_case_variants c, List.mem_map_of_mem ih⟩

/-- Whether a conversion succeeds on every text that folds to one of some words. -/
def covers (convert : Converter) (words : List Text) : Bool :=
  words.all fun word => (spellings word).all fun text => (convert text).isOk

theorem converts_of_covers {convert : Converter} {words : List Text}
    (covered : covers convert words = true) {text : Text} (listed : text.map fold ∈ words) :
    (convert text).isOk = true :=
  List.all_eq_true.mp (List.all_eq_true.mp covered _ listed) _ (mem_spellings text)

/-- A conversion that covers the words of a pattern succeeds on whatever is matched. -/
theorem tabled_converts {builtIn : BuiltIn} {convert : Converter}
    (covered : (words? builtIn.expression.route).any (covers convert) = true) {raw : Text}
    (spells : Spells builtIn.expression.route raw) : (convert raw).isOk = true := by
  obtain ⟨words, lists, covered⟩ := (Option.any_eq_true _ _).mp covered
  exact converts_of_covers covered ((spells_iff_listed lists raw).mp spells)

/-! ## Operators -/

theorem operator_converts {keepCase : Bool} {zone : LocalZone} {raw : Text}
    (spells : Spells BuiltIn.booleanOperator.expression.route raw) :
    (BuiltIn.booleanOperator.convert keepCase zone raw).isOk = true := by
  obtain ⟨words, free, lists, shape⟩ := operator_shape
  obtain ⟨word, blanks, rfl, named, gap⟩ := (shape raw).mp spells
  have covered : covers (fun text => BuiltIn.lookUp "boolean operator" BuiltIn.booleanOperators
      (lowerCase text)) connectives = true := by
    decide +kernel
  have found := converts_of_covers covered ((spells_iff_listed lists word).mp named)
  rwa [← Vocabulary.trim_behind (spells_blank_free free named) gap.blank] at found

/-- Apart from dates, which may not exist, and numbers, whose exponents may be too large, all scanners
but that of the case statement convert whatever they match. -/
theorem converts {builtIn : BuiltIn} (date : builtIn ≠ .dateTime) (number : builtIn ≠ .numeric)
    (other : builtIn ≠ .caseStatement) {keepCase : Bool} {zone : LocalZone} {raw : Text}
    (spells : Spells builtIn.expression.route raw) :
    (builtIn.convert keepCase zone raw).isOk = true := by
  cases builtIn with
  | dateTime => exact absurd rfl date
  | numeric => exact absurd rfl number
  | caseStatement => exact absurd rfl other
  | booleanOperator => exact operator_converts spells
  | arithmeticOperator | grouping | access | comparisonOperator =>
    rw [BuiltIn.convert]
    exact tabled_converts (by decide +kernel) spells
  | hexadecimal =>
    obtain ⟨mark, digits, valid, rfl⟩ := hexadecimal_shape spells
    rw [BuiltIn.convert, Literal.text, read_hexadecimal valid.2]
    rfl
  | _ => rfl

/-! ## The long s -/

/-- A keyword of the case statement is found unless it has a long s in it. -/
theorem case_keyword_converts_iff {keepCase : Bool} {zone : LocalZone} {word : Text}
    (keyword : word.map fold ∈ keywords .caseStatement) :
    (BuiltIn.caseStatement.convert keepCase zone word).isOk = true ↔ 'ſ' ∉ word := by
  have table : (keywords .caseStatement).all (fun word => (spellings word).all fun text =>
      (BuiltIn.lookUp "case keyword" BuiltIn.caseKeywords (lowerCase text)).isOk =
        !text.contains 'ſ') = true := by
    decide +kernel
  have agree := List.all_eq_true.mp (List.all_eq_true.mp table _ keyword) _ (mem_spellings word)
  rw [decide_eq_true_eq] at agree
  rw [show BuiltIn.caseStatement.convert keepCase zone word =
    BuiltIn.lookUp "case keyword" BuiltIn.caseKeywords (lowerCase word) from rfl, agree]
  simp

/-- A scan fails where its pattern matches, its condition holds and the conversion fails. -/
theorem scan_fails_iff {builtIn : BuiltIn} {keepCase : Bool} {zone : LocalZone} {remaining : Text}
    {previous : Option Token} :
    (∃ e, (builtIn.scanner keepCase zone).scan remaining previous = .error e) ↔
      (builtIn.scanner keepCase zone).accepts previous = true ∧ ∃ front back,
        remaining = front ++ back ∧ Matches builtIn front back ∧
          (builtIn.convert keepCase zone front).isOk = false := by
  constructor
  · rintro ⟨e, failed⟩
    cases finds : builtIn.expression.route.find? remaining with
    | none =>
      rw [scan_none_iff.mpr (.inl finds)] at failed
      cases failed
    | some found =>
      obtain ⟨back, whole, way⟩ := found_matches finds
      cases accepts : (builtIn.scanner keepCase zone).accepts previous with
      | false =>
        rw [scan_none_iff.mpr (.inr accepts)] at failed
        cases failed
      | true =>
        refine ⟨rfl, _, back, whole, way, ?_⟩
        rw [whole, scan_converts way accepts] at failed
        split at failed
        · cases failed
        · cases failed
        · next fails => rw [fails]; rfl
  · rintro ⟨accepts, front, back, rfl, way, fails⟩
    rw [scan_converts way accepts]
    cases converted : builtIn.convert keepCase zone front with
    | ok c =>
      rw [converted] at fails
      cases fails
    | error message => exact ⟨_, rfl⟩

/-- Apart from those of dates and numbers, the scanner of the case statement is the only one that ever
fails to convert what it has matched, and it does so exactly at its keywords with a long s. -/
theorem conversion_fails_iff (keepCase : Bool) (zone : LocalZone) (builtIn : BuiltIn)
    (date : builtIn ≠ .dateTime) (number : builtIn ≠ .numeric) (remaining : Text)
    (previous : Option Token) :
    (∃ e, (builtIn.scanner keepCase zone).scan remaining previous = .error e) ↔
      builtIn = .caseStatement ∧ LongSpelled remaining := by
  rw [scan_fails_iff]
  constructor
  · rintro ⟨-, front, back, rfl, way, fails⟩
    by_cases other : builtIn = .caseStatement
    · subst other
      obtain ⟨keyword, ends⟩ := (keyword_matches_iff (by decide)).mp way
      have long : 'ſ' ∈ front := by
        by_contra short
        rw [(case_keyword_converts_iff keyword).mpr short] at fails
        cases fails
      refine ⟨rfl, .keyword ?_ long ends⟩
      -- only these two of the keywords have an s in them
      have folded : 's' ∈ front.map fold := List.mem_map.mpr ⟨'ſ', long, by decide +kernel⟩
      have letters : ∀ word ∈ keywords .caseStatement, 's' ∈ word →
          word = "case".toList ∨ word = "else".toList := by decide
      exact letters _ keyword folded
    · rw [converts date number other way.spells] at fails
      cases fails
  · rintro ⟨rfl, long⟩
    obtain @⟨word, rest, folds, long, ends⟩ := long
    have keyword : word.map fold ∈ keywords .caseStatement := by
      rcases folds with same | same <;> (rw [same]; decide)
    refine ⟨rfl, word, rest, rfl, (keyword_matches_iff (by decide)).mpr ⟨keyword, ends⟩, ?_⟩
    exact Bool.eq_false_iff.mpr fun found => (case_keyword_converts_iff keyword).mp found long

/-- The keyword that opens a case statement, with a long s. -/
theorem long_case_fails :
    ∃ e, (BuiltIn.caseStatement.scanner false).scan "caſe".toList none = .error e := by
  have long : LongSpelled ("caſe".toList ++ []) :=
    .keyword (.inl (by decide +kernel)) (by decide) (by simp)
  exact (conversion_fails_iff false .utc .caseStatement (by decide) (by decide) _ none).mpr
    ⟨rfl, long⟩

/-- Not every text that these scanners match is converted. -/
theorem tables_incomplete :
    ¬ ∀ (keepCase : Bool) (builtIn : BuiltIn), builtIn ≠ .dateTime → builtIn ≠ .numeric →
      ∀ (remaining : Text) (previous : Option Token),
        ((builtIn.scanner keepCase).scan remaining previous).isOk = true := by
  intro complete
  have converted := complete false .caseStatement (by decide) (by decide) "caſe".toList none
  exact absurd converted (by decide +kernel)

end FormulaLexer.KeywordTables
