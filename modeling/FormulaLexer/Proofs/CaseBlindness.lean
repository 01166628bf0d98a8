import FormulaLexer.Proofs.Coverage
import FormulaLexer.Proofs.LetterCaseValues
import FormulaLexer.Proofs.Resources

/-! Runs over twins. Two inputs that are the same up to the case of ASCII letters take the standard
scanners, when these do not keep the case of identifiers, through the same steps: each pattern
matches them alike, and each converter reads the same in both or refuses both. What differs is the
case of the texts that are kept, and the wording of a refusal that quotes them. -/
namespace FormulaLexer.CaseBlindness
open Text Lockstep LetterCase LetterCaseValues Coverage

/-- Tokens of two inputs. They have the same category and value and texts that are the same up to
case; of strings the values are the same up to case, too. -/
structure TokenTwin (token other : Token) : Prop where
  category : token.category = other.category
  raw : token.raw.map lowerAscii = other.raw.map lowerAscii
  value : token.category ≠ .string → token.value = other.value
  text : token.category = .string → ∃ text twin, token.value = .string text ∧
    other.value = .string twin ∧ lowerAscii text = lowerAscii twin

/-- Errors of two inputs: they have the same reason and the same position, or the same number of
groups left open. -/
structure ErrorTwin (e other : TokenizerError) : Prop where
  reason : e.reason = other.reason
  position : e.position? = other.position?
  unclosed : ∀ groups, e = .tooManyOpening groups ↔ other = .tooManyOpening groups

theorem TokenTwin.size {token other : Token} (twin : TokenTwin token other) :
    byteSize token.text = byteSize other.text := by
  have same := twin.raw
  rw [Token.text, Token.text]
  cases raw : token.raw with
  | none =>
    rw [raw, Option.map_none, eq_comm, Option.map_eq_none_iff] at same
    rw [same]
  | some text =>
    rw [raw, Option.map_some, eq_comm, Option.map_eq_some_iff] at same
    obtain ⟨text', raw', same⟩ := same
    rw [raw']
    exact Twins.size (twins_iff.mpr same.symm)

theorem TokenTwin.symbol {token other : Token} (twin : TokenTwin token other) (s : Symbol) :
    token.value.isSymbol s = other.value.isSymbol s := by
  by_cases string : token.category = .string
  · obtain ⟨text, text', value, value', -⟩ := twin.text string
    rw [value, value']
    rfl
  · rw [twin.value string]

/-- A token with a value that does not come from the case of its text. -/
theorem TokenTwin.same {category : Category} (other : category ≠ .string) (v : Value) {raw raw' : Text}
    (twins : Twins raw raw') : TokenTwin ⟨category, v, some raw⟩ ⟨category, v, some raw'⟩ :=
  ⟨rfl, congrArg some (twins_iff.mp twins), fun _ => rfl, fun string => absurd string other⟩

theorem TokenTwin.string {text text' raw raw' : Text} (inner : Twins text text')
    (twins : Twins raw raw') :
    TokenTwin ⟨.string, .string text, some raw⟩ ⟨.string, .string text', some raw'⟩ :=
  ⟨rfl, congrArg some (twins_iff.mp twins), fun other => absurd rfl other,
    fun _ => ⟨text, text', rfl, rfl, twins_iff.mp inner⟩⟩

theorem ErrorTwin.refl (e : TokenizerError) : ErrorTwin e e := ⟨rfl, rfl, fun _ => Iff.rfl⟩

theorem ErrorTwin.parse (u v : Text) (position : Position) (detail detail' : Option Text) :
    ErrorTwin (.parseAt u position detail) (.parseAt v position detail') :=
  ⟨rfl, rfl, fun _ => ⟨nofun, nofun⟩⟩

/-- Runs over inputs that are the same up to case. -/
def blind : Likeness where
  char := Twin
  token := TokenTwin
  refusal _ _ := True
  error := ErrorTwin
  char_size := Twin.size
  char_newline := Twin.newline
  token_category := TokenTwin.category
  token_size := TokenTwin.size
  token_symbol := TokenTwin.symbol
  error_refl := .refl
  unmatched _ _ := .parse ..
  refused _ _ _ := .parse ..
  misfit _ _ _ := .parse ..

/-- The text between two quotes, or what a text without quotes leaves of itself. -/
theorem unquote_twins {u v : Text} (twins : Twins u v) :
    Twins (BuiltIn.unquote u) (BuiltIn.unquote v) := by
  have inner := List.forall₂_drop 1 twins
  rw [BuiltIn.unquote, BuiltIn.unquote, List.dropLast_eq_take, List.dropLast_eq_take, inner.length_eq]
  exact List.forall₂_take _ inner

theorem function_head_twins {u v : Text} (twins : Twins u v) :
    blind.Conversions .function u v (BuiltIn.toFunctionHead u) (BuiltIn.toFunctionHead v) := by
  have mark : u.getLast? = some '(' ↔ v.getLast? = some '(' := twins.last (by decide)
  have name : Twins (if u.getLast? = some '(' then u.dropLast else u)
      (if v.getLast? = some '(' then v.dropLast else v) := by
    rw [if_congr mark rfl rfl]
    split
    · rw [List.dropLast_eq_take, List.dropLast_eq_take, twins.length_eq]
      exact List.forall₂_take _ twins
    · exact twins
  have lowered := lower_case_twins name.trim
  rw [BuiltIn.toFunctionHead, BuiltIn.toFunctionHead, lowered]
  exact .tokens (.cons (.same (by simp) _ name) (.cons (.same (by simp) _ (.refl _)) .nil))

/-- What the converter of a standard scanner makes of twins. -/
theorem converts_blind (zone : LocalZone) (builtIn : BuiltIn) {u v : Text} (twins : Twins u v) :
    blind.Conversions builtIn.category u v (builtIn.convert false zone u)
      (builtIn.convert false zone v) := by
  by_cases string : builtIn.category = .string
  · cases builtIn with
    | doubleQuotedString => exact .value (.string (unquote_twins twins) twins)
    | singleQuotedString => exact .value (.string (unquote_twins twins) twins)
    | _ => cases string
  by_cases function : builtIn = .function
  · subst function
    exact function_head_twins twins
  have agree := convert_twins string function twins zone
  have values : ∀ conversion, builtIn.convert false zone u = .ok conversion →
      ∃ v, conversion = .value v :=
    fun _ => convert_value function
  generalize builtIn.convert false zone u = made, builtIn.convert false zone v = made'
    at agree values ⊢
  cases agree with
  | error _ => exact .refused trivial
  | ok same =>
    subst same
    obtain ⟨value, rfl⟩ := values _ rfl
    exact .value (.same string value twins)

theorem scanners_blind (zone : LocalZone) :
    Alike blind (.builtIn false zone) (.builtIn false zone) := by
  refine built_in_alike fun builtIn u v twins => ?_
  have found := found_twins builtIn twins
  generalize builtIn.expression.route.find? u = part, builtIn.expression.route.find? v = part'
    at found ⊢
  cases found with
  | none => exact .none
  | some twins => exact .some (converts_blind zone builtIn twins)

/-- The case of ASCII letters makes no difference to a run that does not keep the case of
identifiers. Two inputs that are the same when their ASCII letters are lower-cased are rejected for
the same reason and at the same position, or with as many groups left open, or they are accepted
with the same metrics and with tokens that have the same categories one by one, texts that are the
same up to case, and the same values but for strings, whose values are the same up to case; or the
inputs are too long for the counters of their positions. -/
theorem run_case_blind (preferences : LexicalPreferences) (zone : LocalZone) (u v : Text)
    (same : lowerAscii u = lowerAscii v) :
    let first := (Tokenizer.ofPreferences { preferences with caseSensitive := false } zone).run u
    let second := (Tokenizer.ofPreferences { preferences with caseSensitive := false } zone).run v
    (∃ e other, first = .rejected e ∧ second = .rejected other ∧ ErrorTwin e other) ∨
      (∃ tokens others metrics, first = .accepted tokens metrics ∧
        second = .accepted others metrics ∧ List.Forall₂ TokenTwin tokens others) ∨
      (first = .overflowed ∧ second = .overflowed ∧ Position.counterBound ≤ u.length + 1) := by
  intro first second
  have texts : blind.Texts u v := twins_iff.mpr same
  have runs : OutcomeLike blind first second := run_like (scanners_blind zone) texts
  have long : first = .overflowed → Position.counterBound ≤ u.length + 1 :=
    Resources.long_of_overflowed
  generalize first = outcome, second = outcome' at runs long ⊢
  cases runs with
  | rejected twin => exact .inl ⟨_, _, rfl, rfl, twin⟩
  | accepted metrics twins => exact .inr (.inl ⟨_, _, metrics, rfl, rfl, twins⟩)
  | overflowed => exact .inr (.inr ⟨rfl, rfl, long rfl⟩)

/-- A name, a keyword, a number in hexadecimal, and a comparison in front of a string. -/
theorem keywords_case_blind :
    lowerAscii "Name And 0XaF <> 'Ab'".toList = lowerAscii "nAME aND 0xAf <> 'aB'".toList ∧
      ∃ tokens others metrics,
        (Tokenizer.ofPreferences .builtIn).run "Name And 0XaF <> 'Ab'".toList =
          .accepted tokens metrics ∧
        (Tokenizer.ofPreferences .builtIn).run "nAME aND 0xAf <> 'aB'".toList =
          .accepted others metrics ∧
        List.Forall₂ TokenTwin tokens others := by
  have same : lowerAscii "Name And 0XaF <> 'Ab'".toList = lowerAscii "nAME aND 0xAf <> 'aB'".toList := by
    decide
  have ends : (match (Tokenizer.ofPreferences .builtIn).run "Name And 0XaF <> 'Ab'".toList with
      | .accepted _ _ => true
      | _ => false) = true := by decide +kernel
  refine ⟨same, ?_⟩
  obtain ⟨e, _, rejected, -⟩ | accepted | ⟨overflowed, -⟩ :=
    run_case_blind .builtIn .utc _ _ same
  · rw [show (Tokenizer.ofPreferences .builtIn).run _ = _ from rejected] at ends
    cases ends
  · exact accepted
  · rw [show (Tokenizer.ofPreferences .builtIn).run _ = _ from overflowed] at ends
    cases ends

end FormulaLexer.CaseBlindness
