import FormulaLexer.Proofs.Lexemes
import FormulaLexer.Proofs.Unmatched

/-! Minus signs by what stands in front of them. Both scanners of a minus sign match the same text,
no other scanner matches it, and the one for negations is tried first, so that its condition on the
last significant token decides alone. That token is the last one that the run returns in front of the
sign, whatever blanks stand in between. -/
namespace FormulaLexer.OperandPlaces
open Steps LoopSteps Ways Spelling BuiltInMatches Coverage Rescan Unmatched Lexemes

/-- The places at which an operand has to begin: the start, and those behind an operator, behind a
symbol that opens a group or a case statement, and behind one that separates arguments. -/
inductive OperandDue : Option Token → Prop where
  | start : OperandDue none
  | arithmetic {token : Token} (operator : token.category = .arithmeticOperator) :
      OperandDue (some token)
  | comparison {token : Token} (operator : token.category = .comparisonOperator) :
      OperandDue (some token)
  | boolean {token : Token} (operator : token.category = .booleanOperator) :
      OperandDue (some token)
  | opening {token : Token} (opens : token.value = .symbol .opening) : OperandDue (some token)
  | comma {token : Token} (separates : token.value = .symbol .comma) : OperandDue (some token)

theorem is_symbol_iff {v : Value} {s : Symbol} : v.isSymbol s = true ↔ v = .symbol s := by
  cases v <;> simp [Value.isSymbol, Value.symbol?]

theorem is_operator_iff {category : Category} : category.isOperator = true ↔
    category = .arithmeticOperator ∨ category = .comparisonOperator ∨ category = .booleanOperator := by
  cases category <;> simp [Category.isOperator]

/-- The condition of negations tells where an operand has to begin. -/
theorem opens_operand_iff (previous : Option Token) :
    BuiltIn.opensOperand previous = true ↔ OperandDue previous := by
  cases previous with
  | none => exact ⟨fun _ => .start, fun _ => rfl⟩
  | some token =>
    simp only [BuiltIn.opensOperand, Option.all_some, Bool.or_eq_true, is_operator_iff,
      is_symbol_iff]
    constructor
    · rintro (((operator | operator | operator) | opens) | separates)
      · exact .arithmetic operator
      · exact .comparison operator
      · exact .boolean operator
      · exact .opening opens
      · exact .comma separates
    · intro due
      cases due with
      | arithmetic operator => simp [operator]
      | comparison operator => simp [operator]
      | boolean operator => simp [operator]
      | opening opens => simp [opens]
      | comma separates => simp [separates]

/-- What a minus sign behind a significant token is: a negation where an operand has to begin, and a
subtraction everywhere else. -/
structure ReadBehind (previous : Option Token) (sign : Token) : Prop where
  category : sign.category = .arithmeticOperator
  negates : OperandDue previous → sign.value = .symbol .negate
  subtracts : ¬ OperandDue previous → sign.value = .symbol .subtract

/-! ## One step -/

/-- A scanner that makes tokens of a text has accepted the last significant token. -/
theorem accepts_of_scanned {scanner : Scanner} {remaining : Text} {previous : Option Token}
    {tokens : List Token} (scanned : scanner.scan remaining previous = .ok (some tokens)) :
    scanner.accepts previous = true := by
  refine Bool.of_not_eq_false fun refused => ?_
  rw [scan_none_iff.mpr (.inr refused)] at scanned
  cases scanned

/-- A scanner of negations that passes a minus sign by has refused the last significant token. -/
theorem not_due_of_passed {keepCase : Bool} {zone : LocalZone} {back : Text}
    {previous : Option Token}
    (passed : (BuiltIn.negate.scanner keepCase zone).scan ('-' :: back) previous = .ok none) :
    ¬ OperandDue previous := by
  have minus : Spells BuiltIn.negate.expression.route ['-'] := by decide +kernel
  have matches' := front_way (by decide) minus back
  rcases scan_none_iff.mp passed with nothing | refused
  · exact absurd (find_none_iff.mp nothing) matches'
  · intro due
    have accepts : (BuiltIn.negate.scanner keepCase zone).accepts previous = true :=
      (opens_operand_iff previous).mpr due
    rw [refused] at accepts
    cases accepts

/-- A minus sign is made by the scanner of negations or by that of arithmetic operators. -/
theorem minus_made {keepCase : Bool} {zone : LocalZone} {remaining : Text} {builtIn : BuiltIn}
    {tokens : List Token}
    (made : Made keepCase zone remaining builtIn tokens) {sign : Token} (listed : sign ∈ tokens)
    (minus : sign.raw = some ['-']) :
    (∃ back, remaining = '-' :: back) ∧ tokens = [sign] ∧ sign.category = .arithmeticOperator ∧
      (builtIn = .negate ∧ sign.value = .symbol .negate ∨
        builtIn = .arithmeticOperator ∧ sign.value = .symbol .subtract) := by
  cases made with
  | @value _ front back v _ whole way converts =>
    obtain rfl := List.mem_singleton.mp listed
    obtain rfl : front = ['-'] := Option.some.inj minus
    have begins : builtIn ∈ beginning '-' := by
      have all : builtIn ∈ BuiltIn.all := by cases builtIn <;> decide
      obtain ⟨set, first, holds⟩ := spells_firsts way.spells (c := '-') rfl
      exact List.mem_filter.mpr ⟨all, List.any_eq_true.mpr ⟨set, first, holds⟩⟩
    obtain ⟨-, -, -, -, signs⟩ := sign_beginnings
    rw [signs, List.mem_cons, List.mem_singleton] at begins
    refine ⟨⟨back, whole⟩, rfl, ?_⟩
    rcases begins with rfl | rfl
    · cases converts
      exact ⟨rfl, .inl ⟨rfl, rfl⟩⟩
    · cases converts
      exact ⟨rfl, .inr ⟨rfl, rfl⟩⟩
  | @head name back _ _ way =>
    simp only [functionHead, List.mem_cons, List.not_mem_nil, or_false] at listed
    rcases listed with rfl | rfl
    · obtain rfl : name = ['-'] := Option.some.inj minus
      exact (not_begins way.spells (by decide +kernel)).elim
    · exact absurd minus (by decide)

/-- The first scanner that takes a minus sign reads it by the last significant token. -/
theorem minus_read {keepCase : Bool} {zone : LocalZone} {remaining : Text} {previous : Option Token}
    {winner : ScannerEntry} {attempts : Nat} {tokens : List Token}
    (first : First (ScannerSet.builtIn keepCase zone).entries remaining previous winner attempts)
    (scanned : winner.scanner.scan remaining previous = .ok (some tokens)) {sign : Token}
    (listed : sign ∈ tokens) (minus : sign.raw = some ['-']) :
    tokens = [sign] ∧ ReadBehind previous sign := by
  obtain ⟨front, others, split, -, passes⟩ := first.split
  obtain ⟨builtIn, rfl, earlier⟩ := split_before split
  obtain ⟨⟨back, rfl⟩, single, category, ⟨rfl, negates⟩ | ⟨rfl, subtracts⟩⟩ :=
    minus_made (scan_made scanned) listed minus
  · have due : OperandDue previous := (opens_operand_iff previous).mp (accepts_of_scanned scanned)
    exact ⟨single, category, fun _ => negates, fun other => absurd due other⟩
  · have rival : entryOf keepCase zone .negate ∈ front := by
      rw [earlier]
      exact List.mem_map_of_mem (by decide)
    have other : ¬ OperandDue previous := not_due_of_passed (passes _ rival)
    exact ⟨single, category, fun due => absurd due other, fun _ => subtracts⟩

/-! ## The whole run -/

/-- The last significant token is the last of those returned, if there is one. -/
theorem behind_eq (previous : Option Token) (tokens : List Token) :
    Lexemes.behind previous tokens = ((tokens.filter significant).getLast?).or previous := by
  induction tokens generalizing previous with
  | nil => rfl
  | cons token tokens ih =>
    rw [Lexemes.behind, List.foldl_cons, ← Lexemes.behind, ih]
    by_cases blank : token.category = .whitespace
    · simp [significant, blank]
    · simp [significant, blank, List.getLast?_cons]

/-- Each minus sign among the lexemes of a text is read by the significant token in front of it. -/
theorem lexes_read {keepCase : Bool} {zone : LocalZone} {previous : Option Token} {text : Text}
    {lexemes : List Lexeme} (lexes : Lexes (.builtIn keepCase zone) previous text lexemes)
    {front back : List Token} {sign : Token}
    (split : (lexemes.flatMap Lexeme.tokens).filter significant = front ++ sign :: back)
    (minus : sign.raw = some ['-']) : ReadBehind (front.getLast?.or previous) sign := by
  induction lexes generalizing front with
  | done => simp at split
  | @more previous winner attempts tokens rest others first scanned filled later ih =>
    rw [List.flatMap_cons, List.filter_append] at split
    rcases List.append_eq_append_iff.mp split with ⟨inner, rfl, further⟩ | ⟨inner, own, further⟩
    · -- the sign is not among the tokens of the first lexeme, all of which stand in front of it
      have read := ih further
      rwa [behind_eq, ← Option.or_assoc, ← List.getLast?_append] at read
    · cases inner with
      | nil =>
        have read := @ih [] further.symm
        rw [List.append_nil] at own
        rwa [behind_eq, own] at read
      | cons token inner =>
        obtain ⟨rfl, -⟩ := List.cons.inj further
        have listed : sign ∈ tokens.filter significant := by simp [own]
        obtain ⟨rfl, read⟩ := minus_read first scanned (List.mem_filter.mp listed).1 minus
        have alone : front = [] := by
          rw [List.filter_cons_of_pos (List.mem_filter.mp listed).2] at own
          cases front with
          | nil => rfl
          | cons token front => simp at own
        rwa [alone]

/-- The tokens that an accepted run returns are the significant ones of its lexemes. -/
theorem returned_lexemes {t : Tokenizer} {input : Text} {tokens : List Token} {metrics : Metrics}
    (accepted : t.run input = .accepted tokens metrics) :
    tokens = (((trace t.scanners input).steps.map lexeme).flatMap Lexeme.tokens).filter
      significant := by
  have verdict := LoopAgreement.run_verdict t.scanners input
  rw [show (trace t.scanners input).outcome = _ from accepted] at verdict
  rw [accepted_tokens verdict, LoopAgreement.run_produced accepted, Trace.produced, List.map_flatMap,
    List.flatMap_map]
  rfl

/-- Wherever a run of the standard scanners returns a minus sign, the token returned right before it
decides what the sign is: at the start, behind an operator, behind an opening and behind a comma it
is a negation, and otherwise a subtraction. -/
theorem run_reads_minus (preferences : LexicalPreferences) (zone : LocalZone) (input : Text)
    (tokens : List Token) (metrics : Metrics)
    (accepted : (Tokenizer.ofPreferences preferences zone).run input = .accepted tokens metrics)
    (front back : List Token) (sign : Token) (split : tokens = front ++ sign :: back)
    (minus : sign.raw = some ['-']) : ReadBehind front.getLast? sign := by
  have lexes := lexes_of_complete (built_in_own preferences.caseSensitive zone).covering input none
    .start (complete_of_accepted accepted)
  rw [returned_lexemes accepted] at split
  have read := lexes_read lexes split minus
  rwa [Option.or_none] at read

/-- Behind the parenthesis of a call a minus sign negates, also with blanks in between, and behind a
number it subtracts. -/
theorem call_reads_minus :
    let opening : List Token := [⟨.function, .symbol (.named "max"), some "max".toList⟩,
      ⟨.grouping, .symbol .opening, some ['(']⟩]
    let negation : Token := ⟨.arithmeticOperator, .symbol .negate, some ['-']⟩
    let number : Token := ⟨.numeric, .integer 1, some ['1']⟩
    ReadBehind opening.getLast? negation ∧
      ReadBehind (opening ++ [negation, number]).getLast?
        ⟨.arithmeticOperator, .symbol .subtract, some ['-']⟩ := by
  intro opening negation number
  have accepted : (Tokenizer.ofPreferences .builtIn).run "max( -1 - 1)".toList = .accepted
      (opening ++ [negation, number, ⟨.arithmeticOperator, .symbol .subtract, some ['-']⟩, number,
        ⟨.grouping, .symbol .closing, some [')']⟩])
      ⟨7, 3, [("arithmetic_operator".toList, 2), ("function".toList, 1), ("grouping".toList, 2),
        ("numeric".toList, 2)], 1, 59⟩ := by
    decide +kernel
  exact ⟨run_reads_minus .builtIn .utc _ _ _ accepted opening _ negation rfl rfl,
    run_reads_minus .builtIn .utc _ _ _ accepted (opening ++ [negation, number]) _ _ rfl rfl⟩

end FormulaLexer.OperandPlaces
