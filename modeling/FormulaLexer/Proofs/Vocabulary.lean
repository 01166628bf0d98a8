import FormulaLexer.Proofs.ErrorPlaces
import FormulaLexer.Proofs.Unmatched

/-! The tokens that built-in scanners return. Whatever the order and the number of the scanners,
each category has values of its own kind, and categories of scanners that are not built in never
appear. The value is decided by the category and the text of the token, but for the minus sign,
which is a negation or a subtraction by what stands in front of it. -/
namespace FormulaLexer.Vocabulary
open TextCuts Steps LoopSteps Ways Spelling Letters ReaderExtension BuiltInMatches Coverage
  ErrorPlaces Rescan Unmatched

/-- The names of the symbols of a category. The symbols of functions are not listed. -/
def names : Category → List String
  | .arithmeticOperator =>
    ["negate", "add", "subtract", "multiply", "divide", "mod", "pow", "bitor", "bitand"]
  | .booleanOperator => ["and", "or"]
  | .comparisonOperator => ["lt", "le", "gt", "ge", "eq", "ne"]
  | .grouping => ["open", "close", "comma"]
  | .access => ["lbracket", "rbracket"]
  | .caseStatement => ["open", "close", "then", "when", "else"]
  | _ => []

/-- The tokens of the language. A number is an integer below the bound unless its text has a point
or is too large for one, and no number is negative; a string stands between two quotes; the symbol of
a function and the name of an identifier are their texts up to case. -/
inductive Known : Token → Prop where
  | null {raw : Text} : Known ⟨.null, .null, some raw⟩
  | dateTime {raw : Text} {t : DateTime} : Known ⟨.dateTime, .dateTime t, some raw⟩
  | integer {raw : Text} {n : Nat} (bound : n ≤ 2 ^ 63 - 1) (whole : '.' ∉ raw) :
      Known ⟨.numeric, .integer n, some raw⟩
  | decimal {raw : Text} {d : Number.Decimal} (nonnegative : 0 ≤ d.unscaled)
      (needed : '.' ∈ raw ∨ ∃ n : Nat, 2 ^ 63 - 1 < n ∧ d = .ofInt n) :
      Known ⟨.numeric, .decimal d, some raw⟩
  | string {quote : Char} {inner : Text} (kind : quote = '"' ∨ quote = '\'') :
      Known ⟨.string, .string inner, some (quote :: (inner ++ [quote]))⟩
  | symbol {category : Category} {name : String} {raw : Text} (listed : name ∈ names category) :
      Known ⟨category, .symbol (.named name), some raw⟩
  | boolean {raw : Text} {b : Bool} : Known ⟨.boolean, .boolean b, some raw⟩
  | function {raw : Text} :
      Known ⟨.function, .symbol ⟨Unicode.lowerCase raw.trim⟩, some raw⟩
  | identifier {raw name : Text} (spelled : name = raw ∨ name = Unicode.lowerCase raw) :
      Known ⟨.identifier, .string name, some raw⟩

/-! ## Where tokens come from -/

/-- Where a token of built-in scanners comes from: it is the value of a text that a pattern spells,
the name of a function, or the parenthesis behind that. -/
inductive Origin (keepCase : Bool) (zone : LocalZone) : Token → Prop where
  | converted {builtIn : BuiltIn} {raw : Text} {v : Value} (other : builtIn ≠ .function)
      (spells : Spells builtIn.expression.route raw)
      (converts : builtIn.convert keepCase zone raw = .ok (.value v)) :
      Origin keepCase zone ⟨builtIn.category, v, some raw⟩
  | name {raw : Text} :
      Origin keepCase zone ⟨.function, .symbol ⟨Unicode.lowerCase raw.trim⟩, some raw⟩
  | opening : Origin keepCase zone ⟨.grouping, .symbol .opening, some ['(']⟩

theorem origin_of_made {keepCase : Bool} {zone : LocalZone} {remaining : Text} {builtIn : BuiltIn}
    {tokens : List Token}
    (made : Made keepCase zone remaining builtIn tokens) {token : Token} (listed : token ∈ tokens) :
    Origin keepCase zone token := by
  cases made with
  | value other whole way converts =>
    rw [List.mem_singleton.mp listed]
    exact .converted other way.spells converts
  | head filled whole way =>
    simp only [functionHead, List.mem_cons, List.not_mem_nil, or_false] at listed
    rcases listed with rfl | rfl
    · exact .name
    · exact .opening

/-- A token that a run to the end of its input has produced was made by a scanner of the set. -/
theorem produced_scanned {set : ScannerSet} {input : Text}
    (complete : (trace set input).ending = .complete) {item : PlacedToken}
    (produced : item ∈ (trace set input).produced) : ∃ entry ∈ set.entries,
      ∃ remaining previous made, entry.scanner.scan remaining previous = .ok (some made) ∧
        item.token ∈ made := by
  obtain ⟨step, taken, member⟩ := List.mem_flatMap.mp produced
  obtain ⟨remaining, previous, position, further, -, passed, same⟩ := steps_passed complete step taken
  obtain ⟨winner, attempts, made, first, scanned, rfl, -⟩ := step_scanned same
  exact ⟨winner, first.mem, remaining, previous, made, scanned, (mem_place member).1⟩

/-- A token that a run returns was made by a scanner of the set, and is no blank. -/
theorem returned_scanned {t : Tokenizer} {input : Text} {tokens : List Token} {metrics : Metrics}
    (accepted : t.run input = .accepted tokens metrics) {token : Token} (returned : token ∈ tokens) :
    significant token = true ∧ ∃ entry ∈ t.scanners.entries, ∃ remaining previous made,
      entry.scanner.scan remaining previous = .ok (some made) ∧ token ∈ made := by
  have verdict := LoopAgreement.run_verdict t.scanners input
  rw [show (trace t.scanners input).outcome = _ from accepted] at verdict
  rw [accepted_tokens verdict, LoopAgreement.run_produced accepted] at returned
  obtain ⟨listed, visible⟩ := List.mem_filter.mp returned
  obtain ⟨item, produced, rfl⟩ := List.mem_map.mp listed
  exact ⟨visible, produced_scanned (complete_of_accepted accepted) produced⟩

/-! ## Numbers -/

/-- A number is an integer, or a decimal beyond the bound of integers. -/
theorem known_number {raw : Text} (n : Nat) (whole : '.' ∉ raw) :
    Known ⟨.numeric, BuiltIn.numberValue n, some raw⟩ := by
  rw [BuiltIn.numberValue]
  split
  · next bound => exact .integer bound whole
  · next beyond => exact .decimal (Int.natCast_nonneg n) (.inr ⟨n, Nat.lt_of_not_le beyond, rfl⟩)

theorem join_at_point_head {c : Char} (rest : Text) (point : c ≠ '.') :
    ∃ behind, (Number.Decimal.joinAtPoint (c :: rest)).1 = c :: behind := by
  rw [Number.Decimal.joinAtPoint]
  split
  · exact ⟨rest, rfl⟩
  · exact ⟨_, by rw [List.takeWhile_cons_of_pos (by simpa using point)]; rfl⟩

theorem read_unscaled_nonnegative {c : Char} {rest : Text} (sign : c ≠ '-') {n : Int}
    (reads : Number.Decimal.readUnscaled (c :: rest) = .ok n) : 0 ≤ n := by
  have positive : ∀ digits : Text, (do
      let size ← Number.readUnbounded 10 digits
      return (size : Int)) = Except.ok n → 0 ≤ n := by
    intro digits reads
    obtain ⟨size, -, same⟩ := bind_ok reads
    cases same
    exact Int.natCast_nonneg size
  rw [Number.Decimal.readUnscaled.eq_def] at reads
  split at reads
  · next same => exact absurd (List.cons.inj same).1 sign
  · exact positive _ reads
  · exact positive _ reads

/-- Digits without a sign in front write no negative number. -/
theorem read_nonnegative {c : Char} {rest : Text} (sign : c ≠ '-') (point : c ≠ '.')
    {d : Number.Decimal} (reads : Number.Decimal.read (c :: rest) = .ok d) : 0 ≤ d.unscaled := by
  rw [Number.Decimal.read] at reads
  obtain ⟨⟨base, exponent⟩, split, reads⟩ := bind_ok reads
  -- the digits are what stands in front of the exponent, so they begin with the same character
  have begins : base = [] ∨ ∃ digits, base = c :: digits := by
    rw [Number.Decimal.splitExponent] at split
    split at split
    · cases split
      exact .inr ⟨rest, rfl⟩
    · split at split
      · cases split
        rw [List.takeWhile_cons]
        split
        · exact .inr ⟨_, rfl⟩
        · exact .inl rfl
      · cases split
  rcases begins with rfl | ⟨digits, rfl⟩
  · cases reads
  obtain ⟨behind, joined⟩ := join_at_point_head digits point
  simp only [List.isEmpty_cons, Bool.false_eq_true, if_false, joined] at reads
  split at reads
  · cases reads
  · split at reads
    · next unscaled digitsRead =>
      cases reads
      exact read_unscaled_nonnegative sign digitsRead
    · cases reads

theorem numeric_head {c : Char} {rest : Text}
    (spells : Spells BuiltIn.numeric.expression.route (c :: rest)) : c ≠ '-' := by
  rintro rfl
  exact not_begins spells (by decide +kernel)

/-- A literal with a point is a decimal that is not negative. -/
theorem known_decimal {raw : Text} {v : Value} (spells : Spells BuiltIn.numeric.expression.route raw)
    (point : '.' ∈ raw) (converts : BuiltIn.toDecimal raw = .ok (.value v)) :
    Known ⟨.numeric, v, some raw⟩ := by
  rw [BuiltIn.toDecimal] at converts
  split at converts
  · next d reads =>
    cases converts
    refine .decimal ?_ (.inl point)
    obtain ⟨c, rest, rfl⟩ := List.exists_cons_of_ne_nil (List.ne_nil_of_mem point)
    rw [List.head?_cons] at reads
    split at reads
    · exact read_nonnegative (by decide) (by decide) reads
    · next other => exact read_nonnegative (numeric_head spells) (by simpa using other) reads
  · cases converts

theorem known_numeric {raw : Text} {v : Value} (spells : Spells BuiltIn.numeric.expression.route raw)
    (converts : BuiltIn.toNumber raw = .ok (.value v)) : Known ⟨.numeric, v, some raw⟩ := by
  rw [BuiltIn.toNumber] at converts
  split at converts
  · next point => exact known_decimal spells (by simpa using point) converts
  · next whole =>
    rw [BuiltIn.toWhole] at converts
    split at converts
    · cases converts
      exact known_number _ (by simpa using whole)
    · cases converts

theorem known_hexadecimal {raw : Text} {v : Value}
    (spells : Spells BuiltIn.hexadecimal.expression.route raw)
    (converts : BuiltIn.toHexadecimal raw = .ok (.value v)) : Known ⟨.numeric, v, some raw⟩ := by
  rw [BuiltIn.toHexadecimal] at converts
  split at converts
  · cases converts
    exact known_number _ (not_mem_of_sets spells (by decide +kernel))
  · cases converts

/-! ## Texts and symbols -/

theorem known_string {builtIn : BuiltIn} {quote : Char} (kind : Quotes builtIn quote) {raw : Text}
    (spells : Spells builtIn.expression.route raw) :
    Known ⟨.string, .string (BuiltIn.unquote raw), some raw⟩ := by
  obtain ⟨inner, rfl, -⟩ := kind.around spells
  have between : BuiltIn.unquote (quote :: (inner ++ [quote])) = inner := by
    simp [BuiltIn.unquote]
  rw [between]
  refine .string ?_
  cases kind with
  | double => exact .inl rfl
  | single => exact .inr rfl

/-- A table whose symbols are listed for a category makes tokens of the language. -/
theorem known_symbol {kind : String} {table : List (String × String)} {category : Category}
    {spelling raw : Text} {v : Value} (found : BuiltIn.lookUp kind table spelling = .ok (.value v))
    (listed : ∀ entry ∈ table, entry.2 ∈ names category) : Known ⟨category, v, some raw⟩ := by
  obtain ⟨entry, member, -, same⟩ := look_up_entry found
  cases same
  exact .symbol (listed entry member)

/-- A text without blanks is what is left of it with blanks behind it. -/
theorem trim_behind {word blanks : Text} (filled : ∀ c ∈ word, Unicode.isBlank c = false)
    (blank : ∀ c ∈ blanks, Unicode.isBlank c = true) : (word ++ blanks).trim = word :=
  trim_ends (fun c head => filled c (List.mem_of_mem_head? head))
    (fun c last => filled c (List.mem_of_getLast? last)) blank

/-- A text without blanks is trimmed. -/
theorem trim_eq {raw : Text} (filled : ∀ c ∈ raw, Unicode.isBlank c = false) : raw.trim = raw :=
  trim_of_ends (fun c head => filled c (List.mem_of_mem_head? head))
    fun c last => filled c (List.mem_of_getLast? last)

/-- A name has no blanks in it. -/
theorem identifier_trim {raw : Text} (spells : Spells BuiltIn.identifier.expression.route raw) :
    raw.trim = raw := by
  refine trim_eq fun c member => Bool.eq_false_iff.mpr fun blank => ?_
  have name := identifier_takes_names spells c member
  rw [name_set_contains, not_word_of_blank blank, Bool.false_or, decide_eq_true_eq] at name
  subst name
  exact absurd blank (by decide)

theorem known_identifier {keepCase : Bool} {raw : Text} {v : Value}
    (spells : Spells BuiltIn.identifier.expression.route raw)
    (converts : BuiltIn.toIdentifier keepCase raw = .ok (.value v)) :
    Known ⟨.identifier, v, some raw⟩ := by
  rw [BuiltIn.toIdentifier, identifier_trim spells] at converts
  cases converts
  refine .identifier ?_
  cases keepCase with
  | true => exact .inl rfl
  | false => exact .inr rfl

/-- Every token of built-in scanners that is no blank belongs to the language. -/
theorem Origin.known {keepCase : Bool} {zone : LocalZone} {token : Token}
    (origin : Origin keepCase zone token) (visible : significant token = true) : Known token := by
  cases origin with
  | name => exact .function
  | opening => exact .symbol (show "open" ∈ names .grouping by decide)
  | @converted builtIn raw v other spells converts =>
    cases builtIn with
    | whitespace => cases visible
    | function => exact absurd rfl other
    | null => cases converts; exact .null
    | boolean => cases converts; exact .boolean
    | negate =>
      cases converts
      exact .symbol (show "negate" ∈ names .arithmeticOperator by decide)
    | dateTime =>
      simp only [BuiltIn.convert, BuiltIn.toDateTime] at converts
      split at converts <;> cases converts
      exact .dateTime
    | numeric => exact known_numeric spells converts
    | hexadecimal => exact known_hexadecimal spells converts
    | doubleQuotedString => cases converts; exact known_string .double spells
    | singleQuotedString => cases converts; exact known_string .single spells
    | booleanOperator => exact known_symbol converts (by decide)
    | arithmeticOperator => exact known_symbol converts (by decide)
    | grouping => exact known_symbol converts (by decide)
    | access => exact known_symbol converts (by decide)
    | caseStatement => exact known_symbol converts (by decide)
    | comparisonOperator => exact known_symbol converts (by decide)
    | identifier => exact known_identifier spells converts

/-! ## What a text means -/

/-- The scanner that reads the texts of a category. Numbers with an x are hexadecimal, and a minus
sign is read as that of a subtraction. -/
def reader : Category → Text → BuiltIn
  | .null, _ => .null
  | .whitespace, _ => .whitespace
  | .dateTime, _ => .dateTime
  | .numeric, raw => if 'x' ∈ raw ∨ 'X' ∈ raw then .hexadecimal else .numeric
  | .string, _ => .doubleQuotedString
  | .arithmeticOperator, _ => .arithmeticOperator
  | .booleanOperator, _ => .booleanOperator
  | .comparisonOperator, _ => .comparisonOperator
  | .grouping, _ => .grouping
  | .access, _ => .access
  | .caseStatement, _ => .caseStatement
  | .boolean, _ => .boolean
  | .function, _ => .function
  | .identifier, _ => .identifier
  | .custom _, _ => .identifier

/-- The value of a text of a category. A function is named by its text, without a parenthesis. -/
def meaning (keepCase : Bool) (zone : LocalZone) : Category → Text → Option Value
  | .function, raw => some (.symbol ⟨Unicode.lowerCase raw.trim⟩)
  | category, raw =>
    match (reader category raw).convert keepCase zone raw with
    | .ok (.value v) => some v
    | _ => none

theorem numeric_unmarked {raw : Text} (spells : Spells BuiltIn.numeric.expression.route raw) :
    ¬('x' ∈ raw ∨ 'X' ∈ raw) := by
  rintro (marked | marked)
  · exact not_mem_of_sets spells (by decide +kernel) marked
  · exact not_mem_of_sets spells (by decide +kernel) marked

/-- The second character of a hexadecimal number is its mark. -/
theorem hexadecimal_marked {raw : Text}
    (spells : Spells BuiltIn.hexadecimal.expression.route raw) : 'x' ∈ raw ∨ 'X' ∈ raw := by
  have filled : raw ≠ [] := by
    rintro rfl
    cases nullable_of_spells spells rfl
  obtain ⟨c, rest, rfl⟩ := List.exists_cons_of_ne_nil filled
  obtain ⟨set, listed, zero⟩ := spells_firsts spells (c := c) rfl
  have zeros : (firsts BuiltIn.hexadecimal.expression.route).all fun set =>
      codes? set = some ['0'.toNat] := by decide +kernel
  have lists := of_decide_eq_true (List.all_eq_true.mp zeros set listed)
  obtain rfl : c = '0' :=
    Char.toNat_inj.mp (List.mem_singleton.mp (codes_contains lists zero))
  obtain ⟨d, others, rfl, code⟩ :=
    goes_on_with ['x'.toNat, 'X'.toNat] spells (by decide +kernel) (by decide +kernel)
  rcases List.mem_cons.mp code with lower | upper
  · exact .inl (by simp [Char.toNat_inj.mp lower])
  · exact .inr (by simp [Char.toNat_inj.mp (List.mem_singleton.mp upper)])

/-- The text of a negation is a minus sign. -/
theorem negate_raw {raw : Text} (spells : Spells BuiltIn.negate.expression.route raw) :
    raw = ['-'] := by
  have route : BuiltIn.negate.expression.route =
      .sequence (.anchor .textStart) (.one (quoteSet '-')) := by decide +kernel
  rw [route, spells_anchored_iff] at spells
  exact (spells_mark_iff (by decide)).mp spells

/-- A token of built-in scanners has the value that its text means, but for the negation. -/
theorem Origin.means {keepCase : Bool} {zone : LocalZone} {token : Token}
    (origin : Origin keepCase zone token) :
    ∃ raw, token.raw = some raw ∧ (meaning keepCase zone token.category raw = some token.value ∨
      token.category = .arithmeticOperator ∧ raw = ['-'] ∧ token.value = .symbol .negate) := by
  cases origin with
  | name => exact ⟨_, rfl, .inl rfl⟩
  | opening => exact ⟨_, rfl, .inl rfl⟩
  | @converted builtIn raw v other spells converts =>
    refine ⟨raw, rfl, ?_⟩
    by_cases negation : builtIn = .negate
    · subst negation
      cases converts
      exact .inr ⟨rfl, negate_raw spells, rfl⟩
    have read : (reader builtIn.category raw).convert keepCase zone raw = .ok (.value v) := by
      cases builtIn with
      | function => exact absurd rfl other
      | negate => exact absurd rfl negation
      | numeric => rwa [BuiltIn.category, reader, if_neg (numeric_unmarked spells)]
      | hexadecimal => rwa [BuiltIn.category, reader, if_pos (hexadecimal_marked spells)]
      | singleQuotedString => exact converts
      | _ => exact converts
    left
    cases builtIn with
    | function => exact absurd rfl other
    | _ => simp only [BuiltIn.category, meaning] at read ⊢; rw [read]

/-! ## The tokens of a run -/

/-- Built-in scanners with the same local clocks, all of which keep the case of identifiers or none
of which does. -/
def OfCase (keepCase : Bool) (zone : LocalZone) (set : ScannerSet) : Prop :=
  ∀ entry ∈ set.entries, ∃ builtIn : BuiltIn, entry.scanner = builtIn.scanner keepCase zone

theorem built_in_case (keepCase : Bool) (zone : LocalZone) :
    OfCase keepCase zone (.builtIn keepCase zone) := by
  intro entry member
  obtain ⟨builtIn, -, rfl⟩ := List.mem_map.mp member
  exact ⟨builtIn, rfl⟩

theorem returned_known {t : Tokenizer} (own : OfBuiltIns t.scanners) {input : Text}
    {tokens : List Token} {metrics : Metrics} (accepted : t.run input = .accepted tokens metrics)
    {token : Token} (returned : token ∈ tokens) : Known token := by
  obtain ⟨visible, entry, member, remaining, previous, made, scanned, listed⟩ :=
    returned_scanned accepted returned
  obtain ⟨builtIn, keepCase, zone, same⟩ := own entry member
  rw [same] at scanned
  exact (origin_of_made (scan_made scanned) listed).known visible

theorem returned_means {keepCase : Bool} {zone : LocalZone} {t : Tokenizer}
    (own : OfCase keepCase zone t.scanners) {input : Text} {tokens : List Token} {metrics : Metrics}
    (accepted : t.run input = .accepted tokens metrics) {token : Token} (returned : token ∈ tokens) :
    ∃ raw, token.raw = some raw ∧ (meaning keepCase zone token.category raw = some token.value ∨
      token.category = .arithmeticOperator ∧ raw = ['-'] ∧ token.value = .symbol .negate) := by
  obtain ⟨-, entry, member, remaining, previous, made, scanned, listed⟩ :=
    returned_scanned accepted returned
  obtain ⟨builtIn, same⟩ := own entry member
  rw [same] at scanned
  exact (origin_of_made (scan_made scanned) listed).means

/-- No token of the language is a blank or has a category that is not built in. -/
theorem Known.category {token : Token} (known : Known token) :
    token.category ≠ .whitespace ∧ ∀ name, token.category ≠ .custom name := by
  cases known with
  | @symbol category name raw listed =>
    constructor
    · rintro rfl
      cases listed
    · rintro custom rfl
      cases listed
  | _ => exact ⟨nofun, nofun⟩

/-- The two readings of a minus sign: one token negates, the other one subtracts. -/
def MinusSigns (a b : Token) : Prop :=
  a.category = .arithmeticOperator ∧ a.raw = some ['-'] ∧
    (a.value = .symbol .negate ∧ b.value = .symbol .subtract ∨
      a.value = .symbol .subtract ∧ b.value = .symbol .negate)

theorem minus_subtracts (keepCase : Bool) (zone : LocalZone) :
    meaning keepCase zone .arithmeticOperator ['-'] = some (.symbol .subtract) := rfl

/-- Built-in scanners return tokens of the language only. What is more, the category and the text of
a token decide its value, whichever scanners with the same case and the same local clocks have made
it, in which order they were tried and whatever stands around it; only a minus sign has two
readings. -/
theorem run_vocabulary :
    (∀ (t : Tokenizer) (input : Text) (tokens : List Token) (metrics : Metrics),
      OfBuiltIns t.scanners → t.run input = .accepted tokens metrics → ∀ token ∈ tokens,
        Known token ∧ token.category ≠ .whitespace ∧ ∀ name, token.category ≠ .custom name) ∧
    ∀ (keepCase : Bool) (zone : LocalZone) (t u : Tokenizer) (input other : Text)
      (tokens others : List Token) (metrics further : Metrics),
      OfCase keepCase zone t.scanners → OfCase keepCase zone u.scanners →
      t.run input = .accepted tokens metrics → u.run other = .accepted others further →
      ∀ a ∈ tokens, ∀ b ∈ others, a.category = b.category → a.raw = b.raw →
        a.value = b.value ∨ MinusSigns a b := by
  constructor
  · intro t input tokens metrics own accepted token returned
    have known := returned_known own accepted returned
    exact ⟨known, known.category⟩
  · intro keepCase zone t u input other tokens others metrics further ownLeft ownRight left right
      a returnedA b returnedB category raw
    obtain ⟨text, textA, meansA⟩ := returned_means ownLeft left returnedA
    obtain ⟨textB, sameB, meansB⟩ := returned_means ownRight right returnedB
    obtain rfl : text = textB := Option.some.inj (textA.symm.trans (raw.trans sameB))
    rw [← category] at meansB
    rcases meansA with valueA | ⟨minus, rfl, negatesA⟩ <;>
      rcases meansB with valueB | ⟨minusB, sameMinus, negatesB⟩
    · exact .inl (Option.some.inj (valueA.symm.trans valueB))
    · subst sameMinus
      rw [minusB, minus_subtracts] at valueA
      exact .inr ⟨minusB, textA, .inr ⟨(Option.some.inj valueA).symm, negatesB⟩⟩
    · rw [minus, minus_subtracts] at valueB
      exact .inr ⟨minus, textA, .inl ⟨negatesA, (Option.some.inj valueB).symm⟩⟩
    · exact .inl (negatesA.trans negatesB.symm)

/-- A minus sign in front of a number negates it or subtracts it, and everything else is the same
in both texts. -/
theorem minus_signs_known :
    let negated : List Token := [⟨.arithmeticOperator, .symbol .negate, some ['-']⟩,
      ⟨.numeric, .integer 1, some ['1']⟩]
    let subtracted : List Token := [⟨.numeric, .integer 1, some ['1']⟩,
      ⟨.arithmeticOperator, .symbol .subtract, some ['-']⟩, ⟨.numeric, .integer 1, some ['1']⟩]
    (∀ token ∈ negated, Known token) ∧
      ∀ a ∈ negated, ∀ b ∈ subtracted, a.category = b.category → a.raw = b.raw →
        a.value = b.value ∨ MinusSigns a b := by
  intro negated subtracted
  have left : (Tokenizer.mk .default .builtIn).run "-1".toList = .accepted negated
      ⟨2, 0, [("arithmetic_operator".toList, 1), ("numeric".toList, 1)], 0, 12⟩ := by
    decide +kernel
  have right : (Tokenizer.mk .default .builtIn).run "1-1".toList = .accepted subtracted
      ⟨3, 0, [("arithmetic_operator".toList, 1), ("numeric".toList, 2)], 0, 18⟩ := by
    decide +kernel
  have own := built_in_case false .utc
  constructor
  · intro token returned
    exact (run_vocabulary.1 _ _ _ _ (built_in_own false .utc) left token returned).1
  · exact run_vocabulary.2 false .utc _ _ _ _ _ _ _ _ own own left right

end FormulaLexer.Vocabulary
