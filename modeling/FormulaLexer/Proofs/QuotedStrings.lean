import FormulaLexer.Proofs.Keywords
import FormulaLexer.Proofs.Resources
import FormulaLexer.Proofs.Vocabulary

/-! Strings between quotes. A text without its quote, put between two of them, is one token with
that text as its value, whatever stands behind it, and every string that built-in scanners make is
made that way. The token covers its text alone, and parentheses in it open and close nothing. -/
namespace FormulaLexer.QuotedStrings
open Text TextCuts Progress Steps LoopSteps Ways Spelling BuiltInMatches Coverage ErrorPlaces Rescan
  Unmatched Keywords Vocabulary

/-- The two marks that strings stand between. -/
def IsQuote (c : Char) : Prop := c = '"' ∨ c = '\''

/-- A text between two quotes. -/
def inQuotes (quote : Char) (inner : Text) : Text := quote :: (inner ++ [quote])

/-- The token of a text between two quotes. -/
def stringToken (quote : Char) (inner : Text) : Token :=
  ⟨.string, .string inner, some (inQuotes quote inner)⟩

/-- Between its quotes, where it has none of them, a text is one string: for the first scanner that
takes it, in front of every other text, and in a run over it alone, if that is short enough. -/
structure ReadAlone (quote : Char) (inner : Text) : Prop where
  first : ∀ keepCase zone rest previous, ∃ key attempts,
    acceptFirst (inQuotes quote inner ++ rest) previous 0
      (ScannerSet.builtIn keepCase zone).entries =
      .accepted key attempts .string [stringToken quote inner]
  alone : ∀ preferences zone,
    (∃ metrics, (Tokenizer.ofPreferences preferences zone).run (inQuotes quote inner) =
      .accepted [stringToken quote inner] metrics) ∨
    (Tokenizer.ofPreferences preferences zone).run (inQuotes quote inner) = .overflowed ∧
      Position.counterBound ≤ (inQuotes quote inner).length + 1

/-- A string among the tokens that a run has produced: its text is its value between two quotes of a
kind that is not in it, all other tokens lie in front of that text or behind it, and the count of
open groups stays. -/
structure Enclosed (input : Text) (front : List PlacedToken) (item : PlacedToken)
    (back : List PlacedToken) : Prop where
  quoted : ∃ quote inner, IsQuote quote ∧ quote ∉ inner ∧ item.token = stringToken quote inner
  whole : input = joined (front.map PlacedToken.token) ++
    (item.token.text ++ joined (back.map PlacedToken.token))
  starts : item.start.offset = byteSize (joined (front.map PlacedToken.token))
  before : ∀ other ∈ front,
    other.start.offset + byteSize other.token.text ≤ item.start.offset
  behind : ∀ other ∈ back,
    item.start.offset + byteSize item.token.text ≤ other.start.offset
  balance : ∀ tally : Tally, ∃ after, tally.add item = .ok after ∧ after.balance = tally.balance ∧
    after.metrics.maxNesting = tally.metrics.maxNesting

/-! ## One scanner -/

theorem quotes_of_quote {quote : Char} (kind : IsQuote quote) :
    ∃ builtIn, Quotes builtIn quote ∧ beginning quote = [builtIn] := by
  obtain ⟨double, single, -⟩ := sign_beginnings
  rcases kind with rfl | rfl
  · exact ⟨_, .double, double⟩
  · exact ⟨_, .single, single⟩

theorem quote_of_quotes {builtIn : BuiltIn} {quote : Char} (kind : Quotes builtIn quote) :
    IsQuote quote := by
  cases kind with
  | double => exact .inl rfl
  | single => exact .inr rfl

/-- The scanners of strings are those of quotes. -/
theorem quotes_of_category {builtIn : BuiltIn} (string : builtIn.category = .string) :
    ∃ quote, Quotes builtIn quote := by
  cases builtIn with
  | doubleQuotedString => exact ⟨_, .double⟩
  | singleQuotedString => exact ⟨_, .single⟩
  | _ => cases string

theorem category_quotes {builtIn : BuiltIn} {quote : Char} (kind : Quotes builtIn quote) :
    builtIn.category = .string := by
  cases kind <;> rfl

theorem convert_quotes {builtIn : BuiltIn} {quote : Char} (kind : Quotes builtIn quote)
    (keepCase : Bool) (zone : LocalZone) (inner : Text) :
    builtIn.convert keepCase zone (inQuotes quote inner) = .ok (.value (.string inner)) := by
  have between : BuiltIn.unquote (inQuotes quote inner) = inner := by
    simp [BuiltIn.unquote, inQuotes]
  have converts : ∀ raw, builtIn.convert keepCase zone raw =
      .ok (.value (.string (BuiltIn.unquote raw))) := by
    intro raw
    cases kind <;> rfl
  rw [converts, between]

/-- A text in quotes ends at the first quote behind the one that it begins with. -/
theorem in_quotes_unique {quote : Char} {inner other rest others : Text} (inside : quote ∉ inner)
    (outside : quote ∉ other)
    (same : inQuotes quote inner ++ rest = inQuotes quote other ++ others) :
    inner = other ∧ rest = others := by
  have unquoted : ∀ {text : Text}, quote ∉ text → ∀ c ∈ text, decide (c ≠ quote) = true :=
    fun absent c member => decide_eq_true (ne_of_mem_of_not_mem member absent)
  have stops : ∀ (text : Text), ∀ c ∈ (quote :: text).head?, decide (c ≠ quote) = false := by
    rintro text _ ⟨⟩
    simp
  have behind : inner ++ quote :: rest = other ++ quote :: others := by
    simpa [inQuotes] using same
  obtain ⟨texts, further⟩ :=
    run_unique (unquoted inside) (unquoted outside) (stops rest) (stops others) behind
  exact ⟨texts, (List.cons.inj further).2⟩

/-- The scanner of a quote prefers the text up to the next one. -/
theorem matches_quotes {builtIn : BuiltIn} {quote : Char} (kind : Quotes builtIn quote)
    {inner : Text} (inside : quote ∉ inner) (rest : Text) :
    Matches builtIn (inQuotes quote inner) rest := by
  have free : builtIn ∈ edgeless := by cases kind <;> decide
  obtain ⟨front, back, whole, matched⟩ :=
    match_of_way (front_way free (kind.spells inside) rest)
  obtain ⟨other, rfl, outside⟩ := kind.around matched.spells
  obtain ⟨rfl, rfl⟩ := in_quotes_unique inside outside whole
  exact matched

theorem scan_quotes {builtIn : BuiltIn} {quote : Char} (kind : Quotes builtIn quote)
    {inner : Text} (inside : quote ∉ inner) (keepCase : Bool) (zone : LocalZone) (rest : Text)
    (previous : Option Token) :
    (builtIn.scanner keepCase zone).scan (inQuotes quote inner ++ rest) previous =
      .ok (some [stringToken quote inner]) := by
  have accepts : (builtIn.scanner keepCase zone).accepts previous = true := by cases kind <;> rfl
  rw [scan_converts (matches_quotes kind inside rest) accepts, convert_quotes kind, category_quotes kind]
  rfl

/-- All scanners but that of its kind pass a quote by. -/
theorem first_quotes {builtIn : BuiltIn} {quote : Char} (only : beginning quote = [builtIn])
    (keepCase : Bool) (zone : LocalZone) (rest : Text) (previous : Option Token) :
    First (ScannerSet.builtIn keepCase zone).entries (quote :: rest) previous
      (entryOf keepCase zone builtIn) ((before builtIn).length + 1) := by
  refine first_of_passed fun other earlier =>
    scan_of_nothing keepCase zone previous (nothing_unless_beginning rest ?_)
  rw [only, List.mem_singleton]
  rintro rfl
  exact absurd (List.mem_takeWhile_imp earlier) (by simp)

/-! ## A string alone -/

/-- A run over a text that its first scanner covers with one token, which closes no group, breaks off
where the position behind the token is out of bounds. -/
theorem single_overflow {set : ScannerSet} {input : Text} {winner : ScannerEntry} {attempts : Nat}
    {token : Token} (first : First set.entries input none winner attempts)
    (scanned : winner.scanner.scan input none = .ok (some [token])) (covers : token.text = input)
    (filled : input ≠ []) (stops : Position.start.advanceText? input = none)
    (opens : token.isGrouping .opening = false) (closes : token.isGrouping .closing = false) :
    (trace set input).outcome = .overflowed := by
  have cut : splitAtByte? (byteSize input) input = some (input, []) := by
    simpa using split_at_end input []
  have laid : place [token] input .start = ⟨[⟨token, .start⟩], .error .overflow⟩ := by
    simp [place, covers, cut, stops]
  have checked : zeroWidthCategory? winner.scanner.category [token] = none := by
    simp [zeroWidthCategory?, Token.isEmpty, covers, filled]
  have step : takeStep set input none .start =
      ⟨some ⟨winner.key, attempts, [⟨token, .start⟩]⟩, .error .overflow⟩ := by
    simp only [takeStep, first.accepts scanned, checked, laid]
  have course := trace_from_stopped filled (congrArg StepResult.outcome step)
  rw [trace, course, step]
  simp [Trace.outcome, Tally.addSteps, Tally.addStep, Tally.addAll, Tally.add, Tally.addGrouping,
    opens, closes]

theorem read_alone {quote : Char} (kind : IsQuote quote) {inner : Text} (inside : quote ∉ inner) :
    ReadAlone quote inner := by
  obtain ⟨builtIn, quotes, only⟩ := quotes_of_quote kind
  constructor
  · intro keepCase zone rest previous
    have first := first_quotes only keepCase zone (inner ++ [quote] ++ rest) previous
    have accepts := first.accepts (scan_quotes quotes inside keepCase zone rest previous)
    rw [show (entryOf keepCase zone builtIn).scanner.category = .string from category_quotes quotes]
      at accepts
    exact ⟨_, _, by simpa [inQuotes] using accepts⟩
  · intro preferences zone
    have first := first_quotes only preferences.caseSensitive zone (inner ++ [quote]) none
    have scanned := scan_quotes quotes inside preferences.caseSensitive zone [] none
    rw [List.append_nil] at scanned
    cases moves : Position.start.advanceText? (inQuotes quote inner) with
    | some reached =>
      exact .inl (single_run first scanned rfl (List.cons_ne_nil _ _) moves rfl rfl rfl)
    | none =>
      have overflowed :=
        single_overflow first scanned rfl (List.cons_ne_nil _ _) moves rfl rfl
      exact .inr ⟨overflowed, Resources.long_of_overflowed overflowed⟩

/-! ## Strings in a run -/

/-- A string that a built-in scanner has made stands between two quotes of one kind. -/
theorem origin_quoted {keepCase : Bool} {zone : LocalZone} {token : Token}
    (origin : Origin keepCase zone token) (string : token.category = .string) :
    ∃ quote inner, IsQuote quote ∧ quote ∉ inner ∧ token = stringToken quote inner := by
  cases origin with
  | name => cases string
  | opening => cases string
  | @converted builtIn raw v other spells converts =>
    obtain ⟨quote, kind⟩ := quotes_of_category string
    obtain ⟨inner, rfl, inside⟩ := kind.around spells
    refine ⟨quote, inner, quote_of_quotes kind, inside, ?_⟩
    rw [show quote :: (inner ++ [quote]) = inQuotes quote inner from rfl,
      convert_quotes kind] at converts
    cases converts
    rw [category_quotes kind]
    rfl

/-- What is laid over a text in order lies within the bytes of all of it. -/
theorem laid_bounds {input : Text} {offset : Nat} {items : List PlacedToken}
    (laid : Laid input offset items) : ∀ item ∈ items, offset ≤ item.start.offset ∧
      item.start.offset + byteSize item.token.text ≤ offset + bytes items := by
  induction items generalizing offset with
  | nil => simp
  | cons first items ih =>
    obtain ⟨starts, -, later⟩ := laid
    have size : bytes (first :: items) = byteSize first.token.text + bytes items := rfl
    intro item member
    rcases List.mem_cons.mp member with rfl | member
    · omega
    · have bounds := ih later item member
      omega

/-- A token other than a grouping mark leaves the count of open groups. -/
theorem add_balance {item : PlacedToken} (other : item.token.category ≠ .grouping) (tally : Tally) :
    ∃ after, tally.add item = .ok after ∧ after.balance = tally.balance ∧
      after.metrics.maxNesting = tally.metrics.maxNesting := by
  have opens : item.token.isGrouping .opening = false := by simp [Token.isGrouping, other]
  have closes : item.token.isGrouping .closing = false := by simp [Token.isGrouping, other]
  refine ⟨tally.addToken item.token, by simp [Tally.add, Tally.addGrouping, opens, closes], ?_⟩
  rw [Tally.addToken]
  split <;> exact ⟨rfl, rfl⟩

theorem enclosed_of_produced {set : ScannerSet} (own : OfBuiltIns set) {input : Text}
    (complete : (trace set input).ending = .complete) {front back : List PlacedToken}
    {item : PlacedToken} (split : (trace set input).produced = front ++ item :: back)
    (string : item.token.category = .string) : Enclosed input front item back := by
  have laid : Laid input 0 (trace set input).produced :=
    (trace_laid set none (show Reaches input input .start from ⟨[], rfl, rfl⟩)).1
  have covered : joined ((trace set input).produced.map PlacedToken.token) = input :=
    (trace_covers own.covering input none .start complete).1
  have origin : ∃ keepCase zone, Origin keepCase zone item.token := by
    have produced : item ∈ (trace set input).produced := by simp [split]
    obtain ⟨winner, listed, remaining, previous, made, scanned, member⟩ :=
      produced_scanned complete produced
    obtain ⟨builtIn, keepCase, zone, same⟩ := own winner listed
    rw [same] at scanned
    exact ⟨keepCase, zone, origin_of_made (scan_made scanned) member⟩
  obtain ⟨keepCase, zone, origin⟩ := origin
  have size : bytes front = byteSize (joined (front.map PlacedToken.token)) := by
    rw [joined_size, bytes, List.map_map]
    rfl
  rw [split, laid_append] at laid
  obtain ⟨inFront, starts, -, later⟩ := laid
  rw [Nat.zero_add] at starts later
  refine ⟨origin_quoted origin string, ?_, by rw [starts, size], fun other member => ?_,
    fun other member => ?_, add_balance (by simp [string])⟩
  · rw [← covered, split]
    simp
  · have bounds := laid_bounds inFront other member
    omega
  · have bounds := laid_bounds later other member
    omega

/-- Quoting and reading go together. A text without its quote, between two of them, is one string
with that text as its value. In turn each string that a run of built-in scanners returns is among
the tokens produced, all of which are enclosed in this way. -/
theorem quotes_round_trip :
    (∀ quote inner, IsQuote quote → quote ∉ inner → ReadAlone quote inner) ∧
    ∀ (t : Tokenizer) (input : Text) (tokens : List Token) (metrics : Metrics),
      OfBuiltIns t.scanners → t.run input = .accepted tokens metrics →
      tokens = ((trace t.scanners input).produced.map PlacedToken.token).filter significant ∧
      ∀ front item back, (trace t.scanners input).produced = front ++ item :: back →
        item.token.category = .string → Enclosed input front item back := by
  refine ⟨fun quote inner kind inside => read_alone kind inside, ?_⟩
  intro t input tokens metrics own accepted
  refine ⟨(partition_of_accepted own.covering accepted).returned, ?_⟩
  intro front item back split string
  exact enclosed_of_produced own (complete_of_accepted accepted) split string

/-- A text with the other quote and a parenthesis in it, and a parenthesis in quotes behind a sign. -/
theorem parenthesis_quoted :
    ReadAlone '"' "it's (1".toList ∧
      ∃ front item back, item.token = stringToken '\'' ['('] ∧
        Enclosed "-'('".toList front item back := by
  refine ⟨quotes_round_trip.1 '"' _ (.inl rfl) (by decide), ?_⟩
  have accepted : (Tokenizer.ofPreferences .builtIn).run "-'('".toList = .accepted
      [⟨.arithmeticOperator, .symbol .negate, some ['-']⟩, stringToken '\'' ['(']]
      ⟨2, 0, [("arithmetic_operator".toList, 1), ("string".toList, 1)], 0, 15⟩ := by
    decide +kernel
  have split : (trace (.builtIn false) "-'('".toList).produced =
      [⟨⟨.arithmeticOperator, .symbol .negate, some ['-']⟩, .start⟩] ++
        ⟨stringToken '\'' ['('], ⟨1, 1, 2⟩⟩ :: [] := by
    rfl
  exact ⟨_, _, _, rfl,
    (quotes_round_trip.2 _ _ _ _ (built_in_own false .utc) accepted).2 _ _ _ split rfl⟩

end FormulaLexer.QuotedStrings
