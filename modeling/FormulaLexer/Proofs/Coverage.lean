import FormulaLexer.Proofs.BuiltInMatches
import FormulaLexer.Proofs.Counting
import FormulaLexer.Proofs.LoopAgreement
import FormulaLexer.Proofs.PatternNesting

/-! The tokens of a run put together. Scanners whose tokens carry what their pattern has matched
at the front of the rest of the input cut it into parts without a gap, the blanks among them, and
the tokens to return are the parts that are no blanks. Built-in scanners are of that kind, and so
is a scanner of its own with a pattern that can be read by itself and a converter that makes
values. -/
namespace FormulaLexer.Coverage
open Text TextCuts Progress Steps LoopSteps Counting BuiltInMatches

/-- A built-in scanner, or one whose pattern can be read by itself and whose converter makes a
value of every match that it accepts. -/
inductive Covering (scanner : Scanner) : Prop where
  | builtIn (builtIn : BuiltIn) (keepCase : Bool) (zone : LocalZone)
      (same : scanner = builtIn.scanner keepCase zone)
  | custom (alone : Pattern) (reads : Pattern.read true scanner.pattern = .ok alone)
      (converts : ∀ raw tokens, scanner.convert raw ≠ .ok (.tokens tokens))

/-- The texts of tokens put together. -/
def joined (tokens : List Token) : Text := tokens.flatMap Token.text

@[simp] theorem joined_nil : joined [] = [] := rfl

@[simp] theorem joined_cons (token : Token) (tokens : List Token) :
    joined (token :: tokens) = token.text ++ joined tokens := rfl

@[simp] theorem joined_append (front back : List Token) :
    joined (front ++ back) = joined front ++ joined back := List.flatMap_append

theorem joined_size (tokens : List Token) :
    byteSize (joined tokens) = (tokens.map fun token => byteSize token.text).sum := by
  induction tokens with
  | nil => rfl
  | cons token tokens ih => simp [ih]

/-! ## One scanner -/

theorem Covering.anchored {scanner : Scanner} (covering : Covering scanner) :
    scanner.route.isAnchored = true := by
  cases covering with
  | builtIn builtIn keepCase zone same =>
    subst same
    exact (route_shape builtIn).1
  | custom alone reads converts =>
    rw [← scanner.expands]
    exact PatternNesting.route_anchored reads scanner.reads

/-- What a spelling is looked up as is the symbol of an entry with that spelling. -/
theorem look_up_entry {kind : String} {table : List (String × String)} {spelling : Text}
    {conversion : Conversion} (found : BuiltIn.lookUp kind table spelling = .ok conversion) :
    ∃ entry ∈ table, entry.1.toList = spelling ∧
      conversion = .value (.symbol (.named entry.2)) := by
  rw [BuiltIn.lookUp] at found
  split at found
  · next word name listed =>
    cases found
    have same : word.toList = spelling := by simpa using List.find?_some listed
    exact ⟨(word, name), List.mem_of_find?_eq_some listed, same, rfl⟩
  · cases found

theorem look_up_value {kind : String} {table : List (String × String)} {spelling : Text}
    {conversion : Conversion} (found : BuiltIn.lookUp kind table spelling = .ok conversion) :
    ∃ v, conversion = .value v := by
  obtain ⟨entry, -, -, same⟩ := look_up_entry found
  exact ⟨_, same⟩

/-- Every built-in converter but that of functions makes a value. -/
theorem convert_value {builtIn : BuiltIn} (other : builtIn ≠ .function) {keepCase : Bool}
    {zone : LocalZone} {raw : Text} {conversion : Conversion}
    (converts : builtIn.convert keepCase zone raw = .ok conversion) :
    ∃ v, conversion = .value v := by
  cases builtIn with
  | function => exact absurd rfl other
  | booleanOperator => exact look_up_value converts
  | arithmeticOperator => exact look_up_value converts
  | grouping => exact look_up_value converts
  | access => exact look_up_value converts
  | caseStatement => exact look_up_value converts
  | comparisonOperator => exact look_up_value converts
  | dateTime =>
    simp only [BuiltIn.convert, BuiltIn.toDateTime] at converts
    split at converts <;> cases converts
    exact ⟨_, rfl⟩
  | numeric =>
    simp only [BuiltIn.convert, BuiltIn.toNumber, BuiltIn.toDecimal, BuiltIn.toWhole] at converts
    split at converts <;> split at converts <;> cases converts <;> exact ⟨_, rfl⟩
  | hexadecimal =>
    simp only [BuiltIn.convert, BuiltIn.toHexadecimal] at converts
    split at converts <;> cases converts
    exact ⟨_, rfl⟩
  | null => cases converts; exact ⟨_, rfl⟩
  | whitespace => cases converts; exact ⟨_, rfl⟩
  | doubleQuotedString => cases converts; exact ⟨_, rfl⟩
  | singleQuotedString => cases converts; exact ⟨_, rfl⟩
  | negate => cases converts; exact ⟨_, rfl⟩
  | boolean => cases converts; exact ⟨_, rfl⟩
  | identifier => cases converts; exact ⟨_, rfl⟩

/-- The two tokens of a function head: its name, and the parenthesis behind it. -/
def functionHead (name : Text) : List Token :=
  [⟨.function, .symbol ⟨Unicode.lowerCase name.trim⟩, some name⟩,
    ⟨.grouping, .symbol .opening, some ['(']⟩]

theorem function_tokens (keepCase : Bool) (zone : LocalZone) (name : Text) :
    BuiltIn.function.convert keepCase zone (name ++ ['(']) = .ok (.tokens (functionHead name)) := by
  simp [BuiltIn.convert, BuiltIn.toFunctionHead, functionHead]

/-- A scanner that wins has matched a part of the text, and has converted it. -/
theorem scan_accepted {scanner : Scanner} {remaining : Text} {previous : Option Token}
    {tokens : List Token} (scanned : scanner.scan remaining previous = .ok (some tokens)) :
    ∃ found, scanner.route.find? remaining = some found ∧
      (scanner.convert found.text = .ok (.tokens tokens) ∨
        ∃ v, scanner.convert found.text = .ok (.value v) ∧
          tokens = [⟨scanner.category, v, some found.text⟩]) := by
  rw [Scanner.scan] at scanned
  split at scanned
  · cases scanned
  · next found finds =>
    refine ⟨found, finds, ?_⟩
    split at scanned
    · split at scanned
      · next v converted =>
        cases scanned
        exact .inr ⟨v, converted, rfl⟩
      · next converted =>
        cases scanned
        exact .inl converted
      · cases scanned
    · cases scanned

/-- A scanner passes a text by if its pattern finds nothing there, or its condition refuses it. -/
theorem scan_none_iff {scanner : Scanner} {remaining : Text} {previous : Option Token} :
    scanner.scan remaining previous = .ok none ↔
      scanner.route.find? remaining = none ∨ scanner.accepts previous = false := by
  rw [Scanner.scan]
  split
  · next nothing => simp [nothing]
  · next found finds =>
    split
    · next accepts =>
      split <;> simp [finds, accepts]
    · next refuses => simp [refuses]

/-- What a scanner makes of a text depends on the part that its pattern finds only. -/
theorem scan_refound {scanner : Scanner} {remaining other : Text} {found found' : Route.Match}
    (finds : scanner.route.find? remaining = some found)
    (finds' : scanner.route.find? other = some found') (same : found'.text = found.text)
    (previous : Option Token) : scanner.scan other previous = scanner.scan remaining previous := by
  simp only [Scanner.scan, finds, finds', same]

/-- The tokens that a built-in scanner makes of a text: one with the value of the part that its
pattern prefers, or the two of a function head. -/
inductive Made (keepCase : Bool) (zone : LocalZone) (remaining : Text) :
    BuiltIn → List Token → Prop where
  | value {builtIn : BuiltIn} {front back : Text} {v : Value} (other : builtIn ≠ .function)
      (whole : remaining = front ++ back) (way : Matches builtIn front back)
      (converts : builtIn.convert keepCase zone front = .ok (.value v)) :
      Made keepCase zone remaining builtIn [⟨builtIn.category, v, some front⟩]
  | head {name back : Text} (filled : name ≠ []) (whole : remaining = name ++ '(' :: back)
      (way : Matches .function (name ++ ['(']) back) :
      Made keepCase zone remaining .function (functionHead name)

/-- A built-in scanner that wins has made its tokens of the part that its pattern prefers. -/
theorem scan_made {builtIn : BuiltIn} {keepCase : Bool} {zone : LocalZone} {remaining : Text}
    {previous : Option Token} {tokens : List Token}
    (scanned : (builtIn.scanner keepCase zone).scan remaining previous = .ok (some tokens)) :
    Made keepCase zone remaining builtIn tokens := by
  obtain ⟨found, finds, converted⟩ := scan_accepted scanned
  change builtIn.convert keepCase zone found.text = _ ∨
    ∃ v, builtIn.convert keepCase zone found.text = _ ∧ _ at converted
  obtain ⟨back, whole, way⟩ := found_matches finds
  by_cases function : builtIn = .function
  · subst function
    obtain ⟨name, head, filled⟩ := function_head way.spells
    rw [head] at whole way converted
    rw [function_tokens] at converted
    rcases converted with same | ⟨v, other, -⟩
    · cases same
      exact .head filled (by simpa using whole) way
    · cases other
  · rcases converted with converted | ⟨v, converted, rfl⟩
    · obtain ⟨v, same⟩ := convert_value function converted
      cases same
    · exact .value function whole way converted

/-- The texts of the tokens made are the part that the pattern prefers. -/
theorem Made.covers {keepCase : Bool} {zone : LocalZone} {remaining : Text} {builtIn : BuiltIn}
    {tokens : List Token}
    (made : Made keepCase zone remaining builtIn tokens) :
    ∃ back, remaining = joined tokens ++ back ∧ Matches builtIn (joined tokens) back := by
  cases made with
  | @value _ front back _ _ whole way =>
    exact ⟨back, by simpa [Token.text] using whole, by simpa [Token.text] using way⟩
  | @head name back _ whole way =>
    exact ⟨back, by simpa [functionHead, Token.text] using whole, way⟩

/-- The built-in function scanner makes the two tokens of the head that it has matched. -/
theorem function_scan {keepCase : Bool} {zone : LocalZone} {remaining : Text}
    {previous : Option Token} {tokens : List Token}
    (scanned : (BuiltIn.function.scanner keepCase zone).scan remaining previous =
      .ok (some tokens)) :
    ∃ name back, name ≠ [] ∧ remaining = name ++ '(' :: back ∧ tokens = functionHead name := by
  cases scan_made scanned with
  | value other => exact absurd rfl other
  | @head name back filled whole => exact ⟨name, back, filled, whole, rfl⟩

/-- What a scanner makes of a text covers a part at its front. -/
theorem scan_covers {scanner : Scanner} (covering : Covering scanner) {remaining : Text}
    {previous : Option Token} {tokens : List Token}
    (scanned : scanner.scan remaining previous = .ok (some tokens)) :
    (∃ back, remaining = joined tokens ++ back) ∧ ∀ token ∈ tokens, token.raw.isSome := by
  have anchored := covering.anchored
  cases covering with
  | builtIn builtIn keepCase zone same =>
    subst same
    have made := scan_made scanned
    obtain ⟨back, whole, -⟩ := made.covers
    refine ⟨⟨back, whole⟩, ?_⟩
    cases made with
    | value => simp
    | head => simp [functionHead]
  | custom alone reads converts =>
    obtain ⟨found, finds, converted⟩ := scan_accepted scanned
    obtain ⟨back, whole⟩ := found_front anchored finds
    rcases converted with converted | ⟨v, -, rfl⟩
    · exact absurd converted (converts _ _)
    · exact ⟨⟨back, by simpa [Token.text] using whole⟩, by simp⟩

/-! ## One step -/

/-- Tokens that cover a part of the text are laid down without a misfit. -/
theorem place_aligned (tokens : List Token) (back : Text) (position : Position) :
    (∃ further, (place tokens (joined tokens ++ back) position).outcome = .ok further) ∨
      (place tokens (joined tokens ++ back) position).outcome = .error .overflow := by
  induction tokens generalizing position with
  | nil => exact .inl ⟨_, rfl⟩
  | cons token tokens ih =>
    rw [place, joined_cons, List.append_assoc, split_at_end]
    dsimp only
    cases position.advanceText? token.text with
    | none => exact .inr rfl
    | some reached =>
      dsimp only
      rcases ih reached with ⟨further, placed⟩ | overflow
      · exact .inl ⟨_, by rw [placed]; rfl⟩
      · exact .inr (by rw [overflow]; rfl)

/-- A run does not come to its end within a step. -/
theorem place_not_complete (tokens : List Token) (remaining : Text) (position : Position) :
    (place tokens remaining position).outcome ≠ .error .complete := by
  induction tokens generalizing remaining position with
  | nil => simp [place]
  | cons token tokens ih =>
    rw [place]
    split
    · simp
    · next rest _ =>
      split
      · simp
      · next reached _ =>
        intro complete
        cases inner : (place tokens rest reached).outcome with
        | ok further => simp [inner, Except.map] at complete
        | error ending =>
          simp only [inner, Except.map, Except.error.injEq] at complete
          exact ih rest reached (complete ▸ inner)

theorem step_not_complete (set : ScannerSet) (remaining : Text) (previous : Option Token)
    (position : Position) : (takeStep set remaining previous position).outcome ≠ .error .complete := by
  rw [takeStep]
  split
  · simp
  · simp
  · split
    · simp
    · exact place_not_complete _ _ _

/-- A step covers the texts of the tokens that it produces. -/
theorem step_covers {set : ScannerSet} (covering : ∀ entry ∈ set.entries, Covering entry.scanner)
    {covered back : Text} {previous : Option Token} {position : Position} {further : Advance}
    {step : Step} (length : covered.length = further.covered)
    (passed : (takeStep set (covered ++ back) previous position).outcome = .ok further)
    (taken : (takeStep set (covered ++ back) previous position).step = some step) :
    joined (step.produced.map PlacedToken.token) = covered ∧
      ∀ item ∈ step.produced, ∃ raw, item.token.raw = some raw ∧ raw ≠ [] := by
  obtain ⟨winner, attempts, tokens, covered', back', first, scanned, checked, same, placed, whole, -⟩ :=
    step_passed passed
  rw [taken] at same
  cases same
  obtain ⟨part, rest, split, partLength, size, -, produced⟩ := place_covers placed
  obtain ⟨rfl, rfl⟩ := List.append_inj split (by omega)
  obtain ⟨⟨left, cut⟩, present⟩ := scan_covers (covering winner first.mem) scanned
  refine ⟨?_, fun item member => ?_⟩
  · rw [produced]
    exact (cut_unique cut (by rw [size, joined_size])).1.symm
  · have listed : item.token ∈ tokens := by
      rw [← produced]
      exact List.mem_map_of_mem member
    obtain ⟨raw, same⟩ := Option.isSome_iff_exists.mp (present _ listed)
    refine ⟨raw, same, ?_⟩
    rintro rfl
    have filled := (Loop.nonempty_of_no_zero_width checked).2 _ listed
    exact filled (by simp [Token.text, same])

/-- What a step of the built-in function scanner produces: the name, and the parenthesis right
behind it. -/
def ProducesHead (step : Step) : Prop :=
  ∃ symbol name start behind, name ≠ [] ∧ start.advanceText? name = some behind ∧
    step.produced = [⟨⟨.function, symbol, some name⟩, start⟩,
      ⟨⟨.grouping, .symbol .opening, some ['(']⟩, behind⟩]

theorem step_head {set : ScannerSet} {remaining : Text} {previous : Option Token}
    {position : Position} {further : Advance} {step : Step} {entry : ScannerEntry}
    {keepCase : Bool} {zone : LocalZone}
    (passed : (takeStep set remaining previous position).outcome = .ok further)
    (taken : (takeStep set remaining previous position).step = some step)
    (won : set.entries[step.attempts - 1]? = some entry)
    (function : entry.scanner = BuiltIn.function.scanner keepCase zone) : ProducesHead step := by
  obtain ⟨winner, attempts, tokens, _, _, first, scanned, -, same, placed, -⟩ := step_passed passed
  rw [taken] at same
  cases same
  rw [first.get] at won
  cases won
  rw [function] at scanned
  obtain ⟨name, back, filled, rfl, rfl⟩ := function_scan scanned
  have cut : ∀ rest, splitAtByte? (byteSize name) (name ++ rest) = some (name, rest) :=
    split_at_end name
  have mark : splitAtByte? (byteSize ['(']) ('(' :: back) = some (['('], back) := split_at_end ['('] back
  simp only [functionHead, place, Token.text, Option.getD_some, cut, mark] at placed ⊢
  cases moves : position.advanceText? name with
  | none => simp [moves] at placed
  | some behind =>
    simp only [moves] at placed ⊢
    cases next : behind.advanceText? ['('] with
    | none => simp [next, Except.map] at placed
    | some reached => exact ⟨_, name, position, behind, filled, moves, rfl⟩

/-! ## The whole run -/

/-- Each step of a run that comes to the end of the input has passed. -/
theorem steps_passed {set : ScannerSet} {input : Text}
    (complete : (trace set input).ending = .complete) :
    ∀ step ∈ (trace set input).steps, ∃ remaining previous position further,
      Behind .start position ∧ (takeStep set remaining previous position).outcome = .ok further ∧
        (takeStep set remaining previous position).step = some step := by
  refine trace_induction (motive := fun _ _ position t => Behind .start position →
    t.ending = .complete → ∀ step ∈ t.steps, ∃ remaining previous position further,
      Behind .start position ∧ (takeStep set remaining previous position).outcome = .ok further ∧
        (takeStep set remaining previous position).step = some step) ?_ ?_ ?_ input none .start
    (start_behind (Nat.le_refl _) (Nat.le_refl _)) complete
  · intro previous position _ _ step none
    cases none
  · intro rest previous position ending _ stopped _ complete
    dsimp only at complete
    subst complete
    exact absurd stopped (step_not_complete set rest previous position)
  · intro covered back previous position further first others _ _ passed taken _ later begins
      complete step member
    rcases List.mem_cons.mp member with rfl | member
    · exact ⟨_, _, _, _, begins, passed, taken⟩
    · obtain ⟨_, _, _, _, _, -, -, -, -, -, -, -, -, moves⟩ := step_passed passed
      exact later (start_behind_reached begins moves) complete step member

theorem trace_covers {set : ScannerSet} (covering : ∀ entry ∈ set.entries, Covering entry.scanner)
    (rest : Text) (previous : Option Token) (position : Position)
    (complete : (traceFrom set rest 0 previous position).ending = .complete) :
    joined ((traceFrom set rest 0 previous position).produced.map PlacedToken.token) = rest ∧
      ∀ item ∈ (traceFrom set rest 0 previous position).produced,
        ∃ raw, item.token.raw = some raw ∧ raw ≠ [] := by
  revert complete
  refine trace_induction (motive := fun rest _ _ t => t.ending = .complete →
    joined (t.produced.map PlacedToken.token) = rest ∧
      ∀ item ∈ t.produced, ∃ raw, item.token.raw = some raw ∧ raw ≠ []) ?_ ?_ ?_ rest previous
    position
  · intro previous position _
    exact ⟨rfl, by simp [Trace.produced]⟩
  · intro rest previous position ending _ stopped complete
    dsimp only at complete
    subst complete
    exact absurd stopped (step_not_complete set rest previous position)
  · intro covered back previous position further step others _ length passed taken _ later complete
    obtain ⟨whole, filled⟩ := step_covers covering length passed taken
    obtain ⟨rest, others⟩ := later complete
    simp only [Trace.produced, List.flatMap_cons] at rest others ⊢
    refine ⟨by rw [List.map_append, joined_append, whole, rest], fun item member => ?_⟩
    rcases List.mem_append.mp member with member | member
    · exact filled item member
    · exact others item member

/-- A run is accepted at the end of the input only. -/
theorem complete_of_accepted {t : Trace} {tokens : List Token} {metrics : Metrics}
    (accepted : t.outcome = .accepted tokens metrics) : t.ending = .complete := by
  rw [Trace.outcome] at accepted
  split at accepted
  · cases accepted
  · split at accepted
    · cases accepted
    · cases accepted
    · next complete => exact complete

/-! ## Built-in scanners only -/

/-- A set of built-in scanners, in any order and number. -/
def OfBuiltIns (set : ScannerSet) : Prop :=
  ∀ entry ∈ set.entries, ∃ (builtIn : BuiltIn) (keepCase : Bool) (zone : LocalZone),
    entry.scanner = builtIn.scanner keepCase zone

theorem OfBuiltIns.covering {set : ScannerSet} (own : OfBuiltIns set) :
    ∀ entry ∈ set.entries, Covering entry.scanner := by
  intro entry member
  obtain ⟨builtIn, keepCase, zone, same⟩ := own entry member
  exact .builtIn builtIn keepCase zone same

theorem built_in_own (keepCase : Bool) (zone : LocalZone) :
    OfBuiltIns (.builtIn keepCase zone) := by
  intro entry member
  obtain ⟨builtIn, -, rfl⟩ := List.mem_map.mp member
  exact ⟨builtIn, keepCase, zone, rfl⟩

/-- The texts in order, with blanks between them and at the two ends. -/
inductive Spaced : List Text → Text → Prop where
  | last {gap : Text} (blank : ∀ c ∈ gap, Unicode.isBlank c = true) : Spaced [] gap
  | next {gap text rest : Text} {texts : List Text} (blank : ∀ c ∈ gap, Unicode.isBlank c = true)
      (others : Spaced texts rest) : Spaced (text :: texts) (gap ++ (text ++ rest))

theorem Spaced.behind {texts : List Text} {text gap : Text} (spaced : Spaced texts text)
    (blank : ∀ c ∈ gap, Unicode.isBlank c = true) : Spaced texts (gap ++ text) := by
  have both : ∀ {more : Text}, (∀ c ∈ more, Unicode.isBlank c = true) →
      ∀ c ∈ gap ++ more, Unicode.isBlank c = true := by
    intro more blanks c member
    rcases List.mem_append.mp member with member | member
    · exact blank c member
    · exact blanks c member
  cases spaced with
  | last blanks => exact .last (both blanks)
  | next blanks others =>
    rw [← List.append_assoc]
    exact .next (both blanks) others

/-- What is left when the blanks among tokens are dropped stands between blanks. -/
theorem spaced_significant {tokens : List Token}
    (blank : ∀ token ∈ tokens, significant token = false → ∀ c ∈ token.text, Unicode.isBlank c = true) :
    Spaced ((tokens.filter significant).map Token.text) (joined tokens) := by
  induction tokens with
  | nil => exact .last (by simp)
  | cons token tokens ih =>
    have others := ih fun other member => blank other (by simp [member])
    rw [List.filter_cons, joined_cons]
    split
    · have none : ∀ c ∈ ([] : Text), Unicode.isBlank c = true := by simp
      exact .next none others
    · next dropped => exact others.behind (blank token (by simp) (by simpa using dropped))

/-- The blanks that a step of a built-in scanner produces are blanks. -/
theorem step_blank {set : ScannerSet} (own : OfBuiltIns set) {remaining : Text}
    {previous : Option Token} {position : Position} {further : Advance} {step : Step}
    (passed : (takeStep set remaining previous position).outcome = .ok further)
    (taken : (takeStep set remaining previous position).step = some step) :
    ∀ item ∈ step.produced, significant item.token = false →
      ∀ c ∈ item.token.text, Unicode.isBlank c = true := by
  obtain ⟨winner, attempts, tokens, _, _, first, scanned, -, same, placed, -⟩ := step_passed passed
  rw [taken] at same
  cases same
  obtain ⟨_, _, -, -, -, -, produced⟩ := place_covers placed
  intro item member dropped
  have listed : item.token ∈ tokens := by
    rw [← produced]
    exact List.mem_map_of_mem member
  obtain ⟨builtIn, keepCase, zone, same⟩ := own winner first.mem
  rw [same] at scanned
  cases scan_made scanned with
  | head =>
    simp only [functionHead, List.mem_cons, List.not_mem_nil, or_false] at listed
    rcases listed with same | same <;> simp [significant, same] at dropped
  | value _ _ way =>
    rw [List.mem_singleton.mp listed] at dropped ⊢
    have blank : builtIn = .whitespace := by
      cases builtIn <;> first | rfl | simp [significant, BuiltIn.category] at dropped
    subst blank
    exact whitespace_blank way.spells

/-! ## Refusals -/

/-- An error that a token without text or a misfit of a token ends a run with. -/
def Misfit (e : TokenizerError) : Prop :=
  (∃ category position, e = .zeroWidth category position) ∨
    ∃ remaining position token, e = .parse remaining position (some (misaligned token))

/-- The characters that the wordings of refused conversions end with. -/
def closesWording (text : Text) : Prop :=
  text.getLast? = some 'g' ∨ text.getLast? = some 'e' ∨ text.getLast? = some '\''

theorem closes_behind {text : Text} (front : Text) (closes : closesWording text) :
    closesWording (front ++ text) := by
  have last : ∀ {c}, text.getLast? = some c → (front ++ text).getLast? = some c := by
    intro c same
    rw [List.getLast?_append, same, Option.some_or]
  rcases closes with closes | closes | closes
  · exact .inl (last closes)
  · exact .inr (.inl (last closes))
  · exact .inr (.inr (last closes))

theorem closes_quote (text : Text) : closesWording (text ++ "'".toList) :=
  .inr (.inr (by simp))

theorem closes_number (e : Number.ReadError) : closesWording e.message := by
  cases e with
  | empty => exact .inl rfl
  | invalidDigit => exact .inl rfl
  | tooLarge => exact .inr (.inl rfl)
  | tooSmall => exact .inr (.inl rfl)

theorem closes_decimal (failure : Number.Decimal.ReadFailure) : closesWording failure.message := by
  cases failure with
  | emptyDigits => exact .inl rfl
  | badExponent cause => exact closes_number cause
  | badDigits cause => exact closes_number cause
  | scaleOutOfRange text => exact closes_quote _

theorem closes_literal (e : DateTime.LiteralError) : closesWording e.message := by
  cases e with
  | unrecognized text => exact closes_quote _
  | badYear digits cause => exact closes_behind _ (closes_number cause)
  | badField digits cause => exact closes_behind _ (closes_number cause)
  | noSuchDate text => exact closes_quote _
  | noSuchTime text => exact closes_quote _
  | badZone zone cause => exact closes_behind _ (closes_number cause)
  | zoneOutOfRange zone => exact closes_quote _
  | skipped text => exact closes_behind _ (.inr (.inl rfl))

theorem closes_look_up {kind : String} {table : List (String × String)} {spelling message : Text}
    (refused : BuiltIn.lookUp kind table spelling = .error message) : closesWording message := by
  rw [BuiltIn.lookUp] at refused
  split at refused
  · cases refused
  · cases refused
    exact closes_quote _

theorem closes_convert {builtIn : BuiltIn} {keepCase : Bool} {zone : LocalZone} {raw message : Text}
    (refused : builtIn.convert keepCase zone raw = .error message) : closesWording message := by
  cases builtIn with
  | booleanOperator => exact closes_look_up refused
  | arithmeticOperator => exact closes_look_up refused
  | grouping => exact closes_look_up refused
  | access => exact closes_look_up refused
  | caseStatement => exact closes_look_up refused
  | comparisonOperator => exact closes_look_up refused
  | dateTime =>
    simp only [BuiltIn.convert, BuiltIn.toDateTime] at refused
    split at refused
    · cases refused
    · cases refused
      exact closes_literal _
  | numeric =>
    simp only [BuiltIn.convert, BuiltIn.toNumber, BuiltIn.toDecimal, BuiltIn.toWhole] at refused
    split at refused
    · split at refused
      · cases refused
      · cases refused
        exact closes_behind _ (closes_decimal _)
    · split at refused
      · cases refused
      · cases refused
        exact closes_behind _ (closes_decimal .emptyDigits)
  | hexadecimal =>
    simp only [BuiltIn.convert, BuiltIn.toHexadecimal] at refused
    split at refused
    · cases refused
    · cases refused
      exact closes_quote _
  | null => cases refused
  | whitespace => cases refused
  | doubleQuotedString => cases refused
  | singleQuotedString => cases refused
  | negate => cases refused
  | boolean => cases refused
  | function => cases refused
  | identifier => cases refused

/-- The wording of a misfit ends in another way than those of refused conversions. -/
theorem not_closes_misaligned (token : Token) : ¬ closesWording (misaligned token) := by
  have last : (misaligned token).getLast? = some 't' := by
    rw [misaligned, List.getLast?_append]
    rfl
  rw [closesWording, last]
  decide

theorem scan_refused {scanner : Scanner} {remaining : Text} {previous : Option Token}
    {e : ConversionError} (refused : scanner.scan remaining previous = .error e) :
    ∃ raw, scanner.convert raw = .error e.message := by
  rw [Scanner.scan] at refused
  split at refused
  · cases refused
  · next found finds =>
    split at refused
    · split at refused
      · cases refused
      · cases refused
      · next converted =>
        cases refused
        exact ⟨found.text, converted⟩
    · cases refused

/-- The tokens of a built-in scanner have text. -/
theorem scan_filled {builtIn : BuiltIn} {keepCase : Bool} {zone : LocalZone} {remaining : Text}
    {previous : Option Token} {tokens : List Token}
    (scanned : (builtIn.scanner keepCase zone).scan remaining previous = .ok (some tokens)) :
    zeroWidthCategory? (builtIn.scanner keepCase zone).category tokens = none := by
  cases scan_made scanned with
  | head filled => simp [zeroWidthCategory?, functionHead, Token.isEmpty, Token.text, filled]
  | value _ _ way => simp [zeroWidthCategory?, Token.isEmpty, Token.text, way.filled]

theorem step_fits {set : ScannerSet} (own : OfBuiltIns set) {remaining : Text}
    {previous : Option Token} {position : Position} {e : TokenizerError}
    (failed : (takeStep set remaining previous position).outcome = .error (.failed e)) :
    ¬ Misfit e := by
  have fits : ∀ {detail : Option Text}, (∀ token, detail ≠ some (misaligned token)) →
      ¬ Misfit (.parseAt remaining position detail) := by
    rintro detail other (⟨_, _, same⟩ | ⟨_, _, token, same⟩)
    · cases same
    · cases same
      exact other token rfl
  rw [takeStep] at failed
  obtain ⟨unmatched, -⟩ | ⟨winner, attempts, first, ⟨cause, refused, outcome⟩ |
      ⟨tokens, scanned, outcome⟩⟩ := accept_first_cases set.entries remaining previous
  · simp only [unmatched, Except.error.injEq, Ending.failed.injEq] at failed
    rw [← failed]
    exact fits (by simp)
  · simp only [outcome, Except.error.injEq, Ending.failed.injEq] at failed
    rw [← failed]
    refine fits fun token same => ?_
    obtain ⟨builtIn, keepCase, zone, same'⟩ := own winner first.mem
    rw [same'] at refused
    obtain ⟨raw, converted⟩ := scan_refused refused
    have closes : closesWording cause.describe := closes_behind _ (closes_convert converted)
    rw [Option.some.inj same] at closes
    exact not_closes_misaligned token closes
  · obtain ⟨builtIn, keepCase, zone, same⟩ := own winner first.mem
    rw [same] at scanned
    simp only [outcome, same, scan_filled scanned] at failed
    obtain ⟨⟨back, rfl⟩, -⟩ := scan_covers (.builtIn builtIn keepCase zone rfl) scanned
    rcases place_aligned tokens back position with ⟨further, placed⟩ | overflow
    · rw [placed] at failed
      cases failed
    · rw [overflow] at failed
      cases failed

theorem trace_fits {set : ScannerSet} (own : OfBuiltIns set) (rest : Text)
    (previous : Option Token) (position : Position) (e : TokenizerError)
    (failed : (traceFrom set rest 0 previous position).ending = .failed e) : ¬ Misfit e := by
  revert failed
  refine trace_induction (motive := fun _ _ _ t => t.ending = .failed e → ¬ Misfit e) ?_ ?_ ?_ rest
    previous position
  · intro previous position failed
    cases failed
  · intro rest previous position ending _ stopped failed
    dsimp only at failed
    subst failed
    exact step_fits own stopped
  · intro covered back previous position further step others _ _ _ _ _ later failed
    exact later failed

/-- The only error in counting is a mark without a partner. -/
theorem add_all_error {items : List PlacedToken} {tally : Tally} {e : TokenizerError}
    (failed : tally.addAll items = .error e) : ∃ position, e = .tooManyClosing position := by
  induction items generalizing tally with
  | nil => cases failed
  | cons item items ih =>
    rw [Tally.addAll] at failed
    split at failed
    · exact ih failed
    · next same =>
      cases failed
      rw [Tally.add] at same
      split at same
      · cases same
      · next grouping =>
        cases same
        exact ⟨_, add_grouping_error grouping⟩

/-- A run over a text with built-in scanners only ends with no misfit. -/
theorem run_fits {set : ScannerSet} (own : OfBuiltIns set) {input : Text} {e : TokenizerError}
    (rejected : (trace set input).outcome = .rejected e) : ¬ Misfit e := by
  have counting : ∀ e, e.reason = .tooManyClosing ∨ e.reason = .tooManyOpening → ¬ Misfit e := by
    rintro e other (⟨_, _, rfl⟩ | ⟨_, _, _, rfl⟩) <;> simp [TokenizerError.reason] at other
  rw [Trace.outcome] at rejected
  split at rejected
  · next failed =>
    cases rejected
    obtain ⟨position, rfl⟩ := add_all_error (add_steps_error_iff.mp failed)
    exact counting _ (.inl rfl)
  · split at rejected
    · next failed =>
      cases rejected
      exact trace_fits own input none .start _ failed
    · cases rejected
    · split at rejected
      · cases rejected
        exact counting _ (.inr rfl)
      · cases rejected

/-! ## Partitions -/

/-- What an accepted run makes of its input: the texts of the tokens produced put together are the
input, each token carries a text of its own that is not empty, those returned are the ones that are
no blanks, and where the built-in function scanner has won, the parenthesis stands right behind the
name. The scanner that wins a step is the last one tried in it. -/
structure Partition (set : ScannerSet) (input : Text) (tokens : List Token) : Prop where
  whole : ((trace set input).produced.flatMap fun item => item.token.text) = input
  filled : ∀ item ∈ (trace set input).produced, ∃ raw, item.token.raw = some raw ∧ raw ≠ []
  returned : tokens = ((trace set input).produced.map PlacedToken.token).filter fun token =>
    token.category ≠ .whitespace
  heads : ∀ step ∈ (trace set input).steps, ∀ entry keepCase zone,
    set.entries[step.attempts - 1]? = some entry →
      entry.scanner = BuiltIn.function.scanner keepCase zone → ProducesHead step

theorem partition_of_accepted {t : Tokenizer} {input : Text}
    (covering : ∀ entry ∈ t.scanners.entries, Covering entry.scanner) {tokens : List Token}
    {metrics : Metrics} (accepted : t.run input = .accepted tokens metrics) :
    Partition t.scanners input tokens := by
  have complete := complete_of_accepted accepted
  obtain ⟨whole, filled⟩ := trace_covers covering input none .start complete
  have verdict := LoopAgreement.run_verdict t.scanners input
  rw [show (trace t.scanners input).outcome = _ from accepted] at verdict
  have returned := accepted_tokens verdict
  rw [LoopAgreement.run_produced accepted] at returned
  refine ⟨?_, filled, returned, fun step member entry keepCase zone won function => ?_⟩
  · simpa [joined, List.flatMap_map, trace, Trace.produced] using whole
  · obtain ⟨_, _, _, _, -, passed, taken⟩ := steps_passed complete step member
    exact step_head passed taken won function

/-- The tokens of an accepted run cut the input into parts without a gap. With built-in scanners
only, the tokens returned stand between blanks, and no run ends because a token is empty or does not
fit into the input. -/
theorem run_partitions (t : Tokenizer) (input : Text)
    (covering : ∀ entry ∈ t.scanners.entries, Covering entry.scanner) :
    (∀ tokens metrics, t.run input = .accepted tokens metrics →
      Partition t.scanners input tokens ∧
        (OfBuiltIns t.scanners → Spaced (tokens.map Token.text) input)) ∧
    (OfBuiltIns t.scanners → ∀ e, t.run input = .rejected e → ¬ Misfit e) := by
  refine ⟨fun tokens metrics accepted => ?_, fun own e rejected => run_fits own rejected⟩
  have parts := partition_of_accepted covering accepted
  refine ⟨parts, fun own => ?_⟩
  have blank : ∀ token ∈ (trace t.scanners input).produced.map PlacedToken.token,
      significant token = false → ∀ c ∈ token.text, Unicode.isBlank c = true := by
    intro token listed dropped
    obtain ⟨item, member, rfl⟩ := List.mem_map.mp listed
    obtain ⟨step, taken, produced⟩ := List.mem_flatMap.mp member
    obtain ⟨_, _, _, _, -, passed, same⟩ := steps_passed (complete_of_accepted accepted) step taken
    exact step_blank own passed same item produced dropped
  have spaced := spaced_significant blank
  have whole : joined ((trace t.scanners input).produced.map PlacedToken.token) = input := by
    rw [joined, List.flatMap_map]
    exact parts.whole
  rw [whole] at spaced
  rw [parts.returned]
  exact spaced

/-- A scanner of its own: names behind an at sign. -/
def mention : Scanner where
  category := .custom "mention".toList
  pattern := "@\\w+".toList
  expression := (Pattern.readAnchored "@\\w+".toList).toOption.getD .empty
  route := ((Pattern.readAnchored "@\\w+".toList).toOption.getD .empty).route
  convert := Scanner.keepText
  condition := none
  reads := by rfl
  expands := rfl

theorem mention_covering : Covering mention := by
  refine .custom ((Pattern.read true "@\\w+".toList).toOption.getD .empty) (by rfl) ?_
  intro raw tokens same
  cases same

/-- The tokens of a call with the text of its argument. -/
def call (argument : Token) : List Token :=
  [⟨.function, .symbol (.named "max"), some "max".toList⟩, ⟨.grouping, .symbol .opening, some ['(']⟩,
    argument, ⟨.grouping, .symbol .closing, some [')']⟩]

/-- A call in an input with a scanner of its own in front of the built-in ones, and one with the
built-in ones only. -/
theorem call_partitions :
    (∃ tokens, Partition ⟨⟨"mention".toList, mention⟩ :: ScannerSet.default.entries⟩
      "max( @x )".toList tokens ∧
        tokens = call ⟨.custom "mention".toList, .string "@x".toList, some "@x".toList⟩) ∧
      Spaced ["max".toList, ['('], ['1'], [')']] "max( 1 )".toList := by
  have own : OfBuiltIns .default := built_in_own false .utc
  constructor
  · have covering : ∀ entry ∈ (⟨"mention".toList, mention⟩ :: ScannerSet.default.entries),
        Covering entry.scanner := by
      intro entry member
      rcases List.mem_cons.mp member with rfl | member
      · exact mention_covering
      · exact own.covering entry member
    obtain ⟨metrics, accepted⟩ : ∃ metrics,
        (Tokenizer.mk ⟨⟨"mention".toList, mention⟩ :: ScannerSet.default.entries⟩ .builtIn).run
          "max( @x )".toList = .accepted
            (call ⟨.custom "mention".toList, .string "@x".toList, some "@x".toList⟩) metrics :=
      ⟨⟨4, 2, [("function".toList, 1), ("grouping".toList, 2), ("mention".toList, 1)], 1, 36⟩,
        by decide +kernel⟩
    exact ⟨_, ((run_partitions _ _ covering).1 _ _ accepted).1, rfl⟩
  · have accepted : (Tokenizer.mk .default .builtIn).run "max( 1 )".toList = .accepted
        (call ⟨.numeric, .integer 1, some ['1']⟩)
        ⟨4, 2, [("function".toList, 1), ("grouping".toList, 2), ("numeric".toList, 1)], 1, 35⟩ := by
      decide +kernel
    exact ((run_partitions ⟨.default, .builtIn⟩ _ own.covering).1 _ _ accepted).2 own

end FormulaLexer.Coverage
