import FormulaLexer.Proofs.Coverage
import FormulaLexer.Proofs.Truncation

/-! Tokens scanned again. A token of the standard scanners, cut out of its input, comes back from
its own text alone. What its pattern preferred in the input it still prefers there, and no scanner
that passed the input by wins the text: the patterns that look ahead look for the edge of a word,
and cutting off a word character at that place makes an edge only behind a word. -/
namespace FormulaLexer.Rescan
open Text TextCuts Progress Ways Spelling Letters SearchAgreement Truncation
open Steps LoopSteps BuiltInMatches Coverage

/-! ## What the built-in patterns look at -/

/-- A built-in pattern looks ahead to an edge of a word behind it, or not at all. Apart from
date-times a match that does not end with an edge ends with no word, and apart from identifiers the
shape of the others shows that they end with one. -/
theorem looks_cases (builtIn : BuiltIn) :
    (isLocal builtIn.expression.route = true ∧
      (builtIn = .dateTime ∨ (lasts builtIn.expression.route).all noWord = true)) ∨
    (edged builtIn.expression.route = true ∧
      (builtIn = .identifier ∨ (lasts builtIn.expression.route).all allWord = true)) := by
  cases builtIn <;> decide +kernel

theorem last_of_eq (before : Option Char) (text : Text) :
    lastOf before text = text.getLast?.or before := by
  induction text generalizing before with
  | nil => rfl
  | cons c text ih => rw [lastOf, ih, List.getLast?_cons]; cases text.getLast? <;> rfl

/-- A match has a last character, which belongs to one of the sets that can come last. -/
theorem matches_last {builtIn : BuiltIn} {front back : Text} (way : Matches builtIn front back) :
    ∃ c, lastOf none front = some c ∧ Among (lasts builtIn.expression.route) c := by
  have last := List.getLast?_eq_some_getLast way.filled
  exact ⟨_, by rw [last_of_eq, last]; rfl, spells_lasts way.spells last⟩

/-- The route of identifiers goes on over words. -/
theorem identifier_shape : ∃ set, BuiltIn.identifier.expression.route =
      .sequence (.anchor .textStart) (.sequence (.sequence (.one set) (.star 0 true (.one set)))
        (.anchor edge)) ∧
    ∀ c, Unicode.isWord c = true → set.contains c = true := by
  refine ⟨.ignoringCase (.union .word (.single '.')), by decide +kernel, fun c word => ?_⟩
  exact List.any_eq_true.mpr ⟨c, mem_case_variants c, by simp [CharSet.contains, word]⟩

theorem identifier_word {front back : Text} (way : Matches .identifier front back) :
    isWordAt (lastOf none front) = true := by
  obtain ⟨set, shape, words⟩ := identifier_shape
  rw [Matches, shape, ways_edged (by simp [edged, isLocal])] at way
  generalize front ++ back = text at way
  cases text with
  | nil => simp [beforeEdge, ways, Anchor.holds, Cursor.place] at way
  | cons c text =>
    have star : ways (beforeEdge (.sequence (.anchor .textStart) (.sequence
        (.sequence (.one set) (.star 0 true (.one set))) (.anchor edge)))) ⟨none, c :: text⟩ =
        if set.contains c then starWays true (ways (.one set)) ⟨some c, text⟩ else [] := by
      simp only [beforeEdge, ways, Anchor.holds, Cursor.place, Option.isNone_none, if_true,
        List.flatMap_singleton]
      split <;> simp
    rw [star] at way
    split at way
    · exact star_one_word words way
    · cases way

/-- A match that ends with an edge ends with a word. -/
theorem edged_word {builtIn : BuiltIn} {front back : Text} (way : Matches builtIn front back)
    (ends : edged builtIn.expression.route = true) : isWordAt (lastOf none front) = true := by
  rcases looks_cases builtIn with ⟨looks, -⟩ | ⟨-, rfl | words⟩
  · rw [not_local_of_edged ends] at looks
    cases looks
  · exact identifier_word way
  · obtain ⟨c, last, set, listed, holds⟩ := matches_last way
    rw [last]
    exact all_word_contains (List.all_eq_true.mp words set listed) holds

/-! ## Matches alone -/

/-- What a built-in pattern prefers in a text it prefers in the part that it matches. -/
theorem matches_alone {builtIn : BuiltIn} {front back : Text} (way : Matches builtIn front back) :
    Matches builtIn front [] := by
  rw [Matches, List.append_nil]
  rcases looks_cases builtIn with ⟨looks, -⟩ | ⟨ends, -⟩
  · exact head_extended (ways_extended looks back ⟨none, front⟩) way
  · exact edged_alone ends (edged_word way ends) way

/-- No two of the patterns of dates and of the word for nothing begin alike. -/
theorem null_or_date {text : Text} (filled : text ≠ [])
    (null : Spells BuiltIn.null.expression.route text)
    (date : Spells BuiltIn.dateTime.expression.route text) : False := by
  obtain ⟨c, text, rfl⟩ := List.exists_cons_of_ne_nil filled
  obtain ⟨set, listed, holds⟩ := spells_firsts null (c := c) rfl
  obtain ⟨other, listed', digit⟩ := spells_firsts date (c := c) rfl
  have letters : (firsts BuiltIn.null.expression.route).all fun set =>
      (codes? set).any fun codes => codes.all fun code => !Unicode.decimalDigitRanges.contains code := by
    decide +kernel
  have digits : (firsts BuiltIn.dateTime.expression.route).all (· = .digit) := by decide +kernel
  obtain ⟨codes, lists, none⟩ := (Option.any_eq_true _ _).mp (List.all_eq_true.mp letters set listed)
  have outside := List.all_eq_true.mp none _ (codes_contains lists holds)
  have same := of_decide_eq_true (List.all_eq_true.mp digits other listed')
  subst same
  rw [show Unicode.decimalDigitRanges.contains c.toNat = true from digit] at outside
  cases outside

/-- A pattern without a way through the text has none through the part that another one matches. -/
theorem nothing_alone {builtIn other : BuiltIn} {front back : Text}
    (way : Matches builtIn front back)
    (order : builtIn = .dateTime → edged other.expression.route = true → other = .null)
    (nothing : ways other.expression.route ⟨none, front ++ back⟩ = []) :
    ways other.expression.route ⟨none, front⟩ = [] := by
  rcases looks_cases other with ⟨looks, -⟩ | ⟨ends, -⟩
  · exact none_extended (ways_extended looks back ⟨none, front⟩) nothing
  refine List.eq_nil_iff_forall_not_mem.mpr fun after found => ?_
  obtain ⟨used, word, goesOn⟩ := edged_none ends nothing found
  rcases looks_cases builtIn with ⟨looks, rfl | last⟩ | ⟨edges, -⟩
  · obtain rfl := order rfl ends
    obtain ⟨taken, ⟨whole, -⟩, spells⟩ := ways_spell found
    rw [used, List.append_nil] at whole
    dsimp only at whole
    subst whole
    exact null_or_date way.filled spells way.spells
  · obtain ⟨c, same, set, listed, holds⟩ := matches_last way
    rw [same] at word
    rw [isWordAt, Option.any_some, no_word_contains (List.all_eq_true.mp last set listed) holds] at word
    cases word
  · rw [Matches, ways_edged edges] at way
    have atEnd := (List.mem_filter.mp (List.mem_of_head? way)).2
    rw [at_edge_eq] at atEnd
    dsimp only at atEnd
    rw [word, goesOn] at atEnd
    cases atEnd

/-! ## Scanners in front of the winner -/

/-- The scanners in front of a built-in one. -/
def before (builtIn : BuiltIn) : List BuiltIn := BuiltIn.all.takeWhile (· ≠ builtIn)

/-- A built-in scanner under its key. -/
def entryOf (keepCase : Bool) (zone : LocalZone) (builtIn : BuiltIn) : ScannerEntry :=
  ⟨builtIn.key, builtIn.scanner keepCase zone⟩

theorem key_injective {builtIn other : BuiltIn} (same : builtIn.key = other.key) :
    builtIn = other := by
  have look_up : ∀ builtIn : BuiltIn, BuiltIn.ofKey? builtIn.key = some builtIn := by
    intro builtIn
    cases builtIn <;> rfl
  have found := look_up builtIn
  rw [same, look_up other] at found
  exact (Option.some.inj found).symm

theorem split_before {keepCase : Bool} {zone : LocalZone} {front back : List ScannerEntry}
    {winner : ScannerEntry}
    (split : (ScannerSet.builtIn keepCase zone).entries = front ++ winner :: back) :
    ∃ builtIn, winner = entryOf keepCase zone builtIn ∧
      front = (before builtIn).map (entryOf keepCase zone) := by
  obtain ⟨first, rest, whole, rfl, same⟩ := List.map_eq_append_iff.mp split
  obtain ⟨builtIn, last, rfl, rfl, rfl⟩ := List.map_eq_cons_iff.mp same
  refine ⟨builtIn, rfl, ?_⟩
  have distinct : BuiltIn.all.Nodup := by decide
  rw [whole, List.nodup_append] at distinct
  have passed : ∀ other ∈ first, (other ≠ builtIn) := fun other member same =>
    distinct.2.2 other member builtIn (by simp) same
  rw [before, whole, List.takeWhile_append_of_pos (by simpa using passed)]
  simp [entryOf]

/-- A built-in scanner is the first one where those in front of it pass the text by. -/
theorem first_of_passed {keepCase : Bool} {zone : LocalZone} {builtIn : BuiltIn} {remaining : Text}
    {previous : Option Token}
    (passes : ∀ other ∈ before builtIn,
      (other.scanner keepCase zone).scan remaining previous = .ok none) :
    First (ScannerSet.builtIn keepCase zone).entries remaining previous
      (entryOf keepCase zone builtIn)
      ((before builtIn).length + 1) := by
  obtain ⟨back, split⟩ : ∃ back, BuiltIn.all = before builtIn ++ builtIn :: back := by
    cases builtIn <;> exact ⟨_, rfl⟩
  refine ⟨(before builtIn).map (entryOf keepCase zone), back.map (entryOf keepCase zone), ?_,
    by simp,
    fun entry member => ?_⟩
  · rw [← List.map_cons, ← List.map_append, ← split]
    rfl
  · obtain ⟨other, earlier, rfl⟩ := List.mem_map.mp member
    exact passes other earlier

theorem find_none_iff {builtIn : BuiltIn} {text : Text} :
    builtIn.expression.route.find? text = none ↔ ways builtIn.expression.route ⟨none, text⟩ = [] := by
  rw [find_eq (route_shape builtIn).1 (route_shape builtIn).2.1, Option.map_eq_none_iff,
    List.head?_eq_none_iff]

/-- A scanner that passes a text by has not matched, unless a minus sign was no negation there. -/
theorem scan_passed {builtIn : BuiltIn} {keepCase : Bool} {zone : LocalZone} {text : Text}
    {previous : Option Token}
    (passed : (builtIn.scanner keepCase zone).scan text previous = .ok none) :
    builtIn.expression.route.find? text = none ∨ builtIn = .negate := by
  rcases scan_none_iff.mp passed with nothing | refused
  · exact .inl nothing
  · cases builtIn with
    | negate => exact .inr rfl
    | _ => cases refused

theorem scan_of_nothing {builtIn : BuiltIn} (keepCase : Bool) (zone : LocalZone) {text : Text}
    (previous : Option Token) (nothing : ways builtIn.expression.route ⟨none, text⟩ = []) :
    (builtIn.scanner keepCase zone).scan text previous = .ok none :=
  scan_none_iff.mpr (.inl (find_none_iff.mpr nothing))

/-- Behind negations only a subtraction is written with a minus sign first. -/
theorem minus_only {builtIn : BuiltIn} (later : .negate ∈ before builtIn) {text back : Text}
    (way : Matches builtIn text back) (minus : text.head? = some '-') :
    builtIn = .arithmeticOperator ∧ text = ['-'] := by
  obtain ⟨set, listed, holds⟩ := spells_firsts way.spells minus
  have only : builtIn = .arithmeticOperator := by
    have table : BuiltIn.all.all fun builtIn => builtIn = .arithmeticOperator ||
        !(before builtIn).contains .negate ||
        (firsts builtIn.expression.route).all fun set => !set.contains '-' := by decide +kernel
    have known := List.all_eq_true.mp table builtIn (by cases builtIn <;> decide)
    simp only [Bool.or_eq_true, decide_eq_true_eq, Bool.not_eq_true'] at known
    rcases known with (same | absent) | refused
    · exact same
    · rw [List.contains_iff_mem.mpr later] at absent
      cases absent
    · have outside := List.all_eq_true.mp refused set listed
      rw [holds] at outside
      cases outside
  subst only
  refine ⟨rfl, ?_⟩
  obtain ⟨set, shape⟩ : ∃ set, BuiltIn.arithmeticOperator.expression.route =
      .sequence (.anchor .textStart) (.one set) := ⟨_, rfl⟩
  have spells := way.spells
  rw [shape, spells_anchored_iff] at spells
  obtain ⟨c, -, rfl⟩ := spells_one_iff.mp spells
  cases minus
  rfl

/-- A scanner in front of the winner passes the text of the winner alone by, too. -/
theorem passes_alone {builtIn other : BuiltIn} {keepCase : Bool} {zone : LocalZone}
    {front back : Text}
    {previous : Option Token} (earlier : other ∈ before builtIn) (way : Matches builtIn front back)
    (notMinus : ¬ (builtIn = .arithmeticOperator ∧ front = ['-']))
    (passed : (other.scanner keepCase zone).scan (front ++ back) previous = .ok none) :
    (other.scanner keepCase zone).scan front none = .ok none := by
  refine scan_of_nothing keepCase zone none ?_
  rcases scan_passed passed with nothing | rfl
  · refine nothing_alone way (fun date ends => ?_) (find_none_iff.mp nothing)
    subst date
    have table : (before .dateTime).all fun other =>
        !edged other.expression.route || other = .null := by decide +kernel
    simpa [ends] using List.all_eq_true.mp table other earlier
  · refine List.eq_nil_iff_forall_not_mem.mpr fun after found => notMinus ?_
    obtain ⟨taken, ⟨whole, -⟩, spells⟩ := ways_spell found
    dsimp only at whole
    have filled : taken ≠ [] := by
      intro empty
      have shape := (route_shape .negate).2.2
      rw [nullable_of_spells spells empty] at shape
      cases shape
    obtain ⟨c, taken, rfl⟩ := List.exists_cons_of_ne_nil filled
    obtain ⟨set, listed, holds⟩ := spells_firsts spells (c := c) rfl
    have only : firsts BuiltIn.negate.expression.route = [.ignoringCase (.single '-')] := rfl
    rw [only, List.mem_singleton] at listed
    subst listed
    have code : c.toNat ∈ [0x2d] := codes_contains (by decide +kernel) holds
    obtain rfl : c = '-' := Char.toNat_inj.mp (List.mem_singleton.mp code)
    exact minus_only earlier way (by rw [whole]; rfl)

/-! ## The run over the text of a token -/

/-- A run over a text that its first scanner covers with one token, which is neither a blank nor
opens or closes a group, returns that token. -/
theorem single_run {set : ScannerSet} {input : Text} {winner : ScannerEntry} {attempts : Nat}
    {token : Token} {reached : Position} (first : First set.entries input none winner attempts)
    (scanned : winner.scanner.scan input none = .ok (some [token])) (covers : token.text = input)
    (filled : input ≠ []) (moves : Position.start.advanceText? input = some reached)
    (opens : token.isGrouping .opening = false) (closes : token.isGrouping .closing = false)
    (kept : significant token = true) :
    ∃ metrics, (trace set input).outcome = .accepted [token] metrics := by
  have cut : splitAtByte? (byteSize input) input = some (input, []) := by
    simpa using split_at_end input []
  have laid : place [token] input .start = ⟨[⟨token, .start⟩], .ok ⟨input.length, reached⟩⟩ := by
    simp [place, covers, cut, moves, Except.map]
  have checked : zeroWidthCategory? winner.scanner.category [token] = none := by
    simp [zeroWidthCategory?, Token.isEmpty, covers, filled]
  have step : takeStep set (input ++ []) none .start =
      ⟨some ⟨winner.key, attempts, [⟨token, .start⟩]⟩, .ok ⟨input.length, reached⟩⟩ := by
    simp only [List.append_nil, takeStep, first.accepts scanned, checked, laid]
  have passed : (takeStep set (input ++ []) none .start).outcome = .ok ⟨input.length, reached⟩ := by
    rw [step]
  have course := trace_from_passed filled rfl passed
  simp only [List.append_nil] at course step
  rw [trace, course, step]
  have kept : token.category ≠ .whitespace := of_decide_eq_true kept
  simp [Trace.outcome, traceFrom, Tally.addSteps, Tally.addStep, Tally.addAll, Tally.add,
    Tally.addGrouping, Tally.addToken, opens, closes, kept, Tally.zero]

/-- What a step of the standard scanners has produced: the two tokens of a function head, or one
token with the part of the rest that the pattern of its scanner prefers. -/
theorem step_token {keepCase : Bool} {zone : LocalZone} {remaining : Text} {previous : Option Token}
    {position : Position} {further : Advance} {step : Step} {item : PlacedToken}
    (passed : (takeStep (.builtIn keepCase zone) remaining previous position).outcome = .ok further)
    (taken : (takeStep (.builtIn keepCase zone) remaining previous position).step = some step)
    (member : item ∈ step.produced) (notFunction : item.token.category ≠ .function)
    (notOpening : item.token.isGrouping .opening = false) :
    ∃ builtIn front back value attempts reached,
      First (ScannerSet.builtIn keepCase zone).entries (front ++ back) previous
        (entryOf keepCase zone builtIn) attempts ∧
      Matches builtIn front back ∧ builtIn.convert keepCase zone front = .ok (.value value) ∧
      item.token = ⟨builtIn.category, value, some front⟩ ∧
      position.advanceText? front = some reached := by
  obtain ⟨winner, attempts, tokens, covered, rest, first, scanned, -, same, placed, rfl, -, length,
    moves⟩ := step_passed passed
  rw [taken] at same
  cases same
  obtain ⟨_, _, -, -, -, -, produced⟩ := place_covers placed
  have parts := (step_covers (built_in_own keepCase zone).covering length passed taken).1
  rw [produced] at parts
  have listed : item.token ∈ tokens := by
    rw [← produced]
    exact List.mem_map_of_mem member
  obtain ⟨front, behind, split, -⟩ := first.split
  obtain ⟨builtIn, rfl, -⟩ := split_before split
  change (builtIn.scanner keepCase zone).scan (covered ++ rest) previous = _ at scanned
  cases scan_made scanned with
  | head =>
    simp only [functionHead, List.mem_cons, List.not_mem_nil, or_false] at listed
    rcases listed with same | same
    · exact absurd (by rw [same]) notFunction
    · rw [same] at notOpening
      cases notOpening
  | @value _ front back value _ whole way converts =>
    have same : front = covered := by simpa [Token.text] using parts
    rw [whole] at first
    exact ⟨builtIn, front, back, value, attempts, further.reached, first, way, converts,
      List.mem_singleton.mp listed, by rw [same]; exact moves⟩

/-- A winner among the standard scanners wins the part that it matches, too, unless that is a minus
sign between two operands. -/
theorem first_alone {keepCase : Bool} {zone : LocalZone} {builtIn : BuiltIn} {front back : Text}
    {previous : Option Token} {attempts : Nat}
    (first : First (ScannerSet.builtIn keepCase zone).entries (front ++ back) previous
      (entryOf keepCase zone builtIn) attempts)
    (way : Matches builtIn front back)
    (notMinus : ¬ (builtIn = .arithmeticOperator ∧ front = ['-'])) :
    First (ScannerSet.builtIn keepCase zone).entries front none
      (entryOf keepCase zone builtIn) attempts := by
  obtain ⟨earlier, later, split, count, passes⟩ := first.split
  obtain ⟨same, winner, rfl⟩ := split_before split
  obtain rfl : builtIn = same := key_injective (congrArg ScannerEntry.key winner)
  refine ⟨_, later, split, count, fun entry member => ?_⟩
  obtain ⟨other, listed, rfl⟩ := List.mem_map.mp member
  exact passes_alone listed way notMinus (passes _ member)

/-- A scanner that accepts the last token makes of what it matches what its converter makes of it. -/
theorem scan_converts {keepCase : Bool} {zone : LocalZone} {builtIn : BuiltIn} {front back : Text}
    {previous : Option Token} (way : Matches builtIn front back)
    (accepts : (builtIn.scanner keepCase zone).accepts previous = true) :
    (builtIn.scanner keepCase zone).scan (front ++ back) previous =
      match builtIn.convert keepCase zone front with
      | .ok (.value v) => .ok (some [⟨builtIn.category, v, some front⟩])
      | .ok (.tokens tokens) => .ok (some tokens)
      | .error message => .error ⟨builtIn.category, front, message⟩ := by
  rw [Scanner.scan, show (builtIn.scanner keepCase zone).route = builtIn.expression.route from rfl,
    way.found]
  dsimp only
  rw [if_pos accepts]
  rfl

theorem scan_alone {keepCase : Bool} {zone : LocalZone} {builtIn : BuiltIn} {front back : Text}
    {value : Value} (way : Matches builtIn front back)
    (converts : builtIn.convert keepCase zone front = .ok (.value value)) :
    (builtIn.scanner keepCase zone).scan front none =
      .ok (some [⟨builtIn.category, value, some front⟩]) := by
  have accepts : (builtIn.scanner keepCase zone).accepts none = true := by cases builtIn <;> rfl
  have scanned := scan_converts (matches_alone way) accepts
  rwa [List.append_nil, converts] at scanned

/-- Every token that a run of the standard scanners returns, apart from function heads, from marks
that open or close a group, and from minus signs between two operands, comes back as the only token
of a run over its own text. -/
theorem run_again (preferences : LexicalPreferences) (zone : LocalZone) (input : Text)
    (tokens : List Token) (metrics : Metrics)
    (accepted : (Tokenizer.ofPreferences preferences zone).run input = .accepted tokens metrics)
    (token : Token) (returned : token ∈ tokens) (notFunction : token.category ≠ .function)
    (notGroup : token.isGrouping .opening = false ∧ token.isGrouping .closing = false)
    (notSubtract : ¬ (token.category = .arithmeticOperator ∧ token.value = .symbol .subtract)) :
    ∃ raw again, token.raw = some raw ∧
      (Tokenizer.ofPreferences preferences zone).run raw = .accepted [token] again := by
  have parts := partition_of_accepted (built_in_own preferences.caseSensitive zone).covering
    accepted
  rw [parts.returned] at returned
  obtain ⟨listed, kept⟩ := List.mem_filter.mp returned
  obtain ⟨item, produced, rfl⟩ := List.mem_map.mp listed
  obtain ⟨step, taken, member⟩ := List.mem_flatMap.mp produced
  obtain ⟨remaining, previous, position, further, begins, passed, same⟩ :=
    steps_passed (complete_of_accepted accepted) step taken
  obtain ⟨builtIn, front, back, value, attempts, reached, first, way, converts, shape, moves⟩ :=
    step_token passed same member notFunction notGroup.1
  rw [shape] at kept notGroup notSubtract ⊢
  have notMinus : ¬ (builtIn = .arithmeticOperator ∧ front = ['-']) := by
    rintro ⟨rfl, rfl⟩
    cases converts
    exact notSubtract ⟨rfl, rfl⟩
  obtain ⟨again, outcome⟩ := single_run (first_alone first way notMinus) (scan_alone way converts) rfl
    way.filled (advance_text_behind begins moves) notGroup.1 notGroup.2 kept
  exact ⟨front, again, rfl, outcome⟩

/-- The word between two operands, with the blank behind it that its pattern takes in. -/
theorem and_again : ∃ raw again, some "and ".toList = some raw ∧
    (Tokenizer.ofPreferences .builtIn).run raw =
      .accepted [⟨.booleanOperator, .symbol (.named "and"), some "and ".toList⟩] again := by
  have accepted : (Tokenizer.ofPreferences .builtIn).run "x and 2".toList = .accepted
      [⟨.identifier, .string ['x'], some ['x']⟩,
        ⟨.booleanOperator, .symbol (.named "and"), some "and ".toList⟩,
        ⟨.numeric, .integer 2, some ['2']⟩]
      ⟨3, 1, [("boolean_operator".toList, 1), ("identifier".toList, 1), ("numeric".toList, 1)], 0,
        32⟩ := by
    decide +kernel
  exact run_again .builtIn .utc _ _ _ accepted ⟨.booleanOperator, .symbol (.named "and"),
    some "and ".toList⟩ (by decide) (by decide) (by decide) (by decide)

end FormulaLexer.Rescan
