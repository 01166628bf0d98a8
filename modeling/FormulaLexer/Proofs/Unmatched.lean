import FormulaLexer.Proofs.Rescan

/-! The texts at which the standard scanners give up. No scanner matches at a quote that is not
closed, at an exclamation mark in front of anything but an equals sign, at points without a word
behind them, and at a character that begins no token; everywhere else one of them matches that has
no condition, so that neither the last token nor the case of identifiers plays a part. -/
namespace FormulaLexer.Unmatched
open Unicode Ways Spelling Letters Truncation Steps BuiltInMatches Coverage Rescan

/-! ## Texts without a token -/

/-- The characters that are tokens by themselves, whatever stands behind them. -/
def marks : List Char := "^+-*/%|&(),[]<>=".toList

/-- The characters other than blanks and those of words that can begin a token. -/
def signs : List Char := ".\"'!".toList ++ marks

/-- The longest part at the front that is made of word characters and points. -/
def nameRun (text : Text) : Text := text.takeWhile fun c => isWord c || c = '.'

/-- The texts whose beginning is not in the language. -/
inductive Stuck : Text → Prop where
  | unclosed {quote : Char} {rest : Text} (kind : quote = '"' ∨ quote = '\'')
      (never : quote ∉ rest) : Stuck (quote :: rest)
  | bang {rest : Text} (alone : rest.head? ≠ some '=') : Stuck ('!' :: rest)
  | points {rest : Text} (wordless : ∀ c ∈ nameRun ('.' :: rest), isWord c = false) :
      Stuck ('.' :: rest)
  | foreign {c : Char} {rest : Text} (blank : isBlank c = false) (word : isWord c = false)
      (sign : c ∉ signs) : Stuck (c :: rest)

/-! ## First characters -/

/-- A way of a built-in pattern begins with the first character of the text. -/
theorem way_begins {builtIn : BuiltIn} {c : Char} {rest : Text} {after : Cursor}
    (way : after ∈ ways builtIn.expression.route ⟨none, c :: rest⟩) :
    ∃ taken, rest = taken ++ after.rest ∧ Spells builtIn.expression.route (c :: taken) := by
  obtain ⟨taken, ⟨whole, -⟩, spells⟩ := ways_spell way
  cases taken with
  | nil =>
    have filled := (route_shape builtIn).2.2
    rw [nullable_of_spells spells rfl] at filled
    cases filled
  | cons d taken =>
    obtain ⟨rfl, rest⟩ := List.cons.inj whole
    exact ⟨taken, rest, spells⟩

/-- The built-in patterns that can begin with a character. -/
def beginning (c : Char) : List BuiltIn :=
  BuiltIn.all.filter fun builtIn => (firsts builtIn.expression.route).any (·.contains c)

theorem nothing_unless_beginning {builtIn : BuiltIn} {c : Char} (rest : Text)
    (absent : builtIn ∉ beginning c) : ways builtIn.expression.route ⟨none, c :: rest⟩ = [] := by
  refine List.eq_nil_iff_forall_not_mem.mpr fun after way => absent ?_
  obtain ⟨taken, -, spells⟩ := way_begins way
  have all : builtIn ∈ BuiltIn.all := by cases builtIn <;> decide
  obtain ⟨set, listed, holds⟩ := spells_firsts spells (c := c) rfl
  exact List.mem_filter.mpr ⟨all, List.any_eq_true.mpr ⟨set, listed, holds⟩⟩

/-- The patterns that begin with a sign other than a mark, and those that begin with a minus sign. -/
theorem sign_beginnings : beginning '"' = [.doubleQuotedString] ∧
    beginning '\'' = [.singleQuotedString] ∧ beginning '!' = [.comparisonOperator] ∧
    beginning '.' = [.numeric, .identifier] ∧ beginning '-' = [.negate, .arithmeticOperator] := by
  decide +kernel

/-- The characters of names, up to case. -/
def nameSet : CharSet := .ignoringCase (.union .word (.single '.'))

theorem name_set_contains (c : Char) : nameSet.contains c = (isWord c || c = '.') := by
  have own : (isWord c || c = '.') = true → nameSet.contains c = true := fun inside =>
    List.any_eq_true.mpr ⟨c, mem_case_variants c, by
      rcases Bool.or_eq_true_iff.mp inside with word | point
      · simp [CharSet.contains, word]
      · rw [of_decide_eq_true point]
        rfl⟩
  have only : nameSet.contains c = true → (isWord c || c = '.') = true := by
    intro member
    cases word : isWord c with
    | true => rfl
    | false =>
      obtain ⟨d, variant, inside⟩ := List.any_eq_true.mp member
      rw [variant_of_no_word word variant, CharSet.contains, Bool.or_eq_true] at inside
      rcases inside with inside | point
      · rw [show isWord c = true from inside] at word
        cases word
      · have code := codes_contains (show codes? (.single '.') = some ['.'.toNat] from rfl) point
        simpa using Char.toNat_inj.mp (List.mem_singleton.mp code)
  exact Bool.eq_iff_iff.mpr ⟨only, own⟩

/-- Whether the description of a set shows that it holds blanks, word characters and signs only. -/
def known (set : CharSet) : Bool :=
  set = .blank || set = nameSet || allWord set ||
    (codes? set).any fun codes => codes.all fun code =>
      wordRanges.contains code || signs.any (·.toNat = code)

theorem known_contains {set : CharSet} (knows : known set = true) {c : Char}
    (member : set.contains c = true) : isBlank c = true ∨ isWord c = true ∨ c ∈ signs := by
  simp only [known, Bool.or_eq_true, decide_eq_true_eq] at knows
  rcases knows with ((rfl | rfl) | words) | listed
  · exact .inl member
  · rw [name_set_contains, Bool.or_eq_true, decide_eq_true_eq] at member
    rcases member with word | rfl
    · exact .inr (.inl word)
    · exact .inr (.inr (by decide))
  · exact .inr (.inl (all_word_contains words member))
  · obtain ⟨codes, lists, all⟩ := (Option.any_eq_true _ _).mp listed
    rcases Bool.or_eq_true_iff.mp (List.all_eq_true.mp all _ (codes_contains lists member)) with
      word | sign
    · exact .inr (.inl word)
    · obtain ⟨d, sign, same⟩ := List.any_eq_true.mp sign
      exact .inr (.inr (Char.toNat_inj.mp (of_decide_eq_true same) ▸ sign))

/-- No pattern begins with a character that is no blank, no sign, and in no word. -/
theorem none_beginning {c : Char} (blank : isBlank c = false) (word : isWord c = false)
    (sign : c ∉ signs) (builtIn : BuiltIn) : builtIn ∉ beginning c := by
  intro listed
  obtain ⟨set, first, member⟩ := List.any_eq_true.mp (List.mem_filter.mp listed).2
  have knows : (firsts builtIn.expression.route).all known = true := by
    cases builtIn <;> decide +kernel
  rcases known_contains (List.all_eq_true.mp knows set first) member with blank' | word' | sign'
  · rw [blank] at blank'
    cases blank'
  · rw [word] at word'
    cases word'
  · exact sign sign'

/-! ## Fronts of texts -/

/-- Whether a route looks at the start of the text only, and not at its end. -/
def fronted : Route → Bool
  | .sequence (.anchor .textStart) body => unanchored body
  | _ => false

/-- What a route without anchors of its own spells it consumes at the front of a text. -/
theorem fronted_way {route : Route} (front : fronted route = true) (moves : productive route = true)
    {text : Text} (spells : Spells route text) (back : Text) :
    ⟨lastOf none text, back⟩ ∈ ways route ⟨none, text ++ back⟩ := by
  unfold fronted at front
  split at front
  · next body =>
    have way := way_of_spells (spells_anchored_iff.mp spells) front moves none back
    have opened : ways (.sequence (.anchor .textStart) body) ⟨none, text ++ back⟩ =
        ways body ⟨none, text ++ back⟩ := List.flatMap_singleton ..
    rwa [opened]
  · cases front

/-- The scanners whose patterns do not look at what stands behind a match. -/
def edgeless : List BuiltIn :=
  [.whitespace, .doubleQuotedString, .singleQuotedString, .negate, .booleanOperator,
    .arithmeticOperator, .grouping, .access, .comparisonOperator, .function]

theorem edgeless_fronted {builtIn : BuiltIn} (free : builtIn ∈ edgeless) :
    fronted builtIn.expression.route = true := by
  have all : edgeless.all (fun builtIn => fronted builtIn.expression.route) = true := by
    decide +kernel
  exact List.all_eq_true.mp all builtIn free

/-- What a pattern without anchors of its own spells it matches at the front of a text. -/
theorem front_way {builtIn : BuiltIn} (free : builtIn ∈ edgeless) {text : Text}
    (spells : Spells builtIn.expression.route text) (back : Text) :
    ways builtIn.expression.route ⟨none, text ++ back⟩ ≠ [] :=
  List.ne_nil_of_mem (fronted_way (edgeless_fronted free) (route_shape builtIn).2.1 spells back)

/-! ## Names -/

theorem identifier_route : BuiltIn.identifier.expression.route =
    .sequence (.anchor .textStart) (.sequence (.sequence (.one nameSet)
      (.star 0 true (.one nameSet))) (.anchor edge)) := by
  decide +kernel

theorem name_run_eq (text : Text) : nameRun text = text.takeWhile nameSet.contains := by
  rw [nameRun, funext name_set_contains]

theorem word_in_name_set {c : Char} (word : isWord c = true) : nameSet.contains c = true := by
  rw [name_set_contains, word, Bool.true_or]

/-- A character of names in front is in the run, before the run of the rest. -/
theorem name_run_cons {c : Char} (name : nameSet.contains c = true) (rest : Text) :
    nameRun (c :: rest) = c :: nameRun rest := by
  rw [name_run_eq, name_run_eq, List.takeWhile_cons_of_pos name]

theorem head_in_name_run {c : Char} (word : isWord c = true) (rest : Text) :
    c ∈ nameRun (c :: rest) := by
  rw [name_run_cons (word_in_name_set word)]
  exact List.mem_cons_self

/-- A run with a word in it begins with a character behind which a repetition over names comes to an
edge. -/
theorem name_edge {c : Char} {text : Text} (inside : c ∈ nameRun text) (word : isWord c = true) :
    ∃ d rest, text = d :: rest ∧ nameSet.contains d = true ∧
      ∃ after ∈ starWays true (ways (.one nameSet)) ⟨some d, rest⟩, atEdge after = true := by
  induction text with
  | nil => cases inside
  | cons d text ih =>
    rw [name_run_eq, List.takeWhile_cons] at inside
    split at inside
    · next first =>
      refine ⟨d, text, rfl, first, ?_⟩
      rcases List.mem_cons.mp inside with rfl | later
      · exact star_one_edge (fun _ => word_in_name_set) word
      · obtain ⟨e, rest, rfl, second, after, way, ends⟩ := ih (name_run_eq text ▸ later)
        refine ⟨after, ?_, ends⟩
        rw [star_one_cons, if_pos second]
        exact List.mem_append_left _ way
    · cases inside

/-- An identifier takes characters of names only. -/
theorem identifier_takes_names {taken : Text}
    (spells : Spells BuiltIn.identifier.expression.route taken) :
    ∀ c ∈ taken, nameSet.contains c = true := by
  intro c member
  obtain ⟨set, listed, holds⟩ := spells_sets spells c member
  have only : sets BuiltIn.identifier.expression.route = [nameSet, nameSet] := by
    rw [identifier_route]
    rfl
  simp only [only, List.mem_cons, List.not_mem_nil, or_false, or_self] at listed
  exact listed ▸ holds

/-- In and behind a run without a word there is no edge. -/
theorem no_edge_of_wordless {text taken : Text} {after : Cursor}
    (wordless : ∀ c ∈ nameRun text, isWord c = false) (passes : Passes ⟨none, text⟩ taken after)
    (inside : ∀ c ∈ taken, nameSet.contains c = true) : atEdge after = false := by
  obtain ⟨whole, last⟩ := passes
  dsimp only at whole last
  rw [whole, name_run_eq, List.takeWhile_append_of_pos inside] at wordless
  have front : isWordAt after.before = false := by
    rw [last, last_of_eq, Option.or_none, isWordAt]
    cases same : taken.getLast? with
    | none => rfl
    | some c => exact wordless c (List.mem_append_left _ (List.mem_of_getLast? same))
  have back : isWordAt after.rest.head? = false := by
    cases same : after.rest with
    | nil => rfl
    | cons c rest =>
      refine Bool.eq_false_iff.mpr fun word => ?_
      have outside := wordless c (List.mem_append_right _ (by
        rw [same, ← name_run_eq]
        exact head_in_name_run word rest))
      rw [show isWord c = true from word] at outside
      cases outside
  rw [at_edge_eq, front, back]
  rfl

/-- Identifiers match where the run of name characters at the front has a word in it. -/
theorem identifier_nothing_iff (text : Text) :
    ways BuiltIn.identifier.expression.route ⟨none, text⟩ = [] ↔
      ∀ c ∈ nameRun text, isWord c = false := by
  have edges : edged BuiltIn.identifier.expression.route = true := by decide +kernel
  constructor
  · intro nothing c inside
    refine Bool.eq_false_iff.mpr fun word => ?_
    obtain ⟨d, rest, rfl, first, after, way, ends⟩ := name_edge inside word
    refine absurd nothing (List.ne_nil_of_mem (a := after) ?_)
    rw [ways_edged edges, List.mem_filter]
    refine ⟨?_, ends⟩
    simpa [identifier_route, beforeEdge, ways, Anchor.holds, Cursor.place, first] using way
  · intro wordless
    refine List.eq_nil_iff_forall_not_mem.mpr fun after way => ?_
    obtain ⟨taken, passes, spells⟩ := ways_spell way
    have outside := no_edge_of_wordless wordless passes (identifier_takes_names spells)
    rw [ways_edged edges] at way
    rw [(List.mem_filter.mp way).2] at outside
    cases outside

/-- A number that begins with a point goes on with a digit. -/
theorem point_digit {taken : Text} (spells : Spells BuiltIn.numeric.expression.route ('.' :: taken)) :
    ∃ c others, taken = c :: others ∧ isWord c = true := by
  obtain ⟨c, others, rfl, set, listed, member⟩ := spells_goes_on spells (by decide +kernel)
  have digits : (firsts (behind '.' BuiltIn.numeric.expression.route)).all fun set =>
      set = .digit || set = .none := by decide +kernel
  have kinds := List.all_eq_true.mp digits set listed
  rw [Bool.or_eq_true, decide_eq_true_eq, decide_eq_true_eq] at kinds
  rcases kinds with rfl | rfl
  · exact ⟨c, others, rfl, word_of_digit member⟩
  · cases member

/-- What follows a character is listed where all sets that can follow it are. -/
theorem goes_on_with {route : Route} {c : Char} {rest : Text} (codes : List Nat)
    (spells : Spells route (c :: rest)) (goesOn : nullable (behind c route) = false)
    (lists : ((firsts (behind c route)).all fun set =>
      set = .none || codes? set = some codes) = true) :
    ∃ d others, rest = d :: others ∧ d.toNat ∈ codes := by
  obtain ⟨d, others, rfl, set, listed, member⟩ := spells_goes_on spells goesOn
  have kinds := List.all_eq_true.mp lists set listed
  rw [Bool.or_eq_true, decide_eq_true_eq, decide_eq_true_eq] at kinds
  rcases kinds with rfl | lists
  · cases member
  · exact ⟨d, others, rfl, codes_contains lists member⟩

/-- An operator that begins with an exclamation mark goes on with an equals sign. -/
theorem bang_equals {taken : Text}
    (spells : Spells BuiltIn.comparisonOperator.expression.route ('!' :: taken)) :
    ∃ others, taken = '=' :: others := by
  obtain ⟨c, others, rfl, code⟩ :=
    goes_on_with ['='.toNat] spells (by decide +kernel) (by decide +kernel)
  exact ⟨others, Char.toNat_inj.mp (List.mem_singleton.mp code) ▸ rfl⟩

/-! ## Strings -/

/-- The scanners of strings with the quotes around them. -/
inductive Quotes : BuiltIn → Char → Prop where
  | double : Quotes .doubleQuotedString '"'
  | single : Quotes .singleQuotedString '\''

/-- The set of a mark that is written literally, such as a quote. -/
def quoteSet (quote : Char) : CharSet := .ignoringCase (.single quote)

theorem Quotes.route {builtIn : BuiltIn} {quote : Char} (kind : Quotes builtIn quote) :
    builtIn.expression.route = .sequence (.anchor .textStart) (.sequence (.one (quoteSet quote))
      (.sequence (.star 0 true (.one (.complement (quoteSet quote)))) (.one (quoteSet quote)))) := by
  cases kind <;> decide +kernel

/-- Whether a mark is the only character of its set. -/
def Caseless (mark : Char) : Prop := codes? (quoteSet mark) = some [mark.toNat]

instance (mark : Char) : Decidable (Caseless mark) :=
  inferInstanceAs (Decidable (codes? (quoteSet mark) = some [mark.toNat]))

theorem Caseless.contains {mark : Char} (alone : Caseless mark) (c : Char) :
    (quoteSet mark).contains c = true ↔ c = mark := by
  constructor
  · exact fun member => Char.toNat_inj.mp (List.mem_singleton.mp (codes_contains alone member))
  · rintro rfl
    exact List.any_eq_true.mpr ⟨c, mem_case_variants c, by simp [CharSet.single, CharSet.contains]⟩

theorem Caseless.spells_iff {mark : Char} (alone : Caseless mark) {text : Text} :
    Spells (.one (quoteSet mark)) text ↔ text = [mark] := by
  rw [spells_one_iff]
  constructor
  · rintro ⟨c, member, rfl⟩
    rw [(alone.contains c).mp member]
  · rintro rfl
    exact ⟨mark, (alone.contains mark).mpr rfl, rfl⟩

/-- Marks that have no other case. -/
def caseless : List Char := "\"'(.-0".toList

theorem caseless_alone : ∀ mark ∈ caseless, Caseless mark := forall_of_all (by decide +kernel)

theorem quote_set_contains {mark : Char} (alone : mark ∈ caseless) (c : Char) :
    (quoteSet mark).contains c = true ↔ c = mark :=
  (caseless_alone mark alone).contains c

theorem spells_mark_iff {mark : Char} (alone : mark ∈ caseless) {text : Text} :
    Spells (.one (quoteSet mark)) text ↔ text = [mark] :=
  (caseless_alone mark alone).spells_iff

theorem Quotes.alone {builtIn : BuiltIn} {quote : Char} (kind : Quotes builtIn quote) :
    quote ∈ caseless := by
  cases kind <;> decide

theorem Quotes.contains {builtIn : BuiltIn} {quote : Char} (kind : Quotes builtIn quote) (c : Char) :
    (quoteSet quote).contains c = true ↔ c = quote :=
  quote_set_contains kind.alone c

/-- A quote is closed by another one. -/
theorem Quotes.closed {builtIn : BuiltIn} {quote : Char} (kind : Quotes builtIn quote) {taken : Text}
    (spells : Spells builtIn.expression.route (quote :: taken)) : quote ∈ taken := by
  obtain ⟨c, others, whole, -⟩ := spells_goes_on spells (by cases kind <;> decide +kernel)
  have filled : taken ≠ [] := by simp [whole]
  have last := List.getLast?_eq_some_getLast filled
  obtain ⟨set, listed, member⟩ := spells_lasts (spells_cons.mp spells) last
  have marks : (lasts (behind quote builtIn.expression.route)).all fun set =>
      set = quoteSet quote || set = .none := by
    cases kind <;> decide +kernel
  have kinds := List.all_eq_true.mp marks set listed
  rw [Bool.or_eq_true, decide_eq_true_eq, decide_eq_true_eq] at kinds
  rcases kinds with rfl | rfl
  · exact (kind.contains _).mp member ▸ List.getLast_mem filled
  · cases member

/-- What stands between two quotes is a string. -/
theorem Quotes.spells {builtIn : BuiltIn} {quote : Char} (kind : Quotes builtIn quote) {inner : Text}
    (inside : quote ∉ inner) : Spells builtIn.expression.route (quote :: (inner ++ [quote])) := by
  have mark := (spells_mark_iff kind.alone).mpr rfl
  have others : ∀ c ∈ inner, (CharSet.complement (quoteSet quote)).contains c = true := by
    intro c member
    rw [CharSet.contains, Bool.not_eq_true', Bool.eq_false_iff]
    exact fun same => inside ((kind.contains c).mp same ▸ member)
  rw [kind.route, spells_anchored_iff]
  exact .sequence mark (.sequence (spells_star_one others) mark)

/-- A string is text without its quote between two of them. -/
theorem Quotes.around {builtIn : BuiltIn} {quote : Char} (kind : Quotes builtIn quote) {raw : Text}
    (spells : Spells builtIn.expression.route raw) :
    ∃ inner, raw = quote :: (inner ++ [quote]) ∧ quote ∉ inner := by
  rw [kind.route, spells_anchored_iff] at spells
  obtain ⟨opening, rest, opens, enclosed, rfl⟩ := spells_sequence_iff.mp spells
  obtain ⟨inner, closing, between, closes, rfl⟩ := spells_sequence_iff.mp enclosed
  obtain rfl := (spells_mark_iff kind.alone).mp opens
  obtain rfl := (spells_mark_iff kind.alone).mp closes
  refine ⟨inner, rfl, fun member => ?_⟩
  obtain ⟨set, listed, holds⟩ := spells_sets between quote member
  rw [List.mem_singleton.mp listed, CharSet.contains, (kind.contains quote).mpr rfl] at holds
  cases holds

/-! ## Where no scanner matches -/

/-- Only strings begin with a quote, and they do with the quote of their own kind. -/
theorem quotes_of_beginning {builtIn : BuiltIn} {quote : Char} (kind : quote = '"' ∨ quote = '\'')
    (begins : builtIn ∈ beginning quote) : Quotes builtIn quote := by
  obtain ⟨double, single, -⟩ := sign_beginnings
  rcases kind with rfl | rfl
  · rw [double] at begins
    exact List.mem_singleton.mp begins ▸ .double
  · rw [single] at begins
    exact List.mem_singleton.mp begins ▸ .single

theorem unclosed_nothing {builtIn : BuiltIn} {quote : Char} (quotes : Quotes builtIn quote)
    {rest : Text} (never : quote ∉ rest) :
    ways builtIn.expression.route ⟨none, quote :: rest⟩ = [] := by
  refine List.eq_nil_iff_forall_not_mem.mpr fun after way => never ?_
  obtain ⟨taken, rfl, spells⟩ := way_begins way
  exact List.mem_append_left _ (quotes.closed spells)

theorem bang_nothing {rest : Text} (alone : rest.head? ≠ some '=') :
    ways BuiltIn.comparisonOperator.expression.route ⟨none, '!' :: rest⟩ = [] := by
  refine List.eq_nil_iff_forall_not_mem.mpr fun after way => alone ?_
  obtain ⟨taken, rfl, spells⟩ := way_begins way
  obtain ⟨others, rfl⟩ := bang_equals spells
  rfl

/-- The digit behind the point of a number would be in the run. -/
theorem points_nothing {rest : Text} (wordless : ∀ c ∈ nameRun ('.' :: rest), isWord c = false) :
    ways BuiltIn.numeric.expression.route ⟨none, '.' :: rest⟩ = [] := by
  refine List.eq_nil_iff_forall_not_mem.mpr fun after way => ?_
  obtain ⟨taken, rfl, spells⟩ := way_begins way
  obtain ⟨c, others, rfl, word⟩ := point_digit spells
  have point : nameSet.contains '.' = true := by simp [name_set_contains]
  have inside : c ∈ nameRun ('.' :: (c :: others ++ after.rest)) := by
    rw [name_run_cons point]
    exact List.mem_cons_of_mem _ (head_in_name_run word _)
  rw [wordless c inside] at word
  cases word

theorem stuck_nothing {text : Text} (stuck : Stuck text) (builtIn : BuiltIn) :
    ways builtIn.expression.route ⟨none, text⟩ = [] := by
  obtain ⟨-, -, bang, point, -⟩ := sign_beginnings
  cases stuck with
  | foreign blank word sign =>
    exact nothing_unless_beginning _ (none_beginning blank word sign builtIn)
  | @unclosed quote rest kind never =>
    by_cases begins : builtIn ∈ beginning quote
    · exact unclosed_nothing (quotes_of_beginning kind begins) never
    · exact nothing_unless_beginning _ begins
  | @bang rest alone =>
    by_cases begins : builtIn ∈ beginning '!'
    · rw [bang, List.mem_singleton] at begins
      exact begins ▸ bang_nothing alone
    · exact nothing_unless_beginning _ begins
  | @points rest wordless =>
    by_cases begins : builtIn ∈ beginning '.'
    · rw [point, List.mem_cons, List.mem_singleton] at begins
      rcases begins with rfl | rfl
      · exact points_nothing wordless
      · exact (identifier_nothing_iff _).mpr wordless
    · exact nothing_unless_beginning _ begins

/-! ## Where a scanner matches -/

/-- A quote that no string begins with is not closed. -/
theorem Quotes.never {builtIn : BuiltIn} {quote : Char} (kind : Quotes builtIn quote) {rest : Text}
    (nothing : ways builtIn.expression.route ⟨none, quote :: rest⟩ = []) : quote ∉ rest := by
  intro closed
  obtain ⟨inner, back, rfl, inside⟩ := List.eq_append_cons_of_mem closed
  have way := front_way (by cases kind <;> decide) (kind.spells inside) back
  simp [nothing] at way

/-- Each mark is a token of a scanner without a condition. -/
theorem mark_way {c : Char} (mark : c ∈ marks) (rest : Text) : ∃ builtIn : BuiltIn,
    builtIn ≠ .negate ∧ ways builtIn.expression.route ⟨none, c :: rest⟩ ≠ [] := by
  have matched : marks.all (fun c => [BuiltIn.arithmeticOperator, .grouping, .access,
      .comparisonOperator].any fun builtIn => decide (Spells builtIn.expression.route [c])) = true := by
    decide +kernel
  obtain ⟨builtIn, listed, spells⟩ := List.any_eq_true.mp (List.all_eq_true.mp matched c mark)
  have plain : ∀ builtIn ∈ [BuiltIn.arithmeticOperator, .grouping, .access, .comparisonOperator],
      builtIn ≠ .negate ∧ builtIn ∈ edgeless := by
    decide
  obtain ⟨other, free⟩ := plain builtIn listed
  exact ⟨builtIn, other, front_way free (of_decide_eq_true spells) rest⟩

/-- Where no scanner without a condition matches, the beginning of the text is not in the language. -/
theorem stuck_of_nothing {c : Char} {rest : Text} (nothing : ∀ builtIn : BuiltIn, builtIn ≠ .negate →
    ways builtIn.expression.route ⟨none, c :: rest⟩ = []) : Stuck (c :: rest) := by
  by_cases blank : isBlank c = true
  · have single : Spells (.one .blank) [c] := .one blank
    have spells : Spells BuiltIn.whitespace.expression.route [c] :=
      .sequence .anchor (.sequence single .done)
    exact absurd (nothing .whitespace (by decide)) (front_way (by decide) spells rest)
  have wordless := (identifier_nothing_iff _).mp (nothing .identifier (by decide))
  by_cases word : isWord c = true
  · rw [wordless c (head_in_name_run word rest)] at word
    cases word
  by_cases sign : c ∈ signs
  · rcases List.mem_append.mp sign with special | mark
    · rcases (by simpa using special : c = '.' ∨ c = '"' ∨ c = '\'' ∨ c = '!') with
        rfl | rfl | rfl | rfl
      · exact .points wordless
      · exact .unclosed (.inl rfl) (Quotes.double.never (nothing _ (by decide)))
      · exact .unclosed (.inr rfl) (Quotes.single.never (nothing _ (by decide)))
      · refine .bang fun head => ?_
        obtain ⟨rest, rfl⟩ : ∃ others, rest = '=' :: others := by
          cases rest <;> simp_all
        have spells : Spells BuiltIn.comparisonOperator.expression.route "!=".toList := by
          decide +kernel
        exact absurd (nothing .comparisonOperator (by decide))
          (front_way (by decide) spells rest)
    · obtain ⟨builtIn, other, way⟩ := mark_way mark rest
      exact absurd (nothing builtIn other) way
  · exact .foreign (by simpa using blank) (by simpa using word) sign

/-! ## Steps -/

/-- All standard scanners pass a text by exactly if its beginning is not in the language. -/
theorem unmatched_iff (keepCase : Bool) (zone : LocalZone) (c : Char) (rest : Text)
    (previous : Option Token) :
    acceptFirst (c :: rest) previous 0 (ScannerSet.builtIn keepCase zone).entries = .unmatched ↔
      Stuck (c :: rest) := by
  constructor
  · intro unmatched
    obtain ⟨-, passes⟩ | ⟨_, _, -, ⟨e, -, refused⟩ | ⟨tokens, -, accepted⟩⟩ :=
      accept_first_cases (ScannerSet.builtIn keepCase zone).entries (c :: rest) previous
    · refine stuck_of_nothing fun builtIn other => ?_
      have listed : entryOf keepCase zone builtIn ∈ (ScannerSet.builtIn keepCase zone).entries :=
        List.mem_map_of_mem (by cases builtIn <;> decide)
      rcases scan_passed (passes _ listed) with nothing | negate
      · exact find_none_iff.mp nothing
      · exact absurd negate other
    · rw [refused] at unmatched
      cases unmatched
    · rw [accepted] at unmatched
      cases unmatched
  · intro stuck
    have passes : ∀ entry ∈ (ScannerSet.builtIn keepCase zone).entries,
        entry.scanner.scan (c :: rest) previous = .ok none := by
      intro entry member
      obtain ⟨builtIn, -, rfl⟩ := List.mem_map.mp member
      exact scan_of_nothing keepCase zone previous (stuck_nothing stuck builtIn)
    rw [← List.append_nil (ScannerSet.builtIn keepCase zone).entries, accept_first_skip 0 passes]
    rfl

/-- A step of the standard scanners fails with a detail unless all of them pass the text by. -/
theorem unmatched_of_failed {keepCase : Bool} {zone : LocalZone} {remaining : Text}
    {previous : Option Token} {position place : Position} {shown : Text}
    (failed : (takeStep (.builtIn keepCase zone) remaining previous position).outcome =
      .error (.failed (.parse shown place none))) :
    acceptFirst remaining previous 0 (ScannerSet.builtIn keepCase zone).entries = .unmatched := by
  obtain ⟨unmatched, -⟩ | ⟨winner, _, first, ⟨e, -, refused⟩ | ⟨tokens, scanned, accepted⟩⟩ :=
    accept_first_cases (ScannerSet.builtIn keepCase zone).entries remaining previous
  · exact unmatched
  · simp [takeStep, refused, TokenizerError.parseAt] at failed
  · -- the tokens lie on the text, so laying them down does not fail
    obtain ⟨⟨back, rfl⟩, -⟩ := scan_covers ((built_in_own keepCase zone).covering winner first.mem)
      scanned
    simp only [takeStep, accepted] at failed
    split at failed
    · simp at failed
    · rcases place_aligned tokens back position with ⟨further, placed⟩ | overflow
      · simp [placed] at failed
      · simp [overflow] at failed

/-- A step of the standard scanners over a text that is not empty fails without a detail, no scanner
having accepted, exactly if the beginning of the text is not in the language: a quote that is never
closed, an exclamation mark without an equals sign, points without a word, or a character that is
neither a blank nor in words nor a sign. Neither the case of identifiers nor the last token nor the
position plays a part. -/
theorem fails_iff_stuck (keepCase : Bool) (zone : LocalZone) (c : Char) (rest : Text)
    (previous : Option Token) (position : Position) :
    (acceptFirst (c :: rest) previous 0 (ScannerSet.builtIn keepCase zone).entries = .unmatched ↔
        Stuck (c :: rest)) ∧
      ((takeStep (.builtIn keepCase zone) (c :: rest) previous position).outcome =
          .error (.failed (.parseAt (c :: rest) position none)) ↔ Stuck (c :: rest)) ∧
      ((∃ shown place, (takeStep (.builtIn keepCase zone) (c :: rest) previous position).outcome =
          .error (.failed (.parse shown place none))) ↔ Stuck (c :: rest)) := by
  have matched := unmatched_iff keepCase zone c rest previous
  have fails : Stuck (c :: rest) → (takeStep (.builtIn keepCase zone) (c :: rest) previous
      position).outcome = .error (.failed (.parseAt (c :: rest) position none)) := by
    intro stuck
    rw [takeStep, matched.mpr stuck]
  refine ⟨matched, ⟨fun failed => ?_, fails⟩, ⟨?_, fun stuck => ⟨_, _, fails stuck⟩⟩⟩
  · exact matched.mp (unmatched_of_failed failed)
  · rintro ⟨shown, place, failed⟩
    exact matched.mp (unmatched_of_failed failed)

end FormulaLexer.Unmatched
