import FormulaLexer.Proofs.ErrorPlaces
import FormulaLexer.Proofs.Gaps
import FormulaLexer.Proofs.Lexemes

/-! Blanks in place of others. Where an accepted input has one blank token, any other run of blanks
can stand: each scanner wins in front of it that won before, the blanks are again one token, and
behind it the text and the last significant token are the same. The tokens returned, with the parts
of the input that they carry, and all counters stay as they are. Only the space behind a date-time is
apart, because it can belong to the date-time. -/
namespace FormulaLexer.BlankExchange
open Unicode Text TextCuts Ways Spelling Truncation Steps
open BuiltInMatches Coverage Rescan Unmatched ErrorPlaces Gaps Lexemes

/-! ## One scanner -/

section
variable {keepCase : Bool} {zone : LocalZone} {builtIn : BuiltIn} {w w' v : Text} (old : Gap w)
    (new : Gap w')
  {previous : Option Token}
include old new

/-- A scanner that passes a text by does so with other blanks in it. -/
theorem passes_kept {p : Text} (begun : p ≠ [])
    (passed : (builtIn.scanner keepCase zone).scan (p ++ (w ++ v)) previous = .ok none) :
    (builtIn.scanner keepCase zone).scan (p ++ (w' ++ v)) previous = .ok none := by
  rcases scan_none_iff.mp passed with nothing | refused
  · exact scan_of_nothing keepCase zone previous
      (nothing_kept old new begun (find_none_iff.mp nothing))
  · exact scan_none_iff.mpr (.inr refused)

/-- A scanner makes the same tokens in front of other blanks, unless a date-time touches them. -/
theorem scan_kept {tokens : List Token} {back : Text} (apart : builtIn = .dateTime → back ≠ [])
    (scanned : (builtIn.scanner keepCase zone).scan (joined tokens ++ (back ++ (w ++ v))) previous =
      .ok (some tokens)) :
    (builtIn.scanner keepCase zone).scan (joined tokens ++ (back ++ (w' ++ v))) previous =
      .ok (some tokens) := by
  obtain ⟨left, whole, way⟩ := (scan_made scanned).covers
  obtain rfl := List.append_cancel_left whole
  have finds := way.found
  have finds' := (match_kept old new apart way).found
  rw [← scanned]
  exact scan_refound finds finds' rfl previous

end

/-- The scanner of a date-time makes a date-time. -/
theorem made_date_time {keepCase : Bool} {zone : LocalZone} {remaining : Text} {tokens : List Token}
    (made : Made keepCase zone remaining .dateTime tokens) :
    ∃ token, tokens = [token] ∧ token.category = .dateTime := by
  cases made with
  | value => exact ⟨_, rfl, rfl⟩

/-! ## The blanks themselves -/

/-- A token of blanks. -/
def blankToken (w : Text) : Token := ⟨.whitespace, .string [' '], some w⟩

/-- Blanks are matched up to the first other character. -/
theorem whitespace_matches_iff {w v : Text} :
    Matches .whitespace w v ↔ Gap w ∧ ∀ c ∈ v.head?, isBlank c = false := by
  constructor
  · intro way
    exact ⟨⟨way.filled, whitespace_blank way.spells⟩,
      stops_behind_blanks (by decide +kernel) way⟩
  · rintro ⟨gap, stops⟩
    obtain ⟨best, others, same⟩ :=
      List.exists_cons_of_ne_nil (whitespace_goes_over (p := []) (by simp) gap v).matched
    have first : (ways BuiltIn.whitespace.expression.route ⟨none, w ++ v⟩).head? = some best :=
      congrArg List.head? same
    obtain ⟨taken, ⟨whole, last⟩, spells⟩ := ways_spell (List.mem_of_head? first)
    obtain ⟨rfl, rfl⟩ := run_unique gap.blank (whitespace_blank spells) stops
      (stops_behind_blanks (by decide +kernel) first) whole
    rw [Matches, first, ← last]

/-- A pattern without blanks does not begin with one. -/
theorem nothing_at_blank {builtIn : BuiltIn} (free : blankFree builtIn.expression.route = true)
    {w : Text} (gap : Gap w) (v : Text) : ways builtIn.expression.route ⟨none, w ++ v⟩ = [] := by
  obtain ⟨c, rest, rfl, blank⟩ := gap.head
  refine List.eq_nil_iff_forall_not_mem.mpr fun after way => ?_
  obtain ⟨taken, -, spells⟩ := way_begins way
  have plain := spells_blank_free free spells c (by simp)
  rw [blank] at plain
  cases plain

theorem scan_blanks {w v : Text} (gap : Gap w) (stops : ∀ c ∈ v.head?, isBlank c = false)
    (keepCase : Bool) (zone : LocalZone) (previous : Option Token) :
    (BuiltIn.whitespace.scanner keepCase zone).scan (w ++ v) previous =
      .ok (some [blankToken w]) := by
  have finds := (whitespace_matches_iff.mpr ⟨gap, stops⟩).found
  rw [Scanner.scan, show (BuiltIn.whitespace.scanner keepCase zone).route =
    BuiltIn.whitespace.expression.route from rfl, finds]
  rfl

/-- A blank token is made of a run of blanks by the scanner of blanks. -/
theorem made_blank {keepCase : Bool} {zone : LocalZone} {remaining : Text} {builtIn : BuiltIn}
    {tokens : List Token}
    (made : Made keepCase zone remaining builtIn tokens) {token : Token} (listed : token ∈ tokens)
    (blank : token.category = .whitespace) :
    builtIn = .whitespace ∧ ∃ w, Gap w ∧ tokens = [blankToken w] ∧ token = blankToken w := by
  cases made with
  | @value _ front _ v _ _ way converts =>
    obtain rfl := List.mem_singleton.mp listed
    have blanks : builtIn = .whitespace := by
      cases builtIn <;> first | rfl | cases blank
    subst blanks
    cases converts
    exact ⟨rfl, front, (whitespace_matches_iff.mp way).1, rfl, rfl⟩
  | head =>
    simp only [functionHead, List.mem_cons, List.not_mem_nil, or_false] at listed
    rcases listed with rfl | rfl <;> cases blank

/-! ## The lexemes of a text -/

/-- The first scanner that does not pass a text by is a built-in one, and it is the first one at any
other text that the scanners in front of it pass by as well. -/
theorem first_built_in {keepCase : Bool} {zone : LocalZone} {remaining : Text}
    {previous : Option Token} {winner : ScannerEntry} {attempts : Nat}
    (first : First (ScannerSet.builtIn keepCase zone).entries remaining previous winner attempts) :
    ∃ builtIn, winner = entryOf keepCase zone builtIn ∧ ∀ other : Text,
      (∀ rival ∈ before builtIn, (rival.scanner keepCase zone).scan remaining previous = .ok none →
        (rival.scanner keepCase zone).scan other previous = .ok none) →
      First (ScannerSet.builtIn keepCase zone).entries other previous winner attempts := by
  obtain ⟨front, others, split, count, passes⟩ := first.split
  obtain ⟨builtIn, rfl, same⟩ := split_before split
  refine ⟨builtIn, rfl, fun other kept => ⟨front, others, split, count, fun entry member => ?_⟩⟩
  obtain ⟨rival, earlier, rfl⟩ := List.mem_map.mp (same ▸ member)
  exact kept rival earlier (passes _ member)

/-- Each lexeme of the standard scanners is made by one of them. -/
theorem lexes_made {keepCase : Bool} {zone : LocalZone} {previous : Option Token} {text : Text}
    {lexemes : List Lexeme} (lexes : Lexes (.builtIn keepCase zone) previous text lexemes) :
    ∀ lexeme ∈ lexemes, ∃ remaining builtIn,
      Made keepCase zone remaining builtIn lexeme.tokens := by
  induction lexes with
  | done => simp
  | more first scanned filled later ih =>
    intro lexeme member
    rcases List.mem_cons.mp member with rfl | member
    · obtain ⟨builtIn, rfl, -⟩ := first_built_in first
      exact ⟨_, builtIn, scan_made scanned⟩
    · exact ih lexeme member

/-- No token of a lexeme is empty. -/
theorem lexes_filled {set : ScannerSet} {previous : Option Token} {text : Text}
    {lexemes : List Lexeme} (lexes : Lexes set previous text lexemes) :
    ∀ token ∈ lexemes.flatMap Lexeme.tokens, token.text ≠ [] := by
  induction lexes with
  | done => simp
  | more first scanned filled later ih =>
    intro token member
    rw [List.flatMap_cons] at member
    rcases List.mem_append.mp member with member | member
    · exact (Loop.nonempty_of_no_zero_width filled).2 token member
    · exact ih token member

/-- The lexemes of a text that begins with a blank one, with other blanks in its place. -/
theorem blank_exchanged {keepCase : Bool} {zone : LocalZone} {w w' v : Text}
    {previous : Option Token} {attempts : Nat} {back : List Lexeme} (new : Gap w')
    (lexes : Lexes (.builtIn keepCase zone) previous (w ++ v)
      (⟨attempts, [blankToken w]⟩ :: back)) :
    Lexes (.builtIn keepCase zone) previous (w' ++ v) (⟨attempts, [blankToken w']⟩ :: back) := by
  have text : ∀ w, joined [blankToken w] = w := fun w => List.append_nil w
  have begins : Lexes (.builtIn keepCase zone) previous (joined [blankToken w] ++ v)
      (⟨attempts, [blankToken w]⟩ :: back) := by rwa [text]
  obtain ⟨winner, first, scanned, filled, later⟩ := lexes_cons_iff.mp begins
  obtain ⟨builtIn, rfl, moved⟩ := first_built_in first
  have made := scan_made scanned
  obtain ⟨rfl, -⟩ := made_blank made (List.mem_singleton_self _) rfl
  obtain ⟨left, whole, way⟩ := made.covers
  obtain rfl := List.append_cancel_left whole
  obtain ⟨-, stops⟩ := whitespace_matches_iff.mp way
  suffices exchanged : Lexes (.builtIn keepCase zone) previous (joined [blankToken w'] ++ v)
      (⟨attempts, [blankToken w']⟩ :: back) by rwa [text] at exchanged
  refine lexes_cons_iff.mpr ⟨_, moved _ fun rival earlier _ => ?_, ?_, ?_, later⟩
  · rw [show before .whitespace = [.null] from rfl, List.mem_singleton] at earlier
    subst earlier
    rw [text]
    exact scan_of_nothing keepCase zone previous (nothing_at_blank (by decide +kernel) new v)
  · rw [text]
    exact scan_blanks new stops keepCase zone previous
  · simp [zeroWidthCategory?, Token.isEmpty, blankToken, Token.text, new.filled]

theorem joined_eq_nil {tokens : List Token} (filled : ∀ token ∈ tokens, token.text ≠ [])
    (empty : joined tokens = []) : tokens = [] := by
  cases tokens with
  | nil => rfl
  | cons token tokens =>
    rw [joined_cons, List.append_eq_nil_iff] at empty
    exact absurd empty.1 (filled token (by simp))

/-- Where the last token is no date-time, a date-time has more tokens behind it. -/
theorem date_time_inside {keepCase : Bool} {zone : LocalZone} {remaining : Text} {builtIn : BuiltIn}
    {tokens others : List Token} (made : Made keepCase zone remaining builtIn tokens)
    (filled : ∀ token ∈ others, token.text ≠ [])
    (apart : ∀ token ∈ (tokens ++ others).getLast?, token.category ≠ .dateTime) :
    builtIn = .dateTime → joined others ≠ [] := by
  rintro rfl empty
  obtain ⟨token, rfl, date⟩ := made_date_time made
  rw [joined_eq_nil filled empty] at apart
  exact apart token rfl date

/-- The lexemes of a text with other blanks in the place of a blank token that touches no date-time:
the ones in front of the blanks and those behind them stay. -/
theorem lexes_exchanged {keepCase : Bool} {zone : LocalZone} {w w' v : Text} (old : Gap w)
    (new : Gap w') {attempts : Nat} {front back : List Lexeme} {previous : Option Token}
    (apart : ∀ token ∈ (front.flatMap Lexeme.tokens).getLast?, token.category ≠ .dateTime)
    (lexes : Lexes (.builtIn keepCase zone) previous
      (joined (front.flatMap Lexeme.tokens) ++ (w ++ v))
      (front ++ ⟨attempts, [blankToken w]⟩ :: back)) :
    Lexes (.builtIn keepCase zone) previous (joined (front.flatMap Lexeme.tokens) ++ (w' ++ v))
      (front ++ ⟨attempts, [blankToken w']⟩ :: back) := by
  induction front generalizing previous with
  | nil => exact blank_exchanged new lexes
  | cons lexeme front ih =>
    rw [List.flatMap_cons, joined_append, List.append_assoc, List.cons_append] at lexes ⊢
    rw [List.flatMap_cons] at apart
    obtain ⟨winner, first, scanned, filled, later⟩ := lexes_cons_iff.mp lexes
    obtain ⟨builtIn, rfl, moved⟩ := first_built_in first
    have made := scan_made scanned
    have texts : ∀ token ∈ front.flatMap Lexeme.tokens, token.text ≠ [] := by
      intro token member
      refine lexes_filled later token ?_
      rw [List.flatMap_append]
      exact List.mem_append_left _ member
    have touches := date_time_inside made texts apart
    have begun : joined lexeme.tokens ++ joined (front.flatMap Lexeme.tokens) ≠ [] := by
      obtain ⟨_, -, way⟩ := made.covers
      exact List.append_ne_nil_of_left_ne_nil way.filled _
    have first' : First (ScannerSet.builtIn keepCase zone).entries (joined lexeme.tokens ++
        (joined (front.flatMap Lexeme.tokens) ++ (w' ++ v))) previous
        (entryOf keepCase zone builtIn)
        lexeme.attempts := by
      refine moved _ fun rival _ passed => ?_
      rw [← List.append_assoc] at passed ⊢
      exact passes_kept old new begun passed
    have behind : ∀ token ∈ (front.flatMap Lexeme.tokens).getLast?, token.category ≠ .dateTime := by
      intro token last
      refine apart token ?_
      rw [List.getLast?_append, Option.mem_def.mp last]
      rfl
    exact lexes_cons_iff.mpr
      ⟨_, first', scan_kept old new touches scanned, filled, ih behind later⟩

/-! ## The whole run -/

/-- In the run over `u ++ w ++ v` the part `w` is one blank token, and no date-time stands right in
front of it. -/
def BlankApart (set : ScannerSet) (u w v : Text) : Prop :=
  ∃ front item back, (trace set (u ++ w ++ v)).produced = front ++ item :: back ∧
    item.token.category = .whitespace ∧ item.token.raw = some w ∧
    item.start.offset = byteSize u ∧ ∀ last ∈ front.getLast?, last.token.category ≠ .dateTime

/-- An element of lists put together is one of some list among them. -/
theorem flat_map_split {α β : Type} {f : α → List β} {items : List α} {front back : List β} {b : β}
    (split : items.flatMap f = front ++ b :: back) : ∃ before item after inner outer,
      items = before ++ item :: after ∧ f item = inner ++ b :: outer ∧
        front = before.flatMap f ++ inner := by
  induction items generalizing front with
  | nil => simp at split
  | cons item items ih =>
    rw [List.flatMap_cons] at split
    rcases List.append_eq_append_iff.mp split with ⟨rest, rfl, whole⟩ | ⟨rest, whole, same⟩
    · obtain ⟨before, other, after, inner, outer, rfl, made, rfl⟩ := ih whole
      exact ⟨item :: before, other, after, inner, outer, rfl, made, by simp⟩
    · cases rest with
      | nil =>
        rw [List.append_nil] at whole
        obtain ⟨before, other, after, inner, outer, rfl, made, rest⟩ :=
          ih (show items.flatMap f = [] ++ b :: back from same.symm)
        exact ⟨item :: before, other, after, inner, outer, rfl, made, by simp [whole, ← rest]⟩
      | cons c rest =>
        cases same
        exact ⟨[], item, items, front, rest, rfl, whole, rfl⟩

/-- The tokens in front of one that starts behind a text cover that text. -/
theorem text_in_front {set : ScannerSet} (covering : ∀ entry ∈ set.entries, Covering entry.scanner)
    {input u rest : Text} (whole : u ++ rest = input) (complete : (trace set input).ending = .complete)
    {front back : List PlacedToken} {item : PlacedToken}
    (split : (trace set input).produced = front ++ item :: back)
    (starts : item.start.offset = byteSize u) : joined (front.map PlacedToken.token) = u := by
  have laid : Laid input 0 (trace set input).produced :=
    (trace_laid set none (show Reaches input input .start from ⟨[], rfl, rfl⟩)).1
  have covered : joined ((trace set input).produced.map PlacedToken.token) = input :=
    (trace_covers covering input none .start complete).1
  rw [split, laid_append] at laid
  rw [split, List.map_append, joined_append, ← whole] at covered
  have size : byteSize (joined (front.map PlacedToken.token)) = byteSize u := by
    rw [← starts, laid.2.1, joined_size, bytes, List.map_map, Nat.zero_add]
    rfl
  exact (cut_unique covered size).1

/-- The lexemes of a run in which a part is one blank token. -/
theorem lexes_of_apart {keepCase : Bool} {zone : LocalZone} {u w v : Text}
    (apart : BlankApart (.builtIn keepCase zone) u w v)
    (complete : (trace (.builtIn keepCase zone) (u ++ w ++ v)).ending = .complete) :
    ∃ front attempts back, (trace (.builtIn keepCase zone) (u ++ w ++ v)).steps.map lexeme =
        front ++ ⟨attempts, [blankToken w]⟩ :: back ∧ u = joined (front.flatMap Lexeme.tokens) ∧
      (∀ token ∈ (front.flatMap Lexeme.tokens).getLast?, token.category ≠ .dateTime) ∧ Gap w := by
  obtain ⟨front, item, back, split, blank, raw, starts, touches⟩ := apart
  have covering := (built_in_own keepCase zone).covering
  have lexes : Lexes (.builtIn keepCase zone) none (u ++ w ++ v)
      ((trace (.builtIn keepCase zone) (u ++ w ++ v)).steps.map lexeme) :=
    lexes_of_complete covering _ none .start complete
  have tokens :
      ((trace (.builtIn keepCase zone) (u ++ w ++ v)).steps.map lexeme).flatMap Lexeme.tokens =
      front.map PlacedToken.token ++ item.token :: back.map PlacedToken.token := by
    rw [← List.map_cons, ← List.map_append, ← split, Trace.produced, List.flatMap_map,
      List.map_flatMap]
    rfl
  obtain ⟨before, blankOne, after, inner, outer, same, made, earlier⟩ := flat_map_split tokens
  have listed : blankOne ∈ (trace (.builtIn keepCase zone) (u ++ w ++ v)).steps.map lexeme := by
    rw [same]
    exact List.mem_append_right _ List.mem_cons_self
  obtain ⟨remaining, builtIn, isMade⟩ := lexes_made lexes blankOne listed
  obtain ⟨-, blanks, gap, single, alone⟩ := made_blank isMade (by simp [made]) blank
  obtain rfl : blanks = w := by
    rw [alone] at raw
    exact Option.some.inj raw
  have only : inner = [] := by
    rw [single] at made
    cases inner with
    | nil => rfl
    | cons token inner => simp at made
  rw [only, List.append_nil] at earlier
  have covered := text_in_front covering (List.append_assoc u blanks v).symm complete split starts
  rw [earlier] at covered
  refine ⟨before, blankOne.attempts, after, ?_, covered.symm, ?_, gap⟩
  · rw [same, ← single]
  · intro token last
    rw [← earlier, List.getLast?_map] at last
    obtain ⟨placed, ends, rfl⟩ := Option.map_eq_some_iff.mp (Option.mem_def.mp last)
    exact touches placed ends

/-- Which blanks stand in an input does not matter: where a run that accepts its input has one blank
token that no date-time touches, the input with any other run of blanks in that place is accepted
with the same tokens and the same counters. -/
theorem run_blanks_exchanged (preferences : LexicalPreferences) (zone : LocalZone)
    (u w v w' : Text) (tokens : List Token) (metrics : Metrics)
    (accepted : (Tokenizer.ofPreferences preferences zone).run (u ++ w ++ v) =
      .accepted tokens metrics)
    (apart : BlankApart (.builtIn preferences.caseSensitive zone) u w v) (gap : Gap w')
    (short : (u ++ w' ++ v).length ≤ 2 ^ 32 - 2) :
    (Tokenizer.ofPreferences preferences zone).run (u ++ w' ++ v) = .accepted tokens metrics := by
  have complete := complete_of_accepted accepted
  have lexes := lexes_of_complete (built_in_own preferences.caseSensitive zone).covering _ none
    .start complete
  obtain ⟨front, attempts, back, same, rfl, touches, old⟩ := lexes_of_apart apart complete
  change Lexes _ none _ (List.map lexeme (trace (.builtIn preferences.caseSensitive zone) _).steps)
    at lexes
  rw [same, List.append_assoc] at lexes
  have exchanged := lexes_exchanged old gap touches lexes
  rw [← List.append_assoc] at exchanged
  refine accepted_alike accepted exchanged ?_ short
  change List.Forall₂ Alike ((trace (.builtIn preferences.caseSensitive zone) _).steps.map lexeme) _
  rw [same]
  have blanks : Alike ⟨attempts, [blankToken w]⟩ ⟨attempts, [blankToken w']⟩ :=
    ⟨rfl, .cons (.inr ⟨rfl, rfl⟩) .nil⟩
  exact List.rel_append (alike_refl front) (.cons blanks (alike_refl back))

/-- A space in a call, with a tab and a line end in its place. -/
theorem call_blanks_exchanged :
    (Tokenizer.ofPreferences .builtIn).run ("max(".toList ++ "\t\n".toList ++ "1 )".toList) =
      .accepted (call ⟨.numeric, .integer 1, some ['1']⟩)
        ⟨4, 2, [("function".toList, 1), ("grouping".toList, 2), ("numeric".toList, 1)], 1, 35⟩ := by
  have accepted : (Tokenizer.ofPreferences .builtIn).run
      ("max(".toList ++ [' '] ++ "1 )".toList) =
        .accepted (call ⟨.numeric, .integer 1, some ['1']⟩)
          ⟨4, 2, [("function".toList, 1), ("grouping".toList, 2), ("numeric".toList, 1)], 1, 35⟩ := by
    decide +kernel
  have blanks : "\t\n".toList.all isBlank = true := by decide
  have gap : Gap "\t\n".toList := ⟨by decide, List.all_eq_true.mp blanks⟩
  refine run_blanks_exchanged .builtIn .utc _ [' '] _ _ _ _ accepted ?_ gap (by decide)
  have shape : (trace (.builtIn false) ("max(".toList ++ [' '] ++ "1 )".toList)).produced.map
      (fun item => (item.token.category, item.token.raw, item.start.offset)) =
        [(.function, some "max".toList, 0), (.grouping, some ['('], 3)] ++
          [(.whitespace, some [' '], 4), (.numeric, some ['1'], 5), (.whitespace, some [' '], 6),
            (.grouping, some [')'], 7)] := by
    decide +kernel
  obtain ⟨front, rest, whole, begins, ends⟩ := List.map_eq_append_iff.mp shape
  obtain ⟨item, back, rfl, blank, -⟩ := List.map_eq_cons_iff.mp ends
  simp only [Prod.mk.injEq] at blank
  refine ⟨front, item, back, whole, blank.1, blank.2.1, blank.2.2, fun last listed => ?_⟩
  have head := congrArg List.getLast? begins
  rw [List.getLast?_map, Option.mem_def.mp listed] at head
  have grouping : last.token.category = .grouping := congrArg Prod.fst (Option.some.inj head)
  rw [grouping]
  decide

end FormulaLexer.BlankExchange
