import FormulaLexer.Proofs.Unmatched

/-! Words that a pattern spells up to case. Where a route repeats nothing and its sets list letters,
the words are listed from the route, folded. A keyword is such a word in front of the edge of a word,
so that its scanner matches whole words only. -/
namespace FormulaLexer.Keywords
open Unicode TextCuts Ways Spelling Letters Truncation BuiltInMatches Rescan Unmatched

/-! ## Listed words -/

/-- What the characters of a set fold to, if its description lists letters up to case. -/
def foldings? : CharSet → Option Text
  | .ignoringCase (.range first last) =>
    if first = last ∧ kept first.toNat = true then some [first] else none
  | .union left right =>
    (foldings? left).bind fun front => (foldings? right).map fun back => front ++ back
  | _ => none

theorem foldings_contains {set : CharSet} {letters : Text} (lists : foldings? set = some letters)
    (c : Char) : set.contains c = true ↔ fold c ∈ letters := by
  fun_induction foldings? set generalizing letters with
  | case1 first last same =>
    cases lists
    obtain ⟨rfl, keeps⟩ := same
    rw [List.mem_singleton]
    constructor
    · intro member
      obtain ⟨d, variant, inside⟩ := List.any_eq_true.mp member
      simp only [CharSet.contains, Bool.and_eq_true, decide_eq_true_eq] at inside
      obtain rfl : d = first := Char.le_antisymm inside.2 inside.1
      exact fold_of_variant keeps variant
    · intro folded
      refine List.any_eq_true.mpr ⟨first, ?_, by simp [CharSet.contains]⟩
      rw [← folded]
      exact List.mem_cons_self
  | case2 => cases lists
  | case3 left right ihLeft ihRight =>
    obtain ⟨front, listsLeft, lists⟩ := Option.bind_eq_some_iff.mp lists
    obtain ⟨back, listsRight, rfl⟩ := Option.map_eq_some_iff.mp lists
    rw [CharSet.contains, Bool.or_eq_true, ihLeft listsLeft, ihRight listsRight, List.mem_append]
  | case4 => cases lists

/-- The words that a route spells, folded, if it repeats nothing and its sets list letters. -/
def words? : Route → Option (List Text)
  | .empty => some [[]]
  | .one set => (foldings? set).map fun letters => letters.map fun letter => [letter]
  | .anchor _ => some [[]]
  | .sequence first second =>
    (words? first).bind fun fronts => (words? second).map fun backs =>
      fronts.flatMap fun front => backs.map fun back => front ++ back
  | .either _ preferred other =>
    (words? preferred).bind fun words => (words? other).map fun others => words ++ others
  | .star _ _ _ => none

/-- A text is spelled if it folds to one of the words. -/
theorem spells_iff_listed {route : Route} {words : List Text} (lists : words? route = some words)
    (text : Text) : Spells route text ↔ text.map fold ∈ words := by
  induction route generalizing words text with
  | empty =>
    cases lists
    rw [List.mem_singleton, List.map_eq_nil_iff]
    exact ⟨fun spells => by cases spells; rfl, by rintro rfl; exact .empty⟩
  | anchor condition =>
    cases lists
    rw [List.mem_singleton, List.map_eq_nil_iff]
    exact ⟨fun spells => by cases spells; rfl, by rintro rfl; exact .anchor⟩
  | one set =>
    obtain ⟨letters, listsLetters, rfl⟩ := Option.map_eq_some_iff.mp lists
    rw [spells_one_iff, List.mem_map]
    constructor
    · rintro ⟨c, member, rfl⟩
      exact ⟨fold c, (foldings_contains listsLetters c).mp member, rfl⟩
    · rintro ⟨letter, listed, folded⟩
      obtain ⟨c, rfl, rfl⟩ := List.map_eq_singleton_iff.mp folded.symm
      exact ⟨c, (foldings_contains listsLetters c).mpr listed, rfl⟩
  | sequence first second ihFirst ihSecond =>
    obtain ⟨fronts, listsFirst, lists⟩ := Option.bind_eq_some_iff.mp lists
    obtain ⟨backs, listsSecond, rfl⟩ := Option.map_eq_some_iff.mp lists
    simp only [spells_sequence_iff, List.mem_flatMap, List.mem_map]
    constructor
    · rintro ⟨front, back, begins, ends, rfl⟩
      exact ⟨_, (ihFirst listsFirst front).mp begins, _, (ihSecond listsSecond back).mp ends,
        List.map_append.symm⟩
    · rintro ⟨front, listedFront, back, listedBack, folded⟩
      obtain ⟨u, v, rfl, rfl, rfl⟩ := List.map_eq_append_iff.mp folded.symm
      exact ⟨u, v, (ihFirst listsFirst u).mpr listedFront, (ihSecond listsSecond v).mpr listedBack,
        rfl⟩
  | either label preferred other ihPreferred ihOther =>
    obtain ⟨words, listsPreferred, lists⟩ := Option.bind_eq_some_iff.mp lists
    obtain ⟨others, listsOther, rfl⟩ := Option.map_eq_some_iff.mp lists
    rw [spells_either_iff, ihPreferred listsPreferred, ihOther listsOther, List.mem_append]
  | star label greedy body => cases lists

/-! ## Keywords -/

/-- The boolean operators as they are spelled. -/
def connectives : List Text := ["and".toList, "or".toList, "&&".toList, "||".toList]

/-- The keywords of a scanner that looks for the edge of a word behind them. -/
def keywords : BuiltIn → List Text
  | .null => ["null".toList]
  | .caseStatement =>
    ["case".toList, "end".toList, "then".toList, "when".toList, "else".toList]
  | .boolean => ["true".toList, "false".toList]
  | _ => []

/-- The keywords are what the patterns of their scanners spell in front of an edge. -/
theorem keyword_route {builtIn : BuiltIn} (worded : keywords builtIn ≠ []) :
    words? builtIn.expression.route = some (keywords builtIn) ∧
      edged builtIn.expression.route = true ∧
      fronted (beforeEdge builtIn.expression.route) = true ∧
      productive (beforeEdge builtIn.expression.route) = true := by
  cases builtIn <;> first | exact absurd rfl worded | decide +kernel

/-- A text that folds to one of some words is a word. -/
theorem folded_word {words : List Text} (letters : (words.all fun word => word.all isWord) = true)
    {text : Text} (listed : text.map fold ∈ words) : ∀ c ∈ text, isWord c = true := by
  intro c member
  rw [← fold_word]
  exact List.all_eq_true.mp (List.all_eq_true.mp letters _ listed) _ (List.mem_map_of_mem member)

theorem word_of_keyword {builtIn : BuiltIn} {front : Text}
    (keyword : front.map fold ∈ keywords builtIn) : front ≠ [] ∧ ∀ c ∈ front, isWord c = true := by
  have filled : [] ∉ keywords builtIn := by cases builtIn <;> decide
  refine ⟨?_, folded_word (by cases builtIn <;> decide +kernel) keyword⟩
  rintro rfl
  exact filled keyword

/-! ## Whole words -/

/-- Where a pattern has a way, it has a match. -/
theorem match_of_way {builtIn : BuiltIn} {text : Text}
    (way : ways builtIn.expression.route ⟨none, text⟩ ≠ []) :
    ∃ front back, text = front ++ back ∧ Matches builtIn front back := by
  cases finds : builtIn.expression.route.find? text with
  | none => exact absurd (find_none_iff.mp finds) way
  | some found =>
    obtain ⟨back, whole, matched⟩ := found_matches finds
    exact ⟨found.text, back, whole, matched⟩

/-- A match that ends with an edge has no word character behind it. -/
theorem stops_at_edge {builtIn : BuiltIn} {front back : Text} (way : Matches builtIn front back)
    (ends : edged builtIn.expression.route = true) : ∀ c ∈ back.head?, isWord c = false := by
  have word := edged_word way ends
  rw [Matches, ways_edged ends] at way
  have atEnd := (List.mem_filter.mp (List.mem_of_head? way)).2
  rw [at_edge_eq, word] at atEnd
  intro c head
  simpa [isWordAt, show back.head? = some c from head] using atEnd

theorem spells_before_edge {route : Route} (ends : edged route = true) {text : Text}
    (spells : Spells route text) : Spells (beforeEdge route) text := by
  induction route generalizing text with
  | sequence first second _ ih =>
    rw [edged, Bool.and_eq_true] at ends
    obtain ⟨front, back, begins, behind, rfl⟩ := spells_sequence_iff.mp spells
    exact .sequence begins (ih ends.2 behind)
  | anchor condition =>
    cases spells
    exact .empty
  | _ => cases ends

/-- A keyword is matched where it makes up a whole word. -/
theorem keyword_matches_iff {builtIn : BuiltIn} (worded : keywords builtIn ≠ []) {front back : Text} :
    Matches builtIn front back ↔
      front.map fold ∈ keywords builtIn ∧ ∀ c ∈ back.head?, isWord c = false := by
  obtain ⟨lists, ends, begins, moves⟩ := keyword_route worded
  have only : ∀ {front back}, Matches builtIn front back →
      front.map fold ∈ keywords builtIn ∧ ∀ c ∈ back.head?, isWord c = false := fun way =>
    ⟨(spells_iff_listed lists _).mp way.spells, stops_at_edge way ends⟩
  refine ⟨only, fun ⟨keyword, stops⟩ => ?_⟩
  obtain ⟨filled, letters⟩ := word_of_keyword keyword
  have spells := spells_before_edge ends ((spells_iff_listed lists front).mpr keyword)
  have way := fronted_way begins moves spells back
  have atEnd : atEdge ⟨lastOf none front, back⟩ = true := by
    have last := List.getLast?_eq_some_getLast filled
    have word := letters _ (List.getLast_mem filled)
    rw [at_edge_eq, last_of_eq, last]
    cases head : back.head? with
    | none => simp [isWordAt, word]
    | some c => simp [isWordAt, word, stops c head]
  have way' : ways builtIn.expression.route ⟨none, front ++ back⟩ ≠ [] := by
    rw [ways_edged ends]
    exact List.ne_nil_of_mem (List.mem_filter.mpr ⟨way, atEnd⟩)
  obtain ⟨found, rest, whole, matched⟩ := match_of_way way'
  obtain ⟨keyword', stops'⟩ := only matched
  obtain ⟨rfl, rfl⟩ := run_unique letters (word_of_keyword keyword').2 stops stops' whole
  exact matched

/-- A word that is no keyword is passed by the scanners of keywords. -/
theorem keyword_nothing {builtIn : BuiltIn} (worded : keywords builtIn ≠ []) {word rest : Text}
    (letters : ∀ c ∈ word, isWord c = true) (stops : ∀ c ∈ rest.head?, isWord c = false)
    (other : word.map fold ∉ keywords builtIn) :
    ways builtIn.expression.route ⟨none, word ++ rest⟩ = [] := by
  by_contra way
  obtain ⟨front, back, whole, matched⟩ := match_of_way way
  obtain ⟨keyword, stops'⟩ := (keyword_matches_iff worded).mp matched
  obtain ⟨rfl, rfl⟩ := run_unique letters (word_of_keyword keyword).2 stops stops' whole
  exact other keyword

end FormulaLexer.Keywords
