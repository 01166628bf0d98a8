import FormulaLexer.Proofs.Gaps
import FormulaLexer.Proofs.Vocabulary

/-! Words that stand by themselves. A word with anything but a point, a word character or the
arguments of a call behind it is one identifier, however it begins: scanners of keywords match whole
words only, the word of an operator needs a blank behind it, and all other patterns begin with signs,
blanks or digits. -/
namespace FormulaLexer.WholeWords
open Unicode TextCuts Ways Spelling Letters Truncation Steps BuiltInMatches Rescan Unmatched Keywords
  Gaps

/-- The texts that open the arguments of a call. -/
inductive OpensCall : Text → Prop where
  | parenthesis {mark blanks : Text} (marked : mark = [] ∨ mark = ['!'])
      (blank : ∀ c ∈ blanks, isBlank c = true) (back : Text) :
      OpensCall (mark ++ (blanks ++ '(' :: back))

theorem OpensCall.parenthesized {text : Text} (opens : OpensCall text) : '(' ∈ text := by
  obtain ⟨marked, blank, back⟩ := opens
  simp

/-- What opens the arguments of a call is outside of words. -/
theorem OpensCall.stops {text : Text} (opens : OpensCall text) :
    ∀ c ∈ text.head?, isWord c = false := by
  obtain @⟨mark, blanks, marked, blank, back⟩ := opens
  rcases marked with rfl | rfl
  · cases blanks with
    | nil =>
      rintro c ⟨⟩
      decide +kernel
    | cons b blanks =>
      rintro c ⟨⟩
      exact not_word_of_blank (blank b (by simp))
  · rintro c ⟨⟩
    decide +kernel

/-- A text that begins with a word other than a number, which ends there and calls nothing. -/
structure Standing (word rest : Text) : Prop where
  filled : word ≠ []
  letters : ∀ c ∈ word, isWord c = true
  begins : ∀ c ∈ word.head?, isDecimalDigit c = false
  ends : ∀ c ∈ rest.head?, isWord c = false ∧ c ≠ '.'
  uncalled : ¬ OpensCall rest

/-- The words with a meaning of their own. -/
def reserved : List Text :=
  ["null".toList, "true".toList, "false".toList, "case".toList, "end".toList, "then".toList,
    "when".toList, "else".toList]

/-- The words of operators, which are read as such in front of blanks. -/
def operatorWords : List Text := ["and".toList, "or".toList]

/-- A word that is neither reserved nor that of an operator, up to case. -/
structure Unreserved (word rest : Text) : Prop where
  keyword : word.map fold ∉ reserved
  operator : ∀ c ∈ rest.head?, isBlank c = true → word.map fold ∉ operatorWords

theorem keyword_reserved {builtIn : BuiltIn} : ∀ keyword ∈ keywords builtIn, keyword ∈ reserved := by
  cases builtIn <;> decide

/-- Whether the description of a set shows that it holds signs, blanks and digits only. -/
def offWord (set : CharSet) : Bool :=
  set = .blank || set = .digit || (codes? set).any fun codes => codes.all fun code =>
    !wordRanges.contains code || decimalDigitRanges.contains code

theorem off_word_contains {set : CharSet} (off : offWord set = true) {c : Char}
    (member : set.contains c = true) : isWord c = false ∨ isDecimalDigit c = true := by
  simp only [offWord, Bool.or_eq_true, decide_eq_true_eq] at off
  rcases off with (rfl | rfl) | listed
  · exact .inl (not_word_of_blank member)
  · exact .inr member
  · obtain ⟨codes, lists, all⟩ := (Option.any_eq_true _ _).mp listed
    rcases Bool.or_eq_true_iff.mp (List.all_eq_true.mp all _ (codes_contains lists member)) with
      sign | digit
    · exact .inl (by simpa [isWord] using sign)
    · exact .inr digit

/-- An operator that begins with a word character is one of the words. -/
theorem operator_word {c : Char} {text : Text} (listed : (c :: text).map fold ∈ connectives)
    (word : isWord c = true) : (c :: text).map fold ∈ operatorWords := by
  have kinds : ∀ name ∈ connectives, name ∈ operatorWords ∨ name.head?.any isWord = false := by
    decide +kernel
  rcases kinds _ listed with named | signs
  · exact named
  · rw [← fold_word, show isWord (fold c) = false from signs] at word
    cases word

/-! ## Scanners that pass a word by -/

section
variable {word rest : Text} (standing : Standing word rest)
include standing

theorem Standing.stops : ∀ c ∈ rest.head?, isWord c = false := fun c head => (standing.ends c head).1

/-- A text of a pattern that is a word in front of something else begins with this word. -/
theorem Standing.same {front back : Text} (letters : ∀ c ∈ front, isWord c = true)
    (stops : ∀ c ∈ back.head?, isWord c = false) (whole : word ++ rest = front ++ back) :
    word = front ∧ rest = back :=
  run_unique standing.letters letters standing.stops stops whole

/-- The first character of the text is that of the word. -/
theorem Standing.head {c : Char} {text : Text} (whole : word ++ rest = c :: text) :
    isWord c = true ∧ isDecimalDigit c = false := by
  obtain ⟨d, letters, rfl⟩ := List.exists_cons_of_ne_nil standing.filled
  obtain ⟨rfl, -⟩ := List.cons.inj whole
  exact ⟨standing.letters d (by simp), standing.begins d rfl⟩

/-- A pattern that begins with signs, blanks and digits only passes the word by. -/
theorem Standing.sign_nothing {builtIn : BuiltIn}
    (signs : (firsts builtIn.expression.route).all offWord = true) :
    ways builtIn.expression.route ⟨none, word ++ rest⟩ = [] := by
  obtain ⟨c, letters, rfl⟩ := List.exists_cons_of_ne_nil standing.filled
  obtain ⟨first, digit⟩ := standing.head rfl
  refine nothing_unless_beginning _ fun listed => ?_
  obtain ⟨set, member, holds⟩ := List.any_eq_true.mp (List.mem_filter.mp listed).2
  rcases off_word_contains (List.all_eq_true.mp signs set member) holds with sign | number
  · rw [first] at sign
    cases sign
  · rw [digit] at number
    cases number

/-- The word of an operator is read as such only in front of a blank. -/
theorem Standing.operator_nothing
    (other : ∀ c ∈ rest.head?, isBlank c = true → word.map fold ∉ operatorWords) :
    ways BuiltIn.booleanOperator.expression.route ⟨none, word ++ rest⟩ = [] := by
  by_contra way
  obtain ⟨front, back, whole, matched⟩ := match_of_way way
  obtain ⟨words, -, lists, shape⟩ := operator_shape
  obtain ⟨name, blanks, rfl, spells, gap⟩ := (shape front).mp matched.spells
  obtain ⟨b, others, rfl, blank⟩ := gap.head
  rw [List.append_assoc] at whole
  have listed := (spells_iff_listed lists name).mp spells
  have named : name.map fold ∈ operatorWords := by
    cases name with
    | nil => exact absurd listed (by decide)
    | cons c name => exact operator_word listed (standing.head whole).1
  have letters : ∀ c ∈ name, isWord c = true := folded_word (by decide +kernel) named
  obtain ⟨rfl, rfl⟩ := standing.same letters (by
    rintro c ⟨⟩
    exact not_word_of_blank blank) whole
  exact other b rfl blank named

/-- A function is a name in front of a parenthesis. -/
theorem Standing.call_nothing :
    ways BuiltIn.function.expression.route ⟨none, word ++ rest⟩ = [] := by
  by_contra way
  obtain ⟨front, back, whole, matched⟩ := match_of_way way
  obtain ⟨name, -, named, shape⟩ := head_shape
  obtain ⟨called, blanks, rfl, spells, blank⟩ := (shape front).mp matched.spells
  obtain @⟨letters, mark, inside, marked⟩ := named called spells
  have opens := OpensCall.parenthesis marked blank back
  obtain ⟨rfl, rfl⟩ := standing.same inside opens.stops (by simpa using whole)
  exact standing.uncalled opens

/-- An identifier takes the word and stops behind it. -/
theorem Standing.identifier_matches : Matches .identifier word rest := by
  have way : ways BuiltIn.identifier.expression.route ⟨none, word ++ rest⟩ ≠ [] := by
    intro nothing
    obtain ⟨c, letters, rfl⟩ := List.exists_cons_of_ne_nil standing.filled
    have first := (standing.head rfl).1
    rw [(identifier_nothing_iff _).mp nothing c (head_in_name_run first _)] at first
    cases first
  obtain ⟨front, back, whole, matched⟩ := match_of_way way
  have stops := stops_at_edge matched (by decide +kernel)
  rcases List.append_eq_append_iff.mp whole with ⟨beyond, rfl, same⟩ | ⟨left, rfl, same⟩
  · -- what is taken behind the word would be a character of names
    cases beyond with
    | nil => simpa [same] using matched
    | cons c beyond =>
      have name := identifier_takes_names matched.spells c (by simp)
      obtain ⟨outside, point⟩ := standing.ends c (by simp [same])
      simp [name_set_contains, outside, point] at name
  · cases left with
    | nil => simpa [same] using matched
    | cons c left =>
      have inside := standing.letters c (by simp)
      rw [stops c (by simp [same])] at inside
      cases inside

/-- All scanners in front of that of identifiers pass the word by. -/
theorem Standing.passed (unreserved : Unreserved word rest) {builtIn : BuiltIn}
    (other : builtIn ≠ .identifier) :
    ways builtIn.expression.route ⟨none, word ++ rest⟩ = [] := by
  have plain : ∀ {builtIn : BuiltIn}, word.map fold ∉ keywords builtIn := fun keyword =>
    unreserved.keyword (keyword_reserved _ keyword)
  cases builtIn with
  | identifier => exact absurd rfl other
  | null | caseStatement | boolean =>
    exact keyword_nothing (by decide) standing.letters standing.stops plain
  | booleanOperator => exact standing.operator_nothing unreserved.operator
  | function => exact standing.call_nothing
  | _ => exact standing.sign_nothing (by decide +kernel)

end

/-! ## The step -/

/-- A word that is not reserved and that nothing behind it makes part of anything else is read as one
identifier, whatever the last token, with the word itself or its lower-case form as its value. -/
theorem word_identified (keepCase : Bool) (zone : LocalZone) (previous : Option Token)
    (word rest : Text) (standing : Standing word rest) (unreserved : Unreserved word rest) :
    acceptFirst (word ++ rest) previous 0 (ScannerSet.builtIn keepCase zone).entries =
      .accepted BuiltIn.identifier.key 17 .identifier
        [⟨.identifier, .string (if keepCase then word else lowerCase word), some word⟩] := by
  have first : First (ScannerSet.builtIn keepCase zone).entries (word ++ rest) previous
      (entryOf keepCase zone .identifier) 17 := by
    refine ⟨(before .identifier).map (entryOf keepCase zone), [], rfl, rfl, fun entry member => ?_⟩
    obtain ⟨builtIn, earlier, rfl⟩ := List.mem_map.mp member
    have other : builtIn ≠ .identifier := by
      rintro rfl
      exact absurd earlier (by decide)
    exact scan_of_nothing keepCase zone previous (standing.passed unreserved other)
  have matched := standing.identifier_matches
  have scanned : (BuiltIn.identifier.scanner keepCase zone).scan (word ++ rest) previous = _ :=
    scan_converts matched rfl
  rw [BuiltIn.convert, BuiltIn.toIdentifier, Vocabulary.identifier_trim matched.spells] at scanned
  exact first.accepts scanned

/-- A name that begins like an operator is a name, also in front of a blank. -/
theorem android_identified :
    Standing "Android".toList " + 1".toList ∧ Unreserved "Android".toList " + 1".toList ∧
      acceptFirst "Android + 1".toList none 0 (ScannerSet.builtIn false).entries =
        .accepted BuiltIn.identifier.key 17 .identifier
          [⟨.identifier, .string "android".toList, some "Android".toList⟩] := by
  have standing : Standing "Android".toList " + 1".toList := by
    refine ⟨by decide, forall_of_all (by decide +kernel), ?_, ?_,
      fun opens => absurd opens.parenthesized (by decide)⟩
    · rintro c ⟨⟩
      decide +kernel
    · rintro c ⟨⟩
      decide +kernel
  have unreserved : Unreserved "Android".toList " + 1".toList :=
    ⟨by decide +kernel, fun _ _ _ => by decide +kernel⟩
  have identified := word_identified false .utc none _ _ standing unreserved
  have lowered : lowerCase "Android".toList = "android".toList := by decide +kernel
  rw [if_neg (by decide), lowered] at identified
  exact ⟨standing, unreserved, identified⟩

end FormulaLexer.WholeWords
