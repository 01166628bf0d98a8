import FormulaLexer.Pattern.Element

/-! Readers and the text behind what they read. A pattern that is put into parentheses has a
closing one behind it, and no reader that comes to an end of its own makes anything else of the
pattern for that. Only a comment of the verbose form, which runs to the end of the text, takes the
parenthesis in. -/
namespace FormulaLexer.ReaderExtension
open Pattern

/-- A text with a closing parenthesis behind it, unless nothing is left of both. -/
def Longer (text longer : Text) : Prop := longer = text ++ [')'] ∨ text = [] ∧ longer = []

theorem Longer.nil : Longer [] [] := .inr ⟨rfl, rfl⟩

theorem Longer.snoc (text : Text) : Longer text (text ++ [')']) := .inl rfl

/-- The longer text begins with no other character but the parenthesis. -/
theorem Longer.head {c : Char} {text longer rest : Text} (grows : Longer text longer)
    (other : c ≠ ')') (head : longer = c :: rest) : ∃ back, text = c :: back := by
  cases text with
  | nil =>
    rcases grows with rfl | ⟨-, rfl⟩
    · cases head
      exact absurd rfl other
    · cases head
  | cons d text =>
    rcases grows with rfl | ⟨none, -⟩
    · cases head
      exact ⟨text, rfl⟩
    · cases none

theorem Longer.other {c : Char} {text longer : Text} (grows : Longer text longer) (other : c ≠ ')')
    (none : ∀ back, text ≠ c :: back) (back : Text) : longer ≠ c :: back := by
  intro head
  obtain ⟨tail, same⟩ := grows.head other head
  exact none tail same

theorem Longer.of_cons {c : Char} {text longer : Text} (grows : Longer (c :: text) longer) :
    longer = c :: (text ++ [')']) := by
  rcases grows with same | ⟨none, -⟩
  · rw [same, List.cons_append]
  · cases none

/-- Whatever a reader makes of a text, it makes of a longer one, and leaves a longer rest. -/
def Extends {α : Type} (read : Text → Except ReadError (α × Text)) : Prop :=
  ∀ {text longer left : Text} {result : α}, Longer text longer → read text = .ok (result, left) →
    ∃ leftover, read longer = .ok (result, leftover) ∧ Longer left leftover

/-! ## Blanks and comments -/

theorem longer_skip {text longer : Text} (inComment : Bool) (grows : Longer text longer) :
    Longer (skipLayout inComment text) (skipLayout inComment longer) := by
  rcases grows with rfl | ⟨rfl, rfl⟩
  · induction text generalizing inComment with
    | nil => cases inComment with
      | true => exact .nil
      | false => exact .inl (by decide)
    | cons c text ih =>
      cases inComment with
      | true => exact ih _
      | false =>
        rw [List.cons_append, skipLayout, skipLayout]
        split
        · exact ih _
        · split
          · exact ih _
          · exact .snoc (c :: text)
  · cases inComment <;> exact .nil

theorem longer_significant {text longer : Text} (flags : Flags) (grows : Longer text longer) :
    Longer (flags.significant text) (flags.significant longer) := by
  rw [Flags.significant, Flags.significant]
  split
  · exact longer_skip false grows
  · exact grows

theorem longer_drop_while {text longer : Text} {p : Char → Bool} (stops : p ')' = false)
    (grows : Longer text longer) : Longer (text.dropWhile p) (longer.dropWhile p) := by
  rcases grows with rfl | ⟨rfl, rfl⟩
  · induction text with
    | nil => simpa [stops] using Longer.snoc []
    | cons c text ih =>
      rw [List.cons_append, List.dropWhile_cons, List.dropWhile_cons]
      split
      · exact ih
      · exact .snoc (c :: text)
  · exact .nil

/-- A span that ends in front of a character ends there in the longer text. -/
theorem span_stopped {flags : Flags} {p : Char → Bool} {inComment : Bool} {text front : Text}
    {c : Char} {back : Text} (span : flags.span p inComment text = (front, c :: back)) :
    flags.span p inComment (text ++ [')']) = (front, c :: (back ++ [')'])) := by
  induction text generalizing inComment front with
  | nil => cases inComment <;> cases span
  | cons d text ih =>
    cases inComment with
    | true => exact ih span
    | false =>
      rw [Flags.span] at span
      rw [List.cons_append, Flags.span]
      split at span
      · next layout =>
        rw [if_pos layout]
        exact ih span
      · next visible =>
        rw [if_neg visible]
        split at span
        · next inside =>
          rw [if_pos inside]
          cases inner : flags.span p false text with
          | mk taken left =>
            simp only [inner, Prod.mk.injEq] at span
            obtain ⟨rfl, rfl⟩ := span
            rw [ih inner]
        · next outside =>
          rw [if_neg outside]
          cases span
          rfl

/-- A span that a closing parenthesis stops takes in nothing more of a longer text. -/
theorem span_longer (flags : Flags) (p : Char → Bool) (inComment : Bool) {text longer : Text}
    (stops : p ')' = false) (grows : Longer text longer) :
    (flags.span p inComment longer).1 = (flags.span p inComment text).1 ∧
      Longer (flags.span p inComment text).2 (flags.span p inComment longer).2 := by
  rcases grows with rfl | ⟨rfl, rfl⟩
  · induction text generalizing inComment with
    | nil =>
      have visible : flags.startsLayout ')' = false := by
        simp only [Flags.startsLayout]
        cases flags.verbose <;> decide
      cases inComment with
      | true => exact ⟨rfl, .nil⟩
      | false => simpa [Flags.span, visible, stops] using Longer.snoc []
    | cons c text ih =>
      cases inComment with
      | true => exact ih _
      | false =>
        rw [List.cons_append, Flags.span, Flags.span]
        split
        · exact ih _
        · split
          · obtain ⟨taken, left⟩ := ih false
            exact ⟨congrArg (c :: ·) taken, left⟩
          · exact ⟨rfl, .snoc (c :: text)⟩
  · cases inComment <;> exact ⟨rfl, .nil⟩

/-! ## Escapes -/

/-- A step that succeeds hands its result to the next one. -/
theorem bind_ok {ε α β : Type} {step : Except ε α} {next : α → Except ε β} {result : β}
    (passed : (step >>= next) = .ok result) : ∃ middle, step = .ok middle ∧ next middle = .ok result := by
  cases step with
  | error e => cases passed
  | ok middle => exact ⟨middle, rfl, passed⟩

theorem extends_exactly (flags : Flags) (count : Nat) : Extends (readExactly flags count) := by
  intro text longer left result grows read
  induction count generalizing text longer left result with
  | zero =>
    cases read
    exact ⟨longer, rfl, grows⟩
  | succ count ih =>
    cases text with
    | nil => cases read
    | cons c text =>
      obtain ⟨⟨front, back⟩, inner, same⟩ := bind_ok read
      cases same
      obtain ⟨leftover, extended, further⟩ := ih (longer_significant flags (.snoc text)) inner
      rw [grows.of_cons, readExactly, extended]
      exact ⟨leftover, rfl, further⟩

theorem extends_braced (flags : Flags) : Extends (readBraced flags) := by
  intro text longer left result grows read
  rw [readBraced] at read
  split at read
  · cases read
  · next span =>
    cases read
    rcases grows with rfl | ⟨rfl, -⟩
    · rw [readBraced, span_stopped span]
      exact ⟨_, rfl, .inl rfl⟩
    · cases span

theorem extends_code_point (flags : Flags) (width : Nat) : Extends (readCodePoint flags width) := by
  intro text longer left result grows read
  have begins := longer_significant flags grows
  rw [readCodePoint] at read ⊢
  generalize flags.significant text = inner at read begins
  generalize flags.significant longer = outer at begins ⊢
  split at read
  · next rest =>
    obtain ⟨⟨digits, back⟩, braced, more⟩ := bind_ok read
    obtain ⟨c, char, same⟩ := bind_ok more
    cases same
    obtain ⟨leftover, extended, further⟩ := extends_braced flags (.snoc rest) braced
    rw [begins.of_cons]
    simp only [extended, bind, Except.bind, char]
    exact ⟨leftover, rfl, further⟩
  · next unbraced =>
    obtain ⟨⟨digits, back⟩, digitsRead, more⟩ := bind_ok read
    obtain ⟨leftover, extended, further⟩ := extends_exactly flags width begins digitsRead
    split
    · next rest =>
      obtain ⟨back, same⟩ := begins.head (by decide) rfl
      exact absurd same (unbraced back)
    · obtain ⟨c, char, last⟩ := bind_ok more
      simp only [extended, bind, Except.bind, char]
      dsimp only at last
      split at last
      · cases last
      · next allowed =>
        cases last
        rw [if_neg allowed]
        exact ⟨leftover, rfl, further⟩

theorem extends_letter_set (flags : Flags) (complemented : Bool) (set ascii : CharSet) :
    Extends (letterSet flags complemented set ascii) := by
  intro text longer left result grows read
  obtain ⟨members, set, same⟩ := bind_ok read
  cases same
  rw [letterSet, set]
  exact ⟨longer, rfl, grows⟩

/-- The name of a property with the text behind it. -/
def propertyName (flags : Flags) (text : Text) : Except ReadError (Text × Text) :=
  match flags.significant text with
  | [] => .error .unfinishedEscape
  | '{' :: rest => readBraced flags rest
  | c :: rest => if c = '\\' then .error .unknownProperty else .ok ([c], rest)

/-- The set that the name of a property stands for. -/
def propertyMembers (flags : Flags) (complemented : Bool) (name : Text) :
    Except ReadError Escaped :=
  if !flags.unicode then .error .outsideAscii
  else
    match propertySet? name with
    | none => .error .unknownProperty
    | some (set, negated) =>
      (flags.complement (complemented != negated) (flags.fold set)).map .members

theorem read_property_eq (flags : Flags) (complemented : Bool) (text : Text) :
    readProperty flags complemented text = (do
      let (name, rest) ← propertyName flags text
      let members ← propertyMembers flags complemented name
      return (members, rest)) := by
  have named : ∀ name rest : Text, (do
      if !flags.unicode then throw .outsideAscii
      match propertySet? name with
      | none => throw .unknownProperty
      | some (set, negated) =>
        let set ← flags.complement (complemented != negated) (flags.fold set)
        return (Escaped.members set, rest)) = (do
      let members ← propertyMembers flags complemented name
      return (members, rest)) := by
    intro name rest
    rw [propertyMembers]
    by_cases ascii : (!flags.unicode) = true
    · rw [if_pos ascii, if_pos ascii]
      rfl
    · rw [if_neg ascii, if_neg ascii]
      cases propertySet? name with
      | none => rfl
      | some found =>
        obtain ⟨set, negated⟩ := found
        dsimp only
        cases flags.complement (complemented != negated) (flags.fold set) <;> rfl
  rw [readProperty, propertyName]
  generalize flags.significant text = inner
  cases inner with
  | nil => rfl
  | cons c rest =>
    by_cases brace : c = '{'
    · subst brace
      simp only
      cases readBraced flags rest with
      | error e => rfl
      | ok found => exact named found.1 found.2
    · by_cases letter : c = '\\'
      · subst letter
        rfl
      · simp only [letter, if_false]
        exact named [c] rest

theorem extends_property_name (flags : Flags) : Extends (propertyName flags) := by
  intro text longer left result grows read
  have begins := longer_significant flags grows
  rw [propertyName] at read ⊢
  generalize flags.significant text = inner at read begins
  generalize flags.significant longer = outer at begins ⊢
  cases inner with
  | nil => cases read
  | cons c inner =>
    rw [begins.of_cons]
    by_cases brace : c = '{'
    · subst brace
      exact extends_braced flags (.snoc inner) read
    · split at read
      · next none => cases none
      · next same =>
        cases same
        exact absurd rfl brace
      · next same =>
        cases same
        split at read
        · cases read
        · next letter =>
          cases read
          simp only [letter, if_false]
          exact ⟨_, rfl, .snoc _⟩

theorem extends_property (flags : Flags) (complemented : Bool) :
    Extends (readProperty flags complemented) := by
  intro text longer left result grows read
  rw [read_property_eq] at read ⊢
  obtain ⟨⟨name, rest⟩, named, more⟩ := bind_ok read
  obtain ⟨members, found, same⟩ := bind_ok more
  cases same
  obtain ⟨leftover, extended, further⟩ := extends_property_name flags grows named
  simp only [extended, bind, Except.bind, found]
  exact ⟨leftover, rfl, further⟩

theorem extends_word_boundary (flags : Flags) : Extends (readWordBoundary flags) := by
  intro text longer left result grows read
  unfold readWordBoundary at read ⊢
  cases text with
  | nil =>
    cases read
    rcases grows with rfl | ⟨-, rfl⟩
    · exact ⟨_, rfl, .snoc []⟩
    · exact ⟨_, rfl, .nil⟩
  | cons c text =>
    have begins := longer_significant flags (.snoc text)
    rw [grows.of_cons]
    by_cases brace : c = '{'
    · subst brace
      simp only at read ⊢
      generalize flags.significant text = inner at read begins
      generalize flags.significant (text ++ [')']) = outer at begins ⊢
      cases inner with
      | nil => cases read
      | cons d inner =>
        rw [begins.of_cons]
        simp only at read ⊢
        split at read
        · next part =>
          rw [if_pos part]
          split at read
          · next name rest span =>
            have extended := span_stopped span
            rw [List.cons_append] at extended
            rw [extended]
            split at read
            · next named =>
              cases read
              simp only [named]
              exact ⟨_, rfl, .snoc _⟩
            · cases read
          · cases read
        · next part =>
          rw [if_neg part]
          cases read
          exact ⟨_, rfl, .snoc _⟩
    · split at read
      · next same =>
        cases same
        exact absurd rfl brace
      · cases read
        split
        · next same =>
          cases same
          exact absurd rfl brace
        · exact ⟨_, rfl, .snoc (c :: text)⟩

theorem extends_escape (flags : Flags) : Extends (readEscape flags) := by
  intro text longer left result grows read
  cases text with
  | nil => cases read
  | cons c text =>
    rw [grows.of_cons]
    have behind := Longer.snoc text
    unfold readEscape at read ⊢
    dsimp only at read ⊢
    split at read
    case h_24 =>
      split at read
      · next sign =>
        cases read
        rw [if_pos sign]
        exact ⟨_, rfl, behind⟩
      · cases read
    all_goals first
      | exact extends_letter_set flags _ _ _ behind read
      | exact extends_property flags _ behind read
      | exact extends_word_boundary flags behind read
      | exact extends_code_point flags _ behind read
      | (cases read; exact ⟨_, rfl, behind⟩)

/-! ## Repetitions -/

theorem extends_count (flags : Flags) : Extends (readCount flags) := by
  intro text longer left result grows read
  rw [readCount] at read ⊢
  have begins := longer_drop_while (p := Unicode.isBlank) (by decide) grows
  obtain ⟨digits, rest⟩ := span_longer flags Char.isDigit false (by decide) begins
  dsimp only at read ⊢
  rw [digits]
  split at read
  · next number =>
    cases read
    exact ⟨_, rfl, longer_drop_while (by decide) rest⟩
  · cases read

/-- Bounds end with a brace, so that the parenthesis is left behind them. -/
theorem bounds_longer {flags : Flags} {text longer left : Text} {least : Nat} {most : Option Nat}
    (grows : Longer text longer) (read : readBounds flags text = .ok (least, most, left)) :
    readBounds flags longer = .ok (least, most, left ++ [')']) := by
  obtain ⟨⟨count, rest⟩, counted, more⟩ := bind_ok read
  obtain ⟨leftover, extended, behind⟩ := extends_count flags (longer_significant flags grows) counted
  simp only [readBounds, extended, bind, Except.bind]
  dsimp only at more
  split at more
  · cases more
    rw [behind.of_cons]
    rfl
  · next rest =>
    rw [behind.of_cons]
    simp only
    have next := longer_significant flags (.snoc rest)
    generalize flags.significant rest = inner at more next
    generalize flags.significant (rest ++ [')']) = outer at next ⊢
    split at more
    · cases more
      rw [next.of_cons]
      rfl
    · next open_ =>
      obtain ⟨⟨second, last⟩, counted, more⟩ := bind_ok more
      obtain ⟨leftover, extended, behind⟩ := extends_count flags next counted
      split
      · obtain ⟨back, same⟩ := next.head (by decide) rfl
        exact absurd same (open_ back)
      · simp only [extended]
        dsimp only at more
        split at more
        · rw [behind.of_cons]
          simp only
          split at more
          · next ordered =>
            cases more
            rw [if_pos ordered]
            rfl
          · cases more
        · cases more
  · cases more

/-! ## Groups -/

theorem flags_longer {seen : Text} {flags changed : Flags} {text rest : Text} {mark : Char}
    (read : readFlags seen flags text = .ok (changed, mark, rest)) :
    readFlags seen flags (text ++ [')']) = .ok (changed, mark, rest ++ [')']) := by
  induction text generalizing seen flags with
  | nil => cases read
  | cons c text ih =>
    rw [readFlags] at read
    rw [List.cons_append, readFlags]
    split at read
    · next mark =>
      rw [if_pos mark]
      split at read
      · cases read
      · next allowed =>
        cases read
        rw [if_neg allowed]
    · next letter =>
      rw [if_neg letter]
      split at read
      · cases read
      · next fresh =>
        rw [if_neg fresh]
        split at read
        · next hyphen =>
          rw [if_pos hyphen]
          exact ih read
        · next other =>
          rw [if_neg other]
          split at read
          · exact ih read
          · cases read

/-- A part of a text in front of a character is the same in a longer text. -/
theorem drop_while_stopped {p : Char → Bool} {text back : Text} {c : Char}
    (stops : text.dropWhile p = c :: back) :
    (text ++ [')']).dropWhile p = c :: (back ++ [')']) ∧
      (text ++ [')']).takeWhile p = text.takeWhile p := by
  induction text with
  | nil => cases stops
  | cons d text ih =>
    rw [List.dropWhile_cons] at stops
    rw [List.cons_append, List.dropWhile_cons, List.takeWhile_cons, List.takeWhile_cons]
    split at stops
    · next inside =>
      rw [if_pos inside, if_pos inside, if_pos inside]
      obtain ⟨dropped, taken⟩ := ih stops
      exact ⟨dropped, by rw [taken]⟩
    · next outside =>
      rw [if_neg outside, if_neg outside, if_neg outside]
      cases stops
      exact ⟨rfl, rfl⟩

theorem extends_group_name (flags : Flags) : Extends (readGroupName flags) := by
  intro text longer left result grows read
  rw [readGroupName] at read
  split at read
  · cases read
  · next dropped =>
    dsimp only at read
    split at read
    · next named =>
      cases read
      rcases grows with rfl | ⟨rfl, -⟩
      · obtain ⟨stopped, taken⟩ := drop_while_stopped dropped
        rw [readGroupName, stopped]
        dsimp only
        rw [taken, if_pos named]
        exact ⟨_, rfl, .snoc left⟩
      · cases dropped
    · cases read

theorem extends_opening (flags : Flags) : Extends (readOpening flags) := by
  intro text longer left result grows read
  have begins := longer_significant flags grows
  unfold readOpening at read ⊢
  generalize flags.significant text = inner at read begins
  generalize flags.significant longer = outer at begins ⊢
  split at read
  · next rest =>
    rw [begins.of_cons]
    exact extends_group_name flags (.snoc rest) read
  · cases read
  · cases read
  · next rest noLookAhead noNegation =>
    rw [begins.of_cons]
    have lookAhead := (Longer.snoc rest).other (c := '=') (by decide) fun back same =>
      noLookAhead back (by rw [same])
    have negation := (Longer.snoc rest).other (c := '!') (by decide) fun back same =>
      noNegation back (by rw [same])
    split
    · next same => cases same
    · next same => exact absurd (List.cons.inj (List.cons.inj same).2).2 (lookAhead _)
    · next same => exact absurd (List.cons.inj (List.cons.inj same).2).2 (negation _)
    · next same =>
      cases same
      exact extends_group_name flags (.snoc rest) read
    · next unnamed same =>
      cases same
      exact absurd rfl (unnamed _)
    · next unmarked => exact absurd rfl (unmarked _)
  · next rest noName _ _ noBracket =>
    rw [begins.of_cons]
    have bracket := (Longer.snoc rest).other (c := '<') (by decide) noBracket
    have name : ∀ back, rest ++ [')'] ≠ 'P' :: '<' :: back := by
      intro back same
      obtain ⟨tail, rfl⟩ := (Longer.snoc rest).head (by decide) same
      have behind := (Longer.snoc tail).other (c := '<') (by decide) fun back same =>
        noName back (by rw [same])
      exact behind back (List.cons.inj same).2
    split
    · next same => exact absurd (List.cons.inj same).2 (name _)
    · next same => exact absurd (List.cons.inj same).2 (bracket _)
    · next same => exact absurd (List.cons.inj same).2 (bracket _)
    · next same => exact absurd (List.cons.inj same).2 (bracket _)
    · next same =>
      cases same
      split at read
      · cases read
      · next changed =>
        cases read
        rw [flags_longer changed]
        exact ⟨_, rfl, .snoc left⟩
      · next closes changed =>
        cases read
        rw [flags_longer changed]
        split
        · next same => cases same
        · next same =>
          cases same
          exact absurd rfl closes
        · next same =>
          cases same
          exact ⟨_, rfl, .snoc left⟩
    · next unmarked => exact absurd rfl (unmarked _)
  · next unmarked =>
    have mark := begins.other (c := '?') (by decide) unmarked
    cases read
    split
    · exact absurd rfl (mark _)
    · exact absurd rfl (mark _)
    · exact absurd rfl (mark _)
    · exact absurd rfl (mark _)
    · exact absurd rfl (mark _)
    · exact ⟨_, rfl, begins⟩

end FormulaLexer.ReaderExtension
