import FormulaLexer.Proofs.ReaderExtension

/-! Readers of classes and of whole elements in front of a closing parenthesis. A class ends with a
bracket of its own, so nothing inside of it reaches the end of the text, and an element is read in
the longer text as it is read in the text. -/
namespace FormulaLexer.ElementExtension
open Pattern ReaderExtension

/-! ## Classes -/

theorem extends_class_atom (flags : Flags) : Extends (readClassAtom flags) := by
  intro text longer left result grows read
  cases text with
  | nil => cases read
  | cons c text =>
    rw [grows.of_cons]
    by_cases backslash : c = '\\'
    · subst backslash
      exact extends_escape flags (.snoc text) read
    · have literal : ∀ rest, readClassAtom flags (c :: rest) = .ok (.literal c, rest) := by
        intro rest
        unfold readClassAtom
        split
        · next none => cases none
        · next same =>
          cases same
          exact absurd rfl backslash
        · next same =>
          cases same
          rfl
      rw [literal] at read ⊢
      cases read
      exact ⟨_, rfl, .snoc _⟩

theorem head_longer {text longer : Text} (grows : Longer text longer) {c : Char} (other : c ≠ ')') :
    longer.head? = some c ↔ text.head? = some c := by
  constructor
  · intro head
    cases longer with
    | nil => cases head
    | cons d longer =>
      cases head
      obtain ⟨back, rfl⟩ := grows.head other rfl
      rfl
  · intro head
    cases text with
    | nil => cases head
    | cons d text =>
      cases head
      rw [grows.of_cons]
      rfl

theorem longer_drop {text longer : Text} (grows : Longer text longer) :
    Longer (text.drop 1) (longer.drop 1) := by
  cases text with
  | nil =>
    rcases grows with rfl | ⟨-, rfl⟩
    · exact .nil
    · exact .nil
  | cons c text =>
    rw [grows.of_cons]
    exact .snoc text

/-- What tells a range from a hyphen that stands for itself is the same in a longer text. -/
theorem behind_hyphen_longer (flags : Flags) {text longer : Text} (grows : Longer text longer)
    {c : Char} (sign : c = ']' ∨ c = '-') :
    behindHyphen flags longer = some c ↔ behindHyphen flags text = some c := by
  have other : c ≠ ')' ∧ Unicode.isBlank c = false ∧ c ≠ '#' := by
    rcases sign with rfl | rfl <;> decide
  have blanks := longer_drop_while (p := Unicode.isBlank) (by decide) grows
  unfold behindHyphen
  split
  · next verbose =>
    dsimp only
    have visible : text.head? = some c → (text.dropWhile Unicode.isBlank).head? = some c := by
      intro head
      cases text with
      | nil => cases head
      | cons d text =>
        cases head
        rw [List.dropWhile_cons, if_neg (by simp [other.2.1])]
        rfl
    have passed : ∃ rest rest' : Text, Longer rest rest' ∧
        (if (text.dropWhile Unicode.isBlank).head? = some '#'
          then ((text.dropWhile Unicode.isBlank).drop 1).dropWhile Unicode.isBlank
          else text.dropWhile Unicode.isBlank) = rest ∧
        (if (longer.dropWhile Unicode.isBlank).head? = some '#'
          then ((longer.dropWhile Unicode.isBlank).drop 1).dropWhile Unicode.isBlank
          else longer.dropWhile Unicode.isBlank) = rest' ∧
        (rest = [] → text.head? ≠ some c) := by
      have comment := head_longer blanks (c := '#') (by decide)
      by_cases sign : (text.dropWhile Unicode.isBlank).head? = some '#'
      · refine ⟨_, _, longer_drop_while (by decide) (longer_drop blanks), if_pos sign,
          if_pos (comment.mpr sign), fun _ head => ?_⟩
        rw [visible head] at sign
        cases sign
        exact other.2.2 rfl
      · refine ⟨_, _, blanks, if_neg sign, if_neg fun head => sign (comment.mp head),
          fun none head => ?_⟩
        have first := visible head
        rw [none] at first
        cases first
    obtain ⟨rest, rest', further, same, same', shown⟩ := passed
    rw [same, same']
    cases rest with
    | nil =>
      have absent := shown rfl
      rcases further with rfl | ⟨-, rfl⟩
      · constructor
        · intro head
          cases head
          exact absurd rfl other.1
        · intro head
          exact absurd head absent
      · simpa using head_longer grows other.1
    | cons d rest =>
      rw [further.of_cons]
      exact Iff.rfl
  · exact head_longer grows other.1

theorem extends_item (flags : Flags) : Extends (readItem flags) := by
  intro text longer left result grows read
  obtain ⟨⟨first, rest⟩, atom, more⟩ := bind_ok read
  obtain ⟨leftover, extended, further⟩ := extends_class_atom flags grows atom
  have begins := longer_significant flags further
  simp only [readItem, extended, bind, Except.bind]
  dsimp only at more
  generalize flags.significant rest = inner at more begins
  generalize flags.significant leftover = outer at begins ⊢
  have hyphen := head_longer begins (c := '-') (by decide)
  have bracketed := behind_hyphen_longer flags (longer_drop begins) (c := ']') (.inl rfl)
  have doubled := behind_hyphen_longer flags (longer_drop begins) (c := '-') (.inr rfl)
  split at more
  · next range =>
    rw [if_pos ⟨hyphen.mpr range.1, fun same => range.2.1 (bracketed.mp same),
      fun same => range.2.2 (doubled.mp same)⟩]
    obtain ⟨⟨last, back⟩, atom, more⟩ := bind_ok more
    obtain ⟨leftover, extended, further⟩ :=
      extends_class_atom flags (longer_significant flags (longer_drop begins)) atom
    obtain ⟨low, lowest, more⟩ := bind_ok more
    obtain ⟨high, highest, more⟩ := bind_ok more
    simp only [extended, lowest, highest]
    split at more
    · next ordered =>
      cases more
      rw [if_pos ordered]
      exact ⟨_, rfl, further⟩
    · cases more
  · next single =>
    rw [if_neg fun range => single ⟨hyphen.mp range.1, fun same => range.2.1 (bracketed.mpr same),
      fun same => range.2.2 (doubled.mpr same)⟩]
    cases first with
    | literal c =>
      obtain ⟨member, found, same⟩ := bind_ok more
      cases same
      simp only [found]
      exact ⟨_, rfl, begins⟩
    | members set =>
      cases more
      exact ⟨_, rfl, begins⟩
    | anchor condition => cases more

theorem drop_while_all {p : Char → Bool} (goesOn : p ')' = true) {text : Text}
    (all : text.dropWhile p = []) : (text ++ [')']).dropWhile p = [] := by
  induction text with
  | nil => simp [goesOn]
  | cons c text ih =>
    rw [List.dropWhile_cons] at all
    rw [List.cons_append, List.dropWhile_cons]
    split at all
    · next inside =>
      rw [if_pos inside]
      exact ih all
    · cases all

/-- The part of a named set behind its marks, and the text behind it. -/
def namedBehind? (complemented : Bool) (text : Text) : Option (CharSet × Bool × Text) :=
  match text.dropWhile (· ≠ ':') with
  | ':' :: ']' :: rest =>
    (asciiSet? (text.takeWhile (· ≠ ':'))).map fun set => (set, complemented, rest)
  | _ => none

theorem named_behind_longer (complemented : Bool) (text : Text) :
    namedBehind? complemented (text ++ [')']) = (namedBehind? complemented text).map
      fun (set, complemented, left) => (set, complemented, left ++ [')']) := by
  unfold namedBehind?
  cases stops : text.dropWhile (· ≠ ':') with
  | nil => rw [drop_while_all (by decide) stops]; rfl
  | cons c back =>
    obtain ⟨dropped, taken⟩ := drop_while_stopped stops
    rw [dropped, taken]
    split
    · next same =>
      obtain ⟨rfl, closed⟩ := List.cons.inj same
      obtain ⟨tail, rfl⟩ := (Longer.snoc back).head (by decide) closed
      cases closed
      simp [Option.map_map, Function.comp_def]
    · next other =>
      split
      · next same =>
        cases same
        exact absurd rfl (other _)
      · rfl

theorem named_set_longer (text : Text) :
    namedSet? (text ++ [')']) =
      (namedSet? text).map fun (set, complemented, left) => (set, complemented, left ++ [')']) := by
  cases text with
  | nil => rfl
  | cons c text =>
    by_cases colon : c = ':'
    · subst colon
      have eq : ∀ rest : Text, namedSet? (':' :: rest) = namedBehind? (rest.head? = some '^')
          (if rest.head? = some '^' then rest.drop 1 else rest) := by
        intro rest
        rfl
      have mark := head_longer (.snoc text) (c := '^') (by decide)
      rw [List.cons_append, eq, eq]
      by_cases caret : text.head? = some '^'
      · obtain ⟨rest, rfl⟩ : ∃ rest, text = '^' :: rest := by
          cases text with
          | nil => cases caret
          | cons d text =>
            cases caret
            exact ⟨text, rfl⟩
        exact named_behind_longer true rest
      · simp only [mark, caret, if_false]
        exact named_behind_longer _ text
    · have none : ∀ rest, namedSet? (c :: rest) = none := by
        intro rest
        unfold namedSet?
        split
        · next same =>
          cases same
          exact absurd rfl colon
        · rfl
      rw [List.cons_append, none, none]
      rfl

theorem open_class_longer (flags : Flags) {text longer : Text} (grows : Longer text longer) :
    (openClass flags longer).1 = (openClass flags text).1 ∧
      Longer (openClass flags text).2 (openClass flags longer).2 := by
  have begins := longer_significant flags grows
  unfold openClass
  dsimp only
  generalize flags.significant text = inner at begins ⊢
  generalize flags.significant longer = outer at begins ⊢
  have mark := head_longer begins (c := '^') (by decide)
  obtain ⟨rest, rest', further, same, same'⟩ : ∃ rest rest' : Text, Longer rest rest' ∧
      (if inner.head? = some '^' then flags.significant (inner.drop 1) else inner) = rest ∧
      (if outer.head? = some '^' then flags.significant (outer.drop 1) else outer) = rest' := by
    by_cases caret : inner.head? = some '^'
    · exact ⟨_, _, longer_significant flags (longer_drop begins), by simp [caret],
        by simp [mark.mpr caret]⟩
    · exact ⟨_, _, begins, by simp [caret], by simp [mark, caret]⟩
  simp only [mark] at same' ⊢
  rw [same, same']
  obtain ⟨hyphens, left⟩ := span_longer flags (fun c => decide (c = '-')) false
    (by decide) further
  change (readHyphens flags rest').1 = (readHyphens flags rest).1 at hyphens
  change Longer (readHyphens flags rest).2 (readHyphens flags rest').2 at left
  rw [hyphens]
  generalize (readHyphens flags rest).1 = signs
  generalize (readHyphens flags rest).2 = inner at left
  generalize (readHyphens flags rest').2 = outer at left ⊢
  split
  · next back =>
    obtain ⟨tail, rfl⟩ := left.head (by decide) rfl
    obtain ⟨-, rfl⟩ := List.cons.inj left.of_cons
    exact ⟨rfl, .snoc tail⟩
  · next other =>
    split
    · next none => exact absurd left.of_cons (other _ rfl)
    · exact ⟨rfl, left⟩

/-- A part that does not reach the end of the text is as long in the longer text. -/
theorem owed_longer (text : Text) {left leftover : Text} (further : Longer left leftover) :
    left = [] ∧ leftover = [] ∨
      (text ++ [')']).length - leftover.length = text.length - left.length := by
  rcases further with rfl | none
  · exact .inr (by simp)
  · exact .inl none

theorem inside_unclosed {flags : Flags} {text : Text} {owed : Nat} {level : OpenClass}
    {outer : List OpenClass} (short : text.length ≤ owed) :
    readInside flags text owed level outer = .error .unclosedClass := by
  induction text generalizing owed with
  | nil => rfl
  | cons c text ih =>
    cases owed with
    | zero => cases short
    | succ owed => exact ih (Nat.le_of_succ_le_succ short)

/-- The inside of a class goes on behind a part in the longer text, if it does so in front of the
parenthesis: what has been read reaches the end of neither text, since the class is closed. -/
theorem inside_behind {flags : Flags} {rest behind beyond left : Text} {level : OpenClass}
    {outer : List OpenClass} {set : NestedSet} (further : Longer behind beyond)
    (read : readInside flags rest (rest.length - behind.length) level outer = .ok (set, left))
    (goesOn : ∀ {owed}, readInside flags rest owed level outer = .ok (set, left) →
      readInside flags (rest ++ [')']) owed level outer = .ok (set, left ++ [')'])) :
    readInside flags (rest ++ [')']) ((rest ++ [')']).length - beyond.length) level outer =
      .ok (set, left ++ [')']) := by
  rcases owed_longer rest further with ⟨rfl, rfl⟩ | same
  · rw [inside_unclosed (by simp)] at read
    cases read
  · rw [same]
    exact goesOn read

/-- The inside of a class ends with its bracket, so that the parenthesis is left behind it. -/
theorem inside_longer {flags : Flags} {text left : Text} {owed : Nat} {level : OpenClass}
    {outer : List OpenClass} {set : NestedSet}
    (read : readInside flags text owed level outer = .ok (set, left)) :
    readInside flags (text ++ [')']) owed level outer = .ok (set, left ++ [')']) := by
  induction text generalizing owed level outer with
  | nil => cases read
  | cons c rest ih =>
    cases owed with
    | succ owed => exact ih read
    | zero =>
      rw [readInside] at read
      rw [List.cons_append, readInside]
      by_cases layout : flags.startsLayout c = true
      · rw [if_pos layout] at read ⊢
        exact inside_behind (longer_skip _ (.snoc rest)) read ih
      rw [if_neg layout] at read ⊢
      by_cases opens : c = '['
      · rw [if_pos opens] at read ⊢
        rw [named_set_longer]
        cases named : namedSet? rest with
        | some found =>
          obtain ⟨members, complemented, behind⟩ := found
          simp only [named] at read
          obtain ⟨members, complete, more⟩ := bind_ok read
          simp only [Option.map_some, complete, bind, Except.bind]
          exact inside_behind (.snoc behind) more ih
        | none =>
          simp only [named] at read
          obtain ⟨same, further⟩ := open_class_longer flags (.snoc rest)
          simp only [Option.map_none, same]
          exact inside_behind further read ih
      rw [if_neg opens] at read ⊢
      by_cases closes : c = ']'
      · rw [if_pos closes] at read ⊢
        obtain ⟨closed, complete, more⟩ := bind_ok read
        simp only [complete, bind, Except.bind]
        cases outer with
        | nil =>
          cases more
          rfl
        | cons parent outer => exact ih more
      rw [if_neg closes] at read ⊢
      have mark : (if (rest ++ [')']).head? = some c then SetOperator.ofMark? c else none) =
          if rest.head? = some c then SetOperator.ofMark? c else none := by
        by_cases parenthesis : c = ')'
        · subst parenthesis
          simp [SetOperator.ofMark?]
        · simp only [head_longer (.snoc rest) parenthesis]
      rw [mark]
      split at read
      · exact ih read
      · obtain ⟨⟨members, behind⟩, item, more⟩ := bind_ok read
        obtain ⟨leftover, extended, further⟩ := extends_item flags (.snoc (c :: rest)) item
        rw [List.cons_append] at extended
        simp only [extended, bind, Except.bind]
        exact inside_behind further more ih

theorem extends_class (flags : Flags) : Extends (readClass flags) := by
  intro text longer left result grows read
  obtain ⟨same, further⟩ := open_class_longer flags grows
  rw [readClass] at read ⊢
  dsimp only at read ⊢
  rw [same]
  rcases further with further | ⟨none, -⟩
  · rw [further]
    exact ⟨_, inside_longer read, .snoc left⟩
  · rw [none] at read
    cases read

/-! ## Elements -/

theorem greed_longer (flags : Flags) (least : Nat) (most : Option Nat) {text longer : Text}
    (grows : Longer text longer) :
    (withGreed flags least most longer).1 = (withGreed flags least most text).1 ∧
      Longer (withGreed flags least most text).2 (withGreed flags least most longer).2 := by
  unfold withGreed
  split
  · next back =>
    obtain ⟨tail, rfl⟩ := grows.head (by decide) rfl
    obtain ⟨-, rfl⟩ := List.cons.inj grows.of_cons
    exact ⟨rfl, .snoc tail⟩
  · next other =>
    split
    · next none => exact absurd grows.of_cons (other _)
    · exact ⟨rfl, grows⟩

/-- A step whose result is only written in another way. -/
theorem map_ok {α β : Type} {step : Except ReadError α} {f : α → β} {result : β}
    (passed : step.map f = .ok result) : ∃ found, step = .ok found ∧ f found = result := by
  cases step with
  | error e => cases passed
  | ok found => exact ⟨found, rfl, Except.ok.inj passed⟩

/-- Every element of a pattern is read in the same way with a closing parenthesis behind the
pattern. -/
theorem extends_element (flags : Flags) (c : Char) : Extends (readElement flags c) := by
  intro text longer left result grows read
  have greedy : ∀ {least most} {rest more : Text}, Longer rest more →
      withGreed flags least most rest = (result, left) →
      ∃ leftover, (Except.ok (withGreed flags least most more) :
        Except ReadError (Element × Text)) = .ok (result, leftover) ∧ Longer left leftover := by
    intro least most rest more grows read
    obtain ⟨same, further⟩ := greed_longer flags least most grows
    rw [read] at same further
    exact ⟨(withGreed flags least most more).2, congrArg Except.ok (Prod.ext same rfl), further⟩
  unfold readElement at read ⊢
  split at read
  · cases read
    exact ⟨longer, rfl, grows⟩
  · exact extends_opening flags grows read
  · cases read
    exact ⟨longer, rfl, grows⟩
  · exact greedy grows (Except.ok.inj read)
  · exact greedy grows (Except.ok.inj read)
  · exact greedy grows (Except.ok.inj read)
  · obtain ⟨⟨least, most, back⟩, bounds, same⟩ := map_ok read
    simp only [bounds_longer grows bounds, Except.map]
    exact greedy (longer_significant flags (.snoc back)) same
  · obtain ⟨⟨nested, back⟩, inside, same⟩ := map_ok read
    cases same
    obtain ⟨leftover, extended, further⟩ := extends_class flags grows inside
    simp only [extended, Except.map]
    exact ⟨leftover, rfl, further⟩
  · obtain ⟨set, found, same⟩ := map_ok read
    cases same
    simp only [found, Except.map]
    exact ⟨longer, rfl, grows⟩
  · cases read
    exact ⟨longer, rfl, grows⟩
  · cases read
    exact ⟨longer, rfl, grows⟩
  · obtain ⟨⟨escaped, back⟩, inside, same⟩ := map_ok read
    obtain ⟨leftover, extended, further⟩ := extends_escape flags grows inside
    simp only [extended, Except.map]
    cases escaped <;> (cases same; exact ⟨leftover, rfl, further⟩)
  · split at read
    · next layout =>
      cases read
      rw [if_pos layout]
      exact ⟨_, rfl, longer_skip _ grows⟩
    · next visible =>
      cases read
      rw [if_neg visible]
      exact ⟨longer, rfl, grows⟩

end FormulaLexer.ElementExtension
