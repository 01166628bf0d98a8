import FormulaLexer.Proofs.Ways

/-! The characters that a route spells with. The sets of a route tell which characters its texts are
made of, and those that can come first or last tell how its texts begin and end. -/
namespace FormulaLexer.Spelling
open Ways

/-! ## Shapes of routes -/

theorem spells_one_iff {set : CharSet} {text : Text} :
    Spells (.one set) text ↔ ∃ c, set.contains c = true ∧ text = [c] := by
  constructor
  · rintro (_ | member)
    exact ⟨_, member, rfl⟩
  · rintro ⟨c, member, rfl⟩
    exact .one member

theorem spells_sequence_iff {first second : Route} {text : Text} :
    Spells (.sequence first second) text ↔
      ∃ front back, Spells first front ∧ Spells second back ∧ text = front ++ back := by
  constructor
  · intro spells
    cases spells with
    | sequence begins ends => exact ⟨_, _, begins, ends, rfl⟩
  · rintro ⟨front, back, begins, ends, rfl⟩
    exact .sequence begins ends

theorem spells_either_iff {label : Nat} {preferred other : Route} {text : Text} :
    Spells (.either label preferred other) text ↔ Spells preferred text ∨ Spells other text := by
  constructor
  · intro spells
    cases spells with
    | preferred spells => exact .inl spells
    | other spells => exact .inr spells
  · rintro (spells | spells)
    · exact .preferred spells
    · exact .other spells

/-- An anchor in front of a route spells nothing. -/
theorem spells_anchored_iff {condition : Anchor} {body : Route} {text : Text} :
    Spells (.sequence (.anchor condition) body) text ↔ Spells body text := by
  rw [spells_sequence_iff]
  constructor
  · rintro ⟨front, back, start, spells, rfl⟩
    cases start
    exact spells
  · intro spells
    exact ⟨[], text, .anchor, spells, rfl⟩

/-! ## Sets of routes -/

/-- All sets of a route. -/
def sets : Route → List CharSet
  | .empty => []
  | .one set => [set]
  | .anchor _ => []
  | .sequence first second => sets first ++ sets second
  | .either _ preferred other => sets preferred ++ sets other
  | .star _ _ body => sets body

/-- The sets of the characters that can come first. -/
def firsts : Route → List CharSet
  | .empty => []
  | .one set => [set]
  | .anchor _ => []
  | .sequence first second => firsts first ++ if nullable first then firsts second else []
  | .either _ preferred other => firsts preferred ++ firsts other
  | .star _ _ body => firsts body

/-- The sets of the characters that can come last. -/
def lasts : Route → List CharSet
  | .empty => []
  | .one set => [set]
  | .anchor _ => []
  | .sequence first second => lasts second ++ if nullable second then lasts first else []
  | .either _ preferred other => lasts preferred ++ lasts other
  | .star _ _ body => lasts body

/-- Whether a character belongs to one of the sets. -/
def Among (sets : List CharSet) (c : Char) : Prop := ∃ set ∈ sets, set.contains c = true

theorem Among.left {front : List CharSet} {c : Char} (among : Among front c)
    (back : List CharSet) : Among (front ++ back) c := by
  obtain ⟨set, member, holds⟩ := among
  exact ⟨set, List.mem_append_left back member, holds⟩

theorem Among.right {back : List CharSet} {c : Char} (among : Among back c)
    (front : List CharSet) : Among (front ++ back) c := by
  obtain ⟨set, member, holds⟩ := among
  exact ⟨set, List.mem_append_right front member, holds⟩

theorem spells_sets {route : Route} {text : Text} (spells : Spells route text) :
    ∀ c ∈ text, Among (sets route) c := by
  induction spells with
  | empty => simp
  | one member =>
    intro c only
    cases List.mem_singleton.mp only
    exact ⟨_, by simp [sets], member⟩
  | anchor => simp
  | sequence begins ends ihBegins ihEnds =>
    intro c member
    rcases List.mem_append.mp member with member | member
    · exact (ihBegins c member).left _
    · exact (ihEnds c member).right _
  | preferred spells ih => exact fun c member => (ih c member).left _
  | other spells ih => exact fun c member => (ih c member).right _
  | done => simp
  | more begins ends ihBegins ihEnds =>
    intro c member
    rcases List.mem_append.mp member with member | member
    · exact ihBegins c member
    · exact ihEnds c member

theorem spells_firsts {route : Route} {text : Text} (spells : Spells route text) {c : Char}
    (head : text.head? = some c) : Among (firsts route) c := by
  induction spells with
  | empty => cases head
  | one member =>
    cases head
    exact ⟨_, by simp [firsts], member⟩
  | anchor => cases head
  | @sequence first second front back begins ends ihBegins ihEnds =>
    cases front with
    | nil =>
      rw [firsts, nullable_of_spells begins rfl, if_pos rfl]
      exact (ihEnds head).right _
    | cons d front => exact (ihBegins head).left _
  | preferred spells ih => exact (ih head).left _
  | other spells ih => exact (ih head).right _
  | done => cases head
  | @more _ _ _ front back begins ends ihBegins ihEnds =>
    cases front with
    | nil => exact ihEnds head
    | cons d front => exact ihBegins head

theorem spells_lasts {route : Route} {text : Text} (spells : Spells route text) {c : Char}
    (last : text.getLast? = some c) : Among (lasts route) c := by
  induction spells with
  | empty => cases last
  | one member =>
    cases last
    exact ⟨_, by simp [lasts], member⟩
  | anchor => cases last
  | @sequence first second front back begins ends ihBegins ihEnds =>
    cases empty : back.getLast? with
    | none =>
      have none : back = [] := List.getLast?_eq_none_iff.mp empty
      subst none
      rw [List.append_nil] at last
      rw [lasts, nullable_of_spells ends rfl, if_pos rfl]
      exact (ihBegins last).right _
    | some d =>
      rw [List.getLast?_append, empty, Option.some_or] at last
      cases last
      exact (ihEnds empty).left _
  | preferred spells ih => exact (ih last).left _
  | other spells ih => exact (ih last).right _
  | done => cases last
  | @more _ _ _ front back begins ends ihBegins ihEnds =>
    cases empty : back.getLast? with
    | none =>
      have none : back = [] := List.getLast?_eq_none_iff.mp empty
      subst none
      rw [List.append_nil] at last
      exact ihBegins last
    | some d =>
      rw [List.getLast?_append, empty, Option.some_or] at last
      cases last
      exact ihEnds empty

/-- A character that none of the sets of a route holds is in no text of it. -/
theorem not_mem_of_sets {route : Route} {raw : Text} (spells : Spells route raw) {c : Char}
    (outside : (sets route).all fun set => !set.contains c) : c ∉ raw := by
  intro member
  obtain ⟨set, listed, holds⟩ := spells_sets spells c member
  have refused := List.all_eq_true.mp outside set listed
  rw [holds] at refused
  cases refused

/-- A character that none of the first sets of a route holds begins no text of it. -/
theorem not_begins {route : Route} {c : Char} {rest : Text} (spells : Spells route (c :: rest))
    (outside : (firsts route).all fun set => !set.contains c) : False := by
  obtain ⟨set, listed, holds⟩ := spells_firsts spells (c := c) rfl
  have refused := List.all_eq_true.mp outside set listed
  rw [holds] at refused
  cases refused

/-- A repetition spells any number of characters of its set. -/
theorem spells_star_one {label : Nat} {greedy : Bool} {set : CharSet} {text : Text}
    (inside : ∀ c ∈ text, set.contains c = true) : Spells (.star label greedy (.one set)) text := by
  induction text with
  | nil => exact .done
  | cons c text ih =>
    have first : Spells (.one set) [c] := .one (inside c (by simp))
    exact .more first (ih fun d member => inside d (by simp [member]))

/-- What a character and a repetition of its set spell is a run that is not empty. -/
theorem spells_run_iff {label : Nat} {greedy : Bool} {set : CharSet} {text : Text} :
    Spells (.sequence (.one set) (.star label greedy (.one set))) text ↔
      text ≠ [] ∧ ∀ c ∈ text, set.contains c = true := by
  constructor
  · intro spells
    constructor
    · rintro rfl
      cases nullable_of_spells spells rfl
    · intro c member
      obtain ⟨other, listed, holds⟩ := spells_sets spells c member
      have only : other = set := by simpa [sets] using listed
      exact only ▸ holds
  · rintro ⟨filled, inside⟩
    obtain ⟨c, others, rfl⟩ := List.exists_cons_of_ne_nil filled
    have first : Spells (.one set) [c] := .one (inside c (by simp))
    exact .sequence first (spells_star_one fun d member => inside d (by simp [member]))

/-! ## Spellings decided

What a route spells behind a character is what its derivative by that character spells, so a text
is decided one character after the other. -/

/-- A route without texts. -/
def failing : Route := .one .none

/-- The derivative of a route by a character. -/
def behind (c : Char) : Route → Route
  | .empty => failing
  | .one set => if set.contains c then .empty else failing
  | .anchor _ => failing
  | .sequence first second =>
    if nullable first then .either 0 (.sequence (behind c first) second) (behind c second)
    else .sequence (behind c first) second
  | .either label preferred other => .either label (behind c preferred) (behind c other)
  | .star label greedy body => .sequence (behind c body) (.star label greedy body)

theorem not_failing {text : Text} (spells : Spells failing text) : False := by
  cases spells with
  | one member => cases member

theorem behind_of_spells {route : Route} {text rest : Text} {c : Char} (spells : Spells route text)
    (whole : text = c :: rest) : Spells (behind c route) rest := by
  induction spells generalizing rest with
  | empty => cases whole
  | one member =>
    cases whole
    rw [behind, if_pos member]
    exact .empty
  | anchor => cases whole
  | @sequence first second front back begins ends ihBegins ihEnds =>
    rw [behind]
    cases front with
    | nil =>
      rw [nullable_of_spells begins rfl, if_pos rfl]
      exact .other (ihEnds whole)
    | cons d front =>
      cases whole
      have first := Spells.sequence (ihBegins rfl) ends
      split
      · exact .preferred first
      · exact first
  | preferred spells ih => exact .preferred (ih whole)
  | other spells ih => exact .other (ih whole)
  | done => cases whole
  | @more label greedy body front back begins ends ihBegins ihEnds =>
    cases front with
    | nil => exact ihEnds whole
    | cons d front =>
      cases whole
      exact .sequence (ihBegins rfl) ends

theorem spells_of_nullable {route : Route} (empty : nullable route = true) : Spells route [] := by
  induction route with
  | empty => exact .empty
  | one set => cases empty
  | anchor condition => exact .anchor
  | sequence first second ihFirst ihSecond =>
    rw [nullable, Bool.and_eq_true] at empty
    exact .sequence (ihFirst empty.1) (ihSecond empty.2)
  | either label preferred other ihPreferred ihOther =>
    rw [nullable, Bool.or_eq_true] at empty
    rcases empty with empty | empty
    · exact .preferred (ihPreferred empty)
    · exact .other (ihOther empty)
  | star label greedy body => exact .done

theorem spells_of_behind {route : Route} {rest : Text} {c : Char}
    (spells : Spells (behind c route) rest) : Spells route (c :: rest) := by
  induction route generalizing rest with
  | empty => exact (not_failing spells).elim
  | one set =>
    rw [behind] at spells
    split at spells
    · next member =>
      cases spells
      exact .one member
    · exact (not_failing spells).elim
  | anchor condition => exact (not_failing spells).elim
  | sequence first second ihFirst ihSecond =>
    have inside : ∀ {rest}, Spells (.sequence (behind c first) second) rest →
        Spells (.sequence first second) (c :: rest) := by
      intro rest spells
      cases spells with
      | sequence begins ends => exact .sequence (ihFirst begins) ends
    rw [behind] at spells
    split at spells
    · next empty =>
      cases spells with
      | preferred spells => exact inside spells
      | other spells => exact .sequence (spells_of_nullable empty) (ihSecond spells)
    · exact inside spells
  | either label preferred other ihPreferred ihOther =>
    cases spells with
    | preferred spells => exact .preferred (ihPreferred spells)
    | other spells => exact .other (ihOther spells)
  | star label greedy body ih =>
    cases spells with
    | sequence begins ends => exact .more (ih begins) ends

theorem spells_nil {route : Route} : Spells route [] ↔ nullable route = true :=
  ⟨fun spells => nullable_of_spells spells rfl, spells_of_nullable⟩

theorem spells_cons {route : Route} {c : Char} {rest : Text} :
    Spells route (c :: rest) ↔ Spells (behind c route) rest :=
  ⟨fun spells => behind_of_spells spells rfl, spells_of_behind⟩

/-- A character behind which a route cannot end has another one behind it. -/
theorem spells_goes_on {route : Route} {c : Char} {rest : Text} (spells : Spells route (c :: rest))
    (goesOn : nullable (behind c route) = false) :
    ∃ d others, rest = d :: others ∧ Among (firsts (behind c route)) d := by
  have further := spells_cons.mp spells
  cases rest with
  | nil =>
    rw [spells_nil.mp further] at goesOn
    cases goesOn
  | cons d others => exact ⟨d, others, rfl, spells_firsts further rfl⟩

instance decideSpells : (route : Route) → (text : Text) → Decidable (Spells route text)
  | _, [] => decidable_of_iff _ spells_nil.symm
  | route, c :: text =>
    have := decideSpells (behind c route) text
    decidable_of_iff _ spells_cons.symm

end FormulaLexer.Spelling
