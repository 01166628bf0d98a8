import FormulaLexer.Pattern.Search

/-! The ways in which a route matches, in the order of preference: here a route is tried one way
after the other. Whatever a way consumes its route spells, so that routes whose shape is never
empty consume at least one character. -/
namespace FormulaLexer.Ways

/-- A place in a text, by the character in front of it and the text behind it. -/
structure Cursor where
  before : Option Char
  rest : Text

/-- The two sides of a cursor. -/
def Cursor.place (here : Cursor) : Place := ⟨here.before, here.rest.head?⟩

/-- The cursors to which a star leads, `step` being the ways of its body. A body that comes to
its end where it began is not repeated. -/
def starWays (greedy : Bool) (step : Cursor → List Cursor) (here : Cursor) : List Cursor :=
  let further := (step here).flatMap fun after =>
    if _shorter : after.rest.length < here.rest.length then starWays greedy step after else []
  if greedy then further ++ [here] else here :: further
termination_by here.rest.length

/-- The cursors to which a route leads, the preferred one first. -/
def ways : Route → Cursor → List Cursor
  | .empty, here => [here]
  | .one set, here =>
    match here.rest with
    | [] => []
    | c :: rest => if set.contains c then [⟨some c, rest⟩] else []
  | .anchor condition, here => if condition.holds here.place then [here] else []
  | .sequence first second, here => (ways first here).flatMap (ways second)
  | .either _ preferred other, here => ways preferred here ++ ways other here
  | .star _ greedy body, here => starWays greedy (ways body) here

/-! ## Consumed text -/

/-- The character in front of a place behind a text. -/
def lastOf (before : Option Char) : Text → Option Char
  | [] => before
  | c :: text => lastOf (some c) text

theorem last_of_append (before : Option Char) (front back : Text) :
    lastOf before (front ++ back) = lastOf (lastOf before front) back := by
  induction front generalizing before with
  | nil => rfl
  | cons c front ih => exact ih (some c)

/-- The text between two cursors. -/
def Passes (here : Cursor) (taken : Text) (after : Cursor) : Prop :=
  here.rest = taken ++ after.rest ∧ after.before = lastOf here.before taken

theorem Passes.refl (here : Cursor) : Passes here [] here := ⟨rfl, rfl⟩

theorem Passes.trans {here middle after : Cursor} {front back : Text}
    (first : Passes here front middle) (second : Passes middle back after) :
    Passes here (front ++ back) after := by
  refine ⟨?_, ?_⟩
  · rw [first.1, second.1, List.append_assoc]
  · rw [second.2, first.2, last_of_append]

/-- The texts that a route spells, regardless of its anchors. -/
inductive Spells : Route → Text → Prop where
  | empty : Spells .empty []
  | one {set : CharSet} {c : Char} (member : set.contains c = true) : Spells (.one set) [c]
  | anchor {condition : Anchor} : Spells (.anchor condition) []
  | sequence {first second : Route} {front back : Text} (begins : Spells first front)
      (ends : Spells second back) : Spells (.sequence first second) (front ++ back)
  | preferred {label : Nat} {preferred other : Route} {text : Text} (spells : Spells preferred text) :
      Spells (.either label preferred other) text
  | other {label : Nat} {preferred other : Route} {text : Text} (spells : Spells other text) :
      Spells (.either label preferred other) text
  | done {label : Nat} {greedy : Bool} {body : Route} : Spells (.star label greedy body) []
  | more {label : Nat} {greedy : Bool} {body : Route} {front back : Text} (begins : Spells body front)
      (ends : Spells (.star label greedy body) back) :
      Spells (.star label greedy body) (front ++ back)

theorem star_ways_cases {greedy : Bool} {step : Cursor → List Cursor} {here after : Cursor}
    (way : after ∈ starWays greedy step here) :
    after = here ∨ ∃ middle ∈ step here, middle.rest.length < here.rest.length ∧
      after ∈ starWays greedy step middle := by
  have further : (∃ middle ∈ step here, after ∈ (if _shorter :
      middle.rest.length < here.rest.length then starWays greedy step middle else [])) →
      ∃ middle ∈ step here, middle.rest.length < here.rest.length ∧
        after ∈ starWays greedy step middle := by
    rintro ⟨middle, member, later⟩
    split at later
    · next shorter => exact ⟨middle, member, shorter, later⟩
    · cases later
  rw [starWays] at way
  cases greedy with
  | true =>
    rcases List.mem_append.mp way with later | last
    · exact .inr (further (List.mem_flatMap.mp later))
    · exact .inl (List.mem_singleton.mp last)
  | false =>
    rcases List.mem_cons.mp way with first | later
    · exact .inl first
    · exact .inr (further (List.mem_flatMap.mp later))

/-- What a way consumes its route spells. -/
theorem ways_spell {route : Route} {here after : Cursor} (way : after ∈ ways route here) :
    ∃ taken, Passes here taken after ∧ Spells route taken := by
  induction route generalizing here after with
  | empty =>
    cases List.mem_singleton.mp way
    exact ⟨[], .refl _, .empty⟩
  | one set =>
    obtain ⟨before, rest⟩ := here
    cases rest with
    | nil => cases way
    | cons c rest =>
      simp only [ways] at way
      split at way
      · next member =>
        cases List.mem_singleton.mp way
        exact ⟨[c], ⟨rfl, rfl⟩, .one member⟩
      · cases way
  | anchor condition =>
    simp only [ways] at way
    split at way
    · cases List.mem_singleton.mp way
      exact ⟨[], .refl _, .anchor⟩
    · cases way
  | sequence first second ihFirst ihSecond =>
    obtain ⟨middle, member, later⟩ := List.mem_flatMap.mp way
    obtain ⟨front, begins, frontSpells⟩ := ihFirst member
    obtain ⟨back, ends, backSpells⟩ := ihSecond later
    exact ⟨_, begins.trans ends, .sequence frontSpells backSpells⟩
  | either label preferred other ihPreferred ihOther =>
    rcases List.mem_append.mp way with member | member
    · obtain ⟨taken, passes, spells⟩ := ihPreferred member
      exact ⟨taken, passes, .preferred spells⟩
    · obtain ⟨taken, passes, spells⟩ := ihOther member
      exact ⟨taken, passes, .other spells⟩
  | star label greedy body ih =>
    induction size : here.rest.length using Nat.strongRecOn generalizing here with
    | ind left again =>
      rcases star_ways_cases way with rfl | ⟨middle, member, shorter, later⟩
      · exact ⟨[], .refl _, .done⟩
      · obtain ⟨front, begins, frontSpells⟩ := ih member
        obtain ⟨back, ends, backSpells⟩ := again _ (size ▸ shorter) later rfl
        exact ⟨_, begins.trans ends, .more frontSpells backSpells⟩

theorem ways_length {route : Route} {here after : Cursor} (way : after ∈ ways route here) :
    after.rest.length ≤ here.rest.length := by
  obtain ⟨taken, ⟨whole, -⟩, -⟩ := ways_spell way
  rw [whole, List.length_append]
  omega

/-! ## Routes that can be empty -/

/-- Whether the shape of a route allows it to match the empty text. -/
def nullable : Route → Bool
  | .empty => true
  | .one _ => false
  | .anchor _ => true
  | .sequence first second => nullable first && nullable second
  | .either _ preferred other => nullable preferred || nullable other
  | .star _ _ _ => true

/-- Whether no star repeats what can be empty. -/
def productive : Route → Bool
  | .empty => true
  | .one _ => true
  | .anchor _ => true
  | .sequence first second => productive first && productive second
  | .either _ preferred other => productive preferred && productive other
  | .star _ _ body => productive body && !nullable body

theorem nullable_of_spells {route : Route} {text : Text} (spells : Spells route text)
    (empty : text = []) : nullable route = true := by
  induction spells with
  | empty => rfl
  | one member => cases empty
  | anchor => rfl
  | sequence begins ends ihBegins ihEnds =>
    obtain ⟨front, back⟩ := List.append_eq_nil_iff.mp empty
    rw [nullable, ihBegins front, ihEnds back]
    rfl
  | preferred spells ih => rw [nullable, ih empty, Bool.true_or]
  | other spells ih => rw [nullable, ih empty, Bool.or_true]
  | done => rfl
  | more begins ends => rfl

/-- A route that cannot be empty consumes a character. -/
theorem ways_shorter {route : Route} {here after : Cursor} (filled : nullable route = false)
    (way : after ∈ ways route here) : after.rest.length < here.rest.length := by
  obtain ⟨taken, ⟨whole, -⟩, spells⟩ := ways_spell way
  have positive : 0 < taken.length := by
    refine List.length_pos_iff.mpr fun empty => ?_
    rw [nullable_of_spells spells empty] at filled
    cases filled
  rw [whole, List.length_append]
  omega

/-- A star goes on behind every way of a body that cannot be empty. -/
theorem star_ways_eq {greedy : Bool} {body : Route} (filled : nullable body = false)
    (here : Cursor) :
    starWays greedy (ways body) here =
      if greedy then (ways body here).flatMap (starWays greedy (ways body)) ++ [here]
      else here :: (ways body here).flatMap (starWays greedy (ways body)) := by
  have further : (ways body here).flatMap (fun after => if _shorter :
      after.rest.length < here.rest.length then starWays greedy (ways body) after else []) =
      (ways body here).flatMap (starWays greedy (ways body)) := by
    rw [List.flatMap_def, List.flatMap_def]
    congr 1
    refine List.map_congr_left fun after way => ?_
    rw [dif_pos (ways_shorter filled way)]
  rw [starWays, further]

/-! ## Routes without anchors -/

/-- Whether a route looks at nothing but the characters that it consumes. -/
def unanchored : Route → Bool
  | .empty => true
  | .one _ => true
  | .anchor _ => false
  | .sequence first second => unanchored first && unanchored second
  | .either _ preferred other => unanchored preferred && unanchored other
  | .star _ _ body => unanchored body

/-- What a route without anchors spells it consumes in one of its ways, wherever that stands. -/
theorem way_of_spells {route : Route} {taken : Text} (spells : Spells route taken)
    (free : unanchored route = true) (moves : productive route = true) (before : Option Char)
    (rest : Text) : ⟨lastOf before taken, rest⟩ ∈ ways route ⟨before, taken ++ rest⟩ := by
  induction spells generalizing before rest with
  | empty => simp [ways, lastOf]
  | one member => simp [ways, lastOf, member]
  | anchor => cases free
  | @sequence first second front back begins ends ihBegins ihEnds =>
    rw [unanchored, Bool.and_eq_true] at free
    rw [productive, Bool.and_eq_true] at moves
    rw [List.append_assoc, last_of_append, ways]
    exact List.mem_flatMap.mpr ⟨_, ihBegins free.1 moves.1 before (back ++ rest),
      ihEnds free.2 moves.2 _ rest⟩
  | preferred spells ih =>
    rw [unanchored, Bool.and_eq_true] at free
    rw [productive, Bool.and_eq_true] at moves
    exact List.mem_append_left _ (ih free.1 moves.1 before rest)
  | other spells ih =>
    rw [unanchored, Bool.and_eq_true] at free
    rw [productive, Bool.and_eq_true] at moves
    exact List.mem_append_right _ (ih free.2 moves.2 before rest)
  | @done label greedy body =>
    rw [productive, Bool.and_eq_true, Bool.not_eq_true'] at moves
    rw [ways, star_ways_eq moves.2]
    split <;> simp [lastOf]
  | @more label greedy body front back begins ends ihBegins ihEnds =>
    have filled := moves
    rw [productive, Bool.and_eq_true, Bool.not_eq_true'] at filled
    have further := List.mem_flatMap.mpr ⟨_, ihBegins free filled.1 before (back ++ rest),
      ihEnds free moves _ rest⟩
    rw [List.append_assoc, last_of_append, ways, star_ways_eq filled.2]
    split
    · exact List.mem_append_left _ further
    · exact List.mem_cons_of_mem _ further

end FormulaLexer.Ways
