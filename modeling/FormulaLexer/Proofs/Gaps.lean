import FormulaLexer.Proofs.Keywords

/-! What the built-in patterns see of blanks. Behind a part of a text there are blanks, and other
blanks take their place. A pattern that matches within the part still does, and one that matched
nowhere still does not, whichever blanks these are: a pattern without blanks stops in front of them,
and a pattern with blanks goes over all of them or none. Date-times are apart, since they may end
with a space. -/
namespace FormulaLexer.Gaps
open Unicode Ways Spelling Letters Truncation BuiltInMatches Rescan Unmatched Keywords

/-- A run of blanks. -/
structure Gap (w : Text) : Prop where
  filled : w ≠ []
  blank : ∀ c ∈ w, isBlank c = true

theorem Gap.head {w : Text} (gap : Gap w) : ∃ c rest, w = c :: rest ∧ isBlank c = true := by
  obtain ⟨c, rest, rfl⟩ := List.exists_cons_of_ne_nil gap.filled
  exact ⟨c, rest, rfl, gap.blank c (by simp)⟩

theorem Gap.behind {front w : Text} (blank : ∀ c ∈ front, isBlank c = true) (gap : Gap w) :
    Gap (front ++ w) := by
  refine ⟨by simp [gap.filled], fun c member => ?_⟩
  rcases List.mem_append.mp member with member | member
  · exact blank c member
  · exact gap.blank c member

/-! ## Patterns without blanks -/

/-- Whether the description of a set shows that it holds no blanks. Blanks have no case. -/
def blankless : CharSet → Bool
  | .range first last =>
    (List.range' first.toNat (last.toNat + 1 - first.toNat)).all fun code =>
      !blankRanges.contains code
  | .digit => true
  | .word => true
  | .union left right => blankless left && blankless right
  | .ignoringCase set => blankless set
  | _ => false

theorem blankless_contains {set : CharSet} (without : blankless set = true) {c : Char}
    (blank : isBlank c = true) : set.contains c = false := by
  have outside := not_word_of_blank blank
  refine Bool.eq_false_iff.mpr fun member => ?_
  induction set with
  | range first last =>
    have lists : codes? (.range first last) =
        some (List.range' first.toNat (last.toNat + 1 - first.toNat)) := rfl
    have listed := codes_contains lists member
    have plain := List.all_eq_true.mp without _ listed
    rw [show blankRanges.contains c.toNat = true from blank] at plain
    cases plain
  | digit =>
    rw [word_of_digit member] at outside
    cases outside
  | word =>
    rw [CharSet.contains, outside] at member
    cases member
  | union left right ihLeft ihRight =>
    obtain ⟨first, second⟩ :=
      Bool.and_eq_true_iff.mp (show (blankless left && blankless right) = true from without)
    rcases Bool.or_eq_true_iff.mp member with member | member
    · exact ihLeft first member
    · exact ihRight second member
  | ignoringCase set ih =>
    obtain ⟨d, variant, inside⟩ := List.any_eq_true.mp member
    exact ih without (variant_of_no_word outside variant ▸ inside)
  | _ => cases without

/-- Whether a route consumes no blanks. -/
def blankFree (route : Route) : Bool := (sets route).all blankless

theorem spells_blank_free {route : Route} (free : blankFree route = true) {text : Text}
    (spells : Spells route text) : ∀ c ∈ text, isBlank c = false := by
  intro c member
  obtain ⟨set, listed, holds⟩ := spells_sets spells c member
  refine Bool.eq_false_iff.mpr fun blank => ?_
  rw [blankless_contains (List.all_eq_true.mp free set listed) blank] at holds
  cases holds

theorem sets_before_edge {route : Route} (ends : edged route = true) :
    sets (beforeEdge route) = sets route := by
  induction route with
  | sequence first second _ ih =>
    rw [edged, Bool.and_eq_true] at ends
    rw [beforeEdge, sets, sets, ih ends.2]
  | anchor condition => rfl
  | _ => cases ends

/-- A text without blanks ends in front of the first blank. -/
theorem ends_before_blanks {p beyond front back : Text} (free : ∀ c ∈ front, isBlank c = false)
    {c : Char} (blank : isBlank c = true) (same : p ++ c :: beyond = front ++ back) :
    ∃ inner, p = front ++ inner ∧ back = inner ++ c :: beyond := by
  rcases List.append_eq_append_iff.mp same with ⟨inner, rfl, rest⟩ | ⟨inner, whole, rest⟩
  · cases inner with
    | nil => exact ⟨[], by simp, by simpa using rest.symm⟩
    | cons d inner =>
      obtain ⟨rfl, -⟩ := List.cons.inj rest
      rw [free c (by simp)] at blank
      cases blank
  · exact ⟨inner, whole, rest⟩

section
variable {w w' : Text} (old : Gap w) (new : Gap w') (v : Text)
include old

/-- A route without blanks that does not look ahead stays in front of the blanks. -/
theorem ways_in_front {route : Route} (looks : isLocal route = true) (free : blankFree route = true)
    (here : Cursor) :
    ways route (extended (w ++ v) here) = (ways route here).map (extended (w ++ v)) := by
  rw [ways_extended looks]
  refine (List.filter_eq_self.mpr fun after way => ?_).symm
  obtain ⟨taken, ⟨whole, -⟩, spells⟩ := ways_spell way
  obtain ⟨c, rest, rfl, blank⟩ := old.head
  obtain ⟨inner, -, back⟩ := ends_before_blanks (spells_blank_free free spells) blank whole
  simp [within, back]

include new

/-- Blanks make the same edges of words as other blanks. -/
theorem edges_in_front (here : Cursor) :
    atEdge (extended (w' ++ v) here) = atEdge (extended (w ++ v) here) := by
  obtain ⟨c, rest, rfl, blank⟩ := old.head
  obtain ⟨d, rest', rfl, blank'⟩ := new.head
  obtain ⟨before, left⟩ := here
  cases left with
  | nil =>
    simp only [at_edge_eq, extended, List.nil_append, List.cons_append, List.head?_cons, isWordAt,
      Option.any_some, not_word_of_blank blank, not_word_of_blank blank']
  | cons e left => rfl

/-- The ways of a pattern without blanks are the same in front of any blanks. -/
theorem same_in_front {route : Route} (free : blankFree route = true)
    (looks : isLocal route = true ∨ edged route = true) (here : Cursor) :
    ∃ cursors : List Cursor, ways route (extended (w ++ v) here) = cursors.map (extended (w ++ v)) ∧
      ways route (extended (w' ++ v) here) = cursors.map (extended (w' ++ v)) := by
  rcases looks with looks | edges
  · exact ⟨_, ways_in_front old v looks free here, ways_in_front new v looks free here⟩
  · have looks := before_edge_local edges
    rw [blankFree, ← sets_before_edge edges] at free
    refine ⟨(ways (beforeEdge route) here).filter fun after => atEdge (extended (w ++ v) after), ?_, ?_⟩
    · rw [ways_edged edges, ways_in_front old v looks free, List.filter_map]
      rfl
    · rw [ways_edged edges, ways_in_front new v looks free, List.filter_map]
      congr 1
      exact List.filter_congr fun after _ => edges_in_front old new v after

/-- What a pattern without blanks does in front of blanks it does in front of any others. -/
theorem plain_kept {builtIn : BuiltIn} (free : blankFree builtIn.expression.route = true)
    (looks : isLocal builtIn.expression.route = true ∨ edged builtIn.expression.route = true)
    (p : Text) :
    (ways builtIn.expression.route ⟨none, p ++ (w ++ v)⟩ = [] →
      ways builtIn.expression.route ⟨none, p ++ (w' ++ v)⟩ = []) ∧
    ∀ front inner, p = front ++ inner → Matches builtIn front (inner ++ (w ++ v)) →
      Matches builtIn front (inner ++ (w' ++ v)) := by
  obtain ⟨cursors, oldWays, newWays⟩ := same_in_front old new v free looks ⟨none, p⟩
  change ways _ ⟨none, p ++ (w ++ v)⟩ = _ at oldWays
  change ways _ ⟨none, p ++ (w' ++ v)⟩ = _ at newWays
  constructor
  · intro nothing
    rw [oldWays, List.map_eq_nil_iff] at nothing
    rw [newWays, nothing, List.map_nil]
  · rintro front inner rfl way
    rw [Matches, ← List.append_assoc] at way ⊢
    rw [oldWays, List.head?_map] at way
    obtain ⟨here, head, same⟩ := Option.map_eq_some_iff.mp way
    replace same : extended (w ++ v) here = extended (w ++ v) ⟨lastOf none front, inner⟩ := same
    obtain rfl := extended_injective same
    rw [newWays, List.head?_map, head]
    rfl

end

/-! ## Patterns that go over blanks -/

/-- The preferred way through one list of places, and then another, is a way behind one of the first
places. -/
theorem head_flat_map {step : Cursor → List Cursor} {cursors : List Cursor} {after : Cursor}
    (first : (cursors.flatMap step).head? = some after) :
    ∃ middle ∈ cursors, (step middle).head? = some after := by
  induction cursors with
  | nil => cases first
  | cons here cursors ih =>
    rw [List.flatMap_cons, List.head?_append] at first
    cases head : (step here).head? with
    | some found =>
      rw [head, Option.some_or] at first
      exact ⟨here, by simp, head.trans first⟩
    | none =>
      rw [head, Option.none_or] at first
      obtain ⟨middle, member, same⟩ := ih first
      exact ⟨middle, by simp [member], same⟩

/-- Whether a route ends with a greedy repetition of blanks. -/
def endsWithBlanks : Route → Bool
  | .sequence _ second => endsWithBlanks second
  | .star _ greedy body => greedy && body = .one .blank
  | _ => false

/-- A greedy repetition of blanks goes on to the last of them. -/
theorem star_blank_stops {here after : Cursor}
    (first : (starWays true (ways (.one .blank)) here).head? = some after) :
    ∀ c ∈ after.rest.head?, isBlank c = false := by
  obtain ⟨before, rest⟩ := here
  induction rest generalizing before with
  | nil =>
    rw [star_one_nil] at first
    cases first
    simp
  | cons c rest ih =>
    rw [star_one_cons] at first
    split at first
    · obtain ⟨best, others, same⟩ := List.exists_cons_of_ne_nil
        (show starWays true (ways (.one .blank)) ⟨some c, rest⟩ ≠ [] by rw [starWays]; simp)
      refine ih (some c) ?_
      rw [same] at first ⊢
      exact first
    · next other =>
      cases first
      intro d head
      cases head
      exact Bool.eq_false_iff.mpr other

/-- A preferred way of a route that ends with blanks has no blank behind it. -/
theorem stops_behind_blanks {route : Route} (ends : endsWithBlanks route = true)
    {here after : Cursor} (first : (ways route here).head? = some after) :
    ∀ c ∈ after.rest.head?, isBlank c = false := by
  induction route generalizing here with
  | sequence front second _ ih =>
    obtain ⟨middle, -, later⟩ := head_flat_map first
    exact ih ends later
  | star label greedy body =>
    simp only [endsWithBlanks, Bool.and_eq_true, decide_eq_true_eq] at ends
    obtain ⟨rfl, rfl⟩ := ends
    exact star_blank_stops first
  | _ => cases ends

/-- A route spells a text that goes on from `p` into what stands behind it. -/
def Crosses (route : Route) (p behind : Text) : Prop :=
  ∃ beyond back, beyond ≠ [] ∧ behind = beyond ++ back ∧ Spells route (p ++ beyond)

/-- A pattern that matches a text, but not within the part in front of `behind`. -/
structure GoesOver (builtIn : BuiltIn) (p behind : Text) : Prop where
  matched : ways builtIn.expression.route ⟨none, p ++ behind⟩ ≠ []
  leaves : ∀ front inner, p = front ++ inner → ¬ Matches builtIn front (inner ++ behind)

/-- A pattern that ends with blanks does not stop in front of a blank. -/
theorem not_stops_in_blanks {builtIn : BuiltIn}
    (ends : endsWithBlanks builtIn.expression.route = true) {front inner w v : Text} (gap : Gap w)
    (blank : ∀ c ∈ inner, isBlank c = true) : ¬ Matches builtIn front (inner ++ (w ++ v)) := by
  intro way
  obtain ⟨c, rest, whole, blank⟩ := (gap.behind blank).head
  have stops := stops_behind_blanks ends way c (by simp [← List.append_assoc, whole])
  rw [blank] at stops
  cases stops

/-- A repetition of blanks, the first one of which has to be there, spells runs of blanks. -/
theorem spells_gap_iff {label : Nat} {greedy : Bool} {w : Text} :
    Spells (.sequence (.one .blank) (.star label greedy (.one .blank))) w ↔ Gap w := by
  rw [spells_run_iff]
  exact ⟨fun ⟨filled, blank⟩ => ⟨filled, blank⟩, fun gap => ⟨gap.filled, gap.blank⟩⟩

theorem whitespace_route : BuiltIn.whitespace.expression.route =
    .sequence (.anchor .textStart) (.sequence (.one .blank) (.star 0 true (.one .blank))) := by
  decide +kernel

theorem whitespace_goes_over {p w : Text} (blank : ∀ c ∈ p, isBlank c = true) (gap : Gap w)
    (v : Text) : GoesOver .whitespace p (w ++ v) := by
  have spells : Spells BuiltIn.whitespace.expression.route (p ++ w) := by
    rw [whitespace_route, spells_anchored_iff]
    exact spells_gap_iff.mpr (gap.behind blank)
  constructor
  · have way := front_way (by decide) spells v
    rwa [List.append_assoc] at way
  · rintro front inner rfl
    exact not_stops_in_blanks (by decide +kernel) gap fun c member => blank c (by simp [member])

theorem Gap.lacks {w : Text} (gap : Gap w) {c : Char} (other : isBlank c = false) : c ∉ w := by
  intro member
  rw [gap.blank c member] at other
  cases other

section
variable {w' v p beyond back : Text} (new : Gap w') (more : beyond ≠ [])
  (same : w' ++ v = beyond ++ back)
include new more same

/-- What goes on into blanks without a blank at first gets its blanks from there. -/
theorem word_in_front {word tail : Text} (free : ∀ c ∈ word, isBlank c = false)
    (whole : p ++ beyond = word ++ tail) : ∃ front, p = word ++ front ∧ tail = front ++ beyond := by
  obtain ⟨c, rest, rfl⟩ := List.exists_cons_of_ne_nil more
  obtain ⟨d, others, rfl, blank⟩ := new.head
  obtain ⟨rfl, -⟩ := List.cons.inj same
  exact ends_before_blanks free blank whole

/-- What goes on into blanks and ends with another character ends behind them. -/
theorem mark_behind {front inner : Text} {c : Char} (other : isBlank c = false)
    (whole : front ++ beyond = inner ++ [c]) :
    ∃ between, inner = front ++ (w' ++ between) ∧ v = between ++ c :: back := by
  obtain ⟨crossed, last, rfl⟩ := (List.eq_nil_or_concat' beyond).resolve_left more
  obtain ⟨rfl, closing⟩ := List.append_inj' ((List.append_assoc ..).trans whole) rfl
  cases closing
  rw [List.append_assoc] at same
  rcases List.append_eq_append_iff.mp same with ⟨between, rfl, rest⟩ | ⟨between, blanks, rest⟩
  · exact ⟨between, rfl, rest⟩
  · cases between with
    | nil => exact ⟨[], by simp [blanks], by simpa using rest.symm⟩
    | cons d between =>
      obtain ⟨rfl, -⟩ := List.cons.inj rest
      exact absurd (by simp [blanks]) (new.lacks other)

end

/-- A string that goes over blanks is closed behind them, whichever blanks these are. -/
theorem quotes_go_over {builtIn : BuiltIn} {quote : Char} (kind : Quotes builtIn quote)
    {p w w' v : Text} (old : Gap w) (new : Gap w') (begun : p ≠ [])
    (crosses : Crosses builtIn.expression.route p (w' ++ v)) : GoesOver builtIn p (w ++ v) := by
  have plain : isBlank quote = false := by cases kind <;> decide
  obtain ⟨beyond, back, more, same, spells⟩ := crosses
  obtain ⟨inner, whole, outside⟩ := kind.around spells
  obtain ⟨c, opened, rfl⟩ := List.exists_cons_of_ne_nil begun
  obtain ⟨rfl, whole⟩ := List.cons.inj whole
  obtain ⟨between, rfl, rfl⟩ := mark_behind new more same plain whole
  simp only [List.mem_append, not_or] at outside
  obtain ⟨unclosed, -, unquoted⟩ := outside
  constructor
  · have unquoted : c ∉ opened ++ (w ++ between) := by
      simp [unclosed, unquoted, old.lacks plain]
    have way := front_way (by cases kind <;> decide) (kind.spells unquoted) back
    simpa using way
  · intro front inner split way
    obtain ⟨text, rfl, -⟩ := kind.around way.spells
    obtain ⟨-, split⟩ := List.cons.inj split
    exact unclosed (by simp [split])

/-- The words and signs of the boolean operators have blanks behind them. -/
theorem operator_shape : ∃ words, blankFree words = true ∧
    words? words = some connectives ∧ ∀ text,
    Spells BuiltIn.booleanOperator.expression.route text ↔
      ∃ word blanks, text = word ++ blanks ∧ Spells words word ∧ Gap blanks := by
  obtain ⟨words, label, route, free, lists⟩ : ∃ words label,
      BuiltIn.booleanOperator.expression.route = .sequence (.anchor .textStart) (.sequence words
        (.sequence (.one .blank) (.star label true (.one .blank)))) ∧ blankFree words = true ∧
      words? words = some connectives :=
    ⟨_, _, rfl, by decide +kernel, by decide +kernel⟩
  refine ⟨words, free, lists, fun text => ?_⟩
  rw [route, spells_anchored_iff, spells_sequence_iff]
  constructor
  · rintro ⟨word, blanks, begins, ends, rfl⟩
    exact ⟨word, blanks, rfl, begins, spells_gap_iff.mp ends⟩
  · rintro ⟨word, blanks, rfl, begins, gap⟩
    exact ⟨word, blanks, begins, spells_gap_iff.mpr gap, rfl⟩

/-- An operator that goes over blanks goes over all of them, whichever these are. -/
theorem operator_goes_over {p w w' v : Text} (old : Gap w) (new : Gap w')
    (crosses : Crosses BuiltIn.booleanOperator.expression.route p (w' ++ v)) :
    GoesOver .booleanOperator p (w ++ v) := by
  obtain ⟨words, free, -, shape⟩ := operator_shape
  obtain ⟨beyond, back, more, same, spells⟩ := crosses
  obtain ⟨word, blanks, whole, begins, gap⟩ := (shape _).mp spells
  obtain ⟨front, rfl, rfl⟩ := word_in_front new more same (spells_blank_free free begins) whole
  have before : ∀ c ∈ front, isBlank c = true := fun c member => gap.blank c (by simp [member])
  constructor
  · have operator := (shape _).mpr ⟨word, front ++ w, rfl, begins, old.behind before⟩
    have way := front_way (by decide) operator v
    simpa using way
  · intro part inner split way
    -- the part has a blank in it, so it ends behind the word, among the blanks
    obtain ⟨other, taken, rfl, -, reached⟩ := (shape _).mp way.spells
    rcases List.append_eq_append_iff.mp split with ⟨left, -, rfl⟩ | ⟨left, rfl, -⟩
    · exact not_stops_in_blanks (by decide +kernel) old
        (fun c member => before c (by simp [member])) way
    · obtain ⟨d, others, rfl, blank⟩ := reached.head
      have plain := spells_blank_free free begins d (by simp)
      rw [blank] at plain
      cases plain

/-- The name of a call: a word, with or without an exclamation mark behind it. -/
inductive CallName : Text → Prop where
  | named {word mark : Text} (letters : ∀ c ∈ word, isWord c = true)
      (marked : mark = [] ∨ mark = ['!']) : CallName (word ++ mark)

theorem CallName.unopened {name : Text} (called : CallName name) : '(' ∉ name := by
  obtain ⟨letters, marked⟩ := called
  rw [List.mem_append]
  rintro (inside | inside)
  · exact absurd (letters '(' inside) (by decide +kernel)
  · rcases marked with rfl | rfl <;> simp at inside

/-- A function head is a name without blanks, any blanks and a parenthesis. -/
theorem head_shape : ∃ name, blankFree name = true ∧ (∀ text, Spells name text → CallName text) ∧
    ∀ text, Spells BuiltIn.function.expression.route text ↔
      ∃ word blanks, text = word ++ (blanks ++ ['(']) ∧ Spells name word ∧
        ∀ c ∈ blanks, isBlank c = true := by
  obtain ⟨word, mark, label, route, free, letters, marks⟩ : ∃ word mark label,
      BuiltIn.function.expression.route = .sequence (.anchor .textStart) (.sequence word
        (.sequence mark (.sequence (.star label true (.one .blank)) (.one (quoteSet '('))))) ∧
      blankFree (.sequence word mark) = true ∧ (sets word).all allWord = true ∧
      words? mark = some [['!'], []] :=
    ⟨_, _, _, rfl, by decide +kernel, by decide +kernel, by decide +kernel⟩
  have named : ∀ text, Spells (.sequence word mark) text → CallName text := by
    intro text spells
    obtain ⟨front, sign, begins, ends, rfl⟩ := spells_sequence_iff.mp spells
    refine .named (fun c member => ?_) ?_
    · obtain ⟨set, listed, holds⟩ := spells_sets begins c member
      exact all_word_contains (List.all_eq_true.mp letters set listed) holds
    · rcases List.mem_cons.mp ((spells_iff_listed marks sign).mp ends) with folded | folded
      · obtain ⟨c, rfl, bang⟩ := List.map_eq_singleton_iff.mp folded
        exact .inr (by rw [sign_of_fold (by decide +kernel) bang])
      · exact .inl (List.map_eq_nil_iff.mp (List.mem_singleton.mp folded))
  have alone : '(' ∈ caseless := by decide
  refine ⟨.sequence word mark, free, named, fun text => ?_⟩
  rw [route, spells_anchored_iff]
  constructor
  · intro spells
    obtain ⟨front, rest, begins, later, rfl⟩ := spells_sequence_iff.mp spells
    obtain ⟨sign, rest, marks, further, rfl⟩ := spells_sequence_iff.mp later
    obtain ⟨blanks, last, between, opens, rfl⟩ := spells_sequence_iff.mp further
    obtain rfl := (spells_mark_iff alone).mp opens
    exact ⟨front ++ sign, blanks, by simp, .sequence begins marks,
      spells_blank (by simp [sets]) between⟩
  · rintro ⟨name, blanks, rfl, named, between⟩
    obtain ⟨front, sign, begins, marks, rfl⟩ := spells_sequence_iff.mp named
    have mark := (spells_mark_iff alone).mpr rfl
    rw [List.append_assoc]
    exact .sequence begins (.sequence marks (.sequence (spells_star_one between) mark))

/-- A function head that goes over blanks has its parenthesis behind them, whichever these are. -/
theorem head_goes_over {p w w' v : Text} (old : Gap w) (new : Gap w')
    (crosses : Crosses BuiltIn.function.expression.route p (w' ++ v)) :
    GoesOver .function p (w ++ v) := by
  obtain ⟨name, free, named, shape⟩ := head_shape
  obtain ⟨beyond, back, more, same, spells⟩ := crosses
  obtain ⟨word, blanks, whole, begins, between⟩ := (shape _).mp spells
  obtain ⟨front, rfl, ends⟩ := word_in_front new more same (spells_blank_free free begins) whole
  obtain ⟨left, rfl, rfl⟩ := mark_behind new more same (by decide) ends.symm
  have before : ∀ c ∈ front, isBlank c = true := fun c member => between c (by simp [member])
  have behind : ∀ c ∈ left, isBlank c = true := fun c member => between c (by simp [member])
  constructor
  · have blanks : ∀ c ∈ front ++ w ++ left, isBlank c = true := by
      intro c member
      rcases List.mem_append.mp member with member | member
      · exact (old.behind before).blank c member
      · exact behind c member
    have head := (shape _).mpr ⟨word, _, rfl, begins, blanks⟩
    have way := front_way (by decide) head back
    simpa using way
  · intro part inner split way
    -- the parenthesis of the part would stand in the name or among the blanks
    obtain ⟨called, rfl, -⟩ := function_head way.spells
    have opened : '(' ∈ word ++ front := by simp [split]
    rcases List.mem_append.mp opened with member | member
    · exact (named word begins).unopened member
    · cases before '(' member

/-! ## Ways within a part -/

/-- A way stays in front of what stands behind a part of a text, or its text goes on there. -/
theorem inside_or_over {route : Route} {p behind : Text} {after : Cursor}
    (way : after ∈ ways route ⟨none, p ++ behind⟩) :
    within behind after = true ∨ Crosses route p behind := by
  obtain ⟨taken, ⟨whole, -⟩, spells⟩ := ways_spell way
  rcases List.append_eq_append_iff.mp whole with ⟨beyond, rfl, rest⟩ | ⟨inner, -, rest⟩
  · by_cases more : beyond = []
    · subst more
      left
      simp [within, rest]
    · exact .inr ⟨beyond, _, more, rest, spells⟩
  · left
    simp [within, rest]

/-- The preferred way through a part of a text is the preferred one through the whole unless the
latter leaves the part. -/
theorem head_of_inside {more : Text} {cursors others : List Cursor} {after : Cursor}
    (same : cursors.map (extended more) = others.filter (within more))
    (first : cursors.head? = some after)
    (inside : ∀ best, others.head? = some best → within more best = true) :
    others.head? = some (extended more after) := by
  obtain ⟨tail, rfl⟩ := List.head?_eq_some_iff.mp first
  cases others with
  | nil => cases same
  | cons best others =>
    rw [List.filter_cons, if_pos (inside best rfl)] at same
    rw [List.head?_cons, ← (List.cons.inj same).1]

/-- The built-in patterns other than date-times that go over blanks. -/
def crossing : List BuiltIn :=
  [.whitespace, .doubleQuotedString, .singleQuotedString, .booleanOperator, .function]

theorem crossing_goes_over {builtIn : BuiltIn} (kind : builtIn ∈ crossing) {p w w' v : Text}
    (old : Gap w) (new : Gap w') (begun : p ≠ [])
    (crosses : Crosses builtIn.expression.route p (w' ++ v)) : GoesOver builtIn p (w ++ v) := by
  simp only [crossing, List.mem_cons, List.not_mem_nil, or_false] at kind
  rcases kind with rfl | rfl | rfl | rfl | rfl
  · obtain ⟨beyond, back, -, -, spells⟩ := crosses
    exact whitespace_goes_over (fun c member => whitespace_blank spells c (by simp [member])) old v
  · exact quotes_go_over .double old new begun crosses
  · exact quotes_go_over .single old new begun crosses
  · exact operator_goes_over old new crosses
  · exact head_goes_over old new crosses

/-- What a crossing pattern does in front of blanks it does in front of any others. -/
theorem crossing_kept {builtIn : BuiltIn} (kind : builtIn ∈ crossing) {p w w' : Text}
    (old : Gap w) (new : Gap w') (v : Text) (begun : p ≠ []) :
    (ways builtIn.expression.route ⟨none, p ++ (w ++ v)⟩ = [] →
      ways builtIn.expression.route ⟨none, p ++ (w' ++ v)⟩ = []) ∧
    ∀ front inner, p = front ++ inner → Matches builtIn front (inner ++ (w ++ v)) →
      Matches builtIn front (inner ++ (w' ++ v)) := by
  have looks : isLocal builtIn.expression.route = true := by
    revert kind
    revert builtIn
    decide +kernel
  have oldWays := ways_extended looks (w ++ v) ⟨none, p⟩
  have newWays := ways_extended looks (w' ++ v) ⟨none, p⟩
  constructor
  · intro nothing
    refine List.eq_nil_iff_forall_not_mem.mpr fun after way => ?_
    rcases inside_or_over way with inside | crosses
    · rw [none_extended oldWays nothing, List.map_nil] at newWays
      exact absurd inside (List.filter_eq_nil_iff.mp newWays.symm after way)
    · exact (crossing_goes_over kind old new begun crosses).matched nothing
  · rintro front inner rfl first
    rw [Matches, ← List.append_assoc] at first ⊢
    have alone : (ways _ ⟨none, front ++ inner⟩).head? = some ⟨lastOf none front, inner⟩ :=
      head_extended oldWays first
    refine head_of_inside newWays alone fun best preferred => ?_
    rcases inside_or_over (List.mem_of_head? preferred) with inside | crosses
    · exact inside
    · rw [List.append_assoc] at first
      exact absurd first ((crossing_goes_over kind old new begun crosses).leaves _ _ rfl)

/-! ## Date-times -/

/-- Whether a route consumes blanks as its first character only and does not look ahead. -/
def opensBlank : Route → Bool
  | .empty => true
  | .one _ => true
  | .anchor _ => false
  | .sequence first second => opensBlank first && isLocal second && blankFree second
  | .either _ preferred other => opensBlank preferred && opensBlank other
  | .star _ _ _ => false

/-- Whether the shape of a route shows that it has a way through every text. -/
def total : Route → Bool
  | .empty => true
  | .one _ => false
  | .anchor _ => false
  | .sequence first second => total first && total second
  | .either _ preferred other => total preferred || total other
  | .star _ _ _ => true

/-- Whether a route is made of parts without blanks, and of optional ones behind these that have
a blank as their first character at most. -/
def steady : Route → Bool
  | .sequence first second =>
    steady second && (isLocal first && blankFree first ||
      opensBlank first && total first && total second)
  | route => isLocal route && blankFree route

theorem date_time_steady : steady BuiltIn.dateTime.expression.route = true := by decide +kernel

theorem total_ways {route : Route} (always : total route = true) (here : Cursor) :
    ways route here ≠ [] := by
  induction route generalizing here with
  | empty => simp [ways]
  | one set => cases always
  | anchor condition => cases always
  | sequence first second ihFirst ihSecond =>
    rw [total, Bool.and_eq_true] at always
    obtain ⟨middle, others, same⟩ := List.exists_cons_of_ne_nil (ihFirst always.1 here)
    rw [ways, same, List.flatMap_cons]
    exact List.append_ne_nil_of_left_ne_nil (ihSecond always.2 middle) _
  | either label preferred other ihPreferred ihOther =>
    rw [total, Bool.or_eq_true] at always
    rcases always with always | always
    · exact List.append_ne_nil_of_left_ne_nil (ihPreferred always here) _
    · exact List.append_ne_nil_of_right_ne_nil _ (ihOther always here)
  | star label greedy body =>
    rw [ways, starWays]
    split <;> simp

section
variable {w w' : Text} (old : Gap w) (new : Gap w') (v : Text)
include old

/-- In front of a character of the part, the blanks behind the part are out of sight. -/
theorem ways_opening {route : Route} (opens : opensBlank route = true) {here : Cursor}
    (left : here.rest ≠ []) :
    ways route (extended (w ++ v) here) = (ways route here).map (extended (w ++ v)) := by
  induction route with
  | empty => rfl
  | one set =>
    obtain ⟨before, rest⟩ := here
    obtain ⟨c, rest, rfl⟩ := List.exists_cons_of_ne_nil left
    simp only [ways, extended, List.cons_append]
    split <;> simp [extended]
  | anchor condition => cases opens
  | sequence first second ih =>
    simp only [opensBlank, Bool.and_eq_true] at opens
    rw [ways, ways, ih opens.1.1, List.flatMap_map, List.map_flatMap]
    rw [List.flatMap_def, List.flatMap_def]
    congr 1
    exact List.map_congr_left fun middle _ => ways_in_front old v opens.1.2 opens.2 middle
  | either label preferred other ihPreferred ihOther =>
    rw [opensBlank, Bool.and_eq_true] at opens
    rw [ways, ways, List.map_append, ihPreferred opens.1, ihOther opens.2]
  | star label greedy body => cases opens

end

/-- What two lists of ways in front of different blanks have in common: if the first one is empty so
is the second, and a preferred way that ends within the part, before its end, is the preferred one in
both. -/
structure Settled (behind behind' : Text) (cursors cursors' : List Cursor) : Prop where
  nothing : cursors = [] → cursors' = []
  head : ∀ after, after.rest ≠ [] → cursors.head? = some (extended behind after) →
    cursors'.head? = some (extended behind' after)

theorem settled_map (behind behind' : Text) (cursors : List Cursor) :
    Settled behind behind' (cursors.map (extended behind)) (cursors.map (extended behind')) := by
  constructor
  · intro none
    rw [List.map_eq_nil_iff.mp none, List.map_nil]
  · intro after _ first
    rw [List.head?_map] at first ⊢
    obtain ⟨here, head, same⟩ := Option.map_eq_some_iff.mp first
    rw [head, extended_injective same, Option.map_some]

theorem Settled.append {behind behind' : Text} {front front' back back' : List Cursor}
    (first : Settled behind behind' front front') (second : Settled behind behind' back back') :
    Settled behind behind' (front ++ back) (front' ++ back') := by
  constructor
  · intro none
    obtain ⟨rfl, rfl⟩ := List.append_eq_nil_iff.mp none
    rw [first.nothing rfl, second.nothing rfl, List.append_nil]
  · intro after left head
    cases front with
    | nil =>
      rw [first.nothing rfl]
      exact second.head after left head
    | cons here front =>
      rw [List.head?_append, first.head after left head, Option.some_or]

theorem settled_flat_map {behind behind' : Text} {step : Cursor → List Cursor}
    {cursors : List Cursor}
    (each : ∀ here ∈ cursors,
      Settled behind behind' (step (extended behind here)) (step (extended behind' here))) :
    Settled behind behind' ((cursors.map (extended behind)).flatMap step)
      ((cursors.map (extended behind')).flatMap step) := by
  induction cursors with
  | nil => exact settled_map behind behind' []
  | cons here cursors ih =>
    exact (each here (by simp)).append (ih fun other member => each other (by simp [member]))

/-- A steady route has a preferred way that ends within the part, if at all, in front of any
blanks. -/
theorem steady_settled {route : Route} (stays : steady route = true) {w w' : Text} (old : Gap w)
    (new : Gap w') (v : Text) (here : Cursor) :
    Settled (w ++ v) (w' ++ v) (ways route (extended (w ++ v) here))
      (ways route (extended (w' ++ v) here)) := by
  induction route generalizing here with
  | sequence first second _ ih =>
    simp only [steady, Bool.and_eq_true, Bool.or_eq_true] at stays
    obtain ⟨later, ⟨looks, free⟩ | ⟨⟨opens, always⟩, further⟩⟩ := stays
    · rw [ways, ways, ways_in_front old v looks free, ways_in_front new v looks free]
      exact settled_flat_map fun middle _ => ih later middle
    · by_cases left : here.rest = []
      · -- at the end of the part there is a way, and it leaves the part
        constructor
        · intro none
          exact absurd none (total_ways (by rw [total, always, further]; rfl) _)
        · intro after more first
          have shorter := ways_length (List.mem_of_head? first)
          have positive := List.length_pos_iff.mpr more
          simp only [extended, left, List.nil_append, List.length_append] at shorter
          omega
      · rw [ways, ways, ways_opening old v opens left, ways_opening new v opens left]
        exact settled_flat_map fun middle _ => ih later middle
  | _ =>
    simp only [steady, Bool.and_eq_true] at stays
    rw [ways_in_front old v stays.1 stays.2, ways_in_front new v stays.1 stays.2]
    exact settled_map _ _ _

/-! ## All patterns -/

theorem kinds (builtIn : BuiltIn) : builtIn = .dateTime ∨ builtIn ∈ crossing ∨
    blankFree builtIn.expression.route = true ∧
      (isLocal builtIn.expression.route = true ∨ edged builtIn.expression.route = true) := by
  cases builtIn <;> decide +kernel

/-- A pattern without a way in front of blanks has none in front of any others. -/
theorem nothing_kept {builtIn : BuiltIn} {p w w' v : Text} (old : Gap w) (new : Gap w')
    (begun : p ≠ []) (nothing : ways builtIn.expression.route ⟨none, p ++ (w ++ v)⟩ = []) :
    ways builtIn.expression.route ⟨none, p ++ (w' ++ v)⟩ = [] := by
  rcases kinds builtIn with rfl | kind | ⟨free, looks⟩
  · exact (steady_settled date_time_steady old new v ⟨none, p⟩).nothing nothing
  · exact (crossing_kept kind old new v begun).1 nothing
  · exact (plain_kept old new v free looks p).1 nothing

/-- What a pattern prefers in front of blanks it prefers in front of any others, unless a date-time
touches them. -/
theorem match_kept {builtIn : BuiltIn} {front back w w' v : Text} (old : Gap w) (new : Gap w')
    (apart : builtIn = .dateTime → back ≠ []) (way : Matches builtIn front (back ++ (w ++ v))) :
    Matches builtIn front (back ++ (w' ++ v)) := by
  rcases kinds builtIn with rfl | kind | ⟨free, looks⟩
  · have settled := steady_settled date_time_steady old new v ⟨none, front ++ back⟩
    rw [Matches, ← List.append_assoc] at way ⊢
    exact settled.head ⟨lastOf none front, back⟩ (apart rfl) way
  · have begun : front ++ back ≠ [] := List.append_ne_nil_of_left_ne_nil way.filled back
    exact (crossing_kept kind old new v begun).2 _ _ rfl way
  · exact (plain_kept old new v free looks _).2 _ _ rfl way

end FormulaLexer.Gaps
