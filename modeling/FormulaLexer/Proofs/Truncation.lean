import FormulaLexer.Proofs.Ways

/-! Matches in a text that is cut off. A route that does not look ahead matches within a part of a
text as it does in the whole: its ways through the part are those through the whole that stay
inside, in the same order. A route that ends with an edge of a word also looks at the character
behind it, which only matters where the part ends. -/
namespace FormulaLexer.Truncation
open Ways

/-- Whether a route looks at nothing but what it consumes and what stands in front of that. -/
def isLocal : Route → Bool
  | .empty => true
  | .one _ => true
  | .anchor condition => condition = .textStart
  | .sequence first second => isLocal first && isLocal second
  | .either _ preferred other => isLocal preferred && isLocal other
  | .star _ _ body => isLocal body

/-- The cursor with more text behind it. -/
def extended (more : Text) (here : Cursor) : Cursor := ⟨here.before, here.rest ++ more⟩

/-- Whether all of a text is still left behind the cursor. -/
def within (more : Text) (here : Cursor) : Bool := more.length ≤ here.rest.length

theorem within_extended (more : Text) (here : Cursor) : within more (extended more here) = true := by
  simp [within, extended]

theorem extended_injective {more : Text} {here other : Cursor}
    (same : extended more here = extended more other) : here = other := by
  obtain ⟨before, rest⟩ := here
  obtain ⟨before', rest'⟩ := other
  simp only [extended, Cursor.mk.injEq] at same
  rw [same.1, List.append_cancel_right same.2]

/-- What goes on from a cursor outside of the part stays outside. -/
theorem flat_map_within {more : Text} {step : Cursor → List Cursor}
    (shrinks : ∀ here, ∀ after ∈ step here, after.rest.length ≤ here.rest.length)
    (cursors : List Cursor) :
    (cursors.flatMap step).filter (within more) =
      (cursors.filter (within more)).flatMap fun here => (step here).filter (within more) := by
  induction cursors with
  | nil => rfl
  | cons here cursors ih =>
    rw [List.flatMap_cons, List.filter_append, ih, List.filter_cons]
    split
    · rw [List.flatMap_cons]
    · next outside =>
      have none : (step here).filter (within more) = [] := by
        refine List.filter_eq_nil_iff.mpr fun after member inside => outside ?_
        have shorter := shrinks here after member
        simp only [within, decide_eq_true_eq] at inside ⊢
        omega
      rw [none, List.nil_append]

/-- One step and what goes on from there, in the part and in the whole. -/
theorem flat_map_extended {more : Text} {step further : Cursor → List Cursor}
    {cursors others : List Cursor}
    (shrinks : ∀ here, ∀ after ∈ further here, after.rest.length ≤ here.rest.length)
    (first : cursors.map (extended more) = others.filter (within more))
    (later : ∀ here ∈ cursors,
      (step here).map (extended more) = (further (extended more here)).filter (within more)) :
    (cursors.flatMap step).map (extended more) = (others.flatMap further).filter (within more) := by
  rw [flat_map_within shrinks, ← first, List.flatMap_map, List.map_flatMap]
  rw [List.flatMap_def, List.flatMap_def]
  congr 1
  exact List.map_congr_left later

/-- A repetition stays inside if its body does. -/
theorem star_ways_extended (greedy : Bool) {body : Route} {more : Text}
    (inside : ∀ here, (ways body here).map (extended more) =
      (ways body (extended more here)).filter (within more)) (here : Cursor) :
    (starWays greedy (ways body) here).map (extended more) =
      (starWays greedy (ways body) (extended more here)).filter (within more) := by
  induction size : here.rest.length using Nat.strongRecOn generalizing here with
  | ind left again =>
    have further : ((ways body here).flatMap fun after => if _shorter :
          after.rest.length < here.rest.length then starWays greedy (ways body) after else []).map
            (extended more) =
        ((ways body (extended more here)).flatMap fun after => if _shorter :
          after.rest.length < (extended more here).rest.length then
            starWays greedy (ways body) after else []).filter (within more) := by
      refine flat_map_extended (fun middle after member => ?_) (inside here) fun middle _ => ?_
      · split at member
        · exact ways_length (show after ∈ ways (.star 0 greedy body) middle from member)
        · cases member
      · by_cases shorter : middle.rest.length < here.rest.length
        · rw [dif_pos shorter, dif_pos (by simpa [extended] using shorter)]
          exact again _ (size ▸ shorter) middle rfl
        · rw [dif_neg shorter, dif_neg (by simpa [extended] using shorter)]
          rfl
    rw [starWays, starWays]
    cases greedy with
    | true =>
      rw [if_pos rfl, if_pos rfl, List.map_append, List.filter_append, further]
      simp [within_extended]
    | false =>
      rw [if_neg (by simp), if_neg (by simp), List.map_cons, further]
      simp [within_extended]

/-- The ways through a part of a text are those through the whole that stay inside. -/
theorem ways_extended {route : Route} (looks : isLocal route = true) (more : Text) (here : Cursor) :
    (ways route here).map (extended more) =
      (ways route (extended more here)).filter (within more) := by
  induction route generalizing here with
  | empty => simp [ways, within_extended]
  | one set =>
    obtain ⟨before, rest⟩ := here
    cases rest with
    | nil =>
      cases more with
      | nil => simp [ways, extended]
      | cons c more =>
        simp only [ways, extended, List.nil_append, List.map_nil]
        split <;> simp [within]
    | cons c rest =>
      simp only [ways, extended, List.cons_append]
      split <;> simp [within, extended]
  | anchor condition =>
    simp only [isLocal, decide_eq_true_eq] at looks
    subst looks
    obtain ⟨before, rest⟩ := here
    cases before <;> simp [ways, Anchor.holds, Cursor.place, extended, within]
  | sequence first second ihFirst ihSecond =>
    rw [isLocal, Bool.and_eq_true] at looks
    exact flat_map_extended (fun here after way => ways_length way) (ihFirst looks.1 here)
      fun middle _ => ihSecond looks.2 middle
  | either label preferred other ihPreferred ihOther =>
    rw [isLocal, Bool.and_eq_true] at looks
    rw [ways, ways, List.map_append, List.filter_append, ihPreferred looks.1, ihOther looks.2]
  | star label greedy body ih =>
    exact star_ways_extended greedy (ih looks) here

/-- A preferred way that stays inside of the part is the preferred one there. -/
theorem head_extended {more : Text} {cursors others : List Cursor} {after : Cursor}
    (same : cursors.map (extended more) = others.filter (within more))
    (first : others.head? = some (extended more after)) : cursors.head? = some after := by
  obtain ⟨tail, rfl⟩ := List.head?_eq_some_iff.mp first
  rw [List.filter_cons, if_pos (within_extended more after)] at same
  cases cursors with
  | nil => cases same
  | cons here cursors => rw [extended_injective (List.cons.inj same).1]; rfl

/-- Where the whole has no way, a part has none. -/
theorem none_extended {more : Text} {cursors others : List Cursor}
    (same : cursors.map (extended more) = others.filter (within more)) (nothing : others = []) :
    cursors = [] := by
  subst nothing
  exact List.map_eq_nil_iff.mp same

/-! ## Edges of words -/

/-- The edge of a word. -/
def edge : Anchor := .word .boundary false

/-- Whether the cursor stands at the edge of a word. -/
def atEdge (here : Cursor) : Bool := edge.holds here.place

/-- Whether a route ends with the edge of a word and does not look ahead in front of that. -/
def edged : Route → Bool
  | .sequence first second => isLocal first && edged second
  | .anchor condition => condition = edge
  | _ => false

/-- An edged route without its edge. -/
def beforeEdge : Route → Route
  | .sequence first second => .sequence first (beforeEdge second)
  | _ => .empty

theorem before_edge_local {route : Route} (ends : edged route = true) :
    isLocal (beforeEdge route) = true := by
  induction route with
  | sequence first second _ ih =>
    rw [edged, Bool.and_eq_true] at ends
    rw [beforeEdge, isLocal, ends.1, ih ends.2]
    rfl
  | anchor condition => rfl
  | _ => cases ends

theorem not_local_of_edged {route : Route} (ends : edged route = true) : isLocal route = false := by
  induction route with
  | sequence first second _ ih =>
    rw [edged, Bool.and_eq_true] at ends
    rw [isLocal, ih ends.2, Bool.and_false]
  | anchor condition =>
    simp only [edged, decide_eq_true_eq] at ends
    subst ends
    rfl
  | _ => cases ends

/-- The ways of an edged route are those in front of its edge that come to an edge. -/
theorem ways_edged {route : Route} (ends : edged route = true) (here : Cursor) :
    ways route here = (ways (beforeEdge route) here).filter atEdge := by
  induction route generalizing here with
  | sequence first second _ ih =>
    rw [edged, Bool.and_eq_true] at ends
    rw [beforeEdge, ways, ways, List.filter_flatMap, List.flatMap_def, List.flatMap_def]
    congr 1
    exact List.map_congr_left fun middle _ => ih ends.2 middle
  | anchor condition =>
    simp only [edged, decide_eq_true_eq] at ends
    subst ends
    rw [show beforeEdge (.anchor edge) = .empty from rfl, ways, ways, List.filter_cons]
    rfl
  | _ => cases ends

/-- Whether a character is there and belongs to a word. -/
def isWordAt (c : Option Char) : Bool := c.any Unicode.isWord

theorem at_edge_eq (here : Cursor) :
    atEdge here = (isWordAt here.before != isWordAt here.rest.head?) := rfl

/-- In front of the end of the part, edges are the same in the whole. -/
theorem at_edge_extended {here : Cursor} (more : Text) (left : here.rest ≠ []) :
    atEdge (extended more here) = atEdge here := by
  obtain ⟨before, rest⟩ := here
  obtain ⟨c, rest, rfl⟩ := List.exists_cons_of_ne_nil left
  rfl

/-- A way that comes to the end of a text has its last character in front of it. -/
theorem before_end {route : Route} {text : Text} {after : Cursor}
    (way : after ∈ ways route ⟨none, text⟩) (ended : after.rest = []) :
    after.before = lastOf none text := by
  obtain ⟨taken, ⟨whole, last⟩, -⟩ := ways_spell way
  rw [ended, List.append_nil] at whole
  rw [last, ← whole]

/-- The preferred way of an edged route that ends with a word is the preferred one in the part that
it matches. -/
theorem edged_alone {route : Route} (ends : edged route = true) {text more : Text}
    (word : isWordAt (lastOf none text) = true)
    (first : (ways route ⟨none, text ++ more⟩).head? = some ⟨lastOf none text, more⟩) :
    (ways route ⟨none, text⟩).head? = some ⟨lastOf none text, []⟩ := by
  rw [ways_edged ends] at first ⊢
  have same := ways_extended (before_edge_local ends) more ⟨none, text⟩
  have atEnd : atEdge ⟨lastOf none text, more⟩ = true :=
    (List.mem_filter.mp (List.mem_of_head? first)).2
  have agree : ∀ after ∈ ways (beforeEdge route) ⟨none, text⟩,
      atEdge after = atEdge (extended more after) := by
    intro after way
    by_cases ended : after.rest = []
    · have last := before_end way ended
      obtain ⟨before, rest⟩ := after
      dsimp only at ended last
      subst ended last
      rw [show extended more ⟨lastOf none text, []⟩ = ⟨lastOf none text, more⟩ from rfl, atEnd,
        at_edge_eq, word]
      rfl
    · exact (at_edge_extended more ended).symm
  have inside : ((ways (beforeEdge route) ⟨none, text⟩).filter atEdge).map (extended more) =
      ((ways (beforeEdge route) ⟨none, text ++ more⟩).filter atEdge).filter (within more) := by
    rw [List.filter_congr agree, ← Function.comp_def, ← List.filter_map, same, List.filter_filter,
      List.filter_filter]
    congr 1
    funext after
    exact Bool.and_comm _ _
  exact head_extended inside first

/-- An edged route without a way through the whole can only have one through the part when both sides
of the end belong to words. -/
theorem edged_none {route : Route} (ends : edged route = true) {text more : Text}
    (nothing : ways route ⟨none, text ++ more⟩ = []) {after : Cursor}
    (way : after ∈ ways route ⟨none, text⟩) :
    after.rest = [] ∧ isWordAt (lastOf none text) = true ∧ isWordAt more.head? = true := by
  rw [ways_edged ends] at nothing way
  obtain ⟨way, atEnd⟩ := List.mem_filter.mp way
  have same := ways_extended (before_edge_local ends) more ⟨none, text⟩
  have listed : extended more after ∈ ways (beforeEdge route) ⟨none, text ++ more⟩ := by
    have member : extended more after ∈ (ways (beforeEdge route) ⟨none, text⟩).map (extended more) :=
      List.mem_map_of_mem way
    rw [same] at member
    exact (List.mem_filter.mp member).1
  have noEdge : ¬ atEdge (extended more after) = true := List.filter_eq_nil_iff.mp nothing _ listed
  by_cases ended : after.rest = []
  · have last := before_end way ended
    obtain ⟨before, rest⟩ := after
    dsimp only at ended last
    subst ended last
    rw [at_edge_eq] at atEnd noEdge
    simp only [extended, List.nil_append] at atEnd noEdge
    refine ⟨rfl, ?_, ?_⟩
    · simpa [isWordAt] using atEnd
    · cases word : isWordAt (lastOf none text) <;> simp_all [isWordAt]
  · rw [at_edge_extended more ended] at noEdge
    exact absurd atEnd noEdge

/-! ## Words in front of an edge -/

/-- The ways of a greedy star of single characters in front of a character. -/
theorem star_one_cons (set : CharSet) (before : Option Char) (c : Char) (rest : Text) :
    starWays true (ways (.one set)) ⟨before, c :: rest⟩ =
      (if set.contains c then starWays true (ways (.one set)) ⟨some c, rest⟩ else []) ++
        [⟨before, c :: rest⟩] := by
  rw [star_ways_eq rfl, if_pos rfl, ways]
  dsimp only
  split
  · rw [List.flatMap_singleton]
  · rfl

theorem star_one_nil (set : CharSet) (before : Option Char) :
    starWays true (ways (.one set)) ⟨before, []⟩ = [⟨before, []⟩] := by
  rw [star_ways_eq rfl]
  rfl

/-- A greedy star of single characters tries its longer ways first. -/
theorem star_one_behind {set : CharSet} {here after : Cursor}
    (way : after ∈ starWays true (ways (.one set)) here) :
    ∃ shorter, starWays true (ways (.one set)) here =
      starWays true (ways (.one set)) after ++ shorter := by
  obtain ⟨before, rest⟩ := here
  induction rest generalizing before with
  | nil =>
    rw [star_one_nil, List.mem_singleton] at way
    subst way
    exact ⟨[], (List.append_nil _).symm⟩
  | cons c rest ih =>
    rw [star_one_cons] at way
    rcases List.mem_append.mp way with further | last
    · by_cases member : set.contains c = true
      · rw [if_pos member] at further
        obtain ⟨shorter, later⟩ := ih (some c) further
        exact ⟨shorter ++ [⟨before, c :: rest⟩],
          by rw [star_one_cons, if_pos member, later, List.append_assoc]⟩
      · rw [if_neg member] at further
        cases further
    · rw [List.mem_singleton] at last
      subst last
      exact ⟨[], (List.append_nil _).symm⟩

/-- Behind a character of a word, a star that goes on over words comes to an edge. -/
theorem star_one_edge {set : CharSet} (words : ∀ c, Unicode.isWord c = true → set.contains c = true)
    {here : Cursor} (word : isWordAt here.before = true) :
    ∃ after ∈ starWays true (ways (.one set)) here, atEdge after = true := by
  obtain ⟨before, rest⟩ := here
  induction rest generalizing before with
  | nil =>
    refine ⟨⟨before, []⟩, ?_, by rw [at_edge_eq, word]; rfl⟩
    rw [star_one_nil]
    simp
  | cons c rest ih =>
    rw [star_one_cons]
    by_cases inside : Unicode.isWord c = true
    · rw [if_pos (words c inside)]
      obtain ⟨after, way, edge⟩ := ih (some c) inside
      exact ⟨after, List.mem_append_left _ way, edge⟩
    · refine ⟨⟨before, c :: rest⟩, by simp, ?_⟩
      rw [at_edge_eq, word]
      simpa [isWordAt] using inside

/-- A star that goes on over words stops behind a word where it has to stop at an edge. -/
theorem star_one_word {set : CharSet} (words : ∀ c, Unicode.isWord c = true → set.contains c = true)
    {here after : Cursor}
    (first : ((starWays true (ways (.one set)) here).filter atEdge).head? = some after) :
    isWordAt after.before = true := by
  obtain ⟨way, edge⟩ := List.mem_filter.mp (List.mem_of_head? first)
  by_cases word : isWordAt after.before = true
  · exact word
  -- the edge is the beginning of a word, and the star prefers to go on over that word
  obtain ⟨before, rest⟩ := after
  rw [at_edge_eq, Bool.eq_false_iff.mpr word] at edge
  cases rest with
  | nil => cases edge
  | cons c rest =>
    have inside : Unicode.isWord c = true := by simpa [isWordAt] using edge
    obtain ⟨shorter, behind⟩ := star_one_behind way
    have goesOn : isWordAt (Cursor.mk (some c) rest).before = true := inside
    obtain ⟨better, preferred, ends⟩ := star_one_edge words goesOn
    have longer : ((starWays true (ways (.one set)) ⟨some c, rest⟩).filter atEdge).head? =
        some ⟨before, c :: rest⟩ := by
      obtain ⟨best, others, same⟩ := List.exists_cons_of_ne_nil
        (List.ne_nil_of_mem (List.mem_filter.mpr ⟨preferred, ends⟩))
      rw [behind, star_one_cons, if_pos (words c inside), List.filter_append, List.filter_append,
        same] at first
      rw [same]
      exact first
    have listed := (List.mem_filter.mp (List.mem_of_head? longer)).1
    have shrinks := ways_length (show (⟨before, c :: rest⟩ : Cursor) ∈
      ways (.star 0 true (.one set)) ⟨some c, rest⟩ from listed)
    simp only [List.length_cons] at shrinks
    omega

end FormulaLexer.Truncation
