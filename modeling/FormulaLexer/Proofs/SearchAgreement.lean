import FormulaLexer.Proofs.Ways

/-! The search finds the preferred way of a route. It follows all ways at the same time and gives
up those that come to a division where another one has been. If no star repeats what can be
empty, a division that is met again at the same place has been explored to its end, so that
nothing behind it is left to find. -/
namespace FormulaLexer.SearchAgreement
open Ways

/-- The cursors to which the routes of a trail lead. -/
def trailWays : Trail → Cursor → List Cursor
  | [], here => [here]
  | route :: rest, here => (ways route here).flatMap (trailWays rest)

/-- The preferred way of a trail. -/
def best (trail : Trail) (here : Cursor) : Option Cursor := (trailWays trail here).head?

/-- The preferred way of a trail behind the next character, if there is one. -/
def bestBehind (trail : Trail) (here : Cursor) : Option Cursor :=
  match here.rest with
  | [] => none
  | c :: rest => best trail ⟨some c, rest⟩

/-! ## What a frontier has found -/

/-- A bound on the divisions that a route passes before it consumes a character. -/
def weight : Route → Nat
  | .empty => 0
  | .one _ => 0
  | .anchor _ => 0
  | .sequence first second => weight first + weight second
  | .either _ preferred other => weight preferred + weight other + 1
  | .star _ _ body => weight body + 1

/-- The same bound for a trail, which goes on behind routes that can be empty. -/
def cost : Trail → Nat
  | [] => 0
  | route :: rest => weight route + if nullable route then cost rest else 0

/-- Whether all routes of a trail are productive. -/
def Fit (trail : Trail) : Prop := ∀ route ∈ trail, productive route = true

/-- The preferred way of all that a frontier has found from a cursor. -/
def found (here : Cursor) (frontier : Frontier) : Option Cursor :=
  (frontier.trails.reverse.findSome? fun trail => bestBehind trail here).or
    (if frontier.accepted then some here else none)

/-- What holds of a frontier while trails of at most a given cost are followed: its trails are
productive, and where a division of at most that cost has been visited, nothing that lies behind
it is preferred to what has been found. -/
structure Settled (here : Cursor) (bound : Nat) (frontier : Frontier) : Prop where
  fit : ∀ trail ∈ frontier.trails, Fit trail
  visited : ∀ trail ∈ frontier.visited, cost trail ≤ bound →
    (found here frontier).or (best trail here) = found here frontier

/-- What following a trail does: it adds the preferred way of the trail behind all others, and
visits no divisions but cheap ones. -/
structure Follows (here : Cursor) (way : Option Cursor) (bound : Nat) (before after : Frontier) :
    Prop where
  found : found here after = (found here before).or way
  settled : Settled here bound after
  grown : ∀ trail ∈ after.visited, trail ∈ before.visited ∨ cost trail ≤ bound

theorem found_of_accepted {here : Cursor} {frontier : Frontier} (accepted : frontier.accepted = true)
    (other : Option Cursor) : (found here frontier).or other = found here frontier := by
  rw [found, accepted, if_pos rfl, Option.or_assoc]
  rfl

theorem Settled.less {here : Cursor} {bound smaller : Nat} {frontier : Frontier}
    (settled : Settled here bound frontier) (le : smaller ≤ bound) :
    Settled here smaller frontier :=
  ⟨settled.fit, fun trail member small => settled.visited trail member (Nat.le_trans small le)⟩

/-- Nothing is found behind what has been found to lead nowhere, however much is added. -/
theorem covered_more {found other way : Option Cursor} (covered : found.or way = found) :
    (found.or other).or way = found.or other := by
  cases found with
  | some here => rfl
  | none =>
    rw [Option.none_or] at covered
    rw [covered, Option.or_none]

theorem follows_nothing {here : Cursor} {bound : Nat} {frontier : Frontier} {way : Option Cursor}
    (settled : Settled here bound frontier)
    (covered : (found here frontier).or way = found here frontier) :
    Follows here way bound frontier frontier :=
  ⟨covered.symm, settled, fun _ member => .inl member⟩

theorem Follows.trans {here : Cursor} {first second : Option Cursor} {bound : Nat}
    {before middle after : Frontier} (begins : Follows here first bound before middle)
    (ends : Follows here second bound middle after) :
    Follows here (first.or second) bound before after := by
  refine ⟨?_, ends.settled, fun trail member => ?_⟩
  · rw [ends.found, begins.found, Option.or_assoc]
  · rcases ends.grown trail member with earlier | cheap
    · exact begins.grown trail earlier
    · exact .inr cheap

theorem follows_add {here : Cursor} {rest : Trail} {bound : Nat} {frontier : Frontier}
    (settled : Settled here bound frontier) (fit : Fit rest) :
    Follows here (bestBehind rest here) bound frontier (frontier.add rest) := by
  rw [Frontier.add]
  split
  · next accepted => exact follows_nothing settled (found_of_accepted accepted _)
  · next unfinished =>
    have more : found here { frontier with trails := rest :: frontier.trails } =
        (found here frontier).or (bestBehind rest here) := by
      simp [found, unfinished, List.findSome?_append]
    refine ⟨more, ⟨?_, ?_⟩, fun _ member => .inl member⟩
    · intro trail member
      rcases List.mem_cons.mp member with rfl | member
      · exact fit
      · exact settled.fit trail member
    · intro trail member small
      rw [more]
      exact covered_more (settled.visited trail member small)

theorem follows_accept {here : Cursor} {bound : Nat} {frontier : Frontier}
    (settled : Settled here bound frontier) :
    Follows here (some here) bound frontier frontier.accept := by
  have more : found here frontier.accept = (found here frontier).or (some here) := by
    simp only [found, Frontier.accept, Option.or_assoc, if_pos]
    cases frontier.accepted <;> rfl
  refine ⟨more, ⟨settled.fit, fun trail member small => ?_⟩, fun _ member => .inl member⟩
  rw [more]
  exact covered_more (settled.visited trail member small)

/-- A division is explored with cheaper trails, and then everything behind it has been found. -/
theorem follows_visit {here : Cursor} {trail : Trail} {bound : Nat} {frontier : Frontier}
    {explore : Frontier → Frontier} (settled : Settled here bound frontier)
    (small : cost trail ≤ bound) (positive : 0 < cost trail)
    (explores : ∀ begun, Settled here (cost trail - 1) begun →
      Follows here (best trail here) (cost trail - 1) begun (explore begun)) :
    Follows here (best trail here) bound frontier (frontier.visit trail explore) := by
  rw [Frontier.visit]
  split
  · next skipped =>
    refine follows_nothing settled ?_
    rcases Bool.or_eq_true_iff.mp skipped with accepted | visited
    · exact found_of_accepted accepted _
    · exact settled.visited trail (by simpa using visited) small
  · have begun : Settled here (cost trail - 1)
        { frontier with visited := trail :: frontier.visited } := by
      refine ⟨settled.fit, fun other member cheap => ?_⟩
      rcases List.mem_cons.mp member with rfl | member
      · omega
      · exact settled.visited other member (by omega)
    obtain ⟨more, after, grown⟩ := explores _ begun
    have kept : ∀ other ∈ frontier.visited, cost other ≤ bound →
        (found here (explore { frontier with visited := trail :: frontier.visited })).or
            (best other here) =
          found here (explore { frontier with visited := trail :: frontier.visited }) := by
      intro other member cheap
      rw [more]
      exact covered_more (settled.visited other member cheap)
    refine ⟨more, ⟨after.fit, fun other member cheap => ?_⟩, fun other member => ?_⟩
    · rcases grown other member with earlier | cheaper
      · rcases List.mem_cons.mp earlier with rfl | earlier
        · rw [more, Option.or_assoc, Option.or_self]
        · exact kept other earlier cheap
      · exact after.visited other member cheaper
    · rcases grown other member with earlier | cheaper
      · rcases List.mem_cons.mp earlier with rfl | earlier
        · exact .inr small
        · exact .inl earlier
      · exact .inr (by omega)

/-! ## Entering a route -/

theorem Fit.cons {route : Route} {rest : Trail} (fits : productive route = true) (fit : Fit rest) :
    Fit (route :: rest) := by
  intro other member
  rcases List.mem_cons.mp member with rfl | member
  · exact fits
  · exact fit other member

@[simp] theorem best_nil (here : Cursor) : best [] here = some here := rfl

theorem best_empty (rest : Trail) (here : Cursor) : best (.empty :: rest) here = best rest here := by
  simp [best, trailWays, ways]

theorem best_one (set : CharSet) (rest : Trail) (here : Cursor) :
    best (.one set :: rest) here =
      if here.rest.head?.any set.contains then bestBehind rest here else none := by
  obtain ⟨before, text⟩ := here
  cases text with
  | nil => rfl
  | cons c text =>
    by_cases member : set.contains c = true
    · simp [best, bestBehind, trailWays, ways, member]
    · simp [best, trailWays, ways, member]

theorem best_anchor (condition : Anchor) (rest : Trail) (here : Cursor) :
    best (.anchor condition :: rest) here =
      if condition.holds here.place then best rest here else none := by
  by_cases holds : condition.holds here.place = true
  · simp [best, trailWays, ways, holds]
  · simp [best, trailWays, ways, holds]

theorem best_sequence (first second : Route) (rest : Trail) (here : Cursor) :
    best (.sequence first second :: rest) here = best (first :: second :: rest) here := by
  simp [best, trailWays, ways, List.flatMap_assoc]

theorem best_either (label : Nat) (preferred other : Route) (rest : Trail) (here : Cursor) :
    best (.either label preferred other :: rest) here =
      (best (preferred :: rest) here).or (best (other :: rest) here) := by
  simp [best, trailWays, ways, List.head?_append]

theorem best_star (label : Nat) (greedy : Bool) {body : Route} (filled : nullable body = false)
    (rest : Trail) (here : Cursor) :
    best (.star label greedy body :: rest) here =
      if greedy then (best (body :: .star label greedy body :: rest) here).or (best rest here)
      else (best rest here).or (best (body :: .star label greedy body :: rest) here) := by
  simp only [best, trailWays, ways, star_ways_eq filled here]
  cases greedy
  · simp [List.head?_append, List.flatMap_assoc]
  · simp [List.head?_append, List.flatMap_assoc]

/-! Following what comes next costs no more, and less behind a division. -/

theorem cost_behind {route : Route} (empty : nullable route = true) (weightless : weight route = 0)
    (rest : Trail) : cost (route :: rest) = cost rest := by
  rw [cost, weightless, if_pos empty, Nat.zero_add]

theorem cost_sequence (first second : Route) (rest : Trail) :
    cost (first :: second :: rest) ≤ cost (.sequence first second :: rest) := by
  cases firstEmpty : nullable first <;> cases secondEmpty : nullable second
  all_goals simp [cost, weight, nullable, firstEmpty, secondEmpty]
  omega

theorem cost_either (label : Nat) (preferred other : Route) (rest : Trail) :
    cost (preferred :: rest) < cost (.either label preferred other :: rest) ∧
      cost (other :: rest) < cost (.either label preferred other :: rest) := by
  cases preferredEmpty : nullable preferred <;> cases otherEmpty : nullable other <;>
    simp [cost, weight, nullable, preferredEmpty, otherEmpty] <;> omega

theorem cost_star (label : Nat) (greedy : Bool) {body : Route} (filled : nullable body = false)
    (rest : Trail) :
    cost (body :: .star label greedy body :: rest) < cost (.star label greedy body :: rest) ∧
      cost rest < cost (.star label greedy body :: rest) := by
  simp [cost, weight, nullable, filled]
  omega

/-- What it takes to follow a trail: on a settled frontier it adds the preferred way. -/
def Leads (here : Cursor) (trail : Trail) (follow : Frontier → Frontier) : Prop :=
  ∀ bound frontier, cost trail ≤ bound → Settled here bound frontier →
    Follows here (best trail here) bound frontier (follow frontier)

theorem one_leads (here : Cursor) (set : CharSet) {rest : Trail} (fit : Fit rest)
    (next : Frontier → Frontier) :
    Leads here (.one set :: rest) ((Route.one set).enter here.place rest next) := by
  intro bound frontier _ settled
  rw [best_one, Route.enter, Cursor.place]
  by_cases member : here.rest.head?.any set.contains = true
  · rw [if_pos member, if_pos member]
    exact follows_add settled fit
  · rw [if_neg member, if_neg member]
    exact follows_nothing settled Option.or_none

theorem anchor_leads (here : Cursor) (condition : Anchor) {rest : Trail}
    {next : Frontier → Frontier} (further : Leads here rest next) :
    Leads here (.anchor condition :: rest) ((Route.anchor condition).enter here.place rest next) := by
  intro bound frontier small settled
  rw [best_anchor, Route.enter]
  rw [cost_behind rfl rfl] at small
  split
  · exact further bound frontier small settled
  · exact follows_nothing settled Option.or_none

/-- A division is followed one way behind the other. -/
theorem Leads.both {here : Cursor} {first second : Trail} {follow follow' : Frontier → Frontier}
    (begins : Leads here first follow) (ends : Leads here second follow') {bound : Nat}
    {frontier : Frontier} (small : cost first ≤ bound) (small' : cost second ≤ bound)
    (settled : Settled here bound frontier) :
    Follows here ((best first here).or (best second here)) bound frontier
      (follow' (follow frontier)) :=
  have followed := begins bound frontier small settled
  followed.trans (ends bound _ small' followed.settled)

/-- Entering a route follows it, if what comes behind it is followed. Behind a route that cannot
be empty nothing comes at the same place. -/
theorem enter_leads (here : Cursor) (route : Route) :
    ∀ (rest : Trail) (next : Frontier → Frontier), productive route = true → Fit rest →
      (nullable route = true → Leads here rest next) →
      Leads here (route :: rest) (route.enter here.place rest next) := by
  induction route with
  | empty =>
    intro rest next _ _ further bound frontier small settled
    rw [best_empty]
    rw [cost_behind rfl rfl] at small
    exact further rfl bound frontier small settled
  | one set =>
    intro rest next _ fit _
    exact one_leads here set fit next
  | anchor condition =>
    intro rest next _ _ further
    exact anchor_leads here condition (further rfl)
  | sequence first second ihFirst ihSecond =>
    intro rest next fits fit further bound frontier small settled
    obtain ⟨firstFits, secondFits⟩ := Bool.and_eq_true_iff.mp fits
    rw [best_sequence]
    refine ihFirst (second :: rest) _ firstFits (fit.cons secondFits) (fun firstEmpty => ?_) bound
      frontier (Nat.le_trans (cost_sequence first second rest) small) settled
    refine ihSecond rest next secondFits fit fun secondEmpty => further ?_
    rw [nullable, firstEmpty, secondEmpty]
    rfl
  | either label preferred other ihPreferred ihOther =>
    intro rest next fits fit further bound frontier small settled
    obtain ⟨preferredFits, otherFits⟩ := Bool.and_eq_true_iff.mp fits
    have cheap := cost_either label preferred other rest
    refine follows_visit settled small (Nat.zero_lt_of_lt cheap.1) fun begun settled => ?_
    rw [best_either]
    have first := ihPreferred rest next preferredFits fit
      fun empty => further (by rw [nullable, empty, Bool.true_or])
    have second := ihOther rest next otherFits fit
      fun empty => further (by rw [nullable, empty, Bool.or_true])
    exact first.both second (Nat.le_sub_one_of_lt cheap.1) (Nat.le_sub_one_of_lt cheap.2) settled
  | star label greedy body ih =>
    intro rest next fits fit further bound frontier small settled
    obtain ⟨bodyFits, filled⟩ := Bool.and_eq_true_iff.mp fits
    have bodyFilled : nullable body = false := by simpa using filled
    have cheap := cost_star label greedy bodyFilled rest
    rw [Route.enter]
    refine follows_visit settled small (Nat.zero_lt_of_lt cheap.1) fun begun settled => ?_
    rw [best_star label greedy bodyFilled]
    have repeats := ih (.star label greedy body :: rest) id bodyFits (fit.cons fits)
      fun empty => absurd empty (by simp [bodyFilled])
    have leaves := further rfl
    have cheap' := And.intro (Nat.le_sub_one_of_lt cheap.1) (Nat.le_sub_one_of_lt cheap.2)
    cases greedy with
    | true => exact repeats.both leaves cheap'.1 cheap'.2 settled
    | false => exact leaves.both repeats cheap'.2 cheap'.1 settled

theorem trail_enter_leads (here : Cursor) (trail : Trail) (fit : Fit trail) :
    Leads here trail (trail.enter here.place) := by
  induction trail with
  | nil =>
    intro bound frontier _ settled
    exact follows_accept settled
  | cons route rest ih =>
    have restFits : Fit rest := fun other member => fit other (by simp [member])
    exact enter_leads here route rest _ (fit route (by simp)) restFits fun _ => ih restFits

/-! ## The search -/

theorem arrive_found (here : Cursor) (arriving : List Trail) (fit : ∀ trail ∈ arriving, Fit trail) :
    found here (Frontier.arrive here.place arriving) =
        arriving.findSome? (fun trail => best trail here) ∧
      ∀ trail ∈ (Frontier.arrive here.place arriving).trails, Fit trail := by
  suffices general : ∀ frontier, (∀ bound, Settled here bound frontier) →
      (∀ bound, Settled here bound (arriving.foldl (fun frontier trail =>
        trail.enter here.place frontier) frontier)) ∧
      found here (arriving.foldl (fun frontier trail => trail.enter here.place frontier) frontier) =
        (found here frontier).or (arriving.findSome? fun trail => best trail here) by
    obtain ⟨settled, all⟩ := general .empty fun bound => ⟨by simp [Frontier.empty], by
      simp [Frontier.empty]⟩
    refine ⟨all.trans ?_, (settled 0).fit⟩
    simp [found, Frontier.empty]
  induction arriving with
  | nil =>
    intro frontier settled
    exact ⟨settled, by simp⟩
  | cons trail arriving ih =>
    intro frontier settled
    have leads := trail_enter_leads here trail (fit trail (by simp))
    have after : ∀ bound, Settled here bound (trail.enter here.place frontier) := by
      intro bound
      have enough := leads (max bound (cost trail)) frontier (Nat.le_max_right _ _) (settled _)
      exact enough.settled.less (Nat.le_max_left _ _)
    obtain ⟨finished, rest⟩ := ih (fun other member => fit other (by simp [member])) _ after
    refine ⟨finished, rest.trans ?_⟩
    rw [(leads (cost trail) frontier (Nat.le_refl _) (settled _)).found, Option.or_assoc,
      List.findSome?_cons]
    cases best trail here <;> rfl

theorem trail_ways_length {trail : Trail} {here after : Cursor} (way : after ∈ trailWays trail here) :
    after.rest.length ≤ here.rest.length := by
  induction trail generalizing here with
  | nil =>
    cases List.mem_singleton.mp way
    exact Nat.le_refl _
  | cons route rest ih =>
    obtain ⟨middle, first, later⟩ := List.mem_flatMap.mp way
    exact Nat.le_trans (ih later) (ways_length first)

/-- The search finds the preferred way of all that arrive. -/
theorem follow_eq (passed : Nat) (before : Option Char) (text : Text) (arriving : List Trail)
    (earlier : Option Nat) (fit : ∀ trail ∈ arriving, Fit trail) :
    Route.follow passed before text arriving earlier =
      ((arriving.findSome? fun trail => best trail ⟨before, text⟩).map fun after =>
        passed + (text.length - after.rest.length)).or earlier := by
  obtain ⟨arrives, further⟩ := arrive_found ⟨before, text⟩ arriving fit
  rw [← arrives]
  induction text generalizing passed before arriving earlier with
  | nil =>
    have none : ((Frontier.arrive ⟨before, none⟩ arriving).trails.reverse.findSome? fun trail =>
        bestBehind trail ⟨before, []⟩) = none := by
      simp [bestBehind]
    simp only [Route.follow, found, Cursor.place, List.head?_nil, none, Option.none_or]
    by_cases accepted : (Frontier.arrive ⟨before, .none⟩ arriving).accepted = true <;>
      simp [accepted]
  | cons c text ih =>
    simp only [Cursor.place, List.head?_cons] at arrives further ⊢
    simp only [Route.follow]
    generalize Frontier.arrive ⟨before, some c⟩ arriving = frontier at arrives further
    have fits : ∀ trail ∈ frontier.trails.reverse, Fit trail :=
      fun trail member => further trail (List.mem_reverse.mp member)
    have goesOn : (if frontier.trails.isEmpty then
          if frontier.accepted then some passed else earlier
        else Route.follow (passed + 1) (some c) text frontier.trails.reverse
          (if frontier.accepted then some passed else earlier)) =
        ((frontier.trails.reverse.findSome? fun trail => best trail ⟨some c, text⟩).map fun after =>
          passed + 1 + (text.length - after.rest.length)).or
            (if frontier.accepted then some passed else earlier) := by
      split
      · next empty => simp [List.isEmpty_iff.mp empty]
      · obtain ⟨later, trails⟩ := arrive_found ⟨some c, text⟩ _ fits
        rw [← later]
        exact ih (passed + 1) (some c) _ _ fits later trails
    rw [goesOn]
    simp only [found, bestBehind]
    cases way : frontier.trails.reverse.findSome? fun trail => best trail ⟨some c, text⟩ with
    | none => by_cases accepted : frontier.accepted = true <;> simp [accepted]
    | some after =>
      obtain ⟨trail, _, first⟩ := List.exists_of_findSome?_eq_some way
      have shorter := trail_ways_length (List.mem_of_head? first)
      simp only [Option.map_some, Option.some_or, List.length_cons] at shorter ⊢
      congr 1
      omega

/-- The search of a productive route finds its preferred way. -/
theorem match_length_eq {route : Route} (fits : productive route = true) (before : Option Char)
    (text : Text) :
    route.matchLength? before text =
      (ways route ⟨before, text⟩).head?.map fun after => text.length - after.rest.length := by
  have fit : ∀ trail ∈ [[route]], Fit trail := by
    intro trail member other inner
    rw [List.mem_singleton.mp member] at inner
    rwa [List.mem_singleton.mp inner]
  rw [Route.matchLength?, follow_eq 0 before text [[route]] none fit]
  have single : trailWays [route] = ways route := by
    funext here
    simp [trailWays]
  simp [best, single]

/-- What a search in a text finds with a productive route that is tried at its start only. -/
theorem find_eq {route : Route} (anchored : route.isAnchored = true)
    (fits : productive route = true) (text : Text) :
    route.find? text = (ways route ⟨none, text⟩).head?.map fun after =>
      ⟨0, text.take (text.length - after.rest.length)⟩ := by
  rw [Route.find?, if_pos anchored, match_length_eq fits, Option.map_map]
  rfl

end FormulaLexer.SearchAgreement
