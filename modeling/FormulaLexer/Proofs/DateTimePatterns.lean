import FormulaLexer.Proofs.DateTimeShapes
import FormulaLexer.Proofs.NumberLiterals

/-! The patterns of date-times. That of the scanner and that of whole literals spell the same texts,
which are the literals, and each option in them is taken exactly where a literal goes on with it, so
that the preferred way through a literal takes all of it. -/
namespace FormulaLexer.DateTimePatterns
open Ways Spelling Letters SearchAgreement BuiltInMatches Unmatched DateTimeShapes
open NumberLiterals (spells_option_iff)
open Unicode (isDecimalDigit)

/-! ## The routes -/

/-- A route or nothing. -/
def option (label : Nat) (route : Route) : Route := .either label (.sequence route .empty) .empty

/-- Two digits. -/
def twoDigits : Route := .sequence (.one .digit) (.sequence (.one .digit) .empty)

/-- One digit or two. -/
def someDigits (label : Nat) : Route :=
  .sequence (.one .digit) (.either label (.sequence (.one .digit) .empty) .empty)

/-- A time of day behind a space. -/
def clockRoute : Route :=
  .sequence (.one (quoteSet ' ')) (.sequence (someDigits 4) (.sequence (.one (quoteSet ':'))
    (.sequence (someDigits 5) (.sequence (.one (quoteSet ':')) (someDigits 6)))))

/-- The signs of zones. -/
def zoneSigns : CharSet := .ignoringCase (.union (.single '+') (.single '-'))

/-- A zone. -/
def zoneRoute : Route :=
  .either 9 (.one (quoteSet 'z')) (.sequence (.one zoneSigns)
    (.sequence twoDigits (.sequence (option 10 (.one (quoteSet ':'))) twoDigits)))

/-- What stands behind the year. -/
def behindYear (ending : Route) : Route :=
  .sequence (.one (quoteSet '-')) (.sequence (someDigits 1) (.sequence (.one (quoteSet '-'))
    (.sequence (someDigits 2) (.sequence (option 3 clockRoute)
      (.sequence (option 7 (.one (quoteSet ' '))) ending)))))

theorem scanner_route : BuiltIn.dateTime.expression.route =
    .sequence (.anchor .textStart) (.sequence twoDigits (.sequence (option 0 twoDigits)
      (behindYear (option 8 zoneRoute)))) := by
  rfl

/-- The pattern of whole literals. -/
def literalPattern : Text :=
  "^(\\d\x7b2\x7d(?:\\d\x7b2\x7d)?)-(\\d\x7b1,2\x7d)-(\\d\x7b1,2\x7d)".toList
    ++ "(?: (\\d\x7b1,2\x7d):(\\d\x7b1,2\x7d):(\\d\x7b1,2\x7d))? ?".toList
    ++ "(z|[+-]\\d\x7b2\x7d:?\\d\x7b2\x7d)?$".toList

/-- The route of whole literals. -/
def literalRoute : Route :=
  .sequence (.anchor .textStart) (.sequence (.sequence twoDigits (option 0 twoDigits))
    (behindYear (.sequence (option 8 zoneRoute) (.anchor .textEnd))))

theorem literal_route :
    (Pattern.read true literalPattern).map Pattern.route = .ok literalRoute := by
  rfl

/-! ## Preferred ways -/

/-- A route prefers to take a part of the text behind a place. -/
def Prefers (route : Route) (before : Option Char) (front back : Text) : Prop :=
  (ways route ⟨before, front ++ back⟩).head? = some ⟨lastOf before front, back⟩

section
variable {before : Option Char} {back : Text}

theorem prefers_empty : Prefers .empty before [] back := rfl

theorem prefers_one {set : CharSet} {c : Char} (member : set.contains c = true) :
    Prefers (.one set) before [c] back := by
  simp [Prefers, ways, member, lastOf]

theorem prefers_sequence {first second : Route} {front middle : Text}
    (begins : Prefers first before front (middle ++ back))
    (ends : Prefers second (lastOf before front) middle back) :
    Prefers (.sequence first second) before (front ++ middle) back := by
  rw [Prefers, List.append_assoc, ways, last_of_append]
  obtain ⟨others, split⟩ := List.head?_eq_some_iff.mp begins
  rw [split, List.flatMap_cons, List.head?_append, show (ways second _).head? = _ from ends]
  rfl

/-- A second part that takes nothing. -/
theorem prefers_ended {first second : Route} {front : Text}
    (begins : Prefers first before front back)
    (ends : Prefers second (lastOf before front) [] back) :
    Prefers (.sequence first second) before front back := by
  have whole : Prefers (.sequence first second) before (front ++ []) back :=
    prefers_sequence begins ends
  rwa [List.append_nil] at whole

theorem prefers_either {label : Nat} {preferred other : Route} {front : Text}
    (prefers : Prefers preferred before front back) :
    Prefers (.either label preferred other) before front back := by
  rw [Prefers, ways, List.head?_append, show (ways preferred _).head? = _ from prefers]
  rfl

theorem prefers_other {label : Nat} {preferred other : Route} {front : Text}
    (nothing : ways preferred ⟨before, front ++ back⟩ = [])
    (prefers : Prefers other before front back) :
    Prefers (.either label preferred other) before front back := by
  rw [Prefers, ways, nothing]
  exact prefers

/-- An option that can be taken is taken. -/
theorem prefers_taken {label : Nat} {route : Route} {front : Text}
    (prefers : Prefers route before front back) : Prefers (option label route) before front back :=
  prefers_either (prefers_ended prefers prefers_empty)

/-- An option is passed by where its route has no way. -/
theorem prefers_passed {label : Nat} {route : Route} (nothing : ways route ⟨before, back⟩ = []) :
    Prefers (option label route) before [] back := by
  refine prefers_other ?_ prefers_empty
  rw [List.nil_append, ways, nothing]
  rfl

/-- Behind an option that is passed by, the text goes on where the option stands. -/
theorem prefers_skip {label : Nat} {route later : Route} {front : Text}
    (nothing : ways route ⟨before, front ++ back⟩ = []) (prefers : Prefers later before front back) :
    Prefers (.sequence (option label route) later) before front back :=
  prefers_sequence (prefers_passed nothing) prefers

/-- Whether a text begins at its start costs nothing there. -/
theorem prefers_start {route : Route} {front : Text} (prefers : Prefers route none front back) :
    Prefers (.sequence (.anchor .textStart) route) none front back := by
  have begins : Prefers (.anchor .textStart) none [] (front ++ back) := rfl
  exact prefers_sequence begins prefers

/-- A mark, and what stands behind it. -/
theorem prefers_mark {set : CharSet} {c : Char} {route : Route} {front : Text}
    (member : set.contains c = true) (later : Prefers route (some c) front back) :
    Prefers (.sequence (.one set) route) before (c :: front) back :=
  prefers_sequence (prefers_one member) later

/-- The last part of a text. -/
theorem prefers_last {first second : Route} {front middle : Text}
    (begins : Prefers first before front middle)
    (ends : Prefers second (lastOf before front) middle []) :
    Prefers (.sequence first second) before (front ++ middle) [] :=
  prefers_sequence (by rwa [List.append_nil]) ends

theorem nothing_of_head {set : CharSet} {route : Route} {text : Text}
    (outside : ∀ c ∈ text.head?, set.contains c = false) :
    ways (.sequence (.one set) route) ⟨before, text⟩ = [] := by
  cases text with
  | nil => rfl
  | cons c text => simp [ways, outside c rfl]

end

/-! ## Signs -/

theorem separators_alone : ∀ mark ∈ "-: ".toList, Caseless mark := forall_of_all (by decide)

theorem dash_alone : Caseless '-' := separators_alone '-' (by decide)

theorem colon_alone : Caseless ':' := separators_alone ':' (by decide)

theorem space_alone : Caseless ' ' := separators_alone ' ' (by decide)

theorem letter_iff {c : Char} : (quoteSet 'z').contains c = true ↔ c = 'Z' ∨ c = 'z' := by
  constructor
  · intro member
    have lists : codes? (quoteSet 'z') = some ['z'.toNat, 'Z'.toNat] := by decide
    rcases List.mem_cons.mp (codes_contains lists member) with lower | upper
    · exact .inr (Char.toNat_inj.mp lower)
    · exact .inl (Char.toNat_inj.mp (List.mem_singleton.mp upper))
  · rintro (rfl | rfl) <;> decide

theorem zone_sign_iff {c : Char} : zoneSigns.contains c = true ↔ c = '+' ∨ c = '-' := by
  constructor
  · intro member
    have lists : codes? zoneSigns = some ['+'.toNat, '-'.toNat] := by decide
    rcases List.mem_cons.mp (codes_contains lists member) with plus | minus
    · exact .inl (Char.toNat_inj.mp plus)
    · exact .inr (Char.toNat_inj.mp (List.mem_singleton.mp minus))
  · rintro (rfl | rfl) <;> decide

/-! ## What is spelled -/

theorem figures_of_two {text : Text} (spells : Spells twoDigits text) :
    Figures isDecimalDigit [2] text := by
  obtain ⟨first, rest, begins, later, rfl⟩ := spells_sequence_iff.mp spells
  obtain ⟨second, behind, middle, ends, rfl⟩ := spells_sequence_iff.mp later
  obtain ⟨tens, digit, rfl⟩ := spells_one_iff.mp begins
  obtain ⟨ones, digit', rfl⟩ := spells_one_iff.mp middle
  cases ends
  exact field_of_pair digit digit'

theorem figures_of_some {label : Nat} {text : Text} (spells : Spells (someDigits label) text) :
    Figures isDecimalDigit [1, 2] text := by
  obtain ⟨first, rest, begins, later, rfl⟩ := spells_sequence_iff.mp spells
  obtain ⟨tens, digit, rfl⟩ := spells_one_iff.mp begins
  rcases spells_option_iff.mp later with second | rfl
  · obtain ⟨ones, digit', rfl⟩ := spells_one_iff.mp second
    exact (field_of_pair digit digit').widen (by decide)
  · exact ⟨by simp, by simpa using show isDecimalDigit tens = true from digit⟩

theorem figures_of_year {front back : Text} (begins : Spells twoDigits front)
    (ends : Spells (option 0 twoDigits) back) : Figures isDecimalDigit [2, 4] (front ++ back) := by
  have first := figures_of_two begins
  have two : front.length = 2 := by simpa using first.length
  rcases spells_option_iff.mp ends with ends | rfl
  · have second := figures_of_two ends
    have pair : back.length = 2 := by simpa using second.length
    refine ⟨by simp [two, pair], fun c member => ?_⟩
    rcases List.mem_append.mp member with member | member
    · exact first.inside c member
    · exact second.inside c member
  · rw [List.append_nil]
    exact first.widen (by decide)

/-- A mark, and what is spelled behind it. -/
theorem spells_marked_iff {mark : Char} (alone : Caseless mark) {route : Route} {text : Text} :
    Spells (.sequence (.one (quoteSet mark)) route) text ↔
      ∃ rest, Spells route rest ∧ text = mark :: rest := by
  rw [spells_sequence_iff]
  constructor
  · rintro ⟨front, rest, begins, spells, rfl⟩
    obtain rfl := alone.spells_iff.mp begins
    exact ⟨rest, spells, rfl⟩
  · rintro ⟨rest, spells, rfl⟩
    exact ⟨[mark], rest, alone.spells_iff.mpr rfl, spells, rfl⟩

theorem clock_of_spells {text : Text} (spells : Spells (option 3 clockRoute) text) :
    ∃ clock, clockText clock = text ∧ ∀ hour minute second, clock = some (hour, minute, second) →
      Figures isDecimalDigit [1, 2] hour ∧ Figures isDecimalDigit [1, 2] minute ∧
        Figures isDecimalDigit [1, 2] second := by
  rcases spells_option_iff.mp spells with clock | rfl
  · obtain ⟨fromHour, fields, rfl⟩ := (spells_marked_iff space_alone).mp clock
    obtain ⟨hour, behindHour, hours, later, rfl⟩ := spells_sequence_iff.mp fields
    obtain ⟨fromMinute, others, rfl⟩ := (spells_marked_iff colon_alone).mp later
    obtain ⟨minute, behindMinute, minutes, last, rfl⟩ := spells_sequence_iff.mp others
    obtain ⟨second, seconds, rfl⟩ := (spells_marked_iff colon_alone).mp last
    refine ⟨some (hour, minute, second), rfl, ?_⟩
    rintro _ _ _ ⟨⟩
    exact ⟨figures_of_some hours, figures_of_some minutes, figures_of_some seconds⟩
  · exact ⟨none, rfl, by simp⟩

theorem zone_of_spells {text : Text} (spells : Spells zoneRoute text) :
    ∃ zone : Zone, zone.text = text ∧ zone.Shaped isDecimalDigit := by
  rcases spells_either_iff.mp spells with letter | signed
  · obtain ⟨mark, member, rfl⟩ := spells_one_iff.mp letter
    exact ⟨.letter mark, rfl, letter_iff.mp member⟩
  · obtain ⟨first, digits, signs, behindSign, rfl⟩ := spells_sequence_iff.mp signed
    obtain ⟨hours, rest, hour, behindHours, rfl⟩ := spells_sequence_iff.mp behindSign
    obtain ⟨colon, minutes, colons, minute, rfl⟩ := spells_sequence_iff.mp behindHours
    obtain ⟨sign, member, rfl⟩ := spells_one_iff.mp signs
    have shaped := And.intro (zone_sign_iff.mp member)
      (And.intro (figures_of_two hour) (figures_of_two minute))
    rcases spells_option_iff.mp colons with mark | rfl
    · obtain rfl := colon_alone.spells_iff.mp mark
      exact ⟨.signed sign hours true minutes, rfl, shaped⟩
    · exact ⟨.signed sign hours false minutes, rfl, shaped⟩

theorem end_of_spells {text : Text} (spells : Spells (option 8 zoneRoute) text) :
    ∃ zone : Option Zone, (zone.map Zone.text).getD [] = text ∧
      ∀ z, zone = some z → z.Shaped isDecimalDigit := by
  rcases spells_option_iff.mp spells with written | rfl
  · obtain ⟨zone, same, shaped⟩ := zone_of_spells written
    exact ⟨some zone, same, by rintro _ ⟨⟩; exact shaped⟩
  · exact ⟨none, rfl, by simp⟩

/-- Behind the digits of a year, what is spelled makes a literal of them. -/
theorem shaped_of_behind {year rest : Text} {ending : Route}
    (years : Figures isDecimalDigit [2, 4] year)
    (ends : ∀ {text}, Spells ending text → Spells (option 8 zoneRoute) text)
    (spells : Spells (behindYear ending) rest) :
    ∃ literal : Literal, literal.Shaped isDecimalDigit ∧ literal.text = year ++ rest := by
  obtain ⟨fromMonth, fields, rfl⟩ := (spells_marked_iff dash_alone).mp spells
  obtain ⟨month, behindMonth, months, later, rfl⟩ := spells_sequence_iff.mp fields
  obtain ⟨fromDay, others, rfl⟩ := (spells_marked_iff dash_alone).mp later
  obtain ⟨day, behindDay, days, tail, rfl⟩ := spells_sequence_iff.mp others
  obtain ⟨front, behindClock, clocks, finish, rfl⟩ := spells_sequence_iff.mp tail
  obtain ⟨space, back, spaces, last, rfl⟩ := spells_sequence_iff.mp finish
  obtain ⟨clock, rfl, clocked⟩ := clock_of_spells clocks
  obtain ⟨zone, rfl, zoned⟩ := end_of_spells (ends last)
  have shaped : ∀ spaced, Literal.Shaped isDecimalDigit ⟨year, month, day, clock, spaced, zone⟩ :=
    fun spaced => ⟨years, figures_of_some months, figures_of_some days, clocked, zoned⟩
  rcases spells_option_iff.mp spaces with mark | rfl
  · obtain rfl := space_alone.spells_iff.mp mark
    exact ⟨_, shaped true, rfl⟩
  · exact ⟨_, shaped false, rfl⟩

/-- What the scanner of date-times spells is a literal. -/
theorem shaped_of_spells {text : Text} (spells : Spells BuiltIn.dateTime.expression.route text) :
    ∃ literal : Literal, literal.Shaped isDecimalDigit ∧ literal.text = text := by
  rw [scanner_route, spells_anchored_iff] at spells
  obtain ⟨front, rest, begins, behind, rfl⟩ := spells_sequence_iff.mp spells
  obtain ⟨back, rest, ends, later, rfl⟩ := spells_sequence_iff.mp behind
  rw [← List.append_assoc]
  exact shaped_of_behind (figures_of_year begins ends) id later

/-- What the pattern of whole literals spells is a literal. -/
theorem shaped_of_whole {text : Text} (spells : Spells literalRoute text) :
    ∃ literal : Literal, literal.Shaped isDecimalDigit ∧ literal.text = text := by
  obtain ⟨year, rest, years, behind, rfl⟩ := spells_sequence_iff.mp (spells_anchored_iff.mp spells)
  obtain ⟨front, back, begins, ends, rfl⟩ := spells_sequence_iff.mp years
  refine shaped_of_behind (figures_of_year begins ends) (fun tail => ?_) behind
  obtain ⟨text, empty, zone, ended, rfl⟩ := spells_sequence_iff.mp tail
  cases ended
  rwa [List.append_nil]

/-! ## What is preferred -/

section
variable {before : Option Char} {back : Text}

theorem prefers_two {digits : Text} (field : Figures isDecimalDigit [2] digits) :
    Prefers twoDigits before digits back := by
  obtain ⟨tens, ones, rfl, digit, digit'⟩ := pair_of_field field
  exact prefers_mark digit (prefers_mark digit' prefers_empty)

theorem some_cases {digits : Text} (field : Figures isDecimalDigit [1, 2] digits) :
    (∃ ones, digits = [ones] ∧ isDecimalDigit ones = true) ∨
      Figures isDecimalDigit [2] digits := by
  rcases List.mem_cons.mp field.length with one | two
  · obtain ⟨ones, rfl⟩ := List.length_eq_one_iff.mp one
    exact .inl ⟨ones, rfl, field.inside ones (by simp)⟩
  · exact .inr ⟨two, field.inside⟩

/-- A field of digits is taken whole if no digit stands behind it. -/
theorem prefers_some {label : Nat} {digits : Text} (field : Figures isDecimalDigit [1, 2] digits)
    (stops : Stops back) : Prefers (someDigits label) before digits back := by
  rcases some_cases field with ⟨ones, rfl, digit⟩ | two
  · refine prefers_mark digit (prefers_other ?_ prefers_empty)
    exact nothing_of_head stops
  · obtain ⟨tens, ones, rfl, digit, digit'⟩ := pair_of_field two
    exact prefers_mark digit (prefers_either (prefers_mark digit' prefers_empty))

/-- The digits of a year are two, or two and two. -/
theorem year_cases {year : Text} (field : Figures isDecimalDigit [2, 4] year) :
    Figures isDecimalDigit [2] year ∨ ∃ front rest, year = front ++ rest ∧
      Figures isDecimalDigit [2] front ∧ Figures isDecimalDigit [2] rest := by
  rcases List.mem_cons.mp field.length with two | four
  · exact .inl ⟨by simp [two], field.inside⟩
  · have length : year.length = 4 := by simpa using four
    refine .inr ⟨year.take 2, year.drop 2, (List.take_append_drop 2 year).symm,
      ⟨by simp [length], fun c member => field.inside c (List.mem_of_mem_take member)⟩,
      ⟨by simp [length], fun c member => field.inside c (List.mem_of_mem_drop member)⟩⟩

theorem prefers_clock {hour minute second : Text} (hours : Figures isDecimalDigit [1, 2] hour)
    (minutes : Figures isDecimalDigit [1, 2] minute)
    (seconds : Figures isDecimalDigit [1, 2] second) (stops : Stops back) :
    Prefers clockRoute before (clockText (some (hour, minute, second))) back := by
  have mark : ∀ {c}, Caseless c → (quoteSet c).contains c = true :=
    fun alone => (alone.contains _).mpr rfl
  exact prefers_mark (mark space_alone) (prefers_sequence (prefers_some hours (stops_colon _))
    (prefers_mark (mark colon_alone) (prefers_sequence (prefers_some minutes (stops_colon _))
      (prefers_mark (mark colon_alone) (prefers_some seconds stops)))))

/-- A zone begins with no space. -/
theorem no_space {digit : Char → Bool} {zone : Option Zone}
    (shaped : ∀ z, zone = some z → z.Shaped digit) :
    ∀ c ∈ (endText false zone).head?, (quoteSet ' ').contains c = false := by
  refine fun c head => Bool.eq_false_iff.mpr fun member => ?_
  obtain rfl := (space_alone.contains c).mp member
  rcases zone with _ | _ | ⟨sign, hours, colon, minutes⟩
  · cases head
  · rcases shaped _ rfl with rfl | rfl <;> cases head
  · rcases (shaped _ rfl).1 with rfl | rfl <;> cases head

/-- What stands behind a date is no clock. -/
theorem clock_nothing {digit : Char → Bool} (spaced : Bool) {zone : Option Zone}
    (shaped : ∀ z, zone = some z → z.Shaped digit) :
    ways clockRoute ⟨before, endText spaced zone⟩ = [] := by
  cases spaced with
  | true =>
    have stops : Stops (endText false zone) := stops_end false shaped
    have digits : ways (someDigits 4) ⟨some ' ', endText false zone⟩ = [] := nothing_of_head stops
    have space : ways (.one (quoteSet ' ')) ⟨before, ' ' :: endText false zone⟩ =
        [⟨some ' ', endText false zone⟩] := by
      simp [ways, space_alone.contains]
    rw [clockRoute, ways, show endText true zone = ' ' :: endText false zone from rfl, space,
      List.flatMap_singleton, ways, digits, List.flatMap_nil]
  | false => exact nothing_of_head (no_space shaped)

theorem prefers_zone {zone : Zone} (shaped : zone.Shaped isDecimalDigit) :
    Prefers zoneRoute before zone.text back := by
  cases zone with
  | letter mark => exact prefers_either (prefers_one (letter_iff.mpr shaped))
  | signed sign hours colon minutes =>
    obtain ⟨signed, hour, minute⟩ := shaped
    have letterless : ways (.one (quoteSet 'z'))
        ⟨before, (Zone.signed sign hours colon minutes).text ++ back⟩ = [] := by
      have outside : (quoteSet 'z').contains sign = false := by
        rw [Bool.eq_false_iff, ne_eq, letter_iff]
        rcases signed with rfl | rfl <;> decide
      simp [Zone.text, ways, outside]
    refine prefers_other letterless (prefers_mark (zone_sign_iff.mpr signed)
      (prefers_sequence (prefers_two hour) (prefers_sequence ?_ (prefers_two minute))))
    cases colon with
    | true => exact prefers_taken (prefers_one ((colon_alone.contains ':').mpr rfl))
    | false =>
      -- behind the hours stands a digit, which is no colon
      obtain ⟨tens, ones, rfl, digit, -⟩ := pair_of_field minute
      refine prefers_passed ?_
      have outside : (quoteSet ':').contains tens = false := by
        rw [Bool.eq_false_iff, ne_eq, colon_alone.contains]
        rintro rfl
        exact absurd digit (by decide)
      simp [ways, outside]

end

/-- The zone at the end of a text is taken, if there is one. -/
theorem prefers_end {before : Option Char} {zone : Option Zone}
    (shaped : ∀ z, zone = some z → z.Shaped isDecimalDigit) :
    Prefers (option 8 zoneRoute) before ((zone.map Zone.text).getD []) [] := by
  cases zone with
  | none => exact prefers_passed rfl
  | some zone => exact prefers_taken (prefers_zone (shaped zone rfl))

/-- Behind its year a literal is taken up to its end, which is the end of the text. -/
theorem prefers_behind {ending : Route} {literal : Literal}
    (shaped : literal.Shaped isDecimalDigit)
    (ends : ∀ before, Prefers ending before ((literal.zone.map Zone.text).getD []) [])
    (before : Option Char) :
    Prefers (behindYear ending) before ('-' :: (literal.month ++ '-' ::
      (literal.day ++ (clockText literal.clock ++ endText literal.spaced literal.zone)))) [] := by
  have dash : (quoteSet '-').contains '-' = true := (dash_alone.contains '-').mpr rfl
  have stops := stops_end literal.spaced shaped.zone
  refine prefers_mark dash (prefers_last (prefers_some shaped.month (stops_dash _)) (prefers_mark dash
    (prefers_last (prefers_some shaped.day (stops_clock literal.clock stops)) (prefers_last ?_
      (prefers_last ?_ (ends _))))))
  · cases clock : literal.clock with
    | none => exact prefers_passed (clock_nothing literal.spaced shaped.zone)
    | some fields =>
      obtain ⟨hours, minutes, seconds⟩ := shaped.clock _ _ _ clock
      exact prefers_taken (prefers_clock hours minutes seconds stops)
  · cases literal.spaced with
    | true => exact prefers_taken (prefers_one ((space_alone.contains ' ').mpr rfl))
    | false =>
      refine prefers_passed ?_
      have outside := no_space shaped.zone
      rw [endText, if_neg (by decide), List.nil_append] at outside
      cases text : (literal.zone.map Zone.text).getD [] with
      | nil => rfl
      | cons c rest => simp [ways, outside c (by rw [text]; rfl)]

/-- The preferred way of the scanner takes a literal up to its end. -/
theorem literal_preferred {literal : Literal} (shaped : literal.Shaped isDecimalDigit) :
    Matches .dateTime literal.text [] := by
  have behind := @prefers_behind (option 8 zoneRoute) literal shaped fun before =>
    prefers_end shaped.zone
  have whole : Prefers (.sequence twoDigits (.sequence (option 0 twoDigits)
      (behindYear (option 8 zoneRoute)))) none literal.text [] := by
    obtain ⟨year, month, day, clock, spaced, zone⟩ := literal
    rcases year_cases shaped.year with two | ⟨front, rest, rfl, first, second⟩
    · exact prefers_sequence (prefers_two two)
        (prefers_skip (nothing_of_head (stops_dash _)) (behind _))
    · rw [Literal.text, List.append_assoc]
      exact prefers_sequence (prefers_two first)
        (prefers_sequence (prefers_taken (prefers_two second)) (behind _))
  rw [Matches, scanner_route]
  exact prefers_start whole

/-! ## Whole literals -/

/-- Whether a route ends with the end of the text. -/
def closing : Route → Bool
  | .sequence _ second => closing second
  | .anchor .textEnd => true
  | _ => false

theorem closing_rest {route : Route} (closes : closing route = true) {here after : Cursor}
    (way : after ∈ ways route here) : after.rest = [] := by
  induction route generalizing here with
  | sequence first second ihFirst ihSecond =>
    obtain ⟨middle, -, later⟩ := List.mem_flatMap.mp way
    exact ihSecond closes later
  | anchor condition =>
    cases condition with
    | textEnd =>
      simp only [ways] at way
      split at way
      · next atEnd =>
        obtain rfl := List.mem_singleton.mp way
        simpa [Anchor.holds, Cursor.place] using atEnd
      · cases way
    | _ => cases closes
  | _ => cases closes

theorem whole_preferred {literal : Literal} (shaped : literal.Shaped isDecimalDigit) :
    Prefers literalRoute none literal.text [] := by
  have ends : ∀ before, Prefers (.sequence (option 8 zoneRoute) (.anchor .textEnd)) before
      ((literal.zone.map Zone.text).getD []) [] :=
    fun before => prefers_ended (prefers_end shaped.zone) rfl
  have behind := prefers_behind shaped ends
  obtain ⟨year, month, day, clock, spaced, zone⟩ := literal
  refine prefers_start (prefers_last ?_ (behind _))
  rcases year_cases shaped.year with two | ⟨front, rest, rfl, first, second⟩
  · exact prefers_ended (prefers_two two) (prefers_passed (nothing_of_head (stops_dash _)))
  · exact prefers_sequence (prefers_two first) (prefers_taken (prefers_two second))

/-- A text is cut into fields exactly if the pattern of whole literals matches it. -/
theorem cut_iff_matched (text : Text) :
    (∃ parts, DateTime.LiteralParts.ofText? text = some parts) ↔
      (literalRoute.find? text).isSome = true := by
  rw [find_eq rfl rfl, Option.isSome_map, List.isSome_head?]
  constructor
  · rintro ⟨parts, cuts⟩ nothing
    obtain ⟨literal, shaped, rfl, -⟩ := shaped_of_parts cuts
    have preferred := whole_preferred shaped
    rw [Prefers, List.append_nil, nothing] at preferred
    cases preferred
  · intro filled
    obtain ⟨after, others, split⟩ := List.exists_cons_of_ne_nil filled
    have way : after ∈ ways literalRoute ⟨none, text⟩ := by simp [split]
    obtain ⟨taken, ⟨whole, -⟩, spells⟩ := ways_spell way
    rw [closing_rest rfl way, List.append_nil] at whole
    obtain rfl : text = taken := whole
    obtain ⟨literal, shaped, rfl⟩ := shaped_of_whole spells
    exact ⟨literal.parts, parts_of_shaped shaped⟩

end FormulaLexer.DateTimePatterns
