import FormulaLexer.DateTime.Literal
import FormulaLexer.Proofs.LetterCaseValues

/-! The shapes of date-time literals: a date, a time of day behind a space, and a zone behind an
optional one. A literal is put together of the texts of its fields, whatever script their digits are
of, and the cutting of a text into fields succeeds on these literals only and gives their fields. -/
namespace FormulaLexer.DateTimeShapes
open DateTime LiteralParts LetterCaseValues
open Unicode (isDecimalDigit)

/-! ## Literals -/

/-- Digits whose number is one of those allowed. -/
structure Figures (digit : Char → Bool) (lengths : List Nat) (digits : Text) : Prop where
  length : digits.length ∈ lengths
  inside : ∀ c ∈ digits, digit c = true

instance (digit : Char → Bool) (lengths : List Nat) (digits : Text) :
    Decidable (Figures digit lengths digits) :=
  decidable_of_iff (digits.length ∈ lengths ∧ digits.all digit = true)
    ⟨fun both => ⟨both.1, List.all_eq_true.mp both.2⟩,
      fun field => ⟨field.length, List.all_eq_true.mpr field.inside⟩⟩

/-- A zone by its parts. -/
inductive Zone where
  | letter (mark : Char)
  | signed (sign : Char) (hours : Text) (colon : Bool) (minutes : Text)

namespace Zone

/-- The zone as it is written. -/
def text : Zone → Text
  | .letter mark => [mark]
  | .signed sign hours colon minutes =>
    sign :: (hours ++ ((if colon then [':'] else []) ++ minutes))

/-- Whether the parts are what they are meant to be, with digits of a kind. -/
def Shaped (digit : Char → Bool) : Zone → Prop
  | .letter mark => mark = 'Z' ∨ mark = 'z'
  | .signed sign hours _ minutes =>
    (sign = '+' ∨ sign = '-') ∧ Figures digit [2] hours ∧ Figures digit [2] minutes

end Zone

/-- A time of day behind a space, or nothing. -/
def clockText : Option (Text × Text × Text) → Text
  | none => []
  | some (hour, minute, second) => ' ' :: (hour ++ ':' :: (minute ++ ':' :: second))

/-- A zone behind an optional space, or nothing but that. -/
def endText (spaced : Bool) (zone : Option Zone) : Text :=
  (if spaced then [' '] else []) ++ (zone.map Zone.text).getD []

/-- A literal by its parts. -/
structure Literal where
  year : Text
  month : Text
  day : Text
  clock : Option (Text × Text × Text)
  spaced : Bool
  zone : Option Zone

namespace Literal

/-- The literal as it is written. -/
def text (literal : Literal) : Text :=
  literal.year ++ '-' :: (literal.month ++ '-' ::
    (literal.day ++ (clockText literal.clock ++ endText literal.spaced literal.zone)))

/-- The texts of its fields. -/
def parts (literal : Literal) : LiteralParts :=
  ⟨literal.year, literal.month, literal.day, literal.clock, literal.zone.map Zone.text⟩

/-- Whether the parts are what they are meant to be, with digits of a kind. -/
structure Shaped (digit : Char → Bool) (literal : Literal) : Prop where
  year : Figures digit [2, 4] literal.year
  month : Figures digit [1, 2] literal.month
  day : Figures digit [1, 2] literal.day
  clock : ∀ hour minute second, literal.clock = some (hour, minute, second) →
    Figures digit [1, 2] hour ∧ Figures digit [1, 2] minute ∧ Figures digit [1, 2] second
  zone : ∀ zone, literal.zone = some zone → zone.Shaped digit

end Literal

/-! ## Fields -/

/-- A text that does not begin with a digit. -/
def Stops (text : Text) : Prop := ∀ c ∈ text.head?, isDecimalDigit c = false

theorem Figures.filled {digit : Char → Bool} {lengths : List Nat} {digits : Text}
    (field : Figures digit lengths digits) (positive : 0 ∉ lengths) : digits ≠ [] := by
  rintro rfl
  exact positive field.length

theorem Figures.widen {digit : Char → Bool} {lengths others : List Nat} {digits : Text}
    (field : Figures digit lengths digits) (sub : ∀ n ∈ lengths, n ∈ others) :
    Figures digit others digits :=
  ⟨sub _ field.length, field.inside⟩

theorem expect_iff {mark : Char} {text rest : Text} :
    expect? [mark] text = some rest ↔ text = mark :: rest := by
  cases text with
  | nil => simp [expect?]
  | cons c text =>
    simp only [expect?, List.mem_singleton]
    split
    · next same => simp [same]
    · next other => simp [other]

theorem take_field {lengths : List Nat} {digits rest : Text}
    (field : Figures isDecimalDigit lengths digits) (stops : Stops rest) :
    takeField? lengths (digits ++ rest) = some (digits, rest) := by
  have taken : rest.takeWhile isDecimalDigit = [] := by
    cases rest with
    | nil => rfl
    | cons c rest => exact List.takeWhile_cons_of_neg (by simp [stops c rfl])
  have left : rest.dropWhile isDecimalDigit = rest := by
    cases rest with
    | nil => rfl
    | cons c rest => exact List.dropWhile_cons_of_neg (by simp [stops c rfl])
  simp only [takeField?, List.takeWhile_append_of_pos field.inside,
    List.dropWhile_append_of_pos field.inside, taken, left, List.append_nil, field.length, if_true]

theorem take_field_cuts {lengths : List Nat} {text digits rest : Text}
    (takes : takeField? lengths text = some (digits, rest)) :
    Figures isDecimalDigit lengths digits ∧ text = digits ++ rest := by
  simp only [takeField?] at takes
  split at takes
  · next length =>
    cases takes
    exact ⟨⟨length, List.all_eq_true.mp List.all_takeWhile⟩, List.takeWhile_append_dropWhile.symm⟩
  · cases takes

theorem take_no_field {lengths : List Nat} {text : Text} (positive : 0 ∉ lengths)
    (stops : Stops text) : takeField? lengths text = none := by
  cases found : takeField? lengths text with
  | none => rfl
  | some field =>
    obtain ⟨digits, rest⟩ := field
    obtain ⟨field, rfl⟩ := take_field_cuts found
    obtain ⟨c, others, rfl⟩ := List.exists_cons_of_ne_nil (field.filled positive)
    have digit := field.inside c (by simp)
    rw [stops c rfl] at digit
    cases digit

/-- The field behind a sign. -/
theorem take_next {mark : Char} {lengths : List Nat} {digits rest : Text}
    (field : Figures isDecimalDigit lengths digits) (stops : Stops rest) :
    (expect? [mark] (mark :: (digits ++ rest))).bind (takeField? lengths) = some (digits, rest) := by
  rw [expect_iff.mpr rfl, Option.bind_some, take_field field stops]

theorem take_next_cuts {mark : Char} {lengths : List Nat} {text digits rest : Text}
    (takes : (expect? [mark] text).bind (takeField? lengths) = some (digits, rest)) :
    Figures isDecimalDigit lengths digits ∧ text = mark :: (digits ++ rest) := by
  obtain ⟨behind, expects, takes⟩ := Option.bind_eq_some_iff.mp takes
  obtain ⟨field, rfl⟩ := take_field_cuts takes
  exact ⟨field, expect_iff.mp expects⟩

theorem stops_sign {mark : Char} (sign : isDecimalDigit mark = false) (rest : Text) :
    Stops (mark :: rest) := by
  rintro c ⟨⟩
  exact sign

theorem stops_dash (rest : Text) : Stops ('-' :: rest) := stops_sign rfl rest

theorem stops_colon (rest : Text) : Stops (':' :: rest) := stops_sign rfl rest

/-! ## Clocks -/

theorem take_clock {hour minute second rest : Text} (hours : Figures isDecimalDigit [1, 2] hour)
    (minutes : Figures isDecimalDigit [1, 2] minute) (seconds : Figures isDecimalDigit [1, 2] second)
    (stops : Stops rest) :
    takeClock? (clockText (some (hour, minute, second)) ++ rest) =
      some ((hour, minute, second), rest) := by
  simp only [clockText, List.cons_append, List.append_assoc, takeClock?, bind, Option.bind_some,
    take_next hours (stops_colon _),
    take_next minutes (stops_colon _), take_next seconds stops]
  rfl

theorem take_clock_cuts {text rest hour minute second : Text}
    (takes : takeClock? text = some ((hour, minute, second), rest)) :
    (Figures isDecimalDigit [1, 2] hour ∧ Figures isDecimalDigit [1, 2] minute ∧
      Figures isDecimalDigit [1, 2] second) ∧
      text = clockText (some (hour, minute, second)) ++ rest := by
  obtain ⟨⟨h, behind⟩, first, takes⟩ := Option.bind_eq_some_iff.mp takes
  obtain ⟨⟨m, further⟩, second, takes⟩ := Option.bind_eq_some_iff.mp takes
  obtain ⟨⟨s, others⟩, third, takes⟩ := Option.bind_eq_some_iff.mp takes
  cases takes
  obtain ⟨hours, rfl⟩ := take_next_cuts first
  obtain ⟨minutes, rfl⟩ := take_next_cuts second
  obtain ⟨seconds, rfl⟩ := take_next_cuts third
  exact ⟨⟨hours, minutes, seconds⟩, by simp [clockText]⟩

/-! ## Zones -/

theorem pair_of_field {digit : Char → Bool} {digits : Text} (field : Figures digit [2] digits) :
    ∃ tens ones, digits = [tens, ones] ∧ digit tens = true ∧ digit ones = true := by
  have length : digits.length = 2 := by simpa using field.length
  obtain ⟨tens, ones, rfl⟩ := List.length_eq_two.mp length
  exact ⟨tens, ones, rfl, field.inside tens (by simp), field.inside ones (by simp)⟩

theorem field_of_pair {digit : Char → Bool} {tens ones : Char} (first : digit tens = true)
    (second : digit ones = true) : Figures digit [2] [tens, ones] :=
  ⟨by simp, by simp [first, second]⟩

theorem is_zone_of_shaped {zone : Zone} (shaped : zone.Shaped isDecimalDigit) :
    isZone zone.text = true := by
  cases zone with
  | letter mark => rcases shaped with rfl | rfl <;> rfl
  | signed sign hours colon minutes =>
    obtain ⟨signed, hour, minute⟩ := shaped
    obtain ⟨a, b, rfl, tenHours, oneHours⟩ := pair_of_field hour
    obtain ⟨c, d, rfl, tenMinutes, oneMinutes⟩ := pair_of_field minute
    have digit : c ≠ ':' := by
      rintro rfl
      exact absurd tenMinutes (by decide)
    cases colon <;> rcases signed with rfl | rfl <;>
      simp [Zone.text, isZone, digit, tenHours, oneHours, tenMinutes, oneMinutes]

theorem shaped_of_is_zone {text : Text} (zone : isZone text = true) :
    ∃ zone : Zone, zone.Shaped isDecimalDigit ∧ zone.text = text := by
  unfold isZone at zone
  split at zone
  · exact ⟨.letter 'Z', .inl rfl, rfl⟩
  · exact ⟨.letter 'z', .inr rfl, rfl⟩
  · next sign rest _ _ =>
    simp only [Bool.and_eq_true, Bool.or_eq_true, decide_eq_true_eq] at zone
    obtain ⟨⟨signed, length⟩, inside⟩ := zone
    split at length
    · next colon =>
      rw [if_pos colon] at inside
      match rest, colon, length, inside with
      | [a, b, _, c, d], rfl, _, inside =>
        simp at inside
        exact ⟨.signed sign [a, b] true [c, d],
          ⟨signed, field_of_pair inside.1 inside.2.1, field_of_pair inside.2.2.1 inside.2.2.2⟩, rfl⟩
    · next plain =>
      rw [if_neg plain] at inside
      match rest, length, inside with
      | [a, b, c, d], _, inside =>
        simp at inside
        exact ⟨.signed sign [a, b] false [c, d],
          ⟨signed, field_of_pair inside.1 inside.2.1, field_of_pair inside.2.2.1 inside.2.2.2⟩, rfl⟩
  · cases zone

/-! ## Whole literals -/

theorem stops_end {digit : Char → Bool} (spaced : Bool) {zone : Option Zone}
    (shaped : ∀ z, zone = some z → z.Shaped digit) : Stops (endText spaced zone) := by
  cases spaced with
  | true => exact stops_sign rfl _
  | false =>
    cases zone with
    | none => simp [Stops, endText]
    | some zone =>
      cases zone with
      | letter mark => rcases shaped _ rfl with rfl | rfl <;> exact stops_sign rfl []
      | signed sign hours colon minutes =>
        rcases (shaped _ rfl).1 with rfl | rfl <;> exact stops_sign rfl _

theorem stops_clock (clock : Option (Text × Text × Text)) {rest : Text} (stops : Stops rest) :
    Stops (clockText clock ++ rest) := by
  cases clock with
  | none => exact stops
  | some clock => exact stops_sign rfl _

/-- What stands behind a date is no clock. -/
theorem no_clock {digit : Char → Bool} (spaced : Bool) {zone : Option Zone}
    (shaped : ∀ z, zone = some z → z.Shaped digit) : takeClock? (endText spaced zone) = none := by
  have stops : Stops (endText false zone) := stops_end false shaped
  cases spaced with
  | true =>
    have none : (expect? [' '] (endText true zone)).bind (takeField? [1, 2]) = none :=
      take_no_field (by decide) stops
    simp only [takeClock?, bind, none, Option.bind_none]
  | false =>
    have none : expect? [' '] (endText false zone) = none := by
      cases zone with
      | none => rfl
      | some zone =>
        cases zone with
        | letter mark => rcases shaped _ rfl with rfl | rfl <;> rfl
        | signed sign hours colon minutes => rcases (shaped _ rfl).1 with rfl | rfl <;> rfl
    simp only [takeClock?, bind, none, Option.bind_none]

theorem ending_of_shaped (year month day : Text) (clock : Option (Text × Text × Text))
    (spaced : Bool) {zone : Option Zone} (shaped : ∀ z, zone = some z → z.Shaped isDecimalDigit) :
    endingIn year month day clock (endText spaced zone) =
      some ⟨year, month, day, clock, zone.map Zone.text⟩ := by
  have behind : (expect? [' '] (endText spaced zone)).getD (endText spaced zone) =
      (zone.map Zone.text).getD [] := by
    cases spaced with
    | true => rfl
    | false =>
      cases zone with
      | none => rfl
      | some zone =>
        cases zone with
        | letter mark => rcases shaped _ rfl with rfl | rfl <;> rfl
        | signed sign hours colon minutes => rcases (shaped _ rfl).1 with rfl | rfl <;> rfl
  simp only [endingIn, behind]
  cases zone with
  | none => rfl
  | some zone =>
    have filled : zone.text.isEmpty = false := by cases zone <;> rfl
    simp [filled, is_zone_of_shaped (shaped zone rfl)]

theorem shaped_of_ending {year month day rest : Text} {clock : Option (Text × Text × Text)}
    {parts : LiteralParts} (ends : endingIn year month day clock rest = some parts) :
    ∃ spaced zone, (∀ z, zone = some z → z.Shaped isDecimalDigit) ∧ rest = endText spaced zone ∧
      parts = ⟨year, month, day, clock, zone.map Zone.text⟩ := by
  obtain ⟨spaced, cut⟩ : ∃ spaced : Bool, rest =
      (if spaced then [' '] else []) ++ (expect? [' '] rest).getD rest := by
    cases expects : expect? [' '] rest with
    | none => exact ⟨false, rfl⟩
    | some behind => exact ⟨true, expect_iff.mp expects⟩
  simp only [endingIn] at ends
  generalize (expect? [' '] rest).getD rest = zone at cut ends
  subst cut
  split at ends
  · next empty =>
    cases ends
    rw [List.isEmpty_iff.mp empty]
    exact ⟨spaced, none, by simp, rfl, rfl⟩
  · split at ends
    · next holds =>
      cases ends
      obtain ⟨zone, shaped, rfl⟩ := shaped_of_is_zone holds
      exact ⟨spaced, some zone, by rintro z ⟨⟩; exact shaped, rfl, rfl⟩
    · cases ends

/-- A literal is cut into the texts of its fields. -/
theorem parts_of_shaped {literal : Literal} (shaped : literal.Shaped isDecimalDigit) :
    ofText? literal.text = some literal.parts := by
  obtain ⟨year, month, day, clock, spaced, zone⟩ := literal
  have stops := stops_end spaced shaped.zone
  have clocked := stops_clock clock stops
  have date : ofText? (Literal.text ⟨year, month, day, clock, spaced, zone⟩) =
      (takeClock? (clockText clock ++ endText spaced zone)).elim
        (endingIn year month day none (clockText clock ++ endText spaced zone))
        fun taken => endingIn year month day (some taken.1) taken.2 := by
    simp only [Literal.text, ofText?, bind, take_field shaped.year (stops_dash _),
      take_next shaped.month (stops_dash _), take_next shaped.day clocked,
      Option.bind_some]
    cases takeClock? (clockText clock ++ endText spaced zone) <;> rfl
  rw [date]
  cases clock with
  | none =>
    simp only [clockText, List.nil_append, no_clock spaced shaped.zone, Option.elim_none]
    exact ending_of_shaped year month day none spaced shaped.zone
  | some clock =>
    obtain ⟨hour, minute, second⟩ := clock
    obtain ⟨hours, minutes, seconds⟩ := shaped.clock hour minute second rfl
    simp only [take_clock hours minutes seconds stops, Option.elim_some]
    exact ending_of_shaped year month day (some (hour, minute, second)) spaced shaped.zone

/-- What is cut into fields is a literal. -/
theorem shaped_of_parts {text : Text} {parts : LiteralParts} (cuts : ofText? text = some parts) :
    ∃ literal : Literal, literal.Shaped isDecimalDigit ∧ literal.text = text ∧
      literal.parts = parts := by
  obtain ⟨⟨year, rest⟩, first, cutsRest⟩ := Option.bind_eq_some_iff.mp cuts
  obtain ⟨⟨month, behind⟩, next, cutsBehind⟩ := Option.bind_eq_some_iff.mp cutsRest
  obtain ⟨⟨day, further⟩, last, cutsFurther⟩ := Option.bind_eq_some_iff.mp cutsBehind
  obtain ⟨years, rfl⟩ := take_field_cuts first
  obtain ⟨months, rfl⟩ := take_next_cuts next
  obtain ⟨days, rfl⟩ := take_next_cuts last
  dsimp only at cutsFurther
  cases found : takeClock? further with
  | none =>
    rw [found] at cutsFurther
    obtain ⟨spaced, zone, shaped, rfl, rfl⟩ := shaped_of_ending cutsFurther
    exact ⟨⟨year, month, day, none, spaced, zone⟩, ⟨years, months, days, by simp, shaped⟩, rfl, rfl⟩
  | some clock =>
    obtain ⟨⟨hour, minute, second⟩, others⟩ := clock
    obtain ⟨fields, rfl⟩ := take_clock_cuts found
    rw [found] at cutsFurther
    obtain ⟨spaced, zone, shaped, rfl, rfl⟩ := shaped_of_ending cutsFurther
    refine ⟨⟨year, month, day, some (hour, minute, second), spaced, zone⟩,
      ⟨years, months, days, ?_, shaped⟩, rfl, rfl⟩
    rintro _ _ _ ⟨⟩
    exact fields

end FormulaLexer.DateTimeShapes
