import FormulaLexer.Proofs.Calendar
import FormulaLexer.Proofs.DateTimeShapes
import FormulaLexer.Proofs.Numerals

/-! The instants that date-time literals write. A literal of the right shape is read exactly if its
digits are those of ASCII, its date and its time exist and its zone is less than a day; what is read
is the instant at which clocks in the zone show the date and the time. -/
namespace FormulaLexer.DateTimeLiterals
open DateTime Number TextCuts Letters LetterCaseValues Numerals Calendar DateTimeShapes
open Unicode (isDecimalDigit)

/-! ## What literals write -/

/-- The year for which its digits stand. Two digits below 69 are years of the 2000s and other pairs
years of the 1900s. -/
def yearOf (digits : Text) : Int :=
  if digits.length = 2 then
    if written 10 digits < 69 then written 10 digits + 2000 else written 10 digits + 1900
  else written 10 digits

/-- The size of a zone in seconds. -/
def zoneSize : Zone → Nat
  | .letter _ => 0
  | .signed _ hours _ minutes => written 10 hours * 3600 + written 10 minutes * 60

/-- The seconds by which clocks in a zone are ahead of UTC. -/
def zoneOffset : Zone → Int
  | .letter _ => 0
  | .signed sign hours colon minutes =>
    if sign = '-' then -(zoneSize (.signed sign hours colon minutes) : Int)
    else zoneSize (.signed sign hours colon minutes)

/-- The date that a literal writes. -/
def dateOf (literal : Literal) : Date :=
  ⟨yearOf literal.year, written 10 literal.month, written 10 literal.day⟩

/-- The time of day that a literal writes, which is midnight if it writes none. -/
def timeOf (literal : Literal) : TimeOfDay :=
  match literal.clock with
  | none => .midnight
  | some (hour, minute, second) => ⟨written 10 hour, written 10 minute, written 10 second⟩

/-- The offset that a literal writes, which is that of UTC if it writes none. -/
def offsetOf (literal : Literal) : Int := (literal.zone.map zoneOffset).getD 0

/-- The offset of a literal that writes a date and a time. If it writes no zone it is the local one,
and there is none if local clocks skip that time. -/
def shownOffset? (zone : LocalZone) (date : Date) (time : TimeOfDay) : Option Zone → Option Int
  | none => zone.offset? date time
  | some written => some (zoneOffset written)

/-- The offset of a literal among local clocks. -/
def offsetIn? (zone : LocalZone) (literal : Literal) : Option Int :=
  shownOffset? zone (dateOf literal) (timeOf literal) literal.zone

/-- Where local clocks show UTC, the offset of a literal is the one that it writes. -/
theorem offset_in_utc {zone : LocalZone} (utc : ∀ date time, zone.offset? date time = some 0)
    (literal : Literal) : offsetIn? zone literal = some (offsetOf literal) := by
  rw [offsetIn?, offsetOf]
  cases literal.zone with
  | none => exact utc _ _
  | some written => rfl

/-- A literal in digits of ASCII whose date and time exist and whose zone is less than a day. -/
structure Valid (literal : Literal) : Prop where
  shaped : literal.Shaped Char.isDigit
  date : (dateOf literal).isValid = true
  time : (timeOf literal).isValid = true
  zone : ∀ zone, literal.zone = some zone → zoneSize zone < 86400

/-! ## Digits -/

/-- The digits of ASCII are decimal digits. -/
theorem decimal_of_ascii {c : Char} (digit : c.isDigit = true) : isDecimalDigit c = true :=
  (forall_of_all (by decide) : ∀ c ∈ decimalDigits, isDecimalDigit c = true) c
    (mem_decimal_iff.mpr digit)

theorem digit_value_none {c : Char} (foreign : c.isDigit = false) : digitValue? 10 c = none := by
  have outside : ¬('0' ≤ c ∧ c ≤ '9') := by
    intro bounds
    have digit : c.isDigit = true := by
      simp only [Char.isDigit, Bool.and_eq_true, decide_eq_true_eq]
      exact bounds
    rw [foreign] at digit
    cases digit
  rw [digitValue?, if_neg outside]
  refine if_neg ?_
  split
  · omega
  · split <;> omega

/-- A run that is not of ASCII digits alone is refused, whatever is in front of it. -/
theorem read_digits_refuses {limit : Nat} {beyond : ReadError} {digits : Text} {d : Char}
    (member : d ∈ digits) (foreign : d.isDigit = false) (value : Nat) :
    ∃ e, readDigits 10 limit beyond value digits = .error e := by
  induction digits generalizing value with
  | nil => cases member
  | cons c digits ih =>
    rw [readDigits]
    cases digit : digitValue? 10 c with
    | none => exact ⟨_, rfl⟩
    | some worth =>
      dsimp only
      split
      · exact ⟨_, rfl⟩
      · rcases List.mem_cons.mp member with rfl | later
        · rw [digit_value_none foreign] at digit
          cases digit
        · exact ih later _

theorem written_lt {digits : Text} (inside : ∀ c ∈ digits, c ∈ decimalDigits) :
    written 10 digits < 10 ^ digits.length := by
  have small : ∀ d ∈ digits.reverse.map digitOf, d < 10 := by
    intro d member
    obtain ⟨c, listed, rfl⟩ := List.mem_map.mp member
    exact (forall_of_all (by decide) : ∀ c ∈ decimalDigits, digitOf c < 10) c
      (inside c (List.mem_reverse.mp listed))
  simpa [written] using Nat.ofDigits_lt_base_pow_length (by decide) small

/-! ## Fields -/

section
variable {digits : Text} {lengths : List Nat} (field : Figures isDecimalDigit lengths digits)
include field

/-- A field either has a digit that is not of ASCII or is a field of ASCII digits. -/
theorem field_cases :
    Figures Char.isDigit lengths digits ∨
      ¬Figures Char.isDigit lengths digits ∧ ∃ d ∈ digits, d.isDigit = false := by
  by_cases inside : ∀ c ∈ digits, c.isDigit = true
  · exact .inl ⟨field.length, inside⟩
  · refine .inr ⟨fun other => inside other.inside, ?_⟩
    simpa using inside

/-- A field of up to four digits is read within bounds that four digits do not exceed, if its digits
are of ASCII. -/
theorem read_digits_field {limit : Nat} {beyond : ReadError} (short : ∀ n ∈ lengths, n ≤ 4)
    (wide : 10 ^ 4 ≤ limit) :
    Yields (Figures Char.isDigit lengths digits) (written 10 digits)
      (readDigits 10 limit beyond 0 digits) := by
  rcases field_cases field with ascii | ⟨other, d, member, foreign⟩
  · have inside : ∀ c ∈ digits, c ∈ decimalDigits :=
      fun c member => mem_decimal_iff.mpr (ascii.inside c member)
    have bound : written 10 digits ≤ limit := by
      have below := written_lt inside
      have power := Nat.pow_le_pow_right (n := 10) (by decide) (short _ field.length)
      omega
    refine .inl ⟨ascii, ?_⟩
    rw [read_digits_run inside (Nat.zero_le limit), ← written_eq, if_pos bound]
  · exact .inr ⟨other, read_digits_refuses member foreign 0⟩

theorem read_int_field (short : ∀ n ∈ lengths, n ≤ 4) (positive : 0 ∉ lengths) :
    Yields (Figures Char.isDigit lengths digits) (written 10 digits : Int) (readInt 32 digits) := by
  obtain ⟨c, others, rfl⟩ := List.exists_cons_of_ne_nil (field.filled positive)
  have unsigned : c ≠ '-' ∧ c ≠ '+' := by
    have digit := field.inside c (by simp)
    constructor <;> (rintro rfl; exact absurd digit (by decide))
  rw [read_int_unsigned (by simp) (by simpa using unsigned.1) (by simpa using unsigned.2)]
  exact (read_digits_field field short (by decide)).map Iff.rfl _

theorem read_field_yields (short : ∀ n ∈ lengths, n ≤ 4) (positive : 0 ∉ lengths) :
    Yields (Figures Char.isDigit lengths digits) (written 10 digits) (readField digits) := by
  have filled : digits.isEmpty = false := by simpa using field.filled positive
  rw [readField, readNat, filled, if_neg (by decide)]
  have wide : 10 ^ 4 ≤ Nat.pow 2 32 - 1 := by decide
  rcases read_digits_field field short wide with ⟨ascii, reads⟩ | ⟨other, cause, reads⟩
  · rw [reads]
    exact .inl ⟨ascii, rfl⟩
  · rw [reads]
    exact .inr ⟨other, _, rfl⟩

end

theorem byte_size_digits {digits : Text} (inside : ∀ c ∈ digits, c.isDigit = true) :
    Text.byteSize digits = digits.length := by
  induction digits with
  | nil => rfl
  | cons c digits ih =>
    have size : c.utf8Size = 1 :=
      (forall_of_all (by decide) : ∀ c ∈ decimalDigits, c.utf8Size = 1) c
        (mem_decimal_iff.mpr (inside c (by simp)))
    rw [Text.byteSize, size, ih fun d member => inside d (by simp [member]), List.length_cons]
    omega

theorem read_year_yields {digits : Text} (field : Figures isDecimalDigit [2, 4] digits) :
    Yields (Figures Char.isDigit [2, 4] digits) (yearOf digits) (readYear digits) := by
  rw [readYear]
  rcases read_int_field field (by decide) (by decide) with ⟨ascii, reads⟩ | ⟨other, cause, reads⟩
  · refine .inl ⟨ascii, ?_⟩
    simp only [reads, byte_size_digits ascii.inside, yearOf]
    norm_cast
    split <;> rfl
  · rw [reads]
    exact .inr ⟨other, _, rfl⟩

/-! ## Zones -/

/-- The digits of a zone, without the colon between them. -/
theorem zone_digits {sign : Char} {hours minutes : Text} (colon : Bool)
    (hour : Figures isDecimalDigit [2] hours) (minute : Figures isDecimalDigit [2] minutes) :
    ((Zone.signed sign hours colon minutes).text.drop 1).filter (· ≠ ':') = hours ++ minutes := by
  have kept : ∀ {digits : Text}, Figures isDecimalDigit [2] digits →
      digits.filter (· ≠ ':') = digits := by
    intro digits field
    refine List.filter_eq_self.mpr fun c member => decide_eq_true ?_
    rintro rfl
    exact absurd (field.inside ':' member) (by decide)
  have dropped : (if colon then [':'] else []).filter (· ≠ ':') = [] := by cases colon <;> rfl
  rw [Zone.text, List.drop_one, List.tail_cons, List.filter_append, List.filter_append, dropped,
    kept hour, kept minute, List.nil_append]

theorem read_signed_yields {sign : Char} {hours minutes : Text} {colon : Bool}
    (hour : Figures isDecimalDigit [2] hours) (minute : Figures isDecimalDigit [2] minutes) :
    Yields (Figures Char.isDigit [2] hours ∧ Figures Char.isDigit [2] minutes ∧
        zoneSize (.signed sign hours colon minutes) < 86400)
      (zoneOffset (.signed sign hours colon minutes))
      (readSignedZone (Zone.signed sign hours colon minutes).text) := by
  have length : hours.length = 2 := by simpa using hour.length
  have front : (hours ++ minutes).take 2 = hours := by rw [← length, List.take_left]
  have back : (hours ++ minutes).drop 2 = minutes := by rw [← length, List.drop_left]
  simp only [readSignedZone, zone_digits colon hour minute, front, back]
  rcases read_int_field hour (by decide) (by decide) with ⟨known, reads⟩ | ⟨other, cause, reads⟩
  · rcases read_int_field minute (by decide) (by decide) with ⟨known', reads'⟩ | ⟨other, cause, reads'⟩
    · simp only [reads, reads']
      have head : (Zone.signed sign hours colon minutes).text.head? = some sign := rfl
      have size : (written 10 hours : Int) * 3600 + written 10 minutes * 60 =
          zoneSize (.signed sign hours colon minutes) := by simp [zoneSize]
      rw [size, head]
      by_cases bound : zoneSize (.signed sign hours colon minutes) < 86400
      · have inside : (zoneSize (.signed sign hours colon minutes) : Int) < dayLength := by
          rw [dayLength]
          omega
        rw [if_pos inside]
        exact .inl ⟨⟨known, known', bound⟩, by simp [zoneOffset]⟩
      · have outside : ¬(zoneSize (.signed sign hours colon minutes) : Int) < dayLength := by
          rw [dayLength]
          omega
        rw [if_neg outside]
        exact .inr ⟨fun both => bound both.2.2, _, rfl⟩
    · simp only [reads, reads']
      exact .inr ⟨fun both => other both.2.1, _, rfl⟩
  · simp only [reads]
    exact .inr ⟨fun both => other both.1, _, rfl⟩

/-- A zone is read if it is in digits of ASCII and less than a day, and a missing one if local
clocks show the date and the time. -/
theorem read_zone_yields {written : Option Zone} (zone : LocalZone) (text : Text) (date : Date)
    (time : TimeOfDay) (shaped : ∀ z, written = some z → z.Shaped isDecimalDigit) :
    Yields ((∀ z, written = some z → z.Shaped Char.isDigit ∧ zoneSize z < 86400) ∧
        (shownOffset? zone date time written).isSome = true)
      ((shownOffset? zone date time written).getD 0)
      (readZone zone text date time (written.map Zone.text)) := by
  rcases written with _ | _ | ⟨sign, hours, colon, minutes⟩
  · cases shown : zone.offset? date time with
    | none => exact .inr ⟨by simp [shownOffset?, shown], _, by simp [readZone, shown]; rfl⟩
    | some offset =>
      exact .inl ⟨by simp [shownOffset?, shown], by simp [readZone, shownOffset?, shown]⟩
  · next mark =>
    have marked : mark = 'Z' ∨ mark = 'z' := shaped _ rfl
    refine .inl ⟨⟨?_, rfl⟩, ?_⟩
    · rintro _ ⟨⟩
      exact ⟨marked, Nat.zero_lt_succ _⟩
    · rcases marked with rfl | rfl <;> rfl
  · obtain ⟨signed, hour, minute⟩ := shaped _ rfl
    have reads := @read_signed_yields sign hours minutes colon hour minute
    have letterless : ¬((Zone.signed sign hours colon minutes).text = ['Z'] ∨
        (Zone.signed sign hours colon minutes).text = ['z']) := by
      obtain ⟨tens, ones, rfl, -⟩ := pair_of_field hour
      simp [Zone.text]
    rw [Option.map_some, read_zone_eq, if_neg letterless]
    refine reads.iff ?_
    constructor
    · rintro ⟨known, known', bound⟩
      refine ⟨?_, rfl⟩
      rintro _ ⟨⟩
      exact ⟨⟨signed, known, known'⟩, bound⟩
    · rintro ⟨all, -⟩
      obtain ⟨⟨-, known, known'⟩, bound⟩ := all _ rfl
      exact ⟨known, known', bound⟩

/-! ## Literals -/

theorem of_parts_yields {literal : Literal} (shaped : literal.Shaped isDecimalDigit)
    (zone : LocalZone) (text : Text) :
    Yields (Valid literal ∧ (offsetIn? zone literal).isSome = true)
      (ofLocal (dateOf literal) (timeOf literal) ((offsetIn? zone literal).getD 0))
      (ofParts zone text literal.parts) := by
  obtain ⟨year, month, day, clock, spaced, mark⟩ := literal
  have ending : ∀ (date : Date) (time : TimeOfDay), Yields
      (time.isValid = true ∧
        (∀ z, mark = some z → z.Shaped Char.isDigit ∧ zoneSize z < 86400) ∧
          (shownOffset? zone date time mark).isSome = true)
      (ofLocal date time ((shownOffset? zone date time mark).getD 0))
      (if !time.isValid then .error (.noSuchTime text) else do
        let offset ← readZone zone text date time (mark.map Zone.text)
        return ofLocal date time offset) :=
    fun date time => .check ((read_zone_yields zone text date time shaped.zone).map Iff.rfl _) _
  have field : ∀ {digits : Text}, Figures isDecimalDigit [1, 2] digits →
      Yields (Figures Char.isDigit [1, 2] digits) (written 10 digits) (readField digits) :=
    fun field => read_field_yields field (by decide) (by decide)
  rw [ofParts]
  cases clock with
  | none =>
    refine Yields.iff ((read_year_yields shaped.year).bind <| (field shaped.month).bind <|
      (field shaped.day).bind <| .check (ending _ .midnight) _) ?_
    constructor
    · rintro ⟨years, months, days, date, time, zones, shown⟩
      exact ⟨⟨⟨years, months, days, by simp, fun z same => (zones z same).1⟩, date, time,
        fun z same => (zones z same).2⟩, shown⟩
    · rintro ⟨⟨⟨years, months, days, -, zoned⟩, date, time, zones⟩, shown⟩
      exact ⟨years, months, days, date, time, fun z same => ⟨zoned z same, zones z same⟩, shown⟩
  | some clock =>
    obtain ⟨hour, minute, second⟩ := clock
    obtain ⟨hours, minutes, seconds⟩ := shaped.clock hour minute second rfl
    refine Yields.iff ((read_year_yields shaped.year).bind <| (field shaped.month).bind <|
      (field shaped.day).bind <| .check ((field hours).bind <| (field minutes).bind <|
        (field seconds).bind <| ending _ ⟨_, _, _⟩) _) ?_
    constructor
    · rintro ⟨years, months, days, date, hours, minutes, seconds, time, zones, shown⟩
      refine ⟨⟨⟨years, months, days, ?_, fun z same => (zones z same).1⟩, date, time,
        fun z same => (zones z same).2⟩, shown⟩
      rintro _ _ _ ⟨⟩
      exact ⟨hours, minutes, seconds⟩
    · rintro ⟨⟨⟨years, months, days, clocks, zoned⟩, date, time, zones⟩, shown⟩
      obtain ⟨hours, minutes, seconds⟩ := clocks hour minute second rfl
      exact ⟨years, months, days, date, hours, minutes, seconds, time,
        fun z same => ⟨zoned z same, zones z same⟩, shown⟩

theorem decimal_figures {lengths : List Nat} {digits : Text} (field : Figures Char.isDigit lengths digits) :
    Figures isDecimalDigit lengths digits :=
  ⟨field.length, fun c member => decimal_of_ascii (field.inside c member)⟩

/-- Literals in digits of ASCII are literals. -/
theorem shaped_of_ascii {literal : Literal} (shaped : literal.Shaped Char.isDigit) :
    literal.Shaped isDecimalDigit where
  year := decimal_figures shaped.year
  month := decimal_figures shaped.month
  day := decimal_figures shaped.day
  clock hour minute second same := by
    obtain ⟨hours, minutes, seconds⟩ := shaped.clock hour minute second same
    exact ⟨decimal_figures hours, decimal_figures minutes, decimal_figures seconds⟩
  zone zone same := by
    have ascii := shaped.zone zone same
    cases zone with
    | letter mark => exact ascii
    | signed sign hours colon minutes =>
      exact ⟨ascii.1, decimal_figures ascii.2.1, decimal_figures ascii.2.2⟩

/-- A valid literal is read as the instant at which clocks with its offset show what it writes. -/
theorem read_valid {literal : Literal} (valid : Valid literal) {text : Text}
    (same : literal.text = text.trim) {zone : LocalZone} {offset : Int}
    (shown : offsetIn? zone literal = some offset) :
    ofLiteral text zone = .ok (ofLocal (dateOf literal) (timeOf literal) offset) := by
  have shaped := shaped_of_ascii valid.shaped
  rw [ofLiteral]
  simp only [← same, parts_of_shaped shaped]
  rcases of_parts_yields shaped zone literal.text with ⟨-, reads⟩ | ⟨invalid, -⟩
  · rw [reads, shown, Option.getD_some]
  · exact absurd ⟨valid, by rw [shown, Option.isSome_some]⟩ invalid

/-- What is read are the valid literals that have an offset: one without a zone is refused where
local clocks skip what it writes. -/
theorem reads_iff {text : Text} {zone : LocalZone} :
    (∃ t, ofLiteral text zone = .ok t) ↔
      ∃ literal, Valid literal ∧ literal.text = text.trim ∧
        (offsetIn? zone literal).isSome = true := by
  constructor
  · rintro ⟨t, reads⟩
    simp only [ofLiteral] at reads
    cases cuts : LiteralParts.ofText? text.trim with
    | none =>
      rw [cuts] at reads
      cases reads
    | some parts =>
      rw [cuts] at reads
      obtain ⟨literal, shaped, same, rfl⟩ := shaped_of_parts cuts
      rcases of_parts_yields shaped zone text.trim with ⟨⟨valid, shown⟩, -⟩ | ⟨-, e, fails⟩
      · exact ⟨literal, valid, same, shown⟩
      · cases fails.symm.trans reads
  · rintro ⟨literal, valid, same, shown⟩
    obtain ⟨offset, shown⟩ := Option.isSome_iff_exists.mp shown
    exact ⟨_, read_valid valid same shown⟩

-- clocks that are put forward by an hour at two in the morning
example :
    let zone : LocalZone := ⟨fun _ time => if time.hour = 2 then none else some 3600⟩
    ofLiteral "2024-3-31 2:30:0".toList zone = .error (.skipped "2024-3-31 2:30:0".toList) ∧
      ofLiteral "2024-3-31 1:30:0".toList zone = .ok ⟨1711845000, 0, 3600⟩ := by
  decide +kernel

/-! ## Literals of instants -/

/-- The zone of an offset, in hours and minutes. -/
def zoneOf (offset : Int) : Zone :=
  .signed (if offset < 0 then '-' else '+') (Text.ofNatPadded 2 (offset.natAbs / 3600)) true
    (Text.ofNatPadded 2 (offset.natAbs / 60 % 60))

/-- The literal of the date and the time that clocks show, and of their offset. -/
def spelling (t : DateTime) : Literal where
  year := Text.ofNatPadded 4 t.localDate.year.toNat
  month := Text.ofNatPadded 2 t.localDate.month
  day := Text.ofNatPadded 2 t.localDate.day
  clock := some (Text.ofNatPadded 2 t.localTime.hour, Text.ofNatPadded 2 t.localTime.minute,
    Text.ofNatPadded 2 t.localTime.second)
  spaced := true
  zone := some (zoneOf t.offset)

theorem written_zeros (zeros : Nat) (digits : Text) :
    written 10 (List.replicate zeros '0' ++ digits) = written 10 digits := by
  induction zeros with
  | zero => rfl
  | succ zeros ih => rw [List.replicate_succ, List.cons_append, written_zero, ih]

theorem written_behind_eq {digits : Text} (inside : ∀ c ∈ digits, c.isDigit = true) (value : Nat) :
    writtenBehind 10 value digits = Nat.ofDigitChars 10 digits value := by
  induction digits generalizing value with
  | nil => rfl
  | cons c digits ih =>
    have digit : digitOf c = c.toNat - '0'.toNat :=
      (forall_of_all (by decide) : ∀ c ∈ decimalDigits, digitOf c = c.toNat - '0'.toNat) c
        (mem_decimal_iff.mpr (inside c (by simp)))
    have rest := ih (fun d member => inside d (by simp [member])) (value * 10 + digitOf c)
    rw [writtenBehind, List.foldl_cons, ← writtenBehind, rest, Nat.ofDigitChars_cons, digit,
      Nat.mul_comm]

/-- A number is what its padded digits write. -/
theorem padded_field {width n : Nat} (filled : 0 < width) (fits : n < 10 ^ width) :
    Figures Char.isDigit [width] (Text.ofNatPadded width n) ∧
      written 10 (Text.ofNatPadded width n) = n := by
  have length := (Nat.length_toDigits_le_iff (b := 10) (by decide) filled).mpr fits
  have inside : ∀ c ∈ Text.ofNat n, c.isDigit = true :=
    fun c member => Nat.isDigit_of_mem_toDigits (by decide) (by decide) member
  refine ⟨⟨?_, ?_⟩, ?_⟩
  · simp only [Text.ofNatPadded, Text.ofNat, List.length_append, List.length_replicate,
      List.mem_singleton]
    omega
  · intro c member
    rcases List.mem_append.mp member with zero | digit
    · rw [List.eq_of_mem_replicate zero]
      rfl
    · exact inside c digit
  · rw [Text.ofNatPadded, written_zeros, written_eq, written_behind_eq inside]
    exact Nat.ofDigitChars_toDigits (by decide) (by decide)

/-- A pair of digits. -/
theorem pair_field {n : Nat} (small : n < 100) :
    Figures Char.isDigit [2] (Text.ofNatPadded 2 n) ∧ written 10 (Text.ofNatPadded 2 n) = n :=
  padded_field (by decide) small

theorem pair_widened {n : Nat} (small : n < 100) :
    Figures Char.isDigit [1, 2] (Text.ofNatPadded 2 n) :=
  (pair_field small).1.widen (by decide)

/-- A year of four digits. -/
theorem year_field {year : Int} (past : 0 ≤ year) (near : year < 10000) :
    Figures Char.isDigit [2, 4] (Text.ofNatPadded 4 year.toNat) ∧
      yearOf (Text.ofNatPadded 4 year.toNat) = year := by
  obtain ⟨field, value⟩ := @padded_field 4 year.toNat (by decide) (by omega)
  have four : (Text.ofNatPadded 4 year.toNat).length = 4 := by simpa using field.length
  refine ⟨field.widen (by decide), ?_⟩
  rw [yearOf, if_neg (by omega), value, Int.toNat_of_nonneg past]

/-- An offset of whole minutes that is less than a day is that of its zone. -/
theorem zone_of_offset {offset : Int} (minutes : offset % 60 = 0) (short : offset.natAbs < 86400) :
    (zoneOf offset).Shaped Char.isDigit ∧ zoneSize (zoneOf offset) < 86400 ∧
      zoneOffset (zoneOf offset) = offset := by
  obtain ⟨hour, hours⟩ := @pair_field (offset.natAbs / 3600) (by omega)
  obtain ⟨minute, rest⟩ := @pair_field (offset.natAbs / 60 % 60) (by omega)
  have size : zoneSize (zoneOf offset) = offset.natAbs := by
    rw [zoneOf, zoneSize, hours, rest]
    omega
  refine ⟨⟨?_, hour, minute⟩, size ▸ short, ?_⟩
  · split <;> simp
  · have signed : zoneOffset (zoneOf offset) =
        if (if offset < 0 then '-' else '+') = '-' then -(zoneSize (zoneOf offset) : Int)
        else zoneSize (zoneOf offset) := rfl
    rw [signed, size]
    by_cases negative : offset < 0
    · rw [if_pos negative, if_pos rfl]
      omega
    · rw [if_neg negative, if_neg (by decide)]
      omega

/-- What clocks show of an instant is written as a literal of the same date, time and offset. -/
theorem spelling_valid {t : DateTime} (date : t.localDate.isValid = true)
    (past : 0 ≤ t.localDate.year) (near : t.localDate.year < 10000)
    (time : t.localTime.isValid = true) (minutes : t.offset % 60 = 0)
    (short : t.offset.natAbs < 86400) :
    Valid (spelling t) ∧ dateOf (spelling t) = t.localDate ∧ timeOf (spelling t) = t.localTime ∧
      offsetOf (spelling t) = t.offset := by
  have days := valid_bounds date
  have clock := time
  simp only [TimeOfDay.isValid, Bool.and_eq_true, decide_eq_true_eq] at clock
  obtain ⟨year, years⟩ := year_field past near
  obtain ⟨shaped, bound, offset⟩ := zone_of_offset minutes short
  have month : t.localDate.month < 100 := by omega
  have day : t.localDate.day < 100 := by omega
  have hour : t.localTime.hour < 100 := by omega
  have minute : t.localTime.minute < 100 := by omega
  have second : t.localTime.second < 100 := by omega
  have dates : dateOf (spelling t) = t.localDate := by
    simp only [dateOf, spelling, years, (pair_field month).2, (pair_field day).2]
  have times : timeOf (spelling t) = t.localTime := by
    simp only [timeOf, spelling, (pair_field hour).2, (pair_field minute).2, (pair_field second).2]
  refine ⟨⟨⟨year, pair_widened month, pair_widened day, ?_, ?_⟩, dates ▸ date, times ▸ time, ?_⟩,
    dates, times, offset⟩
  · rintro _ _ _ ⟨⟩
    exact ⟨pair_widened hour, pair_widened minute, pair_widened second⟩
  · rintro _ ⟨⟩
    exact shaped
  · rintro _ ⟨⟩
    exact bound

/-- A literal with a signed zone begins and ends with digits. -/
theorem spelling_trimmed {t : DateTime} (valid : Valid (spelling t)) :
    (spelling t).text.trim = (spelling t).text := by
  obtain ⟨c, others, year⟩ := List.exists_cons_of_ne_nil (valid.shaped.year.filled (by decide))
  obtain ⟨-, -, minutes⟩ := valid.shaped.zone _ rfl
  obtain ⟨tens, ones, pair, -, digit⟩ := pair_of_field minutes
  have blank : ∀ {d : Char}, d.isDigit = true → Unicode.isBlank d = false := fun digit =>
    (forall_of_all (by decide) : ∀ d ∈ decimalDigits, Unicode.isBlank d = false) _
      (mem_decimal_iff.mpr digit)
  refine trim_of_ends ?_ ?_
  · rw [Literal.text, year]
    rintro _ ⟨⟩
    exact blank (valid.shaped.year.inside c (by simp [year]))
  · have last : (spelling t).text.getLast? = some ones := by
      simp [Literal.text, spelling, endText, zoneOf, Zone.text, pair, List.getLast?_append,
        List.getLast?_cons]
    rw [last]
    rintro _ ⟨⟩
    exact blank digit

/-! ## What is read -/

theorem year_bounds {digits : Text} (field : Figures Char.isDigit [2, 4] digits) :
    0 ≤ yearOf digits ∧ yearOf digits < 10000 := by
  have below := written_lt fun c member => mem_decimal_iff.mpr (field.inside c member)
  have lengths := field.length
  simp only [List.mem_cons, List.not_mem_nil, or_false] at lengths
  rw [yearOf]
  rcases lengths with two | four
  · rw [two] at below
    rw [if_pos two]
    split <;> omega
  · rw [four] at below
    rw [if_neg (by omega)]
    omega

theorem offset_bounds {literal : Literal} (valid : Valid literal) :
    offsetOf literal % 60 = 0 ∧ (offsetOf literal).natAbs < 86400 := by
  have zones := valid.zone
  rw [offsetOf]
  generalize literal.zone = zone at zones ⊢
  rcases zone with _ | _ | ⟨sign, hours, colon, minutes⟩
  · exact ⟨rfl, by decide⟩
  · exact ⟨rfl, Nat.zero_lt_succ _⟩
  · have short := zones _ rfl
    have whole : (zoneSize (.signed sign hours colon minutes) : Int) % 60 = 0 := by
      rw [zoneSize]
      omega
    rw [Option.map_some, Option.getD_some, zoneOffset]
    split <;> omega

/-- A text is read as a date-time exactly if, up to blanks around it, it is a literal in digits of
ASCII whose date and time exist and whose zone is less than a day. The date-time has the offset that
is written, clocks there show the date and the time that are written, and it is counted in days from
the beginning of 1970 and in seconds. Written as a literal again, it is read as the same date-time. -/
theorem read_literal_iff {zone : LocalZone} (utc : ∀ date time, zone.offset? date time = some 0)
    (text : Text) :
    ((∃ t, ofLiteral text zone = .ok t) ↔ ∃ literal, Valid literal ∧ literal.text = text.trim) ∧
      ∀ literal, Valid literal → literal.text = text.trim → ∃ t, ofLiteral text zone = .ok t ∧
        t.offset = offsetOf literal ∧ t.localDate = dateOf literal ∧
        t.localTime = timeOf literal ∧ t.nanoseconds = 0 ∧
        t.seconds = ((daysInFront (dateOf literal) : Int) - daysInFront ⟨1970, 1, 1⟩) * 86400 +
          (timeOf literal).toSeconds - offsetOf literal ∧
        ofLiteral (spelling t).text zone = .ok t := by
  constructor
  · constructor
    · intro reads
      obtain ⟨literal, valid, same, -⟩ := reads_iff.mp reads
      exact ⟨literal, valid, same⟩
    · rintro ⟨literal, valid, same⟩
      exact ⟨_, read_valid valid same (offset_in_utc utc literal)⟩
  · intro literal valid same
    obtain ⟨past, near⟩ := year_bounds valid.shaped.year
    obtain ⟨minutes, short⟩ := offset_bounds valid
    obtain ⟨date, time⟩ := local_of_local valid.date valid.time (offsetOf literal)
    have reads := read_valid valid same (offset_in_utc utc literal)
    generalize made : ofLocal (dateOf literal) (timeOf literal) (offsetOf literal) = t
      at date time reads
    have offset : t.offset = offsetOf literal := by rw [← made, ofLocal]
    obtain ⟨again, dates, times, offsets⟩ := spelling_valid (t := t) (date ▸ valid.date)
      (date ▸ past) (date ▸ near) (time ▸ valid.time) (offset ▸ minutes) (offset ▸ short)
    refine ⟨t, reads, offset, date, time, ?_, ?_, ?_⟩
    · rw [← made, ofLocal]
    · rw [← made, ofLocal, to_days_counts past valid.date, dayLength]
    · rw [read_valid again (spelling_trimmed again).symm (offset_in_utc utc _), dates, times,
        offsets, date, time, offset, made]

/-- A leap day with a year of two digits and a zone of more than sixty minutes. -/
theorem read_leap_day : ∃ t, ofLiteral " 24-2-29 23:5:9 -0099 ".toList = .ok t ∧ t.offset = -5940 ∧
    t.localDate = ⟨2024, 2, 29⟩ ∧ t.localTime = ⟨23, 5, 9⟩ ∧ ofLiteral (spelling t).text = .ok t := by
  have valid : Valid ⟨"24".toList, "2".toList, "29".toList,
      some ("23".toList, "5".toList, "9".toList), true,
      some (.signed '-' "00".toList false "99".toList)⟩ := by
    refine ⟨⟨by decide, by decide, by decide, ?_, ?_⟩, by decide, by decide, ?_⟩
    · rintro _ _ _ ⟨⟩
      decide
    · rintro _ ⟨⟩
      exact ⟨.inr rfl, by decide, by decide⟩
    · rintro _ ⟨⟩
      decide
  have utc : ∀ date time, LocalZone.utc.offset? date time = some 0 := fun _ _ => rfl
  obtain ⟨t, reads, offset, date, time, -, -, again⟩ :=
    (read_literal_iff utc " 24-2-29 23:5:9 -0099 ".toList).2 _ valid (by decide)
  exact ⟨t, reads, by rw [offset]; decide, by rw [date]; decide, by rw [time]; decide, again⟩

end FormulaLexer.DateTimeLiterals
