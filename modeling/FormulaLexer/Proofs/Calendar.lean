import FormulaLexer.DateTime.Basic
import Mathlib.Tactic.IntervalCases
import Mathlib.Tactic.Linarith

/-! The calendar and the clock in both directions. Days are numbered as they follow one another, month
by month and year by year, and the number of a valid date leads back to the date; so do the seconds
of a valid time, and both together at any offset. -/
namespace FormulaLexer.Calendar
open Date

/-! ## Years -/

/-- The days of a year. -/
def yearLength (year : Int) : Nat := if isLeapYear year then 366 else 365

/-- The days of the years up to a year, with one more day for every leap year. -/
def daysOfYears (year : Int) : Int := 365 * year + year / 4 - year / 100 + year / 400

theorem leap_iff (year : Int) :
    isLeapYear year = true ↔ year % 4 = 0 ∧ (year % 100 ≠ 0 ∨ year % 400 = 0) := by
  simp [isLeapYear]

theorem days_of_years_step (year : Int) :
    daysOfYears year = daysOfYears (year - 1) + yearLength year := by
  have leap := leap_iff year
  rw [yearLength, daysOfYears, daysOfYears]
  by_cases holds : isLeapYear year = true
  · have rules := leap.mp holds
    rw [if_pos holds]
    omega
  · have rules := mt leap.mpr holds
    rw [if_neg holds]
    omega

/-- The number of a date is the days of the years in front of the one that begins in March, and the
day in that year. -/
theorem to_days_eq (year : Int) (month day : Nat) : toDays ⟨year, month, day⟩ =
    daysOfYears (if month ≤ 2 then year - 1 else year) + dayOfMarchYear month day - epochShift := by
  simp only [toDays, daysOfYears, eraLength]
  generalize (if month ≤ 2 then year - 1 else year) = march
  omega

/-! ## Days counted -/

/-- The days between the first day of the year 0 and a date. -/
def daysInFront (date : Date) : Nat :=
  ((List.range date.year.toNat).map fun year : Nat => yearLength year).sum +
    ((List.range' 1 (date.month - 1)).map (monthLength date.year)).sum + (date.day - 1)

theorem to_days_next_year (year : Int) :
    toDays ⟨year + 1, 1, 1⟩ = toDays ⟨year, 1, 1⟩ + yearLength year := by
  have step := days_of_years_step year
  simp only [to_days_eq, Nat.one_le_ofNat, if_true, add_sub_cancel_right]
  omega

theorem to_days_next_month (year : Int) {month : Nat} (first : 1 ≤ month) (last : month < 12) :
    toDays ⟨year, month + 1, 1⟩ = toDays ⟨year, month, 1⟩ + monthLength year month := by
  have step := days_of_years_step year
  simp only [to_days_eq, dayOfMarchYear, monthLength, yearLength] at step ⊢
  interval_cases month <;> split at step <;> simp_all
  all_goals omega

theorem to_days_of_year (years : Nat) :
    toDays ⟨years, 1, 1⟩ = toDays ⟨0, 1, 1⟩ + daysInFront ⟨years, 1, 1⟩ := by
  induction years with
  | zero => simp [daysInFront]
  | succ years ih =>
    have next := to_days_next_year years
    have further : daysInFront ⟨(years + 1 : Nat), 1, 1⟩ =
        daysInFront ⟨years, 1, 1⟩ + yearLength years := by
      simp [daysInFront, List.range_succ]
    rw [further]
    push_cast
    linarith

theorem to_days_of_month (year : Int) {months : Nat} (bound : months < 12) :
    toDays ⟨year, months + 1, 1⟩ =
      toDays ⟨year, 1, 1⟩ + ((List.range' 1 months).map (monthLength year)).sum := by
  induction months with
  | zero => simp
  | succ months ih =>
    have next := @to_days_next_month year (months + 1) (by omega) bound
    have rest := ih (by omega)
    rw [List.range'_concat, List.map_append, List.sum_append, List.map_singleton,
      List.sum_singleton]
    simp only [one_mul, Nat.add_comm 1 months, Nat.cast_add]
    linarith

/-- The valid days of the months; in February the year decides. -/
theorem valid_iff (year : Int) (month day : Nat) : isValid ⟨year, month, day⟩ = true ↔
    1 ≤ day ∧ (month = 2 ∧ day + 337 ≤ yearLength year ∨
      (month = 4 ∨ month = 6 ∨ month = 9 ∨ month = 11) ∧ day ≤ 30 ∨
      (month = 1 ∨ month = 3 ∨ month = 5 ∨ month = 7 ∨ month = 8 ∨ month = 10 ∨ month = 12) ∧
        day ≤ 31) := by
  simp only [isValid, monthLength, yearLength, Bool.and_eq_true, decide_eq_true_eq]
  split
  · split <;> omega
  · split
    · omega
    · split <;> omega

theorem length_bounds (year : Int) : 365 ≤ yearLength year ∧ yearLength year ≤ 366 := by
  rw [yearLength]
  split <;> omega

theorem valid_bounds {date : Date} (valid : date.isValid = true) :
    1 ≤ date.month ∧ date.month ≤ 12 ∧ 1 ≤ date.day ∧ date.day ≤ 31 := by
  have months := (valid_iff date.year date.month date.day).mp valid
  have length := length_bounds date.year
  omega

/-- Dates are numbered by counting days, the first day of 1970 being the day 0. -/
theorem to_days_counts {date : Date} (past : 0 ≤ date.year) (valid : date.isValid = true) :
    date.toDays = (daysInFront date : Int) - daysInFront ⟨1970, 1, 1⟩ := by
  obtain ⟨year, month, day⟩ := date
  obtain ⟨years, rfl⟩ := Int.eq_ofNat_of_zero_le past
  have known : 1 ≤ month ∧ month ≤ 12 ∧ 1 ≤ day ∧ day ≤ 31 := valid_bounds valid
  have byDay : toDays ⟨years, month, day⟩ = toDays ⟨years, month, 1⟩ + (day - 1 : Nat) := by
    simp only [to_days_eq, dayOfMarchYear]
    omega
  have byMonth := @to_days_of_month years (month - 1) (by omega)
  have byYear := to_days_of_year years
  have epoch : toDays ⟨1970, 1, 1⟩ = toDays ⟨0, 1, 1⟩ + daysInFront ⟨1970, 1, 1⟩ :=
    to_days_of_year 1970
  have zero : toDays ⟨1970, 1, 1⟩ = 0 := by decide
  have parts : daysInFront ⟨years, month, day⟩ = daysInFront ⟨years, 1, 1⟩ +
      ((List.range' 1 (month - 1)).map (monthLength years)).sum + (day - 1) := by
    simp [daysInFront]
  rw [Nat.sub_add_cancel known.1] at byMonth
  rw [parts]
  simp only [Nat.cast_add]
  linarith

/-! ## Days taken apart -/

/-- A year by the four hundred, the hundred and the four years that it lies in. -/
theorem year_parts (year : Int) : ∃ era century quad rest : Int,
    year = 400 * era + 100 * century + 4 * quad + rest ∧ 0 ≤ century ∧ century < 4 ∧ 0 ≤ quad ∧
      quad < 25 ∧ 0 ≤ rest ∧ rest < 4 :=
  ⟨year / 400, year % 400 / 100, year % 100 / 4, year % 4, by omega⟩

/-- The date of a day in a year that begins in March. -/
theorem of_days_in_year {year day : Int} (lower : 0 ≤ day) (upper : day < yearLength (year + 1)) :
    ofDays (daysOfYears year + day - epochShift) =
      let marchMonth := (5 * day + 2) / 153
      let month := if marchMonth < 10 then marchMonth + 3 else marchMonth - 9
      ⟨if month ≤ 2 then year + 1 else year, month.toNat,
        (day - (153 * marchMonth + 2) / 5 + 1).toNat⟩ := by
  obtain ⟨era, century, quad, rest, rfl, parts⟩ := year_parts year
  have leap := leap_iff (400 * era + 100 * century + 4 * quad + rest + 1)
  -- only the last of four years is longer, and of the hundred years only the last hundred's last
  have bound : day < 365 ∨ day = 365 ∧ rest = 3 ∧ (quad = 24 → century = 3) := by
    rw [yearLength] at upper
    split at upper
    · next holds =>
      have rules := leap.mp holds
      omega
    · omega
  have counted : daysOfYears (400 * era + 100 * century + 4 * quad + rest) + day - epochShift +
      epochShift = 146097 * era + (36524 * century + 1461 * quad + 365 * rest + day) := by
    rw [daysOfYears]
    omega
  have inEra : (146097 * era + (36524 * century + 1461 * quad + 365 * rest + day)) % 146097 =
      36524 * century + 1461 * quad + 365 * rest + day := by omega
  have eras : (146097 * era + (36524 * century + 1461 * quad + 365 * rest + day)) / 146097 =
      era := by omega
  have centuries : min ((36524 * century + 1461 * quad + 365 * rest + day) / 36524) 3 =
      century := by omega
  have quads : (36524 * century + 1461 * quad + 365 * rest + day - century * 36524) / 1461 =
      quad := by omega
  have years : min ((36524 * century + 1461 * quad + 365 * rest + day - century * 36524 -
      quad * 1461) / 365) 3 = rest := by omega
  have left : 36524 * century + 1461 * quad + 365 * rest + day - century * 36524 - quad * 1461 -
      rest * 365 = day := by omega
  have whole : era * 400 + century * 100 + quad * 4 + rest =
      400 * era + 100 * century + 4 * quad + rest := by omega
  simp only [ofDays, eraLength, counted, inEra, eras, centuries, quads, years, left, whole]

/-- The month is found again by the day of a year that begins in March. -/
theorem march_month {year : Int} {month day : Nat} (valid : isValid ⟨year, month, day⟩ = true) :
    (5 * dayOfMarchYear month day + 2) / 153 = ((month : Int) + 9) % 12 := by
  have length := length_bounds year
  obtain ⟨begins, ⟨rfl, ends⟩ | ⟨months, ends⟩ | ⟨months, ends⟩⟩ :=
    (valid_iff year month day).mp valid
  · rw [dayOfMarchYear]
    omega
  · rcases months with rfl | rfl | rfl | rfl <;> (rw [dayOfMarchYear]; omega)
  · rcases months with rfl | rfl | rfl | rfl | rfl | rfl | rfl <;> (rw [dayOfMarchYear]; omega)

/-- A date lies within its year that begins in March. -/
theorem day_in_year {year : Int} {month day : Nat} (valid : isValid ⟨year, month, day⟩ = true) :
    0 ≤ dayOfMarchYear month day ∧
      dayOfMarchYear month day < yearLength ((if month ≤ 2 then year - 1 else year) + 1) := by
  have length := length_bounds ((if month ≤ 2 then year - 1 else year) + 1)
  obtain ⟨begins, ⟨rfl, ends⟩ | months⟩ := (valid_iff year month day).mp valid
  · rw [if_pos (by decide), sub_add_cancel, dayOfMarchYear]
    omega
  · rw [dayOfMarchYear]
    omega

/-- The number of a valid date leads back to it. -/
theorem of_days_to_days {date : Date} (valid : date.isValid = true) :
    ofDays date.toDays = date := by
  obtain ⟨year, month, day⟩ := date
  obtain ⟨lower, upper⟩ := day_in_year valid
  have known : 1 ≤ month ∧ month ≤ 12 ∧ 1 ≤ day ∧ day ≤ 31 := valid_bounds valid
  have march := march_month valid
  have back : (if ((month : Int) + 9) % 12 < 10 then ((month : Int) + 9) % 12 + 3
      else ((month : Int) + 9) % 12 - 9) = month := by
    split <;> omega
  rw [to_days_eq, of_days_in_year lower upper]
  simp only [march, back, Date.mk.injEq]
  refine ⟨?_, by omega, ?_⟩
  · split <;> split <;> omega
  · rw [dayOfMarchYear]
    omega

/-! ## Clocks -/

theorem of_seconds_to_seconds {time : TimeOfDay} (valid : time.isValid = true) :
    TimeOfDay.ofSeconds time.toSeconds = time := by
  obtain ⟨hour, minute, second⟩ := time
  simp only [TimeOfDay.isValid, Bool.and_eq_true, decide_eq_true_eq] at valid
  simp only [TimeOfDay.toSeconds, TimeOfDay.ofSeconds, TimeOfDay.mk.injEq]
  omega

theorem seconds_in_day {time : TimeOfDay} (valid : time.isValid = true) :
    time.toSeconds < 86400 := by
  simp only [TimeOfDay.isValid, Bool.and_eq_true, decide_eq_true_eq] at valid
  rw [TimeOfDay.toSeconds]
  omega

/-- Clocks show the date and the time of which the instant was made, whatever their offset. -/
theorem local_of_local {date : Date} {time : TimeOfDay} (date_valid : date.isValid = true)
    (time_valid : time.isValid = true) (offset : Int) :
    (DateTime.ofLocal date time offset).localDate = date ∧
      (DateTime.ofLocal date time offset).localTime = time := by
  have bound := seconds_in_day time_valid
  simp only [DateTime.localDate, DateTime.localTime, DateTime.ofLocal, DateTime.dayLength,
    sub_add_cancel]
  have day : (date.toDays * 86400 + (time.toSeconds : Int)) / 86400 = date.toDays := by omega
  have clock : ((date.toDays * 86400 + (time.toSeconds : Int)) % 86400).toNat =
      time.toSeconds := by omega
  rw [day, clock]
  exact ⟨of_days_to_days date_valid, of_seconds_to_seconds time_valid⟩

end FormulaLexer.Calendar
