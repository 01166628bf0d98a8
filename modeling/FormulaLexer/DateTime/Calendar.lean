/-!
The proleptic Gregorian calendar. Days are counted from 1970-01-01, and years are counted from
March inside the computations so that the leap day is the last day of its year.
-/

namespace FormulaLexer

/-- A day of the calendar. Its fields are a valid date exactly when `Date.isValid` holds. -/
structure Date where
  year : Int
  month : Nat
  day : Nat
  deriving DecidableEq

namespace Date

/-- Every fourth year is a leap year, apart from the centuries that 400 does not divide. -/
def isLeapYear (year : Int) : Bool :=
  year % 4 = 0 && (year % 100 ≠ 0 || year % 400 = 0)

/-- The number of days of a month, which is zero for numbers that name no month. -/
def monthLength (year : Int) (month : Nat) : Nat :=
  if month = 2 then if isLeapYear year then 29 else 28
  else if month = 4 ∨ month = 6 ∨ month = 9 ∨ month = 11 then 30
  else if 1 ≤ month ∧ month ≤ 12 then 31
  else 0

/-- Whether the month exists and has this day. -/
def isValid (date : Date) : Bool :=
  1 ≤ date.day && date.day ≤ monthLength date.year date.month

/-- Days from 1 March of the year 0 to 1970-01-01. -/
def epochShift : Int := 719468

/-- Days in 400 years. -/
def eraLength : Int := 146097

/-- Days from 1 March to the day, in a year that begins in March. -/
def dayOfMarchYear (month day : Nat) : Int :=
  (153 * (((month : Int) + 9) % 12) + 2) / 5 + day - 1

/-- Days from 1970-01-01 to the date. -/
def toDays (date : Date) : Int :=
  let year := if date.month ≤ 2 then date.year - 1 else date.year
  let yearOfEra := year % 400
  let dayOfEra :=
    yearOfEra * 365 + yearOfEra / 4 - yearOfEra / 100 + dayOfMarchYear date.month date.day
  year / 400 * eraLength + dayOfEra - epochShift

/-- The date that lies so many days after 1970-01-01. The 400 years, the century, the four years
and the year that contain the day are split off in turn; of four centuries and of four years the
last one is longer by the leap day. -/
def ofDays (days : Int) : Date :=
  let shifted := days + epochShift
  let dayOfEra := shifted % eraLength
  let century := min (dayOfEra / 36524) 3
  let dayOfCentury := dayOfEra - century * 36524
  let quad := dayOfCentury / 1461
  let dayOfQuad := dayOfCentury - quad * 1461
  let yearOfQuad := min (dayOfQuad / 365) 3
  let dayOfYear := dayOfQuad - yearOfQuad * 365
  let marchMonth := (5 * dayOfYear + 2) / 153
  let day := dayOfYear - (153 * marchMonth + 2) / 5 + 1
  let month := if marchMonth < 10 then marchMonth + 3 else marchMonth - 9
  let year := shifted / eraLength * 400 + century * 100 + quad * 4 + yearOfQuad
  ⟨if month ≤ 2 then year + 1 else year, month.toNat, day.toNat⟩

end Date

/-- A time of day without leap seconds. -/
structure TimeOfDay where
  hour : Nat
  minute : Nat
  second : Nat
  deriving DecidableEq

namespace TimeOfDay

/-- The time at which a day begins. -/
def midnight : TimeOfDay := ⟨0, 0, 0⟩

/-- Whether the clock shows this time. -/
def isValid (time : TimeOfDay) : Bool :=
  time.hour < 24 && time.minute < 60 && time.second < 60

/-- Seconds since midnight. -/
def toSeconds (time : TimeOfDay) : Nat :=
  time.hour * 3600 + time.minute * 60 + time.second

/-- The time so many seconds after midnight. -/
def ofSeconds (seconds : Nat) : TimeOfDay :=
  ⟨seconds / 3600, seconds / 60 % 60, seconds % 60⟩

end TimeOfDay

end FormulaLexer
