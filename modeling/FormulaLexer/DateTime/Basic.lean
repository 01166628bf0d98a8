import FormulaLexer.DateTime.Calendar
import FormulaLexer.Number.Reading

/-!
Date-times: an instant together with the offset from UTC at which it is shown. Two date-times
are the same when their instants are, and the offset decides only which local fields are
written.
-/

namespace FormulaLexer

/-- An instant, in seconds and nanoseconds since 1970-01-01 00:00:00 UTC, and the seconds by
which local clocks are ahead of UTC. A leap second prolongs the second in front of it, so its
nanoseconds go on from one billion. -/
structure DateTime where
  seconds : Int
  nanoseconds : Nat
  offset : Int
  deriving DecidableEq

/-- Local clocks, by the seconds that they are ahead of UTC when they show a date and a time: those
of the earlier instant where they show them twice, and none where they skip them. -/
structure LocalZone where
  offset? : Date → TimeOfDay → Option Int

/-- Clocks that show UTC. -/
def LocalZone.utc : LocalZone := ⟨fun _ _ => some 0⟩

namespace DateTime

/-- Whether two date-times are the same instant. -/
def same (a b : DateTime) : Bool :=
  a.seconds = b.seconds && a.nanoseconds = b.nanoseconds

/-- Seconds in a day. -/
def dayLength : Int := 86400

/-- Nanoseconds in a second. -/
def secondLength : Nat := Nat.pow 10 9

/-- The instant at which clocks with this offset show the date and the time. -/
def ofLocal (date : Date) (time : TimeOfDay) (offset : Int) : DateTime :=
  ⟨date.toDays * dayLength + time.toSeconds - offset, 0, offset⟩

/-- The date that clocks at the offset show. -/
def localDate (t : DateTime) : Date :=
  Date.ofDays ((t.seconds + t.offset) / dayLength)

/-- The time that clocks at the offset show. -/
def localTime (t : DateTime) : TimeOfDay :=
  TimeOfDay.ofSeconds ((t.seconds + t.offset) % dayLength).toNat

/-! ## The interchange format -/

/-- Whether the offset zero is written as a zone letter or in digits. -/
inductive ZeroOffset where
  | letter
  | digits

/-- Four digits for the years 0 to 9999; other years carry their sign. -/
def writeYear (year : Int) : Text :=
  if 0 ≤ year ∧ year ≤ 9999 then Text.ofNatPadded 4 year.toNat
  else if year < 0 then '-' :: Text.ofNatPadded 4 year.natAbs
  else '+' :: Text.ofNat year.toNat

/-- The fraction of a second, in as few groups of three digits as hold it exactly. -/
def writeFraction (nanoseconds : Nat) : Text :=
  if nanoseconds = 0 then []
  else if nanoseconds % 1000000 = 0 then '.' :: Text.ofNatPadded 3 (nanoseconds / 1000000)
  else if nanoseconds % 1000 = 0 then '.' :: Text.ofNatPadded 6 (nanoseconds / 1000)
  else '.' :: Text.ofNatPadded 9 nanoseconds

/-- A sign, hours and minutes. Seconds of an offset are rounded to the nearest minute. -/
def writeOffset (zero : ZeroOffset) (offset : Int) : Text :=
  match zero, offset with
  | .letter, 0 => ['Z']
  | _, _ =>
    let minutes := (offset.natAbs + 30) / 60
    (if offset < 0 then '-' else '+') ::
      Text.ofNatPadded 2 (minutes / 60) ++ ':' :: Text.ofNatPadded 2 (minutes % 60)

/-- Local date, the letter T, local time and offset. -/
def write (zero : ZeroOffset) (t : DateTime) : Text :=
  let date := t.localDate
  let time := t.localTime
  let second := time.second + t.nanoseconds / secondLength
  writeYear date.year ++ '-' :: Text.ofNatPadded 2 date.month ++ '-' :: Text.ofNatPadded 2 date.day
    ++ 'T' :: Text.ofNatPadded 2 time.hour ++ ':' :: Text.ofNatPadded 2 time.minute
    ++ ':' :: Text.ofNatPadded 2 second ++ writeFraction (t.nanoseconds % secondLength)
    ++ writeOffset zero t.offset

/-- Exactly `count` ASCII digits at the front, their value and the rest. -/
def takeNumber? (count : Nat) (text : Text) : Option (Nat × Text) :=
  match Number.readNat (Nat.pow 10 count) (text.take count) with
  | .ok value => if (text.take count).length = count then some (value, text.drop count) else none
  | .error _ => none

/-- The rest behind one of the given characters. -/
def expect? (allowed : List Char) : Text → Option Text
  | [] => none
  | c :: rest => if c ∈ allowed then some rest else none

/-- An optional fraction of a second; digits beyond the ninth are dropped. -/
def takeFraction? : Text → Option (Nat × Text)
  | '.' :: rest =>
    let digits := rest.takeWhile Char.isDigit
    match Number.readNat (Nat.pow 10 9) ((digits ++ List.replicate 9 '0').take 9) with
    | .ok value => if digits.isEmpty then none else some (value, rest.dropWhile Char.isDigit)
    | .error _ => none
  | text => some (0, text)

/-- A zone letter, or a sign with hours and minutes, at the end of the text. The minus sign may be
the hyphen or the mathematical one. -/
def offset? : Text → Option Int
  | ['Z'] => some 0
  | ['z'] => some 0
  | sign :: rest =>
    match takeNumber? 2 rest with
    | none => none
    | some (hours, rest) =>
      match (expect? [':'] rest).bind (takeNumber? 2) with
      | some (minutes, []) =>
        let size : Int := hours * 3600 + minutes * 60
        if hours < 24 ∧ minutes < 60 then
          if sign = '+' then some size
          else if sign = '-' ∨ sign = '\u2212' then some (-size)
          else none
        else none
      | _ => none
  | [] => none

/-- Reads the interchange format. The second 60 is a leap second, which may stand in any minute. -/
def read? (text : Text) : Option DateTime := do
  let (year, rest) ← takeNumber? 4 text
  let (month, rest) ← (expect? ['-'] rest).bind (takeNumber? 2)
  let (day, rest) ← (expect? ['-'] rest).bind (takeNumber? 2)
  let (hour, rest) ← (expect? ['T', 't', ' '] rest).bind (takeNumber? 2)
  let (minute, rest) ← (expect? [':'] rest).bind (takeNumber? 2)
  let (second, rest) ← (expect? [':'] rest).bind (takeNumber? 2)
  let (fraction, rest) ← takeFraction? rest
  let offset ← offset? rest
  let date : Date := ⟨year, month, day⟩
  let leap := second / 60
  let time : TimeOfDay := ⟨hour, minute, second - leap⟩
  if date.isValid && time.isValid then
    some { ofLocal date time offset with nanoseconds := leap * secondLength + fraction }
  else none

end DateTime

end FormulaLexer
