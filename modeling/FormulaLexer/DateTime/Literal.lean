import FormulaLexer.DateTime.Basic
import FormulaLexer.Unicode.CharacterClass

/-!
Date-time literals of formulas: a date with a year of two or four digits, an optional time of
day, and an optional zone. The shape of a literal is decided on digits of every script, while
its fields are read from ASCII digits alone, so a literal in other digits has the right shape
and is refused for the first field that cannot be read. A literal without a zone is what local
clocks show.
-/

namespace FormulaLexer.DateTime

/-- The texts of the fields of a literal. -/
structure LiteralParts where
  year : Text
  month : Text
  day : Text
  clock : Option (Text × Text × Text)
  zone : Option Text

/-- Why a text is not a date-time literal. -/
inductive LiteralError where
  | unrecognized (text : Text)
  | badYear (digits : Text) (cause : Number.ReadError)
  | badField (digits : Text) (cause : Number.ReadError)
  | noSuchDate (text : Text)
  | noSuchTime (text : Text)
  | badZone (zone : Text) (cause : Number.ReadError)
  | zoneOutOfRange (zone : Text)
  | skipped (text : Text)
  deriving DecidableEq

/-- The wording of a refused literal. -/
def LiteralError.message : LiteralError → Text
  | .unrecognized text => "unrecognized date-time '".toList ++ text ++ "'".toList
  | .badYear digits cause =>
    "invalid year '".toList ++ digits ++ "': ".toList ++ cause.message
  | .badField digits cause =>
    "invalid date-time field '".toList ++ digits ++ "': ".toList ++ cause.message
  | .noSuchDate text => "invalid date '".toList ++ text ++ "'".toList
  | .noSuchTime text => "invalid time '".toList ++ text ++ "'".toList
  | .badZone zone cause => "invalid zone '".toList ++ zone ++ "': ".toList ++ cause.message
  | .zoneOutOfRange zone => "zone offset out of range '".toList ++ zone ++ "'".toList
  | .skipped text => "'".toList ++ text ++ "' does not exist in the local time zone".toList

namespace LiteralParts

/-- The run of digits at the front, if its length is one of those allowed. -/
def takeField? (lengths : List Nat) (text : Text) : Option (Text × Text) :=
  let digits := text.takeWhile Unicode.isDecimalDigit
  if digits.length ∈ lengths then some (digits, text.dropWhile Unicode.isDecimalDigit) else none

/-- A space and a time of day in hours, minutes and seconds. -/
def takeClock? (text : Text) : Option ((Text × Text × Text) × Text) := do
  let (hour, rest) ← (expect? [' '] text).bind (takeField? [1, 2])
  let (minute, rest) ← (expect? [':'] rest).bind (takeField? [1, 2])
  let (second, rest) ← (expect? [':'] rest).bind (takeField? [1, 2])
  return ((hour, minute, second), rest)

/-- Whether the text is a zone: the letter Z, or a sign and two pairs of digits with or without
a colon between them. -/
def isZone : Text → Bool
  | ['Z'] => true
  | ['z'] => true
  | sign :: rest =>
    let digits := if (rest.drop 2).head? = some ':' then rest.take 2 ++ rest.drop 3 else rest
    (sign = '+' || sign = '-') && digits.length = 4 && digits.all Unicode.isDecimalDigit
  | [] => false

/-- Cuts a trimmed literal into its fields. -/
def ofText? (text : Text) : Option LiteralParts := do
  let (year, rest) ← takeField? [2, 4] text
  let (month, rest) ← (expect? ['-'] rest).bind (takeField? [1, 2])
  let (day, rest) ← (expect? ['-'] rest).bind (takeField? [1, 2])
  let (clock, rest) :=
    match takeClock? rest with
    | some (clock, rest) => (some clock, rest)
    | none => (none, rest)
  let zone := (expect? [' '] rest).getD rest
  if zone.isEmpty then return ⟨year, month, day, clock, none⟩
  else if isZone zone then return ⟨year, month, day, clock, some zone⟩
  else none

end LiteralParts

/-- The year that the digits stand for. Two digits below 69 are years of the 2000s and other
pairs years of the 1900s. -/
def readYear (digits : Text) : Except LiteralError Int :=
  match Number.readInt 32 digits with
  | .error cause => .error (.badYear digits cause)
  | .ok year =>
    if digits.byteSize = 2 then .ok (if year < 69 then year + 2000 else year + 1900)
    else .ok year

/-- A field other than the year. -/
def readField (digits : Text) : Except LiteralError Nat :=
  match Number.readNat (Nat.pow 2 32 - 1) digits with
  | .ok value => .ok value
  | .error cause => .error (.badField digits cause)

/-- The offset that a zone with a sign stands for, less than a day in size. -/
def readSignedZone (zone : Text) : Except LiteralError Int :=
  let digits := (zone.drop 1).filter (· ≠ ':')
  match Number.readInt 32 (digits.take 2), Number.readInt 32 (digits.drop 2) with
  | .error cause, _ => .error (.badZone zone cause)
  | .ok _, .error cause => .error (.badZone zone cause)
  | .ok hours, .ok minutes =>
    let size := hours * 3600 + minutes * 60
    if size < dayLength then .ok (if zone.head? = some '-' then -size else size)
    else .error (.zoneOutOfRange zone)

/-- The offset of a literal that shows a date and a time. Without a zone it is the local one. -/
def readZone (zone : LocalZone) (text : Text) (date : Date) (time : TimeOfDay) :
    Option Text → Except LiteralError Int
  | none => (zone.offset? date time).elim (.error (.skipped text)) .ok
  | some ['Z'] => .ok 0
  | some ['z'] => .ok 0
  | some mark => readSignedZone mark

/-- Reads the fields of a literal in their order, checking the date before the time is read and
the time before the zone is. -/
def ofParts (zone : LocalZone) (text : Text) (parts : LiteralParts) :
    Except LiteralError DateTime := do
  let year ← readYear parts.year
  let month ← readField parts.month
  let day ← readField parts.day
  let date : Date := ⟨year, month, day⟩
  if !date.isValid then throw (.noSuchDate text)
  let time ← match parts.clock with
    | none => pure TimeOfDay.midnight
    | some (hour, minute, second) => do
      let hour ← readField hour
      let minute ← readField minute
      let second ← readField second
      pure ⟨hour, minute, second⟩
  if !time.isValid then throw (.noSuchTime text)
  let offset ← readZone zone text date time parts.zone
  return ofLocal date time offset

/-- The date-time that a literal stands for; blanks around it are ignored. -/
def ofLiteral (literal : Text) (zone : LocalZone := .utc) : Except LiteralError DateTime :=
  let text := literal.trim
  match LiteralParts.ofText? text with
  | none => .error (.unrecognized text)
  | some parts => ofParts zone text parts

end FormulaLexer.DateTime
