import FormulaLexer.DateTime.Calendar
import FormulaLexer.Number.Decimal
import FormulaLexer.Toml.Item

/-!
The unquoted scalars of TOML: booleans, integers in four bases, floats, dates and times. A scalar
is recognized by its whole text. Floats and moments keep their written form, as nothing is
computed with them.
-/

namespace FormulaLexer.Toml

/-- Digits with single underscores between them. -/
def isDigitRun (isDigit : Char → Bool) (text : Text) : Bool :=
  let groups := Text.splitOn '_' text
  groups.all fun group => !group.isEmpty && group.all isDigit

/-- A number without its sign. -/
def withoutSign : Text → Text
  | '+' :: rest => rest
  | '-' :: rest => rest
  | text => text

/-- A run of decimal digits without a superfluous zero in front. -/
def isDecimalRun (text : Text) : Bool :=
  isDigitRun Char.isDigit text && (text.head? != some '0' || text.length = 1)

/-- A decimal integer of 64 bits. -/
def decimalInteger? (text : Text) : Option Int :=
  if isDecimalRun (withoutSign text) then
    (Number.readInt 64 (text.filter (· ≠ '_'))).toOption
  else none

/-- An integer of 64 bits in another base, behind its marker. -/
def basedInteger? (base : Nat) (digits : Text) : Option Int :=
  let isDigit := fun c => (Number.digitValue? base c).isSome
  if isDigitRun isDigit digits then
    match Number.readUnbounded base (digits.filter (· ≠ '_')) with
    | .ok n => if n < Nat.pow 2 63 then some n else none
    | .error _ => none
  else none

/-- An integer in any base. -/
def integer? : Text → Option Int
  | '0' :: 'x' :: digits => basedInteger? 16 digits
  | '0' :: 'o' :: digits => basedInteger? 8 digits
  | '0' :: 'b' :: digits => basedInteger? 2 digits
  | text => decimalInteger? text

/-- The least number that is beyond all finite floats of 64 bits: half a unit above the greatest
of them. -/
def floatBound : Nat := Nat.pow 2 1024 - Nat.pow 2 970

/-- Whether a positive number is a finite float. Most numbers are decided by their size in digits
alone. -/
def isFiniteFloat (d : Number.Decimal) : Bool :=
  let digits := (Nat.toDigits 10 d.unscaled.toNat).length - d.scale
  if d.unscaled ≤ 0 || digits < 300 then true
  else if 400 < digits then false
  else
    if 0 ≤ d.scale then d.unscaled < floatBound * Nat.pow 10 d.scale.toNat
    else d.unscaled * Nat.pow 10 (-d.scale).toNat < floatBound

/-- A float: a decimal integer with a fraction, an exponent or both, and not beyond all finite
floats. An exponent too large to compute with is harmless if it is negative. -/
def isFloat (text : Text) : Bool :=
  let body := withoutSign text
  let isMark := fun c => c = 'e' || c = 'E'
  let base := body.takeWhile fun c => !isMark c
  let whole := base.takeWhile (· ≠ '.')
  let fraction := base.dropWhile (· ≠ '.')
  let exponent := body.dropWhile fun c => !isMark c
  if body = "inf".toList || body = "nan".toList then true
  else
    isDecimalRun whole
      && (fraction.isEmpty || isDigitRun Char.isDigit (fraction.drop 1))
      && (exponent.isEmpty || isDigitRun Char.isDigit (withoutSign (exponent.drop 1)))
      && !(fraction.isEmpty && exponent.isEmpty)
      && match Number.Decimal.read (text.filter (· ≠ '_')) with
        | .ok d => isFiniteFloat d
        | .error _ => (exponent.drop 1).head? = some '-'

/-- Two digits of a value in a range. -/
def isTwoDigits (least most : Nat) (text : Text) : Bool :=
  text.length = 2 && text.all Char.isDigit &&
    match Number.readNat 99 text with
    | .ok n => least ≤ n && n ≤ most
    | .error _ => false

/-- A date of the calendar with four, two and two digits. -/
def isDate (text : Text) : Bool :=
  match Text.splitOn '-' text with
  | [year, month, day] =>
    year.length = 4 && year.all Char.isDigit && isTwoDigits 1 12 month && isTwoDigits 1 31 day &&
      match Number.readNat 9999 year, Number.readNat 99 month, Number.readNat 99 day with
      | .ok year, .ok month, .ok day => (Date.mk year month day).isValid
      | _, _, _ => false
  | _ => false

/-- A time of day with an optional fraction; a leap second is possible. -/
def isTime (text : Text) : Bool :=
  let clock := text.takeWhile (· ≠ '.')
  let fraction := text.dropWhile (· ≠ '.')
  (fraction.isEmpty || (1 < fraction.length && (fraction.drop 1).all Char.isDigit)) &&
    match Text.splitOn ':' clock with
    | [hour, minute, second] =>
      isTwoDigits 0 23 hour && isTwoDigits 0 59 minute && isTwoDigits 0 60 second
    | _ => false

/-- An offset from UTC. -/
def isOffset : Text → Bool
  | ['Z'] => true
  | ['z'] => true
  | sign :: rest =>
    (sign = '+' || sign = '-') &&
      match Text.splitOn ':' rest with
      | [hour, minute] => isTwoDigits 0 23 hour && isTwoDigits 0 59 minute
      | _ => false
  | [] => false

/-- A time of day that an offset may follow. -/
def isTimeWithOffset (text : Text) : Bool :=
  let isTimeChar := fun c => c.isDigit || c = ':' || c = '.'
  isTime (text.takeWhile isTimeChar)
    && ((text.dropWhile isTimeChar).isEmpty || isOffset (text.dropWhile isTimeChar))

/-- A date, a time of day, or both with a separator between them and perhaps an offset. -/
def isMoment (text : Text) : Bool :=
  isTime text || isDate text
    || (isDate (text.take 10)
        && (text.drop 10).head?.any (fun c => c = 'T' || c = 't' || c = ' ')
        && isTimeWithOffset (text.drop 11))

/-- The scalar with this text. -/
def scalar? (text : Text) : Option Item :=
  if text = "true".toList then some (.boolean true)
  else if text = "false".toList then some (.boolean false)
  else
    match integer? text with
    | some n => some (.integer n)
    | none =>
      if isFloat text then some (.float text)
      else if isMoment text then some (.moment text)
      else none

end FormulaLexer.Toml
