import FormulaLexer.Number.Reading

/-!
Exact decimal numbers: an unscaled integer and the number of its digits that stand behind the
point, which may be negative. Two decimals are the same number when their normal forms agree,
whatever their scales; their written forms keep the scale.
-/

namespace FormulaLexer.Number

/-- The number `unscaled · 10 ^ (-scale)`. -/
structure Decimal where
  unscaled : Int
  scale : Int
  deriving DecidableEq

namespace Decimal

/-- A whole number. -/
def ofInt (n : Int) : Decimal :=
  ⟨n, 0⟩

/-- Moves up to `budget` zeros at the end of the unscaled integer into the scale. -/
def dropZeros : (budget : Nat) → Decimal → Decimal
  | 0, d => d
  | budget + 1, d =>
    if d.unscaled % 10 = 0 then dropZeros budget ⟨d.unscaled / 10, d.scale - 1⟩ else d

/-- The form without a zero at the end of the unscaled integer; zero has the scale zero. -/
def normal (d : Decimal) : Decimal :=
  if d.unscaled = 0 then ⟨0, 0⟩
  else dropZeros (Nat.toDigits 10 d.unscaled.natAbs).length d

/-- Whether two decimals are the same number. -/
def same (a b : Decimal) : Bool :=
  a.normal = b.normal

/-! ## Reading -/

/-- Why a text is not a decimal. -/
inductive ReadFailure where
  | emptyDigits
  | badExponent (cause : ReadError)
  | badDigits (cause : ReadError)
  | scaleOutOfRange (text : Text)
  deriving DecidableEq

/-- The wording of a failure to read a decimal. -/
def ReadFailure.message : ReadFailure → Text
  | .emptyDigits => "Failed to parse empty string".toList
  | .badExponent cause => cause.message
  | .badDigits cause => cause.message
  | .scaleOutOfRange text => "Exponent overflow when parsing '".toList ++ text ++ "'".toList

/-- Whether the character separates the digits from the exponent. -/
def isExponentMark (c : Char) : Bool :=
  c = 'e' || c = 'E'

/-- The digits before the exponent and the exponent, zero if there is none. The exponent has at
most 128 bits. -/
def splitExponent (text : Text) : Except ReadFailure (Text × Int) :=
  match text.dropWhile fun c => !isExponentMark c with
  | [] => .ok (text, 0)
  | _ :: exponent =>
    match readInt 128 exponent with
    | .ok value => .ok (text.takeWhile fun c => !isExponentMark c, value)
    | .error cause => .error (.badExponent cause)

/-- The digits on both sides of the point joined together, and how many stood behind it. -/
def joinAtPoint (digits : Text) : Text × Nat :=
  match digits.dropWhile (· ≠ '.') with
  | [] => (digits, 0)
  | _ :: behind => (digits.takeWhile (· ≠ '.') ++ behind, behind.length)

/-- The integer written by digits behind an optional sign. -/
def readUnscaled : Text → Except ReadError Int
  | '-' :: digits => do
    let size ← readUnbounded 10 digits
    return -(size : Int)
  | '+' :: digits => do
    let size ← readUnbounded 10 digits
    return (size : Int)
  | digits => do
    let size ← readUnbounded 10 digits
    return (size : Int)

/-- Whether an integer fits into 64 bits with its sign. -/
def fitsScale (n : Int) : Bool :=
  -Nat.pow 2 63 ≤ n && n < Nat.pow 2 63

/-- Reads digits with an optional sign, point and exponent. The exponent is examined first, then
the resulting scale, and the digits last. -/
def read (text : Text) : Except ReadFailure Decimal := do
  let (base, exponent) ← splitExponent text
  if base.isEmpty then throw .emptyDigits
  let (digits, behind) := joinAtPoint base
  let scale := (behind : Int) - exponent
  if !fitsScale scale then throw (.scaleOutOfRange text)
  match readUnscaled digits with
  | .ok unscaled => return ⟨unscaled, scale⟩
  | .error cause => throw (.badDigits cause)

/-! ## Writing -/

/-- The most zeros written between the point and the first digit before the scientific form is
used instead. -/
def leadingZeroLimit : Nat := 5

/-- The most zeros written behind the last digit before an exponent is used instead. -/
def trailingZeroLimit : Nat := 15

/-- One digit, the point and the other digits. -/
def withPointAfterFirst : Text → Text
  | [] => []
  | [digit] => [digit]
  | digit :: digits => digit :: '.' :: digits

/-- The written form of a number without its sign. -/
def writeDigits (digits : Text) (scale : Int) : Text :=
  let zeros := scale - digits.length
  if 0 < scale && (leadingZeroLimit : Int) < zeros then
    withPointAfterFirst digits ++ 'E' :: Text.ofInt (digits.length - scale - 1)
  else if (trailingZeroLimit : Int) < -scale then
    digits ++ "e+".toList ++ Text.ofInt (-scale)
  else if scale ≤ 0 then
    digits ++ List.replicate (-scale).toNat '0'
  else if 0 ≤ zeros then
    "0.".toList ++ List.replicate zeros.toNat '0' ++ digits
  else
    digits.take (-zeros).toNat ++ '.' :: digits.drop (-zeros).toNat

/-- The written form. Zero is written as one digit whatever its scale. -/
def write (d : Decimal) : Text :=
  if d.unscaled = 0 then "0".toList
  else
    let body := writeDigits (Nat.toDigits 10 d.unscaled.natAbs) d.scale
    if d.unscaled < 0 then '-' :: body else body

end Decimal

end FormulaLexer.Number
