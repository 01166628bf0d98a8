import FormulaLexer.Text

/-!
Reading integers from ASCII digits within given bounds. Digits are read from the left, and the
first character at which reading cannot go on decides the error: a character that is no digit,
or a digit that carries the number out of its bounds.
-/

namespace FormulaLexer.Number

/-- Why a text is not an integer within the bounds asked for. -/
inductive ReadError where
  | empty
  | invalidDigit
  | tooLarge
  | tooSmall
  deriving DecidableEq

/-- The wording of a reading error. -/
def ReadError.message : ReadError → Text
  | .empty => "cannot parse integer from empty string".toList
  | .invalidDigit => "invalid digit found in string".toList
  | .tooLarge => "number too large to fit in target type".toList
  | .tooSmall => "number too small to fit in target type".toList

/-- The value of a digit in bases up to sixteen. -/
def digitValue? (base : Nat) (c : Char) : Option Nat :=
  let value :=
    if '0' ≤ c ∧ c ≤ '9' then c.toNat - '0'.toNat
    else if 'a' ≤ c ∧ c ≤ 'f' then c.toNat - 'a'.toNat + 10
    else if 'A' ≤ c ∧ c ≤ 'F' then c.toNat - 'A'.toNat + 10
    else base
  if value < base then some value else none

/-- Continues a number whose leading digits have the value `value`. Passing `limit` is the error
`beyond`. -/
def readDigits (base limit : Nat) (beyond : ReadError) : (value : Nat) → Text → Except ReadError Nat
  | value, [] => .ok value
  | value, c :: rest =>
    match digitValue? base c with
    | none => .error .invalidDigit
    | some digit =>
      let next := value * base + digit
      if limit < next then .error beyond else readDigits base limit beyond next rest

/-- The number that a non-empty run of digits writes, of any size. -/
def readUnbounded (base : Nat) : Text → Except ReadError Nat
  | [] => .error .empty
  | digits => digits.foldlM (fun value c =>
      match digitValue? base c with
      | none => .error .invalidDigit
      | some digit => .ok (value * base + digit)) 0

/-- A number without a sign, at most `limit`. -/
def readNat (limit : Nat) (text : Text) : Except ReadError Nat :=
  if text.isEmpty then .error .empty else readDigits 10 limit .tooLarge 0 text

/-- A number with an optional sign, whose size in bits is `bits` with its sign. -/
def readInt (bits : Nat) (text : Text) : Except ReadError Int :=
  match text with
  | [] => .error .empty
  | ['-'] => .error .invalidDigit
  | ['+'] => .error .invalidDigit
  | '-' :: digits => do
    let size ← readDigits 10 (Nat.pow 2 (bits - 1)) .tooSmall 0 digits
    return -(size : Int)
  | '+' :: digits => do
    let size ← readDigits 10 (Nat.pow 2 (bits - 1) - 1) .tooLarge 0 digits
    return (size : Int)
  | digits => do
    let size ← readDigits 10 (Nat.pow 2 (bits - 1) - 1) .tooLarge 0 digits
    return (size : Int)

end FormulaLexer.Number
