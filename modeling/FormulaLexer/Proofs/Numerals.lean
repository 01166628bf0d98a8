import Mathlib.Data.Nat.Digits.Defs
import Mathlib.Data.Rat.Defs
import Mathlib.Tactic.NormNum
import Mathlib.Tactic.Ring
import FormulaLexer.Proofs.LetterCaseValues

/-! The numbers that digits write. Runs of digits of any length are read as the number that they write
in their base, and a run that is read within bounds is refused exactly if its number is beyond these.
With a point and an exponent, what is read is exactly the number written, or nothing where the
exponent or the scale is out of its bounds. -/
namespace FormulaLexer.Numerals
open Letters LetterCaseValues Number

/-! ## Digits -/

/-- The digits of decimal numbers. -/
def decimalDigits : Text := "0123456789".toList

theorem mem_decimal_iff {c : Char} : c ∈ decimalDigits ↔ c.isDigit = true := by
  constructor
  · exact fun member => (forall_of_all (by decide) :
      ∀ c ∈ decimalDigits, c.isDigit = true) c member
  · intro digit
    have table : (List.range 128).all (fun code =>
        !(Char.ofNat code).isDigit || decimalDigits.contains (Char.ofNat code)) = true := by
      decide
    have ascii : c.toNat < 128 := by
      simp only [Char.isDigit, Bool.and_eq_true, decide_eq_true_eq] at digit
      have upper : c.toNat ≤ 57 := digit.2
      omega
    have known := List.all_eq_true.mp table c.toNat (List.mem_range.mpr ascii)
    simpa [Char.ofNat_toNat, digit] using known

/-- The digits of hexadecimal numbers, in either case. -/
def hexadecimalDigits : Text := "0123456789aAbBcCdDeEfF".toList

/-- A run of digits, with one at least. -/
structure Run (alphabet digits : Text) : Prop where
  filled : digits ≠ []
  inside : ∀ c ∈ digits, c ∈ alphabet

/-- The number for which a digit stands. -/
def digitOf (c : Char) : Nat := "0123456789abcdef".toList.idxOf c.toLower

/-- The number that digits write, the last of them being that of the ones. -/
def written (base : Nat) (digits : Text) : Nat := Nat.ofDigits base (digits.reverse.map digitOf)

/-- An alphabet whose characters are digits of a base. -/
def Writes (base : Nat) (alphabet : Text) : Prop :=
  ∀ c ∈ alphabet, digitValue? base c = some (digitOf c)

theorem decimal_writes : Writes 10 decimalDigits := forall_of_all (by decide)

theorem hexadecimal_writes : Writes 16 hexadecimalDigits := forall_of_all (by decide)

/-- The number that digits write behind others that write `value`. -/
def writtenBehind (base value : Nat) (digits : Text) : Nat :=
  digits.foldl (fun value c => value * base + digitOf c) value

theorem written_eq (base : Nat) (digits : Text) : written base digits = writtenBehind base 0 digits := by
  have step : (fun value c => value * base + digitOf c) =
      fun value c => digitOf c + base * value := by
    funext value c
    rw [Nat.mul_comm, Nat.add_comm]
  rw [written, writtenBehind, Nat.ofDigits_eq_foldr, List.foldr_map, List.foldr_reverse, step]
  rfl

/-- A zero in front does not change a number. -/
theorem written_zero (base : Nat) (digits : Text) :
    written base ('0' :: digits) = written base digits := by
  rw [written_eq, written_eq, writtenBehind, List.foldl_cons, Nat.zero_mul]
  rfl

/-- Further digits do not make a number smaller. -/
theorem le_written_behind (value : Nat) (digits : Text) : value ≤ writtenBehind 10 value digits := by
  induction digits generalizing value with
  | nil => exact Nat.le_refl value
  | cons c digits ih =>
    have further := ih (value * 10 + digitOf c)
    rw [writtenBehind, List.foldl_cons, ← writtenBehind]
    omega

/-- What takes each digit in reads the number that all of them write. -/
theorem fold_digits {base : Nat} {f : Nat → Char → Except ReadError Nat} {digits : Text}
    (takes : ∀ value, ∀ c ∈ digits, f value c = .ok (value * base + digitOf c)) (value : Nat) :
    digits.foldlM f value = .ok (writtenBehind base value digits) := by
  induction digits generalizing value with
  | nil => rfl
  | cons c digits ih =>
    rw [List.foldlM_cons, takes value c (by simp)]
    exact ih (fun value d member => takes value d (by simp [member])) _

/-- A run of digits is read as the number that it writes. -/
theorem read_unbounded_run {base : Nat} {alphabet digits : Text} (writes : Writes base alphabet)
    (run : Run alphabet digits) : readUnbounded base digits = .ok (written base digits) := by
  obtain ⟨c, others, rfl⟩ := List.exists_cons_of_ne_nil run.filled
  rw [written_eq]
  refine fold_digits (fun value d member => ?_) 0
  rw [writes d (run.inside d member)]

/-- Digits that are read within a limit are refused exactly if their number is beyond it. -/
theorem read_digits_run {limit value : Nat} {beyond : ReadError} {digits : Text}
    (inside : ∀ c ∈ digits, c ∈ decimalDigits) (bound : value ≤ limit) :
    readDigits 10 limit beyond value digits =
      if writtenBehind 10 value digits ≤ limit then .ok (writtenBehind 10 value digits)
      else .error beyond := by
  induction digits generalizing value with
  | nil => rw [readDigits, if_pos (show writtenBehind 10 value [] ≤ limit from bound)]; rfl
  | cons c digits ih =>
    rw [readDigits, decimal_writes c (inside c (by simp)), writtenBehind, List.foldl_cons,
      ← writtenBehind]
    dsimp only
    split
    · next larger =>
      have grows := le_written_behind (value * 10 + digitOf c) digits
      rw [if_neg (by omega)]
    · next under => exact ih (fun d member => inside d (by simp [member])) (by omega)

/-! ## Exponents -/

/-- Whether an integer fits into so many bits, one of them for its sign. -/
def Fits (bits : Nat) (n : Int) : Prop := -2 ^ (bits - 1) ≤ n ∧ n < 2 ^ (bits - 1)

/-- The text of an exponent, and what it amounts to. -/
inductive Exponent : Text → Int → Prop where
  | absent : Exponent [] 0
  | positive {mark : Char} {sign digits : Text} (marked : mark = 'e' ∨ mark = 'E')
      (signed : sign = [] ∨ sign = ['+']) (run : Run decimalDigits digits) :
      Exponent (mark :: (sign ++ digits)) (written 10 digits)
  | negative {mark : Char} {digits : Text} (marked : mark = 'e' ∨ mark = 'E')
      (run : Run decimalDigits digits) : Exponent (mark :: '-' :: digits) (-written 10 digits)

/-- No exponent has a point in it or begins with a digit. -/
theorem Exponent.apart {text : Text} {x : Int} (exponent : Exponent text x) :
    '.' ∉ text ∧ ∀ c ∈ text.head?, c.isDigit = false := by
  have point : '.' ∉ decimalDigits := by decide
  cases exponent with
  | absent => simp
  | @positive mark sign digits marked signed run =>
    have outside : '.' ∉ digits := fun member => point (run.inside '.' member)
    rcases marked with rfl | rfl <;> rcases signed with rfl | rfl <;> simp [outside]
  | @negative mark digits marked run =>
    have outside : '.' ∉ digits := fun member => point (run.inside '.' member)
    rcases marked with rfl | rfl <;> simp [outside]

/-- A result that is what is expected where a condition holds, and an error elsewhere. -/
def Yields {ε α : Type} (condition : Prop) (expected : α) (result : Except ε α) : Prop :=
  condition ∧ result = .ok expected ∨ ¬ condition ∧ ∃ e, result = .error e

theorem Yields.map {ε α β : Type} {condition other : Prop} {expected : α} {result : Except ε α}
    (yields : Yields condition expected result) (same : condition ↔ other) (f : α → β) :
    Yields other (f expected) (do
      let value ← result
      return f value) := by
  rcases yields with ⟨holds, rfl⟩ | ⟨fails, e, rfl⟩
  · exact .inl ⟨same.mp holds, rfl⟩
  · exact .inr ⟨fun holds => fails (same.mpr holds), e, rfl⟩

theorem Yields.iff {ε α : Type} {condition other : Prop} {expected : α} {result : Except ε α}
    (yields : Yields condition expected result) (same : condition ↔ other) :
    Yields other expected result := by
  rwa [Yields, ← same]

/-- Of two steps, the second one counts if the first one gives what is expected. -/
theorem Yields.bind {ε α β : Type} {first second : Prop} {a : α} {b : β} {result : Except ε α}
    {f : α → Except ε β} (yields : Yields first a result) (later : Yields second b (f a)) :
    Yields (first ∧ second) b (result >>= f) := by
  rcases yields with ⟨holds, rfl⟩ | ⟨fails, e, rfl⟩
  · rcases later with ⟨further, same⟩ | ⟨fails, e, same⟩
    · exact .inl ⟨⟨holds, further⟩, same⟩
    · exact .inr ⟨fun both => fails both.2, e, same⟩
  · exact .inr ⟨fun both => fails both.1, e, rfl⟩

/-- A check in front of a step. -/
theorem Yields.check {ε α : Type} {valid : Bool} {condition : Prop} {expected : α}
    {result : Except ε α} (yields : Yields condition expected result) (e : ε) :
    Yields (valid = true ∧ condition) expected (if !valid then .error e else result) := by
  cases valid with
  | false => exact .inr ⟨fun both => Bool.noConfusion both.1, e, rfl⟩
  | true => exact yields.iff ⟨fun holds => ⟨rfl, holds⟩, And.right⟩

theorem read_digits_yields {limit : Nat} {beyond : ReadError} {digits : Text}
    (run : Run decimalDigits digits) :
    Yields (written 10 digits ≤ limit) (written 10 digits)
      (readDigits 10 limit beyond 0 digits) := by
  rw [Yields, read_digits_run run.inside (Nat.zero_le limit), ← written_eq]
  split
  · next bound => exact .inl ⟨bound, rfl⟩
  · next larger => exact .inr ⟨larger, _, rfl⟩

theorem Run.head {digits : Text} (run : Run decimalDigits digits) :
    ∃ c others, digits = c :: others ∧ c ∈ decimalDigits := by
  obtain ⟨c, others, rfl⟩ := List.exists_cons_of_ne_nil run.filled
  exact ⟨c, others, rfl, run.inside c (by simp)⟩

/-- Digits without a sign are read as a number if it fits. -/
theorem read_int_digits {digits : Text} (run : Run decimalDigits digits) :
    Yields (Fits 128 (written 10 digits)) (written 10 digits : Int) (readInt 128 digits) := by
  obtain ⟨c, others, rfl, digit⟩ := run.head
  have unsigned : c ≠ '-' ∧ c ≠ '+' := by
    constructor <;> (rintro rfl; exact absurd digit (by decide))
  rw [read_int_unsigned (by simp) (by simpa using unsigned.1) (by simpa using unsigned.2)]
  refine (read_digits_yields run).map ?_ _
  simp only [Fits, Nat.pow_eq]
  omega

/-- The digits and the sign behind the mark of an exponent are read as the exponent if it fits. -/
theorem read_int_exponent {mark : Char} {text : Text} {x : Int} (exponent : Exponent (mark :: text) x) :
    Yields (Fits 128 x) x (readInt 128 text) := by
  cases exponent with
  | @positive _ sign digits marked signed run =>
    rcases signed with rfl | rfl
    · exact read_int_digits run
    · obtain ⟨c, others, rfl, -⟩ := run.head
      refine (read_digits_yields run).map ?_ _
      simp only [Fits, Nat.pow_eq]
      omega
  | @negative _ digits marked run =>
    obtain ⟨c, others, rfl, -⟩ := run.head
    refine (read_digits_yields run).map ?_ fun size => -(size : Int)
    simp only [Fits, Nat.pow_eq]
    omega

/-- An exponent is split off from what it stands behind. -/
theorem split_exponent_behind {base text : Text} {x : Int} (exponent : Exponent text x)
    (plain : ∀ c ∈ base, Decimal.isExponentMark c = false) :
    Yields (Fits 128 x) (base, x) (Decimal.splitExponent (base ++ text)) := by
  have through : ∀ c ∈ base, (!Decimal.isExponentMark c) = true := by simpa using plain
  rw [Decimal.splitExponent, List.dropWhile_append_of_pos through,
    List.takeWhile_append_of_pos through]
  cases text with
  | nil =>
    cases exponent
    exact .inl ⟨by simp [Fits], by simp⟩
  | cons mark rest =>
    have marks : (!Decimal.isExponentMark mark) = false := by
      have marked : mark = 'e' ∨ mark = 'E' := by cases exponent <;> assumption
      rcases marked with rfl | rfl <;> rfl
    rw [List.dropWhile_cons_of_neg (by simp [marks]), List.takeWhile_cons_of_neg (by simp [marks])]
    rcases read_int_exponent exponent with ⟨fits, reads⟩ | ⟨unfit, cause, reads⟩
    · exact .inl ⟨fits, by simp [reads]⟩
    · exact .inr ⟨unfit, .badExponent cause, by simp [reads]⟩

/-! ## Decimals -/

/-- The number for which a decimal stands. -/
def worth (d : Decimal) : ℚ := d.unscaled * 10 ^ (-d.scale)

theorem worth_of_int (n : Int) : worth (.ofInt n) = n := by
  simp [worth, Decimal.ofInt]

theorem join_at_point_between {front behind : Text} (whole : '.' ∉ front) :
    Decimal.joinAtPoint (front ++ '.' :: behind) = (front ++ behind, behind.length) := by
  have through : ∀ c ∈ front, decide (c ≠ '.') = true := by
    intro c member
    simpa using fun same : c = '.' => whole (same ▸ member)
  rw [Decimal.joinAtPoint, List.dropWhile_append_of_pos through,
    List.takeWhile_append_of_pos through]
  simp

theorem fits_scale_iff (n : Int) : Decimal.fitsScale n = true ↔ Fits 64 n := by
  simp only [Decimal.fitsScale, Fits, Bool.and_eq_true, decide_eq_true_eq, Nat.pow_eq]
  omega

/-- The digits in front of and behind a point. -/
structure Pointed (front behind : Text) : Prop where
  front : ∀ c ∈ front, c ∈ decimalDigits
  behind : Run decimalDigits behind

theorem Pointed.run {front behind : Text} (pointed : Pointed front behind) :
    Run decimalDigits (front ++ behind) := by
  refine ⟨by simp [pointed.behind.filled], fun c member => ?_⟩
  rcases List.mem_append.mp member with member | member
  · exact pointed.front c member
  · exact pointed.behind.inside c member

theorem read_unscaled_run {digits : Text} (run : Run decimalDigits digits) :
    Decimal.readUnscaled digits = .ok (written 10 digits : Int) := by
  obtain ⟨c, others, rfl, digit⟩ := run.head
  have reads := read_unbounded_run decimal_writes run
  unfold Decimal.readUnscaled
  split
  · next same =>
    cases same
    exact absurd digit (by decide)
  · next same =>
    cases same
    exact absurd digit (by decide)
  · rw [reads]
    rfl

/-- A decimal is read exactly unless its exponent or its scale is out of bounds. -/
theorem read_pointed {front behind text : Text} {x : Int} (pointed : Pointed front behind)
    (exponent : Exponent text x) :
    Yields (Fits 128 x ∧ Fits 64 (behind.length - x))
      ⟨written 10 (front ++ behind), behind.length - x⟩
      (Decimal.read (front ++ '.' :: behind ++ text)) := by
  have digits : ∀ c ∈ decimalDigits, c ≠ '.' ∧ Decimal.isExponentMark c = false :=
    forall_of_all (by decide)
  have plain : ∀ c ∈ front ++ '.' :: behind, Decimal.isExponentMark c = false := by
    intro c member
    simp only [List.mem_append, List.mem_cons] at member
    rcases member with member | rfl | member
    · exact (digits c (pointed.front c member)).2
    · rfl
    · exact (digits c (pointed.behind.inside c member)).2
  have whole : '.' ∉ front := fun member => (digits '.' (pointed.front '.' member)).1 rfl
  rw [Decimal.read]
  rcases split_exponent_behind exponent plain with ⟨fits, splits⟩ | ⟨unfit, failure, splits⟩
  · have filled : (front ++ '.' :: behind).isEmpty = false := by simp
    simp only [splits, bind, Except.bind, join_at_point_between whole,
      read_unscaled_run pointed.run, filled, Bool.false_eq_true, if_false]
    by_cases scale : Fits 64 (behind.length - x)
    · rw [(fits_scale_iff _).mpr scale]
      exact .inl ⟨⟨fits, scale⟩, rfl⟩
    · rw [Bool.eq_false_iff.mpr fun inside => scale ((fits_scale_iff _).mp inside)]
      exact .inr ⟨fun both => scale both.2, _, rfl⟩
  · exact .inr ⟨fun both => unfit both.1, failure, by rw [splits]; rfl⟩

end FormulaLexer.Numerals
