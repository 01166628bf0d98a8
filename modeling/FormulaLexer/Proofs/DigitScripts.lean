import Mathlib.Data.List.TakeWhile
import FormulaLexer.Proofs.NumberLiterals

/-! Whole numbers in digits of any script. The pattern of numbers takes them all, while the converter
reads only the digits of ASCII in front: a number that begins with another digit is refused, and of
one that goes on with another digit the rest is dropped, which changes its value unless all of its
digits are zeros. -/
namespace FormulaLexer.DigitScripts
open Ways Spelling Letters Truncation BuiltInMatches Rescan Unmatched Numerals NumberLiterals
open Unicode (isDecimalDigit decimalDigitRanges)

/-- The number for which a decimal digit of any script stands. The digits of a script ascend from
its zero, and some ranges hold several sets of them. -/
def digitValue (c : Char) : Nat :=
  match decimalDigitRanges.find? fun range => range.1 ≤ c.toNat && c.toNat ≤ range.2 with
  | some (first, _) => (c.toNat - first) % 10
  | none => 0

/-- The number that all the digits of a text write. -/
def amount (digits : Text) : Nat := Nat.ofDigits 10 (digits.reverse.map digitValue)

/-- The digits of ASCII at the front of a text. -/
def asciiFront (text : Text) : Text := text.takeWhile Char.isDigit

/-- Whether a value is a natural number, as an integer or as a decimal. -/
inductive Stands (n : Nat) : Value → Prop where
  | integer : Stands n (.integer n)
  | decimal {d : Number.Decimal} (same : worth d = n) : Stands n (.decimal d)

/-- Whether the scan of a number fails or has the number that all its digits write as its value. -/
def KeepsDigits (raw : Text) (result : Except ConversionError (Option (List Token))) : Prop :=
  (∃ e, result = .error e) ∨ ∃ v, Stands (amount raw) v ∧ result = oneToken raw v

/-! ## Amounts -/

theorem digit_value_ascii {c : Char} (digit : c ∈ decimalDigits) : digitValue c = digitOf c :=
  (forall_of_all (by decide) : ∀ c ∈ decimalDigits, digitValue c = digitOf c) c digit

/-- In ASCII the amount is the number written. -/
theorem amount_ascii {digits : Text} (inside : ∀ c ∈ digits, c ∈ decimalDigits) :
    amount digits = written 10 digits := by
  have same : digits.reverse.map digitValue = digits.reverse.map digitOf :=
    List.map_congr_left fun c member => digit_value_ascii (inside c (List.mem_reverse.mp member))
  rw [amount, same, written]

theorem amount_append (front back : Text) :
    amount (front ++ back) = amount back + 10 ^ back.length * amount front := by
  rw [amount, List.reverse_append, List.map_append, Nat.ofDigits_append, List.length_map,
    List.length_reverse]
  rfl

/-- Dropping digits behind others keeps the amount only if all of it is zero. -/
theorem amount_front_iff (front back : Text) :
    amount front = amount (front ++ back) ↔ back = [] ∨ amount (front ++ back) = 0 := by
  rw [amount_append]
  constructor
  · intro same
    cases back with
    | nil => exact .inl rfl
    | cons c back =>
      have shift : 10 * amount front ≤ 10 ^ (c :: back).length * amount front :=
        Nat.mul_le_mul_right _ (Nat.le_self_pow (by simp) 10)
      refine .inr ?_
      omega
  · rintro (rfl | zero)
    · simp [amount]
    · have positive := Nat.pow_pos (n := back.length) (show 0 < 10 by decide)
      obtain ⟨-, none⟩ := Nat.add_eq_zero_iff.mp zero
      rcases Nat.mul_eq_zero.mp none with absurd' | none
      · omega
      · omega

theorem Stands.unique {n m : Nat} {v : Value} (stands : Stands n v) (also : Stands m v) : n = m := by
  cases stands with
  | integer =>
    cases also
    rfl
  | decimal same =>
    cases also with
    | decimal other => exact_mod_cast same.symm.trans other

theorem stands_of_whole {n : Nat} {v : Value} (whole : Whole n v) : Stands n v := by
  cases whole with
  | integer => exact .integer
  | decimal _ same => exact .decimal same

/-! ## What is matched -/

/-- A number without a point and an exponent is a run of digits. -/
theorem digits_of_spells {raw : Text} (spells : Spells BuiltIn.numeric.expression.route raw)
    (plain : ∀ c ∈ raw, c ≠ '.' ∧ c ≠ 'e' ∧ c ≠ 'E') :
    raw ≠ [] ∧ ∀ c ∈ raw, isDecimalDigit c = true := by
  have point : '.' ∈ caseless := by decide
  rw [numeric_route, spells_edged_iff] at spells
  obtain ⟨front, text, begins, ends, rfl⟩ := spells_sequence_iff.mp spells
  obtain rfl : text = [] := by
    rcases spells_option_iff.mp ends with exponent | rfl
    · obtain ⟨sign, rest, marked, -, rfl⟩ := spells_sequence_iff.mp exponent
      obtain ⟨mark, member, rfl⟩ := spells_one_iff.mp marked
      obtain ⟨-, small, capital⟩ := plain mark (by simp)
      rcases exponent_mark member with same | same
      · exact absurd same small
      · exact absurd same capital
    · rfl
  rw [List.append_nil] at plain ⊢
  rcases spells_either_iff.mp begins with begins | begins
  · obtain ⟨digits, fraction, leads, follows, rfl⟩ := spells_sequence_iff.mp begins
    rcases spells_option_iff.mp follows with follows | rfl
    · obtain ⟨mark, behind, marks, -, rfl⟩ := spells_sequence_iff.mp follows
      obtain rfl := (spells_mark_iff point).mp marks
      exact absurd rfl (plain '.' (by simp)).1
    · rw [List.append_nil]
      exact spells_run_iff.mp leads
  · obtain ⟨mark, behind, marks, -, rfl⟩ := spells_sequence_iff.mp begins
    obtain rfl := (spells_mark_iff point).mp marks
    exact absurd rfl (plain '.' (by simp)).1

/-! ## What is read -/

theorem ascii_front_inside (text : Text) : ∀ c ∈ asciiFront text, c ∈ decimalDigits :=
  fun _ member => mem_decimal_iff.mpr (List.mem_takeWhile_imp member)

/-- Where digits of ASCII are in front, they are read, and the rest is not looked at. -/
theorem read_front {raw : Text} (whole : '.' ∉ raw) (filled : asciiFront raw ≠ []) :
    BuiltIn.toNumber raw = .ok (.value (BuiltIn.numberValue (amount (asciiFront raw)))) := by
  have inside := ascii_front_inside raw
  rw [BuiltIn.toNumber, if_neg (by simpa using whole), BuiltIn.toWhole, ← asciiFront,
    read_unbounded_run decimal_writes ⟨filled, inside⟩, amount_ascii inside]

/-- The message about a number that does not begin with a digit of ASCII. -/
def refusal : Text :=
  "invalid numeric literal: ".toList ++ Number.Decimal.ReadFailure.emptyDigits.message

theorem read_foreign {raw : Text} (whole : '.' ∉ raw) (empty : asciiFront raw = []) :
    BuiltIn.toNumber raw = .error refusal := by
  rw [BuiltIn.toNumber, if_neg (by simpa using whole), BuiltIn.toWhole, ← asciiFront, empty]
  rfl

/-- A scan that reads the digits in front keeps all of them if the rest adds nothing. -/
theorem keeps_front_iff {raw : Text} {v : Value} (stands : Stands (amount (asciiFront raw)) v) :
    KeepsDigits raw (oneToken raw v) ↔ asciiFront raw = raw ∨ amount raw = 0 := by
  have split : asciiFront raw ++ raw.dropWhile Char.isDigit = raw := List.takeWhile_append_dropWhile
  have keeps : KeepsDigits raw (oneToken raw v) ↔ amount (asciiFront raw) = amount raw := by
    constructor
    · rintro (⟨e, refused⟩ | ⟨w, all, same⟩)
      · cases refused
      · cases same
        exact stands.unique all
    · exact fun same => .inr ⟨v, same ▸ stands, rfl⟩
  have whole : asciiFront raw = raw ↔ raw.dropWhile Char.isDigit = [] := by
    constructor
    · intro same
      rw [same] at split
      exact List.append_right_eq_self.mp split
    · intro rest
      rw [rest, List.append_nil] at split
      exact split
  have front := amount_front_iff (asciiFront raw) (raw.dropWhile Char.isDigit)
  rw [split] at front
  rw [keeps, front, whole]

/-- What the scanner of numbers matches without a point and an exponent are digits. It refuses them if
the first one is not of ASCII, and otherwise the value is the number that those of ASCII in front
write. So the digits are kept, or the scan fails, exactly if the first digit is not of ASCII, or all
of them are, or all of them are zeros. -/
theorem keeps_digits_iff (keepCase : Bool) (zone : LocalZone) (remaining : Text)
    (previous : Option Token) (found : Route.Match)
    (finds : BuiltIn.numeric.expression.route.find? remaining = some found)
    (plain : ∀ c ∈ found.text, c ≠ '.' ∧ c ≠ 'e' ∧ c ≠ 'E') :
    (found.text ≠ [] ∧ ∀ c ∈ found.text, isDecimalDigit c = true) ∧
    (asciiFront found.text = [] → (BuiltIn.numeric.scanner keepCase zone).scan remaining previous =
      .error ⟨.numeric, found.text, refusal⟩) ∧
    (asciiFront found.text ≠ [] → ∃ v, Whole (amount (asciiFront found.text)) v ∧
      (BuiltIn.numeric.scanner keepCase zone).scan remaining previous = oneToken found.text v) ∧
    (KeepsDigits found.text ((BuiltIn.numeric.scanner keepCase zone).scan remaining previous) ↔
      asciiFront found.text = [] ∨ asciiFront found.text = found.text ∨ amount found.text = 0) := by
  obtain ⟨back, rfl, way⟩ := found_matches finds
  have whole : '.' ∉ found.text := fun member => (plain '.' member).1 rfl
  have scanned : (BuiltIn.numeric.scanner keepCase zone).scan (found.text ++ back) previous = _ :=
    scan_converts way rfl
  refine ⟨digits_of_spells way.spells plain, ?_⟩
  by_cases empty : asciiFront found.text = []
  · rw [BuiltIn.convert, read_foreign whole empty] at scanned
    refine ⟨fun _ => scanned, fun filled => absurd empty filled, ?_⟩
    rw [scanned]
    exact ⟨fun _ => .inl empty, fun _ => .inl ⟨_, rfl⟩⟩
  · rw [BuiltIn.convert, read_front whole empty] at scanned
    have number := whole_of_number (amount (asciiFront found.text))
    refine ⟨fun none => absurd none empty, fun _ => ⟨_, number, scanned⟩, ?_⟩
    rw [scanned]
    exact (keeps_front_iff (stands_of_whole number)).trans ⟨.inr, (·.resolve_left empty)⟩

/-- A number in two scripts that begins with a digit of the other one is refused. -/
theorem foreign_refused :
    KeepsDigits "\u0661\u06622".toList
      ((BuiltIn.numeric.scanner false).scan "\u0661\u06622 + 1".toList none) := by
  obtain ⟨found, finds, same⟩ := Option.map_eq_some_iff.mp
    (show (BuiltIn.numeric.expression.route.find? "\u0661\u06622 + 1".toList).map Route.Match.text =
      some "\u0661\u06622".toList by decide +kernel)
  have plain : ∀ c ∈ found.text, c ≠ '.' ∧ c ≠ 'e' ∧ c ≠ 'E' := by
    rw [same]
    exact forall_of_all (by decide)
  have keeps := (keeps_digits_iff false .utc _ none found finds plain).2.2.2
  rw [same] at keeps
  exact keeps.mpr (.inl (by decide))

/-- A digit of another script behind digits of ASCII is dropped. -/
theorem foreign_dropped :
    (BuiltIn.numeric.expression.route.find? "12\u0663".toList).map Route.Match.text =
        some "12\u0663".toList ∧
      (∀ c ∈ "12\u0663".toList, isDecimalDigit c = true) ∧ amount "12\u0663".toList = 123 ∧
      (BuiltIn.numeric.scanner false).scan "12\u0663".toList none =
        oneToken "12\u0663".toList (.integer 12) ∧
      ¬ KeepsDigits "12\u0663".toList
        ((BuiltIn.numeric.scanner false).scan "12\u0663".toList none) := by
  have scanned : (BuiltIn.numeric.scanner false).scan "12\u0663".toList none =
      oneToken "12\u0663".toList (.integer 12) := by decide +kernel
  have all : amount "12\u0663".toList = 123 := by decide +kernel
  refine ⟨by decide +kernel, forall_of_all (by decide +kernel), all, scanned, ?_⟩
  rw [scanned]
  rintro (⟨e, refused⟩ | ⟨v, stands, same⟩)
  · cases refused
  · rw [all] at stands
    cases same
    cases stands

end FormulaLexer.DigitScripts
