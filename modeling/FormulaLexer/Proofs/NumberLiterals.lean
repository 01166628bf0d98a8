import FormulaLexer.Proofs.Numerals
import FormulaLexer.Proofs.Unmatched

/-! Numeric literals of ASCII characters and the numbers that they stand for. A literal is taken apart
as its pattern spells it; what its converter makes of the parts is the number that is written there,
however many digits it has, or a refusal of its exponent or scale. -/
namespace FormulaLexer.NumberLiterals
open Ways Spelling Letters Truncation BuiltInMatches Rescan Unmatched Numerals
open Unicode (caseVariants fold foldingShifts)

/-! ## Literals -/

/-- A literal by its parts. An exponent comes with the integer that it amounts to. -/
inductive Literal where
  | hexadecimal (mark : Char) (digits : Text)
  | whole (digits exponent : Text) (x : Int)
  | pointed (front behind exponent : Text) (x : Int)

namespace Literal

/-- The literal as it is written. -/
def text : Literal → Text
  | .hexadecimal mark digits => '0' :: mark :: digits
  | .whole digits exponent _ => digits ++ exponent
  | .pointed front behind exponent _ => front ++ '.' :: behind ++ exponent

/-- The scanner of the literal. -/
def scanner : Literal → BuiltIn
  | .hexadecimal _ _ => .hexadecimal
  | .whole _ _ _ => .numeric
  | .pointed _ _ _ _ => .numeric

/-- Whether the parts are what they are meant to be. -/
def Valid : Literal → Prop
  | .hexadecimal mark digits => (mark = 'x' ∨ mark = 'X') ∧ Run hexadecimalDigits digits
  | .whole digits exponent x => Run decimalDigits digits ∧ Exponent exponent x
  | .pointed front behind exponent x => Pointed front behind ∧ Exponent exponent x

end Literal

/-- A natural number as a value: an integer up to the largest one of 64 bits, a decimal beyond it. -/
inductive Whole (n : Nat) : Value → Prop where
  | integer (bound : n ≤ 2 ^ 63 - 1) : Whole n (.integer n)
  | decimal {d : Number.Decimal} (beyond : 2 ^ 63 - 1 < n) (same : worth d = n) :
      Whole n (.decimal d)

/-- The result of a scan that is one numeric token with the text and the value. -/
def oneToken (raw : Text) (v : Value) : Except ConversionError (Option (List Token)) :=
  .ok (some [⟨.numeric, v, some raw⟩])

/-- What a scan has to make of a literal. Without a point it is the number that its digits write,
whatever the exponent; with a point it is the number that the digits on both sides of it write,
shifted by the exponent, unless the exponent or the scale does not fit. -/
def Literal.Exact (literal : Literal) (result : Except ConversionError (Option (List Token))) : Prop :=
  match literal with
  | .hexadecimal _ digits =>
    ∃ v, Whole (written 16 digits) v ∧ result = oneToken literal.text v
  | .whole digits _ _ =>
    ∃ v, Whole (written 10 digits) v ∧ result = oneToken literal.text v
  | .pointed front behind _ x =>
    (Fits 128 x ∧ Fits 64 (behind.length - x) →
      ∃ d, worth d = written 10 (front ++ behind) * 10 ^ (x - behind.length) ∧
        result = oneToken literal.text (.decimal d)) ∧
    (¬(Fits 128 x ∧ Fits 64 (behind.length - x)) → ∃ e, result = .error e)

/-! ## Shapes -/

/-- A character of ASCII that a set holds is one of those that were looked up. -/
theorem ascii_member {set : CharSet} (chars : Text) {c : Char} (member : set.contains c = true)
    (ascii : c.toNat < 128) (table : (List.range 128).all (fun code =>
      !set.contains (Char.ofNat code) || chars.contains (Char.ofNat code)) = true) : c ∈ chars := by
  have known := List.all_eq_true.mp table c.toNat (List.mem_range.mpr ascii)
  simpa [Char.ofNat_toNat, member] using known

/-- The route of a number without a sign. -/
def digitRun (label : Nat) : Route := .sequence (.one .digit) (.star label true (.one .digit))

theorem ascii_run {label : Nat} {text : Text} (ascii : ∀ c ∈ text, c.toNat < 128)
    (spells : Spells (digitRun label) text) :
    Run decimalDigits text := by
  obtain ⟨filled, inside⟩ := spells_run_iff.mp spells
  exact ⟨filled, fun c member =>
    ascii_member decimalDigits (inside c member) (ascii c member) (by decide +kernel)⟩

/-- An option spells its route or nothing. -/
theorem spells_option_iff {label : Nat} {route : Route} {text : Text} :
    Spells (.either label (.sequence route .empty) .empty) text ↔ Spells route text ∨ text = [] := by
  rw [spells_either_iff, spells_sequence_iff]
  constructor
  · rintro (⟨front, back, spells, ends, rfl⟩ | spells)
    · cases ends
      exact .inl (by simpa using spells)
    · cases spells
      exact .inr rfl
  · rintro (spells | rfl)
    · exact .inl ⟨text, [], spells, .empty, (List.append_nil text).symm⟩
    · exact .inr .empty

/-- The marks of exponents, up to case. -/
def exponentMarks : CharSet := .ignoringCase (.union (.single 'e') (.single 'E'))

/-- The signs of exponents. -/
def exponentSigns : CharSet := .ignoringCase (.union (.single '+') (.single '-'))

/-- The route of an exponent. -/
def exponentRoute : Route :=
  .sequence (.one exponentMarks)
    (.sequence (.either 6 (.sequence (.one exponentSigns) .empty) .empty) (digitRun 7))

theorem numeric_route : BuiltIn.numeric.expression.route =
    .sequence (.anchor .textStart) (.sequence (.sequence
      (.either 0
        (.sequence (digitRun 1) (.either 2
          (.sequence (.sequence (.one (quoteSet '.')) (digitRun 3)) .empty) .empty))
        (.sequence (.one (quoteSet '.')) (digitRun 4)))
      (.either 5 (.sequence exponentRoute .empty) .empty)) (.anchor edge)) := by
  decide +kernel

theorem spells_edged_iff {body : Route} {text : Text} :
    Spells (.sequence (.anchor .textStart) (.sequence body (.anchor edge))) text ↔
      Spells body text := by
  rw [spells_anchored_iff, spells_sequence_iff]
  constructor
  · rintro ⟨front, back, spells, ends, rfl⟩
    cases ends
    rwa [List.append_nil]
  · exact fun spells => ⟨text, [], spells, .anchor, (List.append_nil text).symm⟩

/-- The capital mark is a variant of those characters only that fold to the small one. -/
theorem fold_of_capital {c : Char} (variant : 'E' ∈ caseVariants c) : fold c = 'e' := by
  rcases List.mem_cons.mp variant with folded | carried
  · -- nothing folds to the capital: it does not itself, and no other character is carried to it
    exfalso
    have moved : fold 'E' = 'e' ∧ foldingShifts.preimages 'E'.toNat = [] := by decide
    rcases apply_cases foldingShifts c.toNat with same | carried
    · have own : fold c = c := by rw [fold, same, Char.ofNat_toNat]
      rw [← folded.trans own, moved.1] at own
      exact absurd own (by decide)
    · rw [← fold_to_nat, ← folded, moved.2] at carried
      cases carried
  · obtain ⟨code, image, same⟩ := List.mem_map.mp carried
    obtain ⟨run, member, moves, target⟩ := run_of_preimage image
    have code : code = 'E'.toNat := by
      by_cases valid : code.isValidChar
      · rw [← same, of_nat_to_nat valid]
      · rw [Char.ofNat, dif_neg valid] at same
        cases same
    subst code
    have small : foldingShifts.all (fun run =>
        !run.moves 'E'.toNat || run.target + ('E'.toNat - run.first) = 'e'.toNat) = true := by
      decide
    have known := List.all_eq_true.mp small run member
    rw [moves, target] at known
    exact Char.toNat_inj.mp (by simpa using known)

/-- The marks of exponents are two letters. -/
theorem exponent_mark {c : Char} (member : exponentMarks.contains c = true) : c = 'e' ∨ c = 'E' := by
  obtain ⟨d, variant, marks⟩ := List.any_eq_true.mp member
  have lists : codes? (.union (.single 'e') (.single 'E')) = some ['e'.toNat, 'E'.toNat] := by decide
  have folded : fold c = 'e' := by
    rcases List.mem_cons.mp (codes_contains lists marks) with small | capital
    · obtain rfl := Char.toNat_inj.mp small
      exact fold_of_variant (by decide) variant
    · obtain rfl := Char.toNat_inj.mp (List.mem_singleton.mp capital)
      exact fold_of_capital variant
  have small : 'e' ∈ caseVariants c := List.mem_cons.mpr (.inl folded.symm)
  have preimages : foldingShifts.preimages 'e'.toNat = ['E'.toNat] := by decide
  rcases variant_of_kept (by decide) small with same | carried
  · exact .inl same
  · rw [preimages, List.mem_singleton] at carried
    exact .inr (Char.toNat_inj.mp carried)

theorem exponent_shape {text : Text} (ascii : ∀ c ∈ text, c.toNat < 128)
    (spells : Spells (.either 5 (.sequence exponentRoute .empty) .empty) text) :
    ∃ x, Exponent text x := by
  rcases spells_option_iff.mp spells with spells | rfl
  · obtain ⟨front, rest, begins, later, rfl⟩ := spells_sequence_iff.mp spells
    obtain ⟨sign, digits, signed, ends, rfl⟩ := spells_sequence_iff.mp later
    obtain ⟨mark, member, rfl⟩ := spells_one_iff.mp begins
    have run := ascii_run (fun c member => ascii c (by simp [member])) ends
    have marked := exponent_mark member
    rcases spells_option_iff.mp signed with signed | rfl
    · obtain ⟨c, member, rfl⟩ := spells_one_iff.mp signed
      have lists : codes? exponentSigns = some ['+'.toNat, '-'.toNat] := by decide +kernel
      rcases List.mem_cons.mp (codes_contains lists member) with plus | minus
      · obtain rfl := Char.toNat_inj.mp plus
        exact ⟨_, @Exponent.positive mark ['+'] digits marked (.inr rfl) run⟩
      · obtain rfl := Char.toNat_inj.mp (List.mem_singleton.mp minus)
        exact ⟨_, .negative marked run⟩
    · exact ⟨_, @Exponent.positive mark [] digits marked (.inl rfl) run⟩
  · exact ⟨0, .absent⟩

/-- What the pattern of numbers spells in ASCII is a literal. -/
theorem numeric_shape {raw : Text} (ascii : ∀ c ∈ raw, c.toNat < 128)
    (spells : Spells BuiltIn.numeric.expression.route raw) :
    ∃ literal : Literal, literal.Valid ∧ literal.scanner = .numeric ∧ literal.text = raw := by
  rw [numeric_route, spells_edged_iff] at spells
  obtain ⟨front, text, begins, ends, rfl⟩ := spells_sequence_iff.mp spells
  obtain ⟨x, exponent⟩ := exponent_shape (fun c member => ascii c (by simp [member])) ends
  have point : '.' ∈ caseless := by decide
  rcases spells_either_iff.mp begins with begins | begins
  · obtain ⟨digits, fraction, leads, follows, rfl⟩ := spells_sequence_iff.mp begins
    have run := ascii_run (fun c member => ascii c (by simp [member])) leads
    rcases spells_option_iff.mp follows with follows | rfl
    · obtain ⟨mark, behind, marks, tail, rfl⟩ := spells_sequence_iff.mp follows
      obtain rfl := (spells_mark_iff point).mp marks
      have further := ascii_run (fun c member => ascii c (by simp [member])) tail
      exact ⟨.pointed digits behind text x, ⟨⟨run.inside, further⟩, exponent⟩, rfl,
        by simp [Literal.text]⟩
    · exact ⟨.whole digits text x, ⟨run, exponent⟩, rfl, by simp [Literal.text]⟩
  · obtain ⟨mark, behind, marks, tail, rfl⟩ := spells_sequence_iff.mp begins
    obtain rfl := (spells_mark_iff point).mp marks
    have run := ascii_run (fun c member => ascii c (by simp [member])) tail
    exact ⟨.pointed [] behind text x, ⟨⟨by simp, run⟩, exponent⟩, rfl, by simp [Literal.text]⟩

/-- The set of hexadecimal digits, up to case. -/
def hexadecimalSet : CharSet := .ignoringCase (.union (.range '0' '9') (.range 'a' 'f'))

theorem hexadecimal_route : BuiltIn.hexadecimal.expression.route =
    .sequence (.anchor .textStart) (.sequence (.sequence (.one (quoteSet '0'))
      (.sequence (.one (quoteSet 'x'))
        (.sequence (.one hexadecimalSet) (.star 0 true (.one hexadecimalSet))))) (.anchor edge)) := by
  decide +kernel

/-- What the pattern of hexadecimal numbers spells is a literal. -/
theorem hexadecimal_shape {raw : Text} (spells : Spells BuiltIn.hexadecimal.expression.route raw) :
    ∃ mark digits, (Literal.hexadecimal mark digits).Valid ∧
      (Literal.hexadecimal mark digits).text = raw := by
  rw [hexadecimal_route, spells_edged_iff] at spells
  obtain ⟨front, rest, zero, later, rfl⟩ := spells_sequence_iff.mp spells
  obtain ⟨middle, digits, marks, tail, rfl⟩ := spells_sequence_iff.mp later
  obtain rfl := (spells_mark_iff (by decide)).mp zero
  obtain ⟨mark, member, rfl⟩ := spells_one_iff.mp marks
  obtain ⟨filled, inside⟩ := spells_run_iff.mp tail
  have marked : mark = 'x' ∨ mark = 'X' := by
    have lists : codes? (quoteSet 'x') = some ['x'.toNat, 'X'.toNat] := by decide +kernel
    rcases List.mem_cons.mp (codes_contains lists member) with lower | upper
    · exact .inl (Char.toNat_inj.mp lower)
    · exact .inr (Char.toNat_inj.mp (List.mem_singleton.mp upper))
  have digit : ∀ c ∈ digits, c ∈ hexadecimalDigits := by
    intro c member
    have lists : codes? hexadecimalSet = some (hexadecimalDigits.map Char.toNat) := by
      decide +kernel
    obtain ⟨d, listed, same⟩ := List.mem_map.mp (codes_contains lists (inside c member))
    exact Char.toNat_inj.mp same ▸ listed
  exact ⟨mark, digits, ⟨marked, filled, digit⟩, rfl⟩

/-! ## What is read -/

theorem whole_of_number (n : Nat) : Whole n (BuiltIn.numberValue n) := by
  rw [BuiltIn.numberValue]
  split
  · next bound => exact .integer bound
  · next beyond => exact .decimal (Nat.lt_of_not_le beyond) (by simp [worth_of_int])

/-- The digits behind the mark are read as the number that they write. -/
theorem read_hexadecimal {mark : Char} {digits : Text} (run : Run hexadecimalDigits digits) :
    BuiltIn.toHexadecimal ('0' :: mark :: digits) =
      .ok (.value (BuiltIn.numberValue (written 16 digits))) := by
  rw [BuiltIn.toHexadecimal, List.drop_succ_cons, List.drop_succ_cons, List.drop_zero,
    read_unbounded_run hexadecimal_writes run]

/-- The digits in front are read as the number that they write, and the exponent is not looked at. -/
theorem read_whole {digits text : Text} {x : Int} (run : Run decimalDigits digits)
    (exponent : Exponent text x) :
    BuiltIn.toNumber (digits ++ text) =
      .ok (.value (BuiltIn.numberValue (written 10 digits))) := by
  obtain ⟨pointless, stops⟩ := exponent.apart
  have digit : ∀ c ∈ decimalDigits, c ≠ '.' ∧ c.isDigit = true := forall_of_all (by decide)
  have whole : (digits ++ text).contains '.' = false := by
    have outside : '.' ∉ digits := fun member => (digit '.' (run.inside '.' member)).1 rfl
    simp [outside, pointless]
  have front : (digits ++ text).takeWhile Char.isDigit = digits := by
    rw [List.takeWhile_append_of_pos fun c member => (digit c (run.inside c member)).2]
    cases text with
    | nil => simp
    | cons c text => rw [List.takeWhile_cons_of_neg (by simp [stops c rfl]), List.append_nil]
  rw [BuiltIn.toNumber, whole, BuiltIn.toWhole, front, read_unbounded_run decimal_writes run]
  rfl

/-- A zero that stands for missing digits in front of a point does not count. -/
theorem read_padded {front behind text : Text} {x : Int} (pointed : Pointed front behind)
    (exponent : Exponent text x) :
    Yields (Fits 128 x ∧ Fits 64 (behind.length - x))
      ⟨written 10 (front ++ behind), behind.length - x⟩
      (Number.Decimal.read (if (front ++ '.' :: behind ++ text).head? = some '.' then
        '0' :: (front ++ '.' :: behind ++ text) else front ++ '.' :: behind ++ text)) := by
  cases front with
  | nil =>
    have padded : Pointed ['0'] behind := ⟨forall_of_all (by decide), pointed.behind⟩
    have reads := read_pointed padded exponent
    rw [List.singleton_append, written_zero] at reads
    exact reads
  | cons c front =>
    have digit : c ≠ '.' := by
      rintro rfl
      exact absurd (pointed.front '.' (by simp)) (by decide)
    rw [if_neg (by simpa using digit)]
    exact read_pointed pointed exponent

theorem read_decimal {front behind text : Text} {x : Int} (pointed : Pointed front behind)
    (exponent : Exponent text x) :
    Yields (Fits 128 x ∧ Fits 64 (behind.length - x))
      (.value (.decimal ⟨written 10 (front ++ behind), behind.length - x⟩))
      (BuiltIn.toNumber (front ++ '.' :: behind ++ text)) := by
  have point : (front ++ '.' :: behind ++ text).contains '.' = true := by simp
  rw [BuiltIn.toNumber, if_pos point, BuiltIn.toDecimal]
  rcases read_padded pointed exponent with ⟨fits, reads⟩ | ⟨unfit, failure, reads⟩
  · rw [reads]
    exact .inl ⟨fits, rfl⟩
  · rw [reads]
    exact .inr ⟨unfit, _, rfl⟩

theorem worth_written (n : Nat) (scale x : Int) :
    worth ⟨n, scale - x⟩ = n * 10 ^ (x - scale) := by
  rw [worth, neg_sub]
  simp

/-- The scan of a literal is exact. -/
theorem scan_literal {keepCase : Bool} {zone : LocalZone} {previous : Option Token}
    {literal : Literal} {back : Text}
    (valid : literal.Valid) (way : Matches literal.scanner literal.text back) :
    literal.Exact
      ((literal.scanner.scanner keepCase zone).scan (literal.text ++ back) previous) := by
  have accepts : (literal.scanner.scanner keepCase zone).accepts previous = true := by
    cases literal <;> rfl
  rw [scan_converts way accepts]
  cases literal with
  | hexadecimal mark digits =>
    rw [Literal.scanner, BuiltIn.convert, Literal.text, read_hexadecimal valid.2]
    exact ⟨_, whole_of_number _, rfl⟩
  | whole digits exponent x =>
    rw [Literal.scanner, BuiltIn.convert, Literal.text, read_whole valid.1 valid.2]
    exact ⟨_, whole_of_number _, rfl⟩
  | pointed front behind exponent x =>
    rw [Literal.scanner, BuiltIn.convert, Literal.text]
    rcases read_decimal valid.1 valid.2 with ⟨fits, reads⟩ | ⟨unfit, message, reads⟩
    · rw [reads]
      exact ⟨fun _ => ⟨_, worth_written _ _ _, rfl⟩, fun unfit => absurd fits unfit⟩
    · rw [reads]
      exact ⟨fun fits => absurd fits unfit, fun _ => ⟨_, rfl⟩⟩

/-- What the scanners of numbers match in ASCII is a literal, and however its text is taken apart as
one, the scan is exact: the number written without a point is the value, whatever its size; the number
written with a point and an exponent is the value, and the scan fails exactly if the exponent has more
than 128 bits or the scale more than 64. -/
theorem scan_exact (keepCase : Bool) (zone : LocalZone) (builtIn : BuiltIn)
    (number : builtIn = .numeric ∨ builtIn = .hexadecimal) (remaining : Text)
    (previous : Option Token) (found : Route.Match)
    (finds : builtIn.expression.route.find? remaining = some found)
    (ascii : ∀ c ∈ found.text, c.toNat < 128) :
    (∃ literal : Literal, literal.Valid ∧ literal.scanner = builtIn ∧ literal.text = found.text) ∧
      ∀ literal : Literal, literal.Valid → literal.scanner = builtIn → literal.text = found.text →
        literal.Exact ((builtIn.scanner keepCase zone).scan remaining previous) := by
  obtain ⟨back, rfl, way⟩ := found_matches finds
  constructor
  · rcases number with rfl | rfl
    · exact numeric_shape ascii way.spells
    · obtain ⟨mark, digits, valid, text⟩ := hexadecimal_shape way.spells
      exact ⟨.hexadecimal mark digits, valid, rfl, text⟩
  · rintro literal valid rfl text
    rw [← text] at way ⊢
    exact scan_literal valid way

/-- A literal without digits in front of its point, with a negative exponent. -/
theorem fraction_exact :
    (Literal.pointed [] "5".toList "e-3".toList (-3)).Exact
      ((BuiltIn.numeric.scanner false).scan ".5e-3 + 1".toList none) := by
  obtain ⟨found, finds, same⟩ := Option.map_eq_some_iff.mp
    (show (BuiltIn.numeric.expression.route.find? ".5e-3 + 1".toList).map Route.Match.text =
      some ".5e-3".toList by decide +kernel)
  have ascii : ∀ c ∈ ".5e-3".toList, c.toNat < 128 := forall_of_all (by decide)
  have pointed : Pointed [] "5".toList := ⟨by simp, by decide, forall_of_all (by decide)⟩
  have exponent : Exponent "e-3".toList (-3) :=
    @Exponent.negative 'e' "3".toList (.inl rfl) ⟨by decide, forall_of_all (by decide)⟩
  have reads := (scan_exact false .utc .numeric (.inl rfl) _ none found finds (same ▸ ascii)).2
  exact reads _ ⟨pointed, exponent⟩ rfl same.symm

end FormulaLexer.NumberLiterals
