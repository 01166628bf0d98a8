import FormulaLexer.Scanner.BuiltIn
import FormulaLexer.Proofs.LetterCase
import FormulaLexer.Proofs.Lockstep

/-! What the case of ASCII letters does to values. Whatever a converter reads in a match, it reads the
same in a twin of it, or it refuses both: names and keywords are lower-cased, the digits behind
nine and the mark of an exponent come in both cases, as does the letter of a zone, and everything
else that is looked for is no letter. -/
namespace FormulaLexer.LetterCaseValues
open Text Unicode LetterCase Lockstep Number

/-! ## Lower case -/

theorem meets_cased_twins {u v : Text} (twins : Twins u v) : meetsCased u = meetsCased v := by
  have ignorable : ∀ {c d}, Twin c d → isCaseIgnorable c = isCaseIgnorable d := fun twin =>
    twin.same isCaseIgnorable (by decide +kernel)
  have rest := twins.dropWhile ignorable
  rw [meetsCased, meetsCased]
  generalize u.dropWhile isCaseIgnorable = rest, v.dropWhile isCaseIgnorable = rest' at rest ⊢
  cases rest with
  | nil => rfl
  | cons twin _ => exact twin.same isCased (by decide +kernel)

theorem lower_from_twins {before before' u v : Text} (front : Twins before before')
    (twins : Twins u v) : lowerFrom before u = lowerFrom before' v := by
  induction twins generalizing before before' with
  | nil => rfl
  | @cons c d u v twin twins ih =>
    have sigma : c = 'Σ' ↔ d = 'Σ' := twin.mark (by decide)
    have lowered : lowerChar c = lowerChar d := twin.same lowerChar (by decide +kernel)
    rw [lowerFrom, lowerFrom, meets_cased_twins front, meets_cased_twins twins, lowered,
      ih (.cons twin front)]
    simp only [sigma]

/-- Lower-casing makes no difference between twins. -/
theorem lower_case_twins {u v : Text} (twins : Twins u v) : lowerCase u = lowerCase v :=
  lower_from_twins .nil twins

/-! ## Whole numbers -/

theorem digit_value_twin {base : Nat} (known : base = 10 ∨ base = 16) {c d : Char}
    (twin : Twin c d) : digitValue? base c = digitValue? base d := by
  rcases known with rfl | rfl
  · exact twin.same (digitValue? 10) (by decide)
  · exact twin.same (digitValue? 16) (by decide)

theorem read_digits_twins {u v : Text} (twins : Twins u v) (limit : Nat) (beyond : ReadError)
    (value : Nat) : readDigits 10 limit beyond value u = readDigits 10 limit beyond value v := by
  induction twins generalizing value with
  | nil => rfl
  | cons twin _ ih => simp only [readDigits, digit_value_twin (.inl rfl) twin, ih]

theorem fold_twins {f : Nat → Char → Except ReadError Nat}
    (blind : ∀ value {c d}, Twin c d → f value c = f value d) {u v : Text} (twins : Twins u v)
    (value : Nat) : u.foldlM f value = v.foldlM f value := by
  induction twins generalizing value with
  | nil => rfl
  | cons twin _ ih =>
    rw [List.foldlM_cons, List.foldlM_cons, blind value twin]
    congr 1
    exact funext ih

theorem read_unbounded_twins {base : Nat} (known : base = 10 ∨ base = 16) {u v : Text}
    (twins : Twins u v) : readUnbounded base u = readUnbounded base v := by
  cases twins with
  | nil => rfl
  | cons twin twins =>
    simp only [readUnbounded]
    refine fold_twins (fun value c d twin => ?_) (.cons twin twins) 0
    rw [digit_value_twin known twin]

/-- Twins have the same sign in front, or both have none. -/
theorem sign_cases {u v : Text} (twins : Twins u v) :
    (∃ us vs, u = '-' :: us ∧ v = '-' :: vs ∧ Twins us vs) ∨
      (∃ us vs, u = '+' :: us ∧ v = '+' :: vs ∧ Twins us vs) ∨
      (u.head? ≠ some '-' ∧ u.head? ≠ some '+' ∧ v.head? ≠ some '-' ∧ v.head? ≠ some '+') := by
  cases twins with
  | nil => exact .inr (.inr ⟨nofun, nofun, nofun, nofun⟩)
  | @cons c d u v twin twins =>
    have minus : c = '-' ↔ d = '-' := twin.mark (by decide)
    have plus : c = '+' ↔ d = '+' := twin.mark (by decide)
    by_cases negative : c = '-'
    · exact .inl ⟨u, v, by rw [negative], by rw [minus.mp negative], twins⟩
    · by_cases positive : c = '+'
      · exact .inr (.inl ⟨u, v, by rw [positive], by rw [plus.mp positive], twins⟩)
      · exact .inr (.inr (by simp [negative, positive, ← minus, ← plus]))

theorem read_int_unsigned {text : Text} (filled : text ≠ []) (negative : text.head? ≠ some '-')
    (positive : text.head? ≠ some '+') (bits : Nat) :
    readInt bits text = (do
      let size ← readDigits 10 (Nat.pow 2 (bits - 1) - 1) .tooLarge 0 text
      return (size : Int)) := by
  unfold readInt
  split <;> simp_all

theorem read_int_twins {u v : Text} (twins : Twins u v) (bits : Nat) :
    readInt bits u = readInt bits v := by
  obtain ⟨us, vs, rfl, rfl, digits⟩ | ⟨us, vs, rfl, rfl, digits⟩ |
    ⟨negative, positive, negative', positive'⟩ := sign_cases twins
  · cases digits with
    | nil => rfl
    | cons twin digits => simp only [readInt, read_digits_twins (.cons twin digits)]
  · cases digits with
    | nil => rfl
    | cons twin digits => simp only [readInt, read_digits_twins (.cons twin digits)]
  · cases twins with
    | nil => rfl
    | cons twin digits =>
      rw [read_int_unsigned (by simp) negative positive, read_int_unsigned (by simp) negative'
        positive', read_digits_twins (.cons twin digits)]

/-! ## Decimals -/

/-- Two results that are the same value or both errors. -/
abbrev Agree {ε α : Type} : Except ε α → Except ε α → Prop := Results (fun _ _ => True) Eq

theorem read_unscaled_twins {u v : Text} (twins : Twins u v) :
    Decimal.readUnscaled u = Decimal.readUnscaled v := by
  obtain ⟨us, vs, rfl, rfl, digits⟩ | ⟨us, vs, rfl, rfl, digits⟩ |
    ⟨negative, positive, negative', positive'⟩ := sign_cases twins
  · simp only [Decimal.readUnscaled, read_unbounded_twins (.inl rfl) digits]
  · simp only [Decimal.readUnscaled, read_unbounded_twins (.inl rfl) digits]
  · have unsigned : ∀ {text : Text}, text.head? ≠ some '-' → text.head? ≠ some '+' →
        Decimal.readUnscaled text = (do
          let size ← readUnbounded 10 text
          return (size : Int)) := by
      intro text negative positive
      unfold Decimal.readUnscaled
      split <;> simp_all
    rw [unsigned negative positive, unsigned negative' positive',
      read_unbounded_twins (.inl rfl) twins]

theorem split_exponent_twins {u v : Text} (twins : Twins u v) :
    Results Eq (fun parts parts' => Twins parts.1 parts'.1 ∧ parts.2 = parts'.2)
      (Decimal.splitExponent u) (Decimal.splitExponent v) := by
  have mark : ∀ {c d}, Twin c d → (!Decimal.isExponentMark c) = !Decimal.isExponentMark d :=
    fun twin => twin.same (fun c => !Decimal.isExponentMark c) (by decide)
  have base := twins.takeWhile mark
  have rest := twins.dropWhile mark
  rw [Decimal.splitExponent, Decimal.splitExponent]
  generalize u.dropWhile (fun c => !Decimal.isExponentMark c) = behind,
    v.dropWhile (fun c => !Decimal.isExponentMark c) = behind' at rest ⊢
  cases rest with
  | nil => exact .ok ⟨twins, rfl⟩
  | cons _ exponent =>
    dsimp only
    rw [read_int_twins exponent]
    split
    · exact .ok ⟨base, rfl⟩
    · exact .error rfl

theorem join_at_point_twins {u v : Text} (twins : Twins u v) :
    Twins (Decimal.joinAtPoint u).1 (Decimal.joinAtPoint v).1 ∧
      (Decimal.joinAtPoint u).2 = (Decimal.joinAtPoint v).2 := by
  have point : ∀ {c d}, Twin c d → decide (c ≠ '.') = decide (d ≠ '.') :=
    fun twin => twin.same (fun c => decide (c ≠ '.')) (by decide)
  have front := twins.takeWhile point
  have rest := twins.dropWhile point
  rw [Decimal.joinAtPoint, Decimal.joinAtPoint]
  generalize u.dropWhile (fun c => decide (c ≠ '.')) = behind,
    v.dropWhile (fun c => decide (c ≠ '.')) = behind' at rest ⊢
  cases rest with
  | nil => exact ⟨twins, rfl⟩
  | cons _ digits => exact ⟨List.rel_append front digits, digits.length_eq⟩

theorem decimal_twins {u v : Text} (twins : Twins u v) : Agree (Decimal.read u) (Decimal.read v) := by
  have parts := split_exponent_twins twins
  rw [Decimal.read, Decimal.read]
  generalize Decimal.splitExponent u = split, Decimal.splitExponent v = split' at parts ⊢
  cases parts with
  | error _ => exact .error trivial
  | @ok parts parts' same =>
    obtain ⟨base, exponent⟩ := parts
    obtain ⟨base', exponent'⟩ := parts'
    obtain ⟨digits, rfl⟩ := same
    obtain ⟨joined, behind⟩ := join_at_point_twins digits
    have empty : base.isEmpty = base'.isEmpty := by cases digits <;> rfl
    simp only [bind, Except.bind, empty, behind, read_unscaled_twins joined]
    split
    · exact .error trivial
    · split
      · exact .error trivial
      · split
        · exact .ok rfl
        · exact .error trivial

/-! ## Dates -/

theorem bind_twins {α β : Type} {R : α → α → Prop} {S : β → β → Prop} {x y : Option α}
    {f g : α → Option β} (first : Option.Rel R x y)
    (later : ∀ {a b}, R a b → Option.Rel S (f a) (g b)) : Option.Rel S (x.bind f) (y.bind g) := by
  cases first with
  | none => exact .none
  | some alike => exact later alike

theorem expect_twins {mark : Char} (sign : Sign mark)
    {u v : Text} (twins : Twins u v) :
    Option.Rel Twins (DateTime.expect? [mark] u) (DateTime.expect? [mark] v) := by
  cases twins with
  | nil => exact .none
  | cons twin twins =>
    simp only [DateTime.expect?, List.mem_singleton, twin.mark sign]
    split
    · exact .some twins
    · exact .none

/-- Digits are the same in twins. -/
theorem field_twins {u v : Text} (twins : Twins u v) (lengths : List Nat) :
    Option.Rel (fun field field' => field.1 = field'.1 ∧ Twins field.2 field'.2)
      (DateTime.LiteralParts.takeField? lengths u) (DateTime.LiteralParts.takeField? lengths v) := by
  have digits := twins.takeWhile Twin.digit
  have same : u.takeWhile isDecimalDigit = v.takeWhile isDecimalDigit :=
    digits.eq_of_unlettered (p := isDecimalDigit) (by decide +kernel) fun c member =>
      List.all_eq_true.mp List.all_takeWhile c member
  rw [DateTime.LiteralParts.takeField?, DateTime.LiteralParts.takeField?, same]
  split
  · exact .some ⟨rfl, twins.dropWhile Twin.digit⟩
  · exact .none

/-- The field behind a sign. -/
theorem next_field_twins {mark : Char} (sign : Sign mark)
    {u v : Text} (twins : Twins u v) :
    Option.Rel (fun field field' => field.1 = field'.1 ∧ Twins field.2 field'.2)
      ((DateTime.expect? [mark] u).bind (DateTime.LiteralParts.takeField? [1, 2]))
      ((DateTime.expect? [mark] v).bind (DateTime.LiteralParts.takeField? [1, 2])) :=
  bind_twins (expect_twins sign twins) fun rest => field_twins rest [1, 2]

theorem clock_twins {u v : Text} (twins : Twins u v) :
    Option.Rel (fun clock clock' => clock.1 = clock'.1 ∧ Twins clock.2 clock'.2)
      (DateTime.LiteralParts.takeClock? u) (DateTime.LiteralParts.takeClock? v) := by
  refine bind_twins (next_field_twins (by decide) twins) ?_
  rintro ⟨hour, rest⟩ ⟨_, rest'⟩ ⟨rfl, twins⟩
  refine bind_twins (next_field_twins (by decide) twins) ?_
  rintro ⟨minute, rest⟩ ⟨_, rest'⟩ ⟨rfl, twins⟩
  refine bind_twins (next_field_twins (by decide) twins) ?_
  rintro ⟨second, rest⟩ ⟨_, rest'⟩ ⟨rfl, twins⟩
  exact .some ⟨rfl, twins⟩

/-- A zone is no longer than one letter, or there is no letter in it. -/
theorem is_zone_twins {u v : Text} (twins : Twins u v) :
    DateTime.LiteralParts.isZone u = DateTime.LiteralParts.isZone v := by
  have digits : ∀ {u v : Text}, Twins u v → u.all isDecimalDigit = v.all isDecimalDigit := by
    intro u v twins
    induction twins with
    | nil => rfl
    | cons twin _ ih => rw [List.all_cons, List.all_cons, twin.digit, ih]
  cases twins with
  | nil => rfl
  | @cons c d u v sign twins =>
    have minus : c = '-' ↔ d = '-' := sign.mark (by decide)
    have plus : c = '+' ↔ d = '+' := sign.mark (by decide)
    cases twins with
    | nil => exact sign.same (fun c => DateTime.LiteralParts.isZone [c]) (by decide +kernel)
    | @cons e f u v next others =>
      have rest : Twins (e :: u) (f :: v) := .cons next others
      have colon : ((e :: u).drop 2).head? = some ':' ↔ ((f :: v).drop 2).head? = some ':' :=
        Twins.head (List.forall₂_drop 2 rest) (by decide)
      have shown : Twins (if ((e :: u).drop 2).head? = some ':' then
            (e :: u).take 2 ++ (e :: u).drop 3 else e :: u)
          (if ((f :: v).drop 2).head? = some ':' then (f :: v).take 2 ++ (f :: v).drop 3
            else f :: v) := by
        rw [if_congr colon rfl rfl]
        split
        · exact List.rel_append (List.forall₂_take 2 rest) (List.forall₂_drop 3 rest)
        · exact rest
      simp only [DateTime.LiteralParts.isZone, minus, plus, shown.length_eq, digits shown]

/-- The fields of two literals. Only the letter of a zone can differ. -/
structure PartsTwin (parts parts' : DateTime.LiteralParts) : Prop where
  year : parts.year = parts'.year
  month : parts.month = parts'.month
  day : parts.day = parts'.day
  clock : parts.clock = parts'.clock
  zone : Option.Rel Twins parts.zone parts'.zone

/-- The fields of a literal, given those in front of the zone and what stands behind them. -/
def endingIn (year month day : Text) (clock : Option (Text × Text × Text)) (rest : Text) :
    Option DateTime.LiteralParts :=
  let zone := (DateTime.expect? [' '] rest).getD rest
  if zone.isEmpty then some ⟨year, month, day, clock, none⟩
  else if DateTime.LiteralParts.isZone zone then some ⟨year, month, day, clock, some zone⟩
  else none

theorem ending_twins (year month day : Text) (clock : Option (Text × Text × Text)) {u v : Text}
    (twins : Twins u v) :
    Option.Rel PartsTwin (endingIn year month day clock u) (endingIn year month day clock v) := by
  have zone : Twins ((DateTime.expect? [' '] u).getD u) ((DateTime.expect? [' '] v).getD v) := by
    have behind : Option.Rel Twins (DateTime.expect? [' '] u) (DateTime.expect? [' '] v) :=
      expect_twins (by decide) twins
    generalize DateTime.expect? [' '] u = left, DateTime.expect? [' '] v = right at behind ⊢
    cases behind with
    | none => exact twins
    | some others => exact others
  rw [endingIn, endingIn]
  generalize (DateTime.expect? [' '] u).getD u = left, (DateTime.expect? [' '] v).getD v = right
    at zone ⊢
  have empty : left.isEmpty = right.isEmpty := by cases zone <;> rfl
  rw [empty, is_zone_twins zone]
  split
  · exact .some ⟨rfl, rfl, rfl, rfl, .none⟩
  · split
    · exact .some ⟨rfl, rfl, rfl, rfl, .some zone⟩
    · exact .none

theorem parts_twins {u v : Text} (twins : Twins u v) :
    Option.Rel PartsTwin (DateTime.LiteralParts.ofText? u) (DateTime.LiteralParts.ofText? v) := by
  refine bind_twins (field_twins twins [2, 4]) ?_
  rintro ⟨year, rest⟩ ⟨_, rest'⟩ ⟨rfl, twins⟩
  refine bind_twins (next_field_twins (by decide) twins) ?_
  rintro ⟨month, rest⟩ ⟨_, rest'⟩ ⟨rfl, twins⟩
  refine bind_twins (next_field_twins (by decide) twins) ?_
  rintro ⟨day, rest⟩ ⟨_, rest'⟩ ⟨rfl, twins⟩
  -- both literals have a clock, the same one, or neither has
  have clocks := clock_twins twins
  dsimp only
  generalize DateTime.LiteralParts.takeClock? rest = clock,
    DateTime.LiteralParts.takeClock? rest' = clock' at clocks ⊢
  cases clocks with
  | none => exact ending_twins year month day none twins
  | @some clock clock' same =>
    obtain ⟨clock, rest⟩ := clock
    obtain ⟨_, rest'⟩ := clock'
    obtain ⟨rfl, twins⟩ := same
    exact ending_twins year month day (some clock) twins

theorem Agree.refl {ε α : Type} (x : Except ε α) : Agree x x := by
  cases x with
  | error _ => exact .error trivial
  | ok _ => exact .ok rfl

theorem Agree.bind {ε α β : Type} {x y : Except ε α} {f g : α → Except ε β} (first : Agree x y)
    (later : ∀ a, Agree (f a) (g a)) : Agree (x >>= f) (y >>= g) := by
  cases first with
  | error _ => exact .error trivial
  | ok same => exact same ▸ later _

theorem signed_zone_twins {u v : Text} (twins : Twins u v) :
    Agree (DateTime.readSignedZone u) (DateTime.readSignedZone v) := by
  have minus : u.head? = some '-' ↔ v.head? = some '-' := twins.head (by decide)
  have digits : Twins ((u.drop 1).filter (· ≠ ':')) ((v.drop 1).filter (· ≠ ':')) :=
    Twins.filter (List.forall₂_drop 1 twins) fun twin =>
      twin.same (fun c => decide (c ≠ ':')) (by decide)
  rw [DateTime.readSignedZone, DateTime.readSignedZone]
  dsimp only
  rw [read_int_twins (List.forall₂_take 2 digits), read_int_twins (List.forall₂_drop 2 digits)]
  split
  · exact .error trivial
  · exact .error trivial
  · split
    · exact .ok (if_congr minus rfl rfl)
    · exact .error trivial

theorem read_zone_eq (zone : LocalZone) (text : Text) (date : Date) (time : TimeOfDay)
    (written : Text) : DateTime.readZone zone text date time (some written) =
      if written = ['Z'] ∨ written = ['z'] then .ok 0 else DateTime.readSignedZone written := by
  unfold DateTime.readZone
  split <;> simp_all

theorem zone_twins {mark mark' : Option Text} (twins : Option.Rel Twins mark mark')
    (zone : LocalZone) (u v : Text) (date : Date) (time : TimeOfDay) :
    Agree (DateTime.readZone zone u date time mark)
      (DateTime.readZone zone v date time mark') := by
  cases twins with
  | none =>
    rw [DateTime.readZone, DateTime.readZone]
    cases zone.offset? date time with
    | none => exact .error trivial
    | some offset => exact .ok rfl
  | @some mark mark' twins =>
    have letter : (mark = ['Z'] ∨ mark = ['z']) ↔ (mark' = ['Z'] ∨ mark' = ['z']) := by
      cases twins with
      | nil => simp
      | @cons c d u v twin twins =>
        have both := twin.same (fun c => decide (c = 'Z' ∨ c = 'z')) (by decide)
        cases twins with
        | nil => simpa using decide_eq_decide.mp both
        | cons => simp
    rw [read_zone_eq, read_zone_eq, if_congr letter rfl rfl]
    split
    · exact .ok rfl
    · exact signed_zone_twins twins

theorem of_parts_twins {parts parts' : DateTime.LiteralParts} (twin : PartsTwin parts parts')
    (zone : LocalZone) (u v : Text) :
    Agree (DateTime.ofParts zone u parts) (DateTime.ofParts zone v parts') := by
  rw [DateTime.ofParts, DateTime.ofParts, twin.year, twin.month, twin.day, twin.clock]
  refine (Agree.refl _).bind fun year => (Agree.refl _).bind fun month =>
    (Agree.refl _).bind fun day => ?_
  dsimp only
  split
  · exact .error trivial
  have rest : ∀ time : TimeOfDay, Agree
      (if !time.isValid then .error (.noSuchTime u) else do
        let offset ← DateTime.readZone zone u ⟨year, month, day⟩ time parts.zone
        return DateTime.ofLocal ⟨year, month, day⟩ time offset)
      (if !time.isValid then .error (.noSuchTime v) else do
        let offset ← DateTime.readZone zone v ⟨year, month, day⟩ time parts'.zone
        return DateTime.ofLocal ⟨year, month, day⟩ time offset) := by
    intro time
    split
    · exact .error trivial
    · exact (zone_twins twin.zone zone u v _ time).bind fun offset => .refl _
  split
  · exact rest .midnight
  · exact (Agree.refl _).bind fun hour => (Agree.refl _).bind fun minute =>
      (Agree.refl _).bind fun second => rest ⟨hour, minute, second⟩

theorem date_time_twins {u v : Text} (twins : Twins u v) (zone : LocalZone) :
    Agree (DateTime.ofLiteral u zone) (DateTime.ofLiteral v zone) := by
  have parts := parts_twins twins.trim
  rw [DateTime.ofLiteral, DateTime.ofLiteral]
  generalize DateTime.LiteralParts.ofText? u.trim = read, DateTime.LiteralParts.ofText? v.trim = read'
    at parts ⊢
  cases parts with
  | none => exact .error trivial
  | some twin => exact of_parts_twins twin zone _ _

/-! ## Converters -/

/-- Spellings without letters are looked up alike. -/
theorem look_up_twins {table : List (String × String)}
    (signs : (table.all fun entry => entry.1.toList.all fun c => !c.isAlpha) = true) {u v : Text}
    (twins : Twins u v) (kind : String) :
    Agree (BuiltIn.lookUp kind table u) (BuiltIn.lookUp kind table v) := by
  have letters : Unlettered fun c => !c.isAlpha := by decide
  have found : (table.find? fun entry => entry.1.toList = u) =
      table.find? fun entry => entry.1.toList = v := by
    induction table with
    | nil => rfl
    | cons entry table ih =>
      rw [List.all_cons, Bool.and_eq_true] at signs
      have same : entry.1.toList = u ↔ entry.1.toList = v := by
        have unlettered := List.all_eq_true.mp signs.1
        constructor
        · intro spelled
          rw [spelled] at unlettered ⊢
          exact twins.eq_of_unlettered letters unlettered
        · intro spelled
          rw [spelled] at unlettered ⊢
          exact twins.symm.eq_of_unlettered letters unlettered
      rw [List.find?_cons, List.find?_cons, decide_eq_decide.mpr same,
        ih signs.2]
  rw [BuiltIn.lookUp, BuiltIn.lookUp, found]
  split
  · exact .ok rfl
  · exact .error trivial

theorem number_twins {u v : Text} (twins : Twins u v) :
    Agree (BuiltIn.toNumber u) (BuiltIn.toNumber v) := by
  have point : u.contains '.' = v.contains '.' := by
    rw [Bool.eq_iff_iff, List.contains_iff_mem, List.contains_iff_mem]
    exact twins.mem (by decide)
  have first : u.head? = some '.' ↔ v.head? = some '.' := twins.head (by decide)
  have padded : Twins (if u.head? = some '.' then '0' :: u else u)
      (if v.head? = some '.' then '0' :: v else v) := by
    rw [if_congr first rfl rfl]
    split
    · exact .cons (.refl _) twins
    · exact twins
  have digits : Twins (u.takeWhile Char.isDigit) (v.takeWhile Char.isDigit) :=
    twins.takeWhile fun twin => twin.same Char.isDigit (by decide)
  rw [BuiltIn.toNumber, BuiltIn.toNumber, point]
  split
  · rw [BuiltIn.toDecimal, BuiltIn.toDecimal]
    have agree := decimal_twins padded
    generalize Decimal.read (if u.head? = some '.' then '0' :: u else u) = read,
      Decimal.read (if v.head? = some '.' then '0' :: v else v) = read' at agree ⊢
    cases agree with
    | error _ => exact .error trivial
    | ok same => exact .ok (by rw [same])
  · rw [BuiltIn.toWhole, BuiltIn.toWhole, read_unbounded_twins (.inl rfl) digits]
    exact .refl _

theorem hexadecimal_twins {u v : Text} (twins : Twins u v) :
    Agree (BuiltIn.toHexadecimal u) (BuiltIn.toHexadecimal v) := by
  rw [BuiltIn.toHexadecimal, BuiltIn.toHexadecimal,
    read_unbounded_twins (.inr rfl) (List.forall₂_drop 2 twins)]
  split
  · exact .ok rfl
  · exact .error trivial

theorem to_date_time_twins {u v : Text} (twins : Twins u v) (zone : LocalZone) :
    Agree (BuiltIn.toDateTime zone u) (BuiltIn.toDateTime zone v) := by
  have agree := date_time_twins twins zone
  rw [BuiltIn.toDateTime, BuiltIn.toDateTime]
  generalize DateTime.ofLiteral u zone = read, DateTime.ofLiteral v zone = read' at agree ⊢
  cases agree with
  | error _ => exact .error trivial
  | ok same => exact .ok (by rw [same])

/-- Apart from strings and function heads, twins have the same value or none. -/
theorem convert_twins {builtIn : BuiltIn} (other : builtIn.category ≠ .string)
    (notFunction : builtIn ≠ .function) {u v : Text} (twins : Twins u v) (zone : LocalZone) :
    Agree (builtIn.convert false zone u) (builtIn.convert false zone v) := by
  cases builtIn with
  | null => exact .refl _
  | whitespace => exact .refl _
  | dateTime => exact to_date_time_twins twins zone
  | numeric => exact number_twins twins
  | hexadecimal => exact hexadecimal_twins twins
  | doubleQuotedString => exact absurd rfl other
  | singleQuotedString => exact absurd rfl other
  | negate => exact .refl _
  | booleanOperator =>
    simp only [BuiltIn.convert, lower_case_twins twins.trim]
    exact .refl _
  | arithmeticOperator => exact look_up_twins (by decide) twins _
  | grouping => exact look_up_twins (by decide) twins _
  | access => exact look_up_twins (by decide) twins _
  | caseStatement =>
    simp only [BuiltIn.convert, lower_case_twins twins]
    exact .refl _
  | comparisonOperator => exact look_up_twins (by decide) twins _
  | boolean =>
    simp only [BuiltIn.convert, twins_iff.mp twins.trim]
    exact .refl _
  | function => exact absurd rfl notFunction
  | identifier =>
    simp only [BuiltIn.convert, BuiltIn.toIdentifier, lower_case_twins twins.trim]
    exact .refl _

end FormulaLexer.LetterCaseValues
