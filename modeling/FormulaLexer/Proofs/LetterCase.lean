import Mathlib.Data.List.Forall2
import FormulaLexer.Proofs.BuiltInMatches

/-! The case of ASCII letters in texts and patterns. Texts are twins if they become equal when their
ASCII letters are lower-cased. What does not tell a capital letter from its small one does not tell
twins apart, and that is so of all sets of the built-in patterns and of the edges of words, so that
each of the patterns matches twins alike. -/
namespace FormulaLexer.LetterCase
open Text Unicode Ways Spelling SearchAgreement BuiltInMatches

/-! ## Characters -/

/-- The capital letters of ASCII. -/
def capitals : List Char := (List.range' 0x41 26).map Char.ofNat

theorem lower_of_no_capital {c : Char} (other : c ∉ capitals) : c.toLower = c := by
  refine dif_neg fun letter => other ?_
  have lower : 'A'.toNat ≤ c.toNat := letter.1
  have upper : c.toNat ≤ 'Z'.toNat := letter.2
  exact List.mem_map.mpr ⟨c.toNat, List.mem_range'_1.mpr ⟨lower, Nat.lt_succ_of_le upper⟩,
    Char.ofNat_toNat c⟩

/-- Characters that are the same up to the case of ASCII letters. -/
def Twin (c d : Char) : Prop := c.toLower = d.toLower

/-- Whether a function does not tell capital letters from small ones. -/
def Blind {α : Type} (f : Char → α) : Prop := ∀ c ∈ capitals, f c.toLower = f c

instance {α : Type} [DecidableEq α] (f : Char → α) : Decidable (Blind f) :=
  List.decidableBAll (fun c => f c.toLower = f c) capitals

/-- Whether a condition holds of no letter. -/
def Unlettered (p : Char → Bool) : Prop := ∀ c ∈ capitals, p c = false ∧ p c.toLower = false

instance (p : Char → Bool) : Decidable (Unlettered p) :=
  List.decidableBAll (fun c => p c = false ∧ p c.toLower = false) capitals

/-- What does not tell capital letters from small ones does not tell twins apart. -/
theorem Twin.same {α : Type} {c d : Char} (twin : Twin c d) (f : Char → α) (blind : Blind f) :
    f c = f d := by
  have all : ∀ c, f c.toLower = f c := by
    intro c
    by_cases capital : c ∈ capitals
    · exact blind c capital
    · rw [lower_of_no_capital capital]
  rw [← all c, twin, all d]

theorem Twin.refl (c : Char) : Twin c c := rfl

theorem Twin.symm {c d : Char} (twin : Twin c d) : Twin d c := Eq.symm twin

/-- What holds of no letter holds of twins only if they are the same. -/
theorem Twin.eq_of_unlettered {c d : Char} (twin : Twin c d) {p : Char → Bool}
    (unlettered : Unlettered p) (holds : p c = true) : c = d := by
  have blind : Blind p := by
    intro c capital
    rw [(unlettered c capital).1, (unlettered c capital).2]
  have kept : ∀ {c}, p c = true → c.toLower = c := by
    intro c holds
    refine lower_of_no_capital fun capital => ?_
    rw [(unlettered c capital).1] at holds
    cases holds
  have other : p d = true := by rw [← twin.same p blind, holds]
  rw [← kept holds, twin, kept other]

/-- Whether a character is no letter. -/
abbrev Sign (mark : Char) : Prop := Unlettered fun c => decide (c = mark)

/-- A character that is no letter has no twin but itself. -/
theorem Twin.mark {c d : Char} (twin : Twin c d) {mark : Char} (sign : Sign mark) :
    c = mark ↔ d = mark := by
  constructor
  · exact fun same => twin.eq_of_unlettered sign (decide_eq_true same) ▸ same
  · exact fun same => twin.symm.eq_of_unlettered sign (decide_eq_true same) ▸ same

theorem Twin.digit {c d : Char} (twin : Twin c d) : isDecimalDigit c = isDecimalDigit d :=
  twin.same isDecimalDigit (by decide +kernel)

theorem Twin.blank {c d : Char} (twin : Twin c d) : isBlank c = isBlank d :=
  twin.same isBlank (by decide +kernel)

theorem Twin.word {c d : Char} (twin : Twin c d) : isWord c = isWord d :=
  twin.same isWord (by decide +kernel)

theorem Twin.size {c d : Char} (twin : Twin c d) : c.utf8Size = d.utf8Size :=
  twin.same Char.utf8Size (by decide)

theorem Twin.newline {c d : Char} (twin : Twin c d) : c = '\n' ↔ d = '\n' :=
  twin.mark (by decide)

/-! ## Texts -/

/-- Texts that are the same up to the case of ASCII letters. -/
abbrev Twins : Text → Text → Prop := List.Forall₂ Twin

theorem twins_iff {u v : Text} : Twins u v ↔ lowerAscii u = lowerAscii v := by
  have same : List.Forall₂ Eq (lowerAscii u) (lowerAscii v) ↔ Twins u v := by
    rw [lowerAscii, lowerAscii, List.forall₂_map_left_iff, List.forall₂_map_right_iff]
    rfl
  rw [← same, List.forall₂_eq_eq_eq]

theorem Twins.refl (text : Text) : Twins text text := List.forall₂_same.mpr fun c _ => .refl c

theorem Twins.symm {u v : Text} (twins : Twins u v) : Twins v u :=
  (twins.imp fun _ _ => Twin.symm).flip

theorem Twins.size {u v : Text} (twins : Twins u v) : byteSize u = byteSize v := by
  induction twins with
  | nil => rfl
  | cons twin _ ih => rw [byteSize, byteSize, twin.size, ih]

theorem Twins.takeWhile {u v : Text} (twins : Twins u v) {p : Char → Bool}
    (blind : ∀ {c d}, Twin c d → p c = p d) : Twins (u.takeWhile p) (v.takeWhile p) := by
  induction twins with
  | nil => exact .nil
  | cons twin _ ih =>
    rw [List.takeWhile_cons, List.takeWhile_cons, blind twin]
    split
    · exact .cons twin ih
    · exact .nil

theorem Twins.dropWhile {u v : Text} (twins : Twins u v) {p : Char → Bool}
    (blind : ∀ {c d}, Twin c d → p c = p d) : Twins (u.dropWhile p) (v.dropWhile p) := by
  induction twins with
  | nil => exact .nil
  | cons twin twins ih =>
    rw [List.dropWhile_cons, List.dropWhile_cons, blind twin]
    split
    · exact ih
    · exact .cons twin twins

theorem Twins.reverse {u v : Text} (twins : Twins u v) : Twins u.reverse v.reverse :=
  List.rel_reverse twins

theorem Twins.trim {u v : Text} (twins : Twins u v) : Twins u.trim v.trim :=
  ((twins.dropWhile Twin.blank).reverse.dropWhile Twin.blank).reverse

theorem Twins.filter {u v : Text} (twins : Twins u v) {p : Char → Bool}
    (blind : ∀ {c d}, Twin c d → p c = p d) : Twins (u.filter p) (v.filter p) :=
  List.rel_filter (fun _ _ twin => Bool.eq_iff_iff.mp (blind twin)) twins

/-- A sign is in both of two twins or in none. -/
theorem Twins.mem {u v : Text} (twins : Twins u v) {mark : Char} (sign : Sign mark) :
    mark ∈ u ↔ mark ∈ v := by
  induction twins with
  | nil => rfl
  | cons twin _ ih =>
    rw [List.mem_cons, List.mem_cons, ih, eq_comm, twin.mark sign, eq_comm]

/-- Twins begin with the same sign. -/
theorem Twins.head {u v : Text} (twins : Twins u v) {mark : Char} (sign : Sign mark) :
    u.head? = some mark ↔ v.head? = some mark := by
  cases twins with
  | nil => rfl
  | cons twin _ => simpa using twin.mark sign

/-- Twins end with the same sign. -/
theorem Twins.last {u v : Text} (twins : Twins u v) {mark : Char} (sign : Sign mark) :
    u.getLast? = some mark ↔ v.getLast? = some mark := by
  rw [List.getLast?_eq_head?_reverse, List.getLast?_eq_head?_reverse]
  exact twins.reverse.head sign

theorem Twins.eq_of_unlettered {u v : Text} (twins : Twins u v) {p : Char → Bool}
    (unlettered : Unlettered p) (holds : ∀ c ∈ u, p c = true) : u = v := by
  induction twins with
  | nil => rfl
  | cons twin _ ih =>
    rw [twin.eq_of_unlettered unlettered (holds _ (by simp)),
      ih fun c member => holds c (by simp [member])]

/-! ## Patterns -/

theorem fold_twin {c d : Char} (twin : Twin c d) : fold c = fold d :=
  twin.same fold (by decide +kernel)

/-- Whether the description of a set shows that it does not tell letters by their case. -/
def caseless : CharSet → Bool
  | .all => true
  | .digit => true
  | .blank => true
  | .word => true
  | .union left right => caseless left && caseless right
  | .complement set => caseless set
  | .ignoringCase _ => true
  | _ => false

theorem contains_twin {set : CharSet} (blind : caseless set = true) {c d : Char} (twin : Twin c d) :
    set.contains c = set.contains d := by
  induction set with
  | all => rfl
  | digit => exact twin.digit
  | blank => exact twin.blank
  | word => exact twin.word
  | union left right ihLeft ihRight =>
    rw [caseless, Bool.and_eq_true] at blind
    rw [CharSet.contains, CharSet.contains, ihLeft blind.1, ihRight blind.2]
  | complement set ih => rw [CharSet.contains, CharSet.contains, ih blind]
  | ignoringCase set =>
    rw [CharSet.contains, CharSet.contains, caseVariants, caseVariants, fold_twin twin]
  | _ => cases blind

/-- The edge of a word is at the same place in twins. -/
theorem holds_twin {before before' next next' : Option Char}
    (front : Option.Rel Twin before before') (back : Option.Rel Twin next next')
    {condition : Anchor} (known : condition = .textStart ∨ condition = .word .boundary false) :
    condition.holds ⟨before, next⟩ = condition.holds ⟨before', next'⟩ := by
  have part : ∀ {c d : Option Char}, Option.Rel Twin c d →
      c.any (isWordPart false) = d.any (isWordPart false) := by
    intro c d twin
    cases twin with
    | none => rfl
    | some twin => exact twin.word
  rcases known with rfl | rfl
  · cases front <;> rfl
  · rw [Anchor.holds, Anchor.holds, part front, part back]

/-- Whether a route neither tells letters by their case nor looks at the ends of lines. -/
def blindRoute : Route → Bool
  | .empty => true
  | .one set => caseless set
  | .anchor condition => condition = .textStart || condition = .word .boundary false
  | .sequence first second => blindRoute first && blindRoute second
  | .either _ preferred other => blindRoute preferred && blindRoute other
  | .star _ _ body => blindRoute body

/-- The same place in twins. -/
structure CursorTwin (here other : Cursor) : Prop where
  before : Option.Rel Twin here.before other.before
  rest : Twins here.rest other.rest

theorem star_ways_twin (greedy : Bool) {step : Cursor → List Cursor}
    (steps : ∀ {here other}, CursorTwin here other →
      List.Forall₂ CursorTwin (step here) (step other)) {here other : Cursor}
    (twin : CursorTwin here other) :
    List.Forall₂ CursorTwin (starWays greedy step here) (starWays greedy step other) := by
  induction size : here.rest.length using Nat.strongRecOn generalizing here other with
  | ind left again =>
    have further : List.Forall₂ CursorTwin
        ((step here).flatMap fun after => if _shorter : after.rest.length < here.rest.length then
          starWays greedy step after else [])
        ((step other).flatMap fun after => if _shorter : after.rest.length < other.rest.length then
          starWays greedy step after else []) := by
      refine List.rel_flatMap (steps twin) fun after after' twins => ?_
      rw [← twin.rest.length_eq, ← twins.rest.length_eq]
      split
      · next shorter => exact again _ (size ▸ shorter) twins rfl
      · exact .nil
    rw [starWays, starWays]
    cases greedy with
    | true => exact List.rel_append further (.cons twin .nil)
    | false => exact .cons twin further

/-- A route that does not tell letters by their case has the same ways through twins. -/
theorem ways_twin {route : Route} (blind : blindRoute route = true) {here other : Cursor}
    (twin : CursorTwin here other) : List.Forall₂ CursorTwin (ways route here) (ways route other) := by
  induction route generalizing here other with
  | empty => exact .cons twin .nil
  | one set =>
    obtain ⟨before, rest⟩ := here
    obtain ⟨before', rest'⟩ := other
    obtain ⟨-, twins⟩ := twin
    dsimp only at twins
    cases twins with
    | nil => exact .nil
    | cons first others =>
      rw [ways, ways]
      dsimp only
      rw [contains_twin blind first]
      split
      · exact .cons ⟨.some first, others⟩ .nil
      · exact .nil
  | anchor condition =>
    have next : Option.Rel Twin here.rest.head? other.rest.head? := by
      obtain ⟨-, twins⟩ := twin
      revert twins
      generalize here.rest = rest, other.rest = rest'
      intro twins
      cases twins with
      | nil => exact .none
      | cons first _ => exact .some first
    have known : condition = .textStart ∨ condition = .word .boundary false := by
      simpa [blindRoute] using blind
    rw [ways, ways, Cursor.place, Cursor.place, holds_twin twin.before next known]
    split
    · exact .cons twin .nil
    · exact .nil
  | sequence first second ihFirst ihSecond =>
    rw [blindRoute, Bool.and_eq_true] at blind
    exact List.rel_flatMap (ihFirst blind.1 twin) fun middle middle' twins => ihSecond blind.2 twins
  | either label preferred other ihPreferred ihOther =>
    rw [blindRoute, Bool.and_eq_true] at blind
    exact List.rel_append (ihPreferred blind.1 twin) (ihOther blind.2 twin)
  | star label greedy body ih => exact star_ways_twin greedy (ih blind) twin

/-- The built-in patterns match twins alike. -/
theorem found_twins (builtIn : BuiltIn) {u v : Text} (twins : Twins u v) :
    Option.Rel (fun part part' => Twins part.text part'.text)
      (builtIn.expression.route.find? u) (builtIn.expression.route.find? v) := by
  have blind : blindRoute builtIn.expression.route = true := by
    cases builtIn <;> decide +kernel
  have start : CursorTwin ⟨none, u⟩ ⟨none, v⟩ := ⟨.none, twins⟩
  have same := ways_twin blind start
  rw [find_eq (route_shape builtIn).1 (route_shape builtIn).2.1,
    find_eq (route_shape builtIn).1 (route_shape builtIn).2.1]
  generalize ways builtIn.expression.route ⟨none, u⟩ = found,
    ways builtIn.expression.route ⟨none, v⟩ = found' at same ⊢
  cases same with
  | nil => exact .none
  | cons first _ =>
    refine .some ?_
    dsimp only
    rw [twins.length_eq, first.rest.length_eq]
    exact List.forall₂_take _ twins

end FormulaLexer.LetterCase
