import Mathlib.Algebra.Ring.Nat
import Mathlib.Data.List.TakeWhile
import FormulaLexer.Text

/-! Cutting texts at byte offsets. A cut succeeds exactly at the places between two characters,
and what it returns is the text on the two sides of the place. The bounds compare the two measures of
a text, its bytes and its characters; trimming cuts off the blanks at the ends. -/
namespace FormulaLexer.TextCuts
open Text

/-- A place between two characters, at an end included, given by the bytes in front of it. -/
def Boundary (text : Text) (offset : Nat) : Prop :=
  ∃ front back, text = front ++ back ∧ byteSize front = offset

@[simp] theorem byte_size_nil : byteSize [] = 0 := rfl

@[simp] theorem byte_size_cons (c : Char) (text : Text) :
    byteSize (c :: text) = c.utf8Size + byteSize text := rfl

@[simp] theorem byte_size_append (front back : Text) :
    byteSize (front ++ back) = byteSize front + byteSize back := by
  induction front with
  | nil => simp
  | cons c front ih => simp [ih, Nat.add_assoc]

/-- Every character takes at least one byte. -/
theorem length_le_byte_size (text : Text) : text.length ≤ byteSize text := by
  induction text with
  | nil => simp
  | cons c text ih =>
    have positive := c.utf8Size_pos
    simp only [List.length_cons, byte_size_cons]
    omega

theorem byte_size_eq_zero {text : Text} : byteSize text = 0 ↔ text = [] := by
  constructor
  · intro none
    have bound := length_le_byte_size text
    exact List.eq_nil_of_length_eq_zero (by omega)
  · rintro rfl
    rfl

theorem byte_size_pos {text : Text} : 0 < byteSize text ↔ text ≠ [] := by
  rw [Nat.pos_iff_ne_zero, ne_eq, byte_size_eq_zero]

/-! ## Cuts -/

/-- Behind a text as long as the cut, the cut succeeds. -/
theorem split_at_end (front back : Text) :
    splitAtByte? (byteSize front) (front ++ back) = some (front, back) := by
  induction front with
  | nil => cases back <;> rfl
  | cons c front ih =>
    obtain ⟨bytes, size⟩ : ∃ bytes, byteSize (c :: front) = bytes + 1 :=
      ⟨byteSize (c :: front) - 1, by
        have positive : 0 < byteSize (c :: front) := byte_size_pos.mpr (by simp)
        omega⟩
    have rest : bytes + 1 - c.utf8Size = byteSize front := by
      simp only [byte_size_cons] at size
      omega
    have fits : c.utf8Size ≤ bytes + 1 := by
      simp only [byte_size_cons] at size
      omega
    rw [size, List.cons_append, splitAtByte?, if_pos fits, rest, ih]

/-- A cut that succeeds leaves the two sides of the text, the first of the size asked for. -/
theorem split_exact {bytes : Nat} {text front back : Text}
    (cut : splitAtByte? bytes text = some (front, back)) :
    text = front ++ back ∧ byteSize front = bytes := by
  induction text generalizing bytes front back with
  | nil =>
    cases bytes with
    | zero =>
      simp only [splitAtByte?, Option.some.injEq, Prod.mk.injEq] at cut
      obtain ⟨rfl, rfl⟩ := cut
      exact ⟨rfl, rfl⟩
    | succ bytes => simp [splitAtByte?] at cut
  | cons c text ih =>
    cases bytes with
    | zero =>
      simp only [splitAtByte?, Option.some.injEq, Prod.mk.injEq] at cut
      obtain ⟨rfl, rfl⟩ := cut
      exact ⟨rfl, rfl⟩
    | succ bytes =>
      rw [splitAtByte?] at cut
      split at cut
      next fits =>
        cases inner : splitAtByte? (bytes + 1 - c.utf8Size) text with
        | none => simp [inner] at cut
        | some parts =>
          obtain ⟨head, tail⟩ := parts
          simp only [inner, Option.some.injEq, Prod.mk.injEq] at cut
          obtain ⟨rfl, rfl⟩ := cut
          obtain ⟨whole, size⟩ := ih inner
          refine ⟨by rw [whole, List.cons_append], ?_⟩
          simp only [byte_size_cons, size]
          omega
      next => cases cut

/-- Two ways to cut a text at the same offset are the same. -/
theorem cut_unique {front front' back back' : Text} (same : front ++ back = front' ++ back')
    (size : byteSize front = byteSize front') : front = front' ∧ back = back' := by
  have cut := split_at_end front back
  rw [same, size, split_at_end] at cut
  cases cut
  exact ⟨rfl, rfl⟩

/-- A text begins with one longest run of characters of a kind only. -/
theorem run_unique {p : Char → Bool} {a b x y : Text} (front : ∀ c ∈ a, p c = true)
    (front' : ∀ c ∈ b, p c = true) (stops : ∀ c ∈ x.head?, p c = false)
    (stops' : ∀ c ∈ y.head?, p c = false) (same : a ++ x = b ++ y) : a = b ∧ x = y := by
  have run : ∀ {a x : Text}, (∀ c ∈ a, p c = true) → (∀ c ∈ x.head?, p c = false) →
      (a ++ x).takeWhile p = a := by
    intro a x inside stops
    rw [List.takeWhile_append_of_pos inside]
    cases x with
    | nil => rw [List.takeWhile_nil, List.append_nil]
    | cons c x => rw [List.takeWhile_cons_of_neg (by simp [stops c rfl]), List.append_nil]
  obtain rfl : a = b := by rw [← run front stops, same, run front' stops']
  exact ⟨rfl, List.append_cancel_left same⟩

/-- Slices that begin behind a known text are cuts of the rest. -/
theorem slice_behind (front back : Text) (bytes : Nat) :
    slice? (front ++ back) (byteSize front) (byteSize front + bytes) =
      (splitAtByte? bytes back).map Prod.fst := by
  simp [slice?, split_at_end]

/-! ## Shortening -/

/-- A text that is not longer than the limit is left whole. -/
theorem abbreviate_eq (limit : Nat) (text : Text) :
    Text.abbreviate limit text =
      if text.length ≤ limit then text else text.take limit ++ "...".toList := by
  rw [Text.abbreviate]
  simp

/-! ## Trimming -/

/-- Trimming takes away the blanks behind a text that neither begins nor ends with one. -/
theorem trim_ends {text blanks : Text} (head : ∀ c ∈ text.head?, Unicode.isBlank c = false)
    (last : ∀ c ∈ text.getLast?, Unicode.isBlank c = false)
    (blank : ∀ c ∈ blanks, Unicode.isBlank c = true) : (text ++ blanks).trim = text := by
  cases text with
  | nil => rw [List.nil_append, Text.trim, List.dropWhile_eq_nil_iff.mpr blank]; rfl
  | cons c text =>
    have front : (c :: (text ++ blanks)).dropWhile Unicode.isBlank = c :: (text ++ blanks) :=
      List.dropWhile_cons_of_neg (by simp [head c rfl])
    have back : (c :: text).reverse.dropWhile Unicode.isBlank = (c :: text).reverse := by
      rw [← List.head?_reverse] at last
      generalize (c :: text).reverse = reversed at last ⊢
      cases reversed with
      | nil => rfl
      | cons d reversed => exact List.dropWhile_cons_of_neg (by simp [last d rfl])
    have behind : ∀ d ∈ blanks.reverse, Unicode.isBlank d = true := by simpa using blank
    rw [List.cons_append, Text.trim, front, ← List.cons_append, Text.dropEndWhile,
      List.reverse_append, List.dropWhile_append_of_pos behind, back, List.reverse_reverse]

/-- A text that neither begins nor ends with a blank is trimmed. -/
theorem trim_of_ends {text : Text} (head : ∀ c ∈ text.head?, Unicode.isBlank c = false)
    (last : ∀ c ∈ text.getLast?, Unicode.isBlank c = false) : text.trim = text := by
  have trimmed := @trim_ends text [] head last (by simp)
  rwa [List.append_nil] at trimmed

end FormulaLexer.TextCuts
