import FormulaLexer.Proofs.Numerals

/-! The normal forms of decimals. Moving zeros from the end of the unscaled integer into the scale keeps
the number, and the count of its digits is enough to move all of them. A form without such a zero is
the only one of its number, so that decimals are the same exactly if they stand for one number. -/
namespace FormulaLexer.DecimalForms
open Number Numerals

/-- A decimal without a zero at the end of its unscaled integer; zero itself has the scale zero. -/
def Reduced (d : Decimal) : Prop := d = ⟨0, 0⟩ ∨ d.unscaled % 10 ≠ 0

/-- A zero moved into the scale leaves the number as it is. -/
theorem worth_moved {d : Decimal} (zero : d.unscaled % 10 = 0) :
    worth ⟨d.unscaled / 10, d.scale - 1⟩ = worth d := by
  have whole : d.unscaled = 10 * (d.unscaled / 10) := by omega
  have parts : (d.unscaled : ℚ) = 10 * ((d.unscaled / 10 : Int) : ℚ) := by exact_mod_cast whole
  have shift : (10 : ℚ) ^ (-(d.scale - 1)) = 10 * 10 ^ (-d.scale) := by
    rw [neg_sub, sub_eq_add_neg, zpow_add₀ (by norm_num), zpow_one]
  rw [worth, worth, parts]
  dsimp only
  rw [shift]
  ring

theorem worth_drop_zeros (budget : Nat) (d : Decimal) : worth (d.dropZeros budget) = worth d := by
  induction budget generalizing d with
  | zero => rfl
  | succ budget ih =>
    rw [Decimal.dropZeros]
    split
    · next zero => rw [ih, worth_moved zero]
    · rfl

/-- A budget that bounds the digits is enough for all zeros at the end. -/
theorem drop_zeros_reduced {budget : Nat} {d : Decimal} (filled : d.unscaled ≠ 0)
    (bound : d.unscaled.natAbs < 10 ^ budget) : (d.dropZeros budget).unscaled % 10 ≠ 0 := by
  induction budget generalizing d with
  | zero => omega
  | succ budget ih =>
    rw [Decimal.dropZeros]
    split
    · next zero =>
      have smaller : (d.unscaled / 10).natAbs < 10 ^ budget := by
        rw [Nat.pow_succ] at bound
        omega
      exact ih (d := ⟨d.unscaled / 10, d.scale - 1⟩) (by dsimp only; omega) smaller
    · next last => exact last

theorem worth_normal (d : Decimal) : worth d.normal = worth d := by
  rw [Decimal.normal]
  split
  · next zero => simp [worth, zero]
  · exact worth_drop_zeros _ d

theorem normal_reduced (d : Decimal) : Reduced d.normal := by
  rw [Decimal.normal]
  split
  · exact .inl rfl
  · next filled =>
    refine .inr (drop_zeros_reduced filled ?_)
    exact (Nat.length_toDigits_le_iff (by decide) Nat.length_toDigits_pos).mp (Nat.le_refl _)

theorem worth_eq_zero_iff {d : Decimal} : worth d = 0 ↔ d.unscaled = 0 := by
  have positive : (10 : ℚ) ^ (-d.scale) ≠ 0 := zpow_ne_zero _ (by norm_num)
  rw [worth, mul_eq_zero_iff_right positive, Int.cast_eq_zero]

theorem Reduced.eq_zero {d : Decimal} (reduced : Reduced d) (zero : d.unscaled = 0) :
    d = ⟨0, 0⟩ := by
  rcases reduced with same | last
  · exact same
  · exact absurd (by rw [zero]; rfl) last

/-- The unscaled integers of one number differ by a power of ten, the longer scale having the greater
one. -/
theorem unscaled_of_worth {c d : Decimal} (same : worth c = worth d) (longer : c.scale ≤ d.scale) :
    d.unscaled = c.unscaled * 10 ^ (d.scale - c.scale).toNat := by
  have count : ((d.scale - c.scale).toNat : Int) = d.scale - c.scale :=
    Int.toNat_of_nonneg (by omega)
  have shift : (10 : ℚ) ^ (-c.scale) =
      10 ^ (d.scale - c.scale).toNat * (10 : ℚ) ^ (-d.scale) := by
    rw [← zpow_natCast, count, ← zpow_add₀ (by norm_num)]
    congr 1
    omega
  have positive : (10 : ℚ) ^ (-d.scale) ≠ 0 := zpow_ne_zero _ (by norm_num)
  rw [worth, worth, shift, ← mul_assoc] at same
  have whole := mul_right_cancel₀ positive same
  exact_mod_cast whole.symm

/-- Of two decimals without a zero at the end that stand for one number, none has the longer scale. -/
theorem scale_of_worth {c d : Decimal} (last : d.unscaled % 10 ≠ 0) (same : worth c = worth d)
    (longer : c.scale ≤ d.scale) : c.scale = d.scale := by
  by_contra different
  obtain ⟨more, count⟩ : ∃ more, (d.scale - c.scale).toNat = more + 1 :=
    ⟨(d.scale - c.scale).toNat - 1, by omega⟩
  have whole := unscaled_of_worth same longer
  rw [count, pow_succ, ← mul_assoc] at whole
  exact last (by omega)

/-- A number has one form without a zero at the end. -/
theorem Reduced.unique {c d : Decimal} (reduced : Reduced c) (reduced' : Reduced d)
    (same : worth c = worth d) : c = d := by
  have zeros : c.unscaled = 0 ↔ d.unscaled = 0 := by
    rw [← worth_eq_zero_iff, ← worth_eq_zero_iff, same]
  by_cases zero : c.unscaled = 0
  · rw [reduced.eq_zero zero, reduced'.eq_zero (zeros.mp zero)]
  · have last : ∀ {e : Decimal}, Reduced e → e.unscaled ≠ 0 → e.unscaled % 10 ≠ 0 := by
      rintro e (rfl | last) filled
      · exact absurd rfl filled
      · exact last
    have scales : c.scale = d.scale := by
      rcases Int.le_total c.scale d.scale with longer | shorter
      · exact scale_of_worth (last reduced' fun none => zero (zeros.mpr none)) same longer
      · exact (scale_of_worth (last reduced zero) same.symm shorter).symm
    have whole := unscaled_of_worth same (Int.le_of_eq scales)
    rw [scales, Int.sub_self, Int.toNat_zero, pow_zero, mul_one] at whole
    obtain ⟨unscaled, scale⟩ := c
    exact congrArg₂ Decimal.mk whole.symm scales

/-- Decimals are the same exactly if they stand for one number, whatever their scales. -/
theorem same_iff_worth (c d : Decimal) : c.same d = true ↔ worth c = worth d := by
  rw [Decimal.same, decide_eq_true_eq]
  constructor
  · intro same
    rw [← worth_normal c, same, worth_normal]
  · intro same
    refine (normal_reduced c).unique (normal_reduced d) ?_
    rw [worth_normal, worth_normal, same]

/-- A price with its zeros written out is the price without them, and a tenth of it is not. -/
example : (Decimal.mk 150 2).same ⟨15, 1⟩ = true ∧ (Decimal.mk 150 2).same ⟨15, 2⟩ = false := by
  decide

end FormulaLexer.DecimalForms
