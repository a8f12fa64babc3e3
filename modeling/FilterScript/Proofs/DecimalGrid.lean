import FilterScript.Proofs.Reading
import FilterScript.Proofs.SignificantDigits

/-! # Numbers of few digits

The numerals with a given number of digits that are near a ratio lie on a grid of one power of ten:
smaller powers of ten serve only numbers below the leading digit of the ratio. So the ratio rounded
to that power of ten is nearest to it among all numerals with so many digits
(`Ratio.rounded_nearest`), and no such numeral lies between its two neighbours on the grid
(`Ratio.not_between_neighbours`).
-/

namespace FilterScript

namespace Ratio

/-- The number of a ratio. -/
def value (r : Ratio) : ℚ := r.num / r.den

/-- Numerator and denominator are positive. -/
def Proper (r : Ratio) : Prop := 0 < r.num ∧ 0 < r.den

variable {r : Ratio}

/-! ## The leading digit -/

/-- A ratio counted in steps of a decimal grid has a positive denominator. -/
theorem inSteps_den_pos (proper : r.Proper) (exponent : ℤ) : 0 < (r.inSteps exponent).2 := by
  unfold inSteps
  split
  · exact Nat.mul_pos proper.2 (Nat.pow_pos (by decide))
  · exact proper.2

/-- A ratio in steps is what its value is in steps. -/
theorem inSteps_value (proper : r.Proper) (exponent : ℤ) :
    ((r.inSteps exponent).1 / (r.inSteps exponent).2 : ℚ) = r.value / 10 ^ exponent := by
  have den : (r.den : ℚ) ≠ 0 := Nat.cast_ne_zero.mpr proper.2.ne'
  rw [Decimal.ten_zpow, value]
  unfold inSteps
  split
  · next nonneg =>
      have none : (-exponent).toNat = 0 := by omega
      simp only [Nat.pow_eq, none, pow_zero, div_one]
      push_cast
      rw [div_div]
  · next negative =>
      have none : exponent.toNat = 0 := by omega
      simp only [Nat.pow_eq, none, pow_zero]
      push_cast
      field_simp

theorem value_pos (proper : r.Proper) : 0 < r.value :=
  div_pos (Nat.cast_pos.mpr proper.1) (Nat.cast_pos.mpr proper.2)

/-- A power of ten is not above a ratio when the ratio has a whole step of it. -/
theorem inSteps_le_iff (proper : r.Proper) (exponent : ℤ) :
    (r.inSteps exponent).2 ≤ (r.inSteps exponent).1 ↔ (10 : ℚ) ^ exponent ≤ r.value := by
  have power : (0 : ℚ) < 10 ^ exponent := zpow_pos (by norm_num) _
  have den : (0 : ℚ) < (r.inSteps exponent).2 := Nat.cast_pos.mpr (inSteps_den_pos proper exponent)
  rw [← one_le_div₀ power, ← inSteps_value proper, one_le_div₀ den, Nat.cast_le]

/-- The leading exponent is one of two, by the power of ten that the numbers of digits suggest. -/
theorem leadingExponent_eq (r : Ratio) : r.leadingExponent =
    if (r.inSteps (digitCount r.num - digitCount r.den)).2 ≤
        (r.inSteps (digitCount r.num - digitCount r.den)).1 then
      (digitCount r.num - digitCount r.den : ℤ)
    else (digitCount r.num - digitCount r.den : ℤ) - 1 := by
  unfold leadingExponent inSteps
  dsimp only
  by_cases nonneg : 0 ≤ (digitCount r.num - digitCount r.den : ℤ)
  · simp only [nonneg, ↓reduceIte]
  · simp only [nonneg, ↓reduceIte]

/-- **The leading exponent.** -/
theorem leadingExponent_spec (proper : r.Proper) :
    (10 : ℚ) ^ r.leadingExponent ≤ r.value ∧ r.value < 10 ^ (r.leadingExponent + 1) := by
  have den : (0 : ℚ) < r.den := Nat.cast_pos.mpr proper.2
  have numLow : (10 : ℚ) ^ (digitCount r.num - 1) ≤ r.num := by
    exact_mod_cast pow_le_of_digitCount proper.1.ne'
  have numHigh : (r.num : ℚ) < 10 ^ digitCount r.num := by
    exact_mod_cast lt_pow_digitCount r.num
  have denLow : (10 : ℚ) ^ (digitCount r.den - 1) ≤ r.den := by
    exact_mod_cast pow_le_of_digitCount proper.2.ne'
  have denHigh : (r.den : ℚ) < 10 ^ digitCount r.den := by
    exact_mod_cast lt_pow_digitCount r.den
  have numDigits := digitCount_pos r.num
  have denDigits := digitCount_pos r.den
  have low : (10 : ℚ) ^ ((digitCount r.num - digitCount r.den : ℤ) - 1) ≤ r.value := by
    have exponent : (digitCount r.num - digitCount r.den : ℤ) - 1 =
        (digitCount r.num - 1 : ℕ) - (digitCount r.den : ℕ) := by omega
    rw [exponent, zpow_sub₀ (by norm_num), zpow_natCast, zpow_natCast, value]
    exact div_le_div₀ (Nat.cast_nonneg _) numLow den denHigh.le
  have high : r.value < 10 ^ ((digitCount r.num - digitCount r.den : ℤ) + 1) := by
    have exponent : (digitCount r.num - digitCount r.den : ℤ) + 1 =
        (digitCount r.num : ℕ) - (digitCount r.den - 1 : ℕ) := by omega
    rw [exponent, zpow_sub₀ (by norm_num), zpow_natCast, zpow_natCast, value]
    exact div_lt_div₀ numHigh denLow (by positivity) (by positivity)
  rw [leadingExponent_eq]
  split
  · next reached => exact ⟨(inSteps_le_iff proper _).mp reached, high⟩
  · next missed =>
      rw [sub_add_cancel]
      exact ⟨low, not_le.mp (mt (inSteps_le_iff proper _).mpr missed)⟩

/-! ## The grid -/

/-- The power of ten of the last of so many digits, in which the leading digit is a whole number. -/
theorem pow_leadingExponent (r : Ratio) (digits : ℕ) : (10 : ℚ) ^ r.leadingExponent =
    (10 ^ digits : ℕ) * 10 ^ r.lastExponent (digits + 1) := by
  have exponent : r.leadingExponent = (digits : ℤ) + r.lastExponent (digits + 1) := by
    unfold lastExponent
    push_cast
    ring
  rw [exponent, zpow_add₀ (by norm_num), zpow_natCast]
  push_cast
  rfl

/-- A number of so many digits stands on the grid of the ratio, or below its leading digit. -/
theorem onGrid_or_below (r : Ratio) {x : ℚ} {digits : ℕ} (short : HasDigits x (digits + 1)) :
    (∃ count : ℕ, x = count * 10 ^ r.lastExponent (digits + 1)) ∨
      x < 10 ^ r.leadingExponent := by
  obtain ⟨d, rfl, fits⟩ := short
  rcases le_or_gt (r.lastExponent (digits + 1)) d.exponent with coarse | fine
  · left
    refine ⟨d.coefficient * 10 ^ (d.exponent - r.lastExponent (digits + 1)).toNat, ?_⟩
    have exponent : d.exponent = ((d.exponent - r.lastExponent (digits + 1)).toNat : ℤ) +
        r.lastExponent (digits + 1) := by omega
    unfold Decimal.value
    push_cast
    rw [mul_assoc, ← zpow_natCast, ← zpow_add₀ (by norm_num), ← exponent]
  · right
    have coefficient : (d.coefficient : ℚ) < 10 ^ (digits + 1) := by exact_mod_cast fits
    calc d.value < 10 ^ (digits + 1) * 10 ^ d.exponent :=
          mul_lt_mul_of_pos_right coefficient (zpow_pos (by norm_num) _)
      _ = (10 : ℚ) ^ (((digits + 1 : ℕ) : ℤ) + d.exponent) := by
          rw [zpow_add₀ (by norm_num), zpow_natCast]
      _ ≤ 10 ^ r.leadingExponent := by
          refine zpow_le_zpow_right₀ (by norm_num) ?_
          unfold lastExponent at fine
          omega

/-- A distance on the grid, in steps. -/
theorem abs_value_sub_count (r : Ratio) (exponent : ℤ) (count : ℕ) :
    |r.value - count * 10 ^ exponent| = |r.value / 10 ^ exponent - count| * 10 ^ exponent := by
  have power : (0 : ℚ) < 10 ^ exponent := zpow_pos (by norm_num) _
  rw [← abs_of_pos power, ← abs_mul, abs_of_pos power, sub_mul, div_mul_cancel₀ _ power.ne']

/-- A ratio is rounded by at most half a step. -/
theorem abs_steps_sub_rounded (proper : r.Proper) (digits : ℕ) :
    |r.value / 10 ^ r.lastExponent digits - (r.rounded digits).coefficient| ≤ 1 / 2 := by
  rw [← inSteps_value proper]
  exact (abs_sub_roundDiv _ (inSteps_den_pos proper _)).1

/-- **The rounded ratio is nearest to it on the grid.** -/
theorem rounded_nearest_count (proper : r.Proper) (digits count : ℕ) :
    |r.value - (r.rounded digits).value| ≤ |r.value - count * 10 ^ r.lastExponent digits| := by
  have near := abs_steps_sub_rounded proper digits
  have exponent : (r.rounded digits).exponent = r.lastExponent digits := rfl
  rw [Decimal.value, exponent, abs_value_sub_count, abs_value_sub_count]
  refine mul_le_mul_of_nonneg_right ?_ (zpow_nonneg (by norm_num) _)
  generalize (r.rounded digits).coefficient = whole at near ⊢
  rcases eq_or_ne count whole with rfl | different
  · exact le_rfl
  · -- Two whole numbers are at least one apart.
    have apart : (1 : ℚ) ≤ |(count : ℚ) - whole| := by
      have nonzero : (count : ℤ) - whole ≠ 0 := by omega
      exact_mod_cast Int.one_le_abs nonzero
    have triangle := abs_sub_le (count : ℚ) (r.value / 10 ^ r.lastExponent digits) whole
    rw [abs_sub_comm (count : ℚ) (r.value / _)] at triangle
    linarith

/-- **The rounded ratio is nearest to it among all numbers of so many digits.** -/
theorem rounded_nearest (proper : r.Proper) {digits : ℕ} {x : ℚ}
    (short : HasDigits x (digits + 1)) :
    |r.value - (r.rounded (digits + 1)).value| ≤ |r.value - x| := by
  rcases r.onGrid_or_below short with ⟨count, rfl⟩ | below
  · exact rounded_nearest_count proper (digits + 1) count
  · have leading := (leadingExponent_spec proper).1
    have edge := rounded_nearest_count proper (digits + 1) (10 ^ digits)
    rw [← pow_leadingExponent] at edge
    refine edge.trans ?_
    rw [abs_of_nonneg (by linarith), abs_of_nonneg (by linarith)]
    linarith

/-- The ratio in steps has as many digits before the point as are asked for. -/
theorem steps_bounds (proper : r.Proper) (digits : ℕ) :
    (10 ^ digits : ℕ) ≤ r.value / 10 ^ r.lastExponent (digits + 1) ∧
      r.value / 10 ^ r.lastExponent (digits + 1) < (10 ^ (digits + 1) : ℕ) := by
  have power : (0 : ℚ) < 10 ^ r.lastExponent (digits + 1) := zpow_pos (by norm_num) _
  obtain ⟨low, high⟩ := leadingExponent_spec proper
  rw [zpow_add₀ (by norm_num), zpow_one] at high
  rw [pow_leadingExponent r digits] at low high
  rw [le_div_iff₀ power, div_lt_iff₀ power]
  refine ⟨low, high.trans_eq ?_⟩
  push_cast
  ring

/-- A ratio is rounded by at most half a unit of its last digit. -/
theorem rounded_close (proper : r.Proper) (digits : ℕ) :
    |r.value - (r.rounded (digits + 1)).value| ≤ r.value / 2 / 10 ^ digits := by
  have near := abs_steps_sub_rounded proper (digits + 1)
  have low := (leadingExponent_spec proper).1
  rw [pow_leadingExponent r digits] at low
  push_cast at low
  have exponent : (r.rounded (digits + 1)).exponent = r.lastExponent (digits + 1) := rfl
  rw [Decimal.value, exponent, abs_value_sub_count, le_div_iff₀ (by positivity)]
  have power : (0 : ℚ) < 10 ^ r.lastExponent (digits + 1) := zpow_pos (by norm_num) _
  calc |r.value / 10 ^ r.lastExponent (digits + 1) - (r.rounded (digits + 1)).coefficient| *
        10 ^ r.lastExponent (digits + 1) * 10 ^ digits
      ≤ 1 / 2 * 10 ^ r.lastExponent (digits + 1) * 10 ^ digits := by gcongr
    _ = 10 ^ digits * 10 ^ r.lastExponent (digits + 1) / 2 := by ring
    _ ≤ r.value / 2 := by linarith

/-- A rounded ratio has as many digits as are asked for, unless it is rounded up to a power of
ten. -/
theorem rounded_coefficient (proper : r.Proper) (digits : ℕ) :
    10 ^ digits ≤ (r.rounded (digits + 1)).coefficient ∧
      (r.rounded (digits + 1)).coefficient ≤ 10 ^ (digits + 1) := by
  obtain ⟨low, high⟩ := steps_bounds proper digits
  obtain ⟨less, more⟩ := abs_le.mp (abs_steps_sub_rounded proper (digits + 1))
  have least : ((10 ^ digits : ℕ) : ℚ) < ((r.rounded (digits + 1)).coefficient + 1 : ℕ) := by
    push_cast at low ⊢
    linarith
  have most : ((r.rounded (digits + 1)).coefficient : ℚ) < (10 ^ (digits + 1) + 1 : ℕ) := by
    push_cast at high ⊢
    linarith
  exact ⟨Nat.le_of_lt_succ (by exact_mod_cast least), Nat.le_of_lt_succ (by exact_mod_cast most)⟩

/-! ## Neighbours on the grid -/

/-- The number on the grid of a power of ten that is nearest to the ratio. -/
def nearest (r : Ratio) (exponent : ℤ) : Decimal :=
  ⟨roundDiv (r.inSteps exponent).1 (r.inSteps exponent).2, exponent⟩

/-- The last number on the grid of a power of ten that is not above the ratio. -/
def below (r : Ratio) (exponent : ℤ) : Decimal :=
  ⟨(r.inSteps exponent).1 / (r.inSteps exponent).2, exponent⟩

/-- The first number on the grid of a power of ten that is above the ratio. -/
def above (r : Ratio) (exponent : ℤ) : Decimal :=
  ⟨(r.inSteps exponent).1 / (r.inSteps exponent).2 + 1, exponent⟩

/-- A number on the grid is not above the ratio when its steps are at most those of the
neighbour. -/
theorem count_le_iff (proper : r.Proper) (exponent : ℤ) (count : ℕ) :
    count ≤ (r.below exponent).coefficient ↔ count * 10 ^ exponent ≤ r.value := by
  have power : (0 : ℚ) < 10 ^ exponent := zpow_pos (by norm_num) _
  have den := inSteps_den_pos proper exponent
  have denCast : (0 : ℚ) < (r.inSteps exponent).2 := Nat.cast_pos.mpr den
  rw [← le_div_iff₀ power, ← inSteps_value proper, le_div_iff₀ denCast, below,
    Nat.le_div_iff_mul_le den]
  exact_mod_cast Iff.rfl

/-- The neighbour below on a grid does not exceed the ratio. -/
theorem below_le_value (proper : r.Proper) (exponent : ℤ) : (r.below exponent).value ≤ r.value :=
  (count_le_iff proper exponent _).mp le_rfl

/-- The neighbour above on a grid exceeds the ratio. -/
theorem value_lt_above (proper : r.Proper) (exponent : ℤ) : r.value < (r.above exponent).value := by
  have further :=
    (count_le_iff proper exponent ((r.below exponent).coefficient + 1)).not.mp (by omega)
  exact not_le.mp further

/-- **Between its neighbours on the grid, a ratio has no number of so many digits.** -/
theorem not_between_neighbours (proper : r.Proper) {digits : ℕ} {x : ℚ}
    (short : HasDigits x (digits + 1)) :
    x ≤ (r.below (r.lastExponent (digits + 1))).value ∨
      (r.above (r.lastExponent (digits + 1))).value ≤ x := by
  have power : (0 : ℚ) < 10 ^ r.lastExponent (digits + 1) := zpow_pos (by norm_num) _
  have ordered {count other : ℕ} (le : count ≤ other) :
      (count * 10 ^ r.lastExponent (digits + 1) : ℚ) ≤ other * 10 ^ r.lastExponent (digits + 1) :=
    mul_le_mul_of_nonneg_right (Nat.cast_le.mpr le) power.le
  rcases r.onGrid_or_below short with ⟨count, rfl⟩ | less
  · rcases Nat.lt_or_ge (r.below (r.lastExponent (digits + 1))).coefficient count with more | le
    · exact .inr (ordered more)
    · exact .inl (ordered le)
  · left
    have leading := (leadingExponent_spec proper).1
    rw [pow_leadingExponent r digits] at leading less
    exact less.le.trans (ordered ((count_le_iff proper _ _).mpr leading))

/-- The leading exponent is known by the powers of ten around the ratio. -/
theorem leadingExponent_eq_of (proper : r.Proper) {exponent : ℤ}
    (reached : (r.inSteps exponent).2 ≤ (r.inSteps exponent).1)
    (missed : ¬ (r.inSteps (exponent + 1)).2 ≤ (r.inSteps (exponent + 1)).1) :
    r.leadingExponent = exponent := by
  rw [inSteps_le_iff proper] at reached missed
  have low := reached
  have high := not_le.mp missed
  obtain ⟨least, most⟩ := leadingExponent_spec proper
  have one := (zpow_lt_zpow_iff_right₀ (by norm_num : (1 : ℚ) < 10)).mp (least.trans_lt high)
  have two := (zpow_lt_zpow_iff_right₀ (by norm_num : (1 : ℚ) < 10)).mp (low.trans_lt most)
  omega

/-- The neighbours on the grid have so many digits, or the one above is a power of ten. -/
theorem hasDigits_below_above (proper : r.Proper) (digits : ℕ) :
    HasDigits (r.below (r.lastExponent (digits + 1))).value (digits + 1) ∧
      HasDigits (r.above (r.lastExponent (digits + 1))).value (digits + 1) := by
  have power : (0 : ℚ) < 10 ^ r.lastExponent (digits + 1) := zpow_pos (by norm_num) _
  have fits : (r.below (r.lastExponent (digits + 1))).coefficient < 10 ^ (digits + 1) := by
    by_contra more
    have reached := (count_le_iff proper _ _).mp (Nat.le_of_not_lt more)
    rw [← le_div_iff₀ power] at reached
    exact absurd (steps_bounds proper digits).2 (not_lt_of_ge reached)
  exact ⟨Decimal.hasDigits fits.le, Decimal.hasDigits fits⟩

end Ratio

/-! ## The ratios of a format -/

namespace Format

/-- A place of a format other than zero is a proper ratio. -/
theorem ratio_proper (f : Format) {rank : ℕ} (nonzero : rank ≠ 0) : (f.ratio rank).Proper :=
  ⟨Nat.zero_lt_of_lt (f.magnitude_strictMono (Nat.pos_of_ne_zero nonzero)), Nat.pow_pos two_pos⟩

/-- The ratio of a place has its value. -/
theorem ratio_value (f : Format) (rank : ℕ) : (f.ratio rank).value = f.point rank := by
  unfold Ratio.value ratio point
  simp only [Nat.pow_eq]
  push_cast
  rfl

end Format

end FilterScript
