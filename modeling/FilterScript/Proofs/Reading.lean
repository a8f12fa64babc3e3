import FilterScript.Proofs.Grid
import FilterScript.Proofs.Numeral

/-! # Reading decimals

A decimal is read into a format as the point nearest to it, also where the reading is decided by the
number of digits alone (`Decimal.read_eq`).
-/

namespace FilterScript

/-! ## Numbers of digits -/

theorem digitCount_pos (n : ℕ) : 0 < digitCount n := Nat.length_toDigits_pos

/-- A number has at most as many digits as a power of ten above it has zeros. -/
theorem digitCount_le_iff {n k : ℕ} (positive : 0 < k) : digitCount n ≤ k ↔ n < 10 ^ k :=
  Nat.length_toDigits_le_iff (by decide) positive

theorem lt_pow_digitCount (n : ℕ) : n < 10 ^ digitCount n :=
  (digitCount_le_iff (digitCount_pos n)).mp le_rfl

/-- A number other than zero reaches the power of ten of its leading digit. -/
theorem pow_le_of_digitCount {n : ℕ} (nonzero : n ≠ 0) : 10 ^ (digitCount n - 1) ≤ n := by
  rcases Nat.eq_zero_or_pos (digitCount n - 1) with one | more
  · rw [one, Nat.pow_zero]
    exact Nat.one_le_iff_ne_zero.mpr nonzero
  · have positive := digitCount_pos n
    by_contra less
    have fewer := (digitCount_le_iff more).mpr (Nat.lt_of_not_le less)
    omega

namespace Decimal

/-- A decimal lies below the power of ten in front of its leading digit. -/
theorem value_lt_point (d : Decimal) : d.value < 10 ^ d.point := by
  have bound : (d.coefficient : ℚ) < 10 ^ digitCount d.coefficient := by
    exact_mod_cast lt_pow_digitCount d.coefficient
  rw [value, point, zpow_add₀ (by norm_num), zpow_natCast]
  exact mul_lt_mul_of_pos_right bound (zpow_pos (by norm_num) _)

/-- A decimal other than zero reaches the power of ten of its leading digit. -/
theorem point_le_value {d : Decimal} (nonzero : d.coefficient ≠ 0) :
    (10 : ℚ) ^ (d.point - 1) ≤ d.value := by
  have positive := digitCount_pos d.coefficient
  have bound : (10 : ℚ) ^ (digitCount d.coefficient - 1) ≤ d.coefficient := by
    exact_mod_cast pow_le_of_digitCount nonzero
  have place : d.point - 1 = (digitCount d.coefficient - 1 : ℕ) + d.exponent := by
    unfold point
    omega
  rw [value, place, zpow_add₀ (by norm_num), zpow_natCast]
  exact mul_le_mul_of_nonneg_right bound (zpow_nonneg (by norm_num) _)

end Decimal

/-! ## Formats in use -/

namespace Format

/-- What reading relies on: ties have an even side in every block, and the powers of two reach up as
far as they reach down. -/
structure Regular (f : Format) : Prop where
  wide : 2 ≤ f.precision
  reaches : f.places ≤ f.precision + f.scales

theorem regular_double : double.Regular := ⟨by decide, by decide⟩

theorem regular_single : single.Regular := ⟨by decide, by decide⟩

variable {f : Format}

/-- The point at which infinity stands. -/
theorem point_finiteCount (f : Format) :
    f.point f.finiteCount = 2 ^ (f.precision - 1 + f.scales) / 2 ^ f.places := by
  have block : f.point (f.scales * f.leading + f.leading) = f.leading * f.step f.scales :=
    f.point_block (.inr le_rfl) (by omega)
  have rank : f.finiteCount = f.scales * f.leading + f.leading := by
    unfold finiteCount
    ring
  rw [rank, block, step, leading, Nat.pow_eq, pow_add]
  push_cast
  ring

/-- A number that stays below the first middle is rounded to zero. -/
theorem isNearest_zero {x : ℚ} (small : x < f.middle 0) : f.IsNearest x 0 := by
  refine isNearest_of_passes ?_ fun k none => absurd none (Nat.succ_ne_zero k).symm
  rintro (past | ⟨_, odd⟩)
  · exact lt_asymm past small
  · exact odd Even.zero

/-- The middle between zero and the least number of a format. -/
theorem middle_zero (f : Format) : f.middle 0 = 1 / 2 / 2 ^ f.places := by
  have leading := f.leading_pos
  have block : f.middle (0 * f.leading + 0) = ((0 : ℕ) + 1 / 2) * f.step 0 :=
    f.middle_block (.inl rfl) (by omega)
  rw [Nat.zero_mul, Nat.add_zero] at block
  rw [block, step, Nat.cast_zero, zero_add, pow_zero, mul_one_div]

end Format

/-- A finite number is the one its rank stands for. -/
theorem Binary.finite_eq_ofRank {f : Format} (negative : Bool) (rank : Fin f.finiteCount) :
    (finite negative rank : Binary f) = ofRank negative rank.val := by
  rw [ofRank, dif_pos rank.isLt]

/-- A finite number tells its rank. -/
theorem Binary.ofRank_eq_iff {f : Format} {negative : Bool} {rank other : ℕ}
    (bounded : other < f.finiteCount) :
    (ofRank negative rank : Binary f) = ofRank negative other ↔ rank = other := by
  constructor
  · intro same
    unfold ofRank at same
    rw [dif_pos bounded] at same
    split at same
    · exact congrArg Fin.val (finite.inj same).2
    · cases same
  · exact congrArg _

/-! ## Reading into one format -/

namespace Decimal

variable {f : Format}

/-- The rank of the point nearest to a decimal. -/
def rank (f : Format) (d : Decimal) : ℕ := f.nearestRank d.num d.den

/-- A decimal is rounded to the magnitude of the rank that is computed for it. -/
theorem isNearest_rank (regular : f.Regular) (d : Decimal) : f.IsNearest d.value (d.rank f) := by
  rw [value_eq_div]
  exact f.isNearest_nearestRank regular.wide d.num d.den_pos

/-- **A decimal is read as the point nearest to it.** -/
theorem read_eq (regular : f.Regular) (negative : Bool) (d : Decimal) :
    d.read f negative = .ofRank negative (d.rank f) := by
  have nearest := d.isNearest_rank regular
  unfold read
  by_cases tiny : d.coefficient = 0 ∨ d.point < -f.places
  · have small : d.value < f.middle 0 := by
      rw [f.middle_zero]
      rcases tiny with zero | below
      · rw [value, zero, Nat.cast_zero, zero_mul]
        positivity
      · calc d.value < 10 ^ d.point := d.value_lt_point
          _ ≤ (10 : ℚ) ^ (-((f.places + 1 : ℕ) : ℤ)) :=
              zpow_le_zpow_right₀ (by norm_num) (by push_cast; omega)
          _ = 1 / 10 / 10 ^ f.places := by
              rw [zpow_neg, zpow_natCast, pow_succ]
              field_simp
          _ ≤ 1 / 2 / 2 ^ f.places := by
              have powers : (2 : ℚ) ^ f.places ≤ 10 ^ f.places :=
                pow_le_pow_left₀ (by norm_num) (by norm_num) _
              gcongr
              norm_num
    rw [if_pos tiny, nearest.unique (f.isNearest_zero small)]
  · rw [if_neg tiny]
    by_cases huge : (f.precision + f.scales : ℤ) < d.point + f.places
    · have beyond : f.finiteCount ≤ d.rank f := by
        refine (f.isNearest_point _).mono nearest ?_
        obtain ⟨nonzero, _⟩ := not_or.mp tiny
        have reaches := regular.reaches
        have exponent : ((f.precision + f.scales - f.places : ℕ) : ℤ) ≤ d.point - 1 := by omega
        calc f.point f.finiteCount = 2 ^ (f.precision - 1 + f.scales) / 2 ^ f.places :=
              f.point_finiteCount
          _ ≤ 2 ^ (f.precision + f.scales - f.places) := by
              rw [div_le_iff₀ (by positivity), ← pow_add]
              exact pow_le_pow_right₀ (by norm_num) (by omega)
          _ ≤ 10 ^ (f.precision + f.scales - f.places) :=
              pow_le_pow_left₀ (by norm_num) (by norm_num) _
          _ = (10 : ℚ) ^ ((f.precision + f.scales - f.places : ℕ) : ℤ) := (zpow_natCast _ _).symm
          _ ≤ 10 ^ (d.point - 1) := zpow_le_zpow_right₀ (by norm_num) exponent
          _ ≤ d.value := point_le_value nonzero
      rw [if_pos huge, Binary.ofRank, dif_neg (Nat.not_lt_of_le beyond)]
    · rw [if_neg huge]
      rfl

/-- A decimal is read as a finite number when that is the point nearest to it. -/
theorem read_eq_ofRank_iff (regular : f.Regular) {negative : Bool} {d : Decimal} {rank : ℕ}
    (bounded : rank < f.finiteCount) :
    d.read f negative = .ofRank negative rank ↔ f.IsNearest d.value rank := by
  have nearest := d.isNearest_rank regular
  rw [read_eq regular, Binary.ofRank_eq_iff bounded]
  constructor
  · rintro rfl
    exact nearest
  · exact nearest.unique

end Decimal

end FilterScript
