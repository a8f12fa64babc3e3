import FilterScript.Proofs.Narrowing

/-! # How near is near enough

A gap between two neighbouring points is as wide as the upper one times the precision, or wider, and
above the first block no wider than twice that. So a number that is closer to a point than half that
share of it is rounded to it (`Format.IsNearest.of_close`), and a number that is rounded to a point
is not much further away (`Format.IsNearest.close`).
-/

namespace FilterScript

namespace Format

variable {f : Format}

/-! ## Gaps -/

/-- A gap is at least the share of the upper point that the precision can tell. -/
theorem point_div_le_gap (positive : 0 < f.precision) (rank : ℕ) :
    f.point (rank + 1) / 2 ^ f.precision ≤ f.point (rank + 1) - f.point rank := by
  obtain ⟨scale, significand, rfl, leads, inside⟩ := f.exists_block rank
  have step := f.step_pos scale
  have most : ((significand + 1 : ℕ) : ℚ) ≤ 2 ^ f.precision := by
    rw [← Nat.succ_le_iff, two_mul_leading positive] at inside
    exact_mod_cast inside
  rw [Nat.add_assoc, point_block leads inside.le,
    point_block (leads.imp_right Nat.le_succ_of_le) inside, div_le_iff₀ (by positivity)]
  calc ((significand + 1 : ℕ) : ℚ) * f.step scale ≤ 2 ^ f.precision * f.step scale :=
        mul_le_mul_of_nonneg_right most step.le
    _ = (((significand + 1 : ℕ) : ℚ) * f.step scale - significand * f.step scale) *
          2 ^ f.precision := by
        push_cast
        ring

/-- From the end of the first block on, a gap is at most the share of the lower point that a leading
significand can tell. -/
theorem gap_le_point_div {rank : ℕ} (leads : f.leading ≤ rank) :
    f.point (rank + 1) - f.point rank ≤ f.point rank / f.leading := by
  obtain ⟨scale, significand, rfl, block, inside⟩ := f.exists_block rank
  have step := f.step_pos scale
  have leading : (0 : ℚ) < f.leading := Nat.cast_pos.mpr f.leading_pos
  have least : f.leading ≤ significand := by
    refine block.elim (fun first => ?_) id
    rwa [first, Nat.zero_mul, Nat.zero_add] at leads
  rw [Nat.add_assoc, point_block block inside.le,
    point_block (block.imp_right Nat.le_succ_of_le) inside, le_div_iff₀ leading]
  calc (((significand + 1 : ℕ) : ℚ) * f.step scale - significand * f.step scale) * f.leading
      = f.leading * f.step scale := by
        push_cast
        ring
    _ ≤ significand * f.step scale :=
        mul_le_mul_of_nonneg_right (Nat.cast_le.mpr least) step.le

/-- Up to the end of the first block all gaps are equal, so the bound holds for the gap before it,
too. -/
theorem gap_le_succ_div {rank : ℕ} (leads : f.leading ≤ rank + 1) :
    f.point (rank + 1) - f.point rank ≤ f.point (rank + 1) / f.leading := by
  have leading : (0 : ℚ) < f.leading := Nat.cast_pos.mpr f.leading_pos
  rcases Nat.lt_or_eq_of_le leads with more | last
  · have rise := f.point_strictMono (Nat.lt_add_one rank)
    calc f.point (rank + 1) - f.point rank ≤ f.point rank / f.leading :=
          gap_le_point_div (Nat.le_of_lt_add_one more)
      _ ≤ f.point (rank + 1) / f.leading := div_le_div_of_nonneg_right rise.le leading.le
  · have upper : f.point (0 * f.leading + (rank + 1)) = (rank + 1 : ℕ) * f.step 0 :=
      f.point_block (.inl rfl) (by omega)
    have lower : f.point (0 * f.leading + rank) = rank * f.step 0 :=
      f.point_block (.inl rfl) (by omega)
    rw [Nat.zero_mul, Nat.zero_add] at upper lower
    rw [upper, lower, last, mul_comm ((rank + 1 : ℕ) : ℚ), mul_div_cancel_right₀ _
      (Nat.cast_ne_zero.mpr (Nat.succ_ne_zero rank))]
    push_cast
    exact le_of_eq (by ring)

/-- A point from a half on stands behind the first block. -/
theorem leading_le_of_half_le (small : f.precision ≤ f.places) (positive : 0 < f.precision)
    {rank : ℕ} (half : 1 / 2 ≤ f.point rank) : f.leading ≤ rank := by
  by_contra before
  have block : f.point (0 * f.leading + f.leading) = f.leading * f.step 0 :=
    f.point_block (.inl rfl) (by omega)
  rw [Nat.zero_mul, Nat.zero_add] at block
  have less := f.point_strictMono (Nat.lt_of_not_le before)
  have powers : (2 * f.leading : ℚ) ≤ 2 ^ f.places := by
    have precision := two_mul_leading positive
    exact_mod_cast precision.trans_le (Nat.pow_le_pow_right two_pos small)
  have atMost : f.point f.leading ≤ 1 / 2 := by
    rw [block, step, pow_zero, mul_one_div, div_le_div_iff₀ (by positivity) two_pos]
    linarith
  linarith

/-! ## Rounding -/

namespace IsNearest

variable {x : ℚ} {rank : ℕ}

/-- The nearest point is as near as any other one. -/
theorem abs_sub_le_abs_sub (nearest : f.IsNearest x rank) (other : ℕ) :
    |x - f.point rank| ≤ |x - f.point other| := by
  rcases eq_or_ne other rank with rfl | different
  · exact le_rfl
  · exact (nearest other different).elim le_of_lt fun same => same.1.le

/-- Zero is rounded to zero alone. -/
theorem coefficient_ne_zero {d : Decimal} (nearest : f.IsNearest d.value rank)
    (nonzero : rank ≠ 0) : d.coefficient ≠ 0 := by
  intro zero
  rw [d.value_eq_zero zero, ← f.point_zero] at nearest
  exact nonzero (nearest.unique (f.isNearest_point 0))

/-- **A number that is close to a point is rounded to it.** -/
theorem of_close (positive : 0 < f.precision)
    (close : |x - f.point rank| < f.point rank / 2 ^ (f.precision + 1)) : f.IsNearest x rank := by
  have half (other : ℕ) : f.point other / 2 ^ (f.precision + 1) =
      f.point other / 2 ^ f.precision / 2 := by
    rw [pow_succ, div_div]
  obtain ⟨low, high⟩ := abs_lt.mp close
  rw [half] at low high
  apply isNearest_of_passes
  · -- The gap above is wider, since it is measured by a greater point.
    have gap := f.point_div_le_gap positive rank
    have rise : f.point rank / 2 ^ f.precision ≤ f.point (rank + 1) / 2 ^ f.precision :=
      div_le_div_of_nonneg_right (f.point_strictMono (Nat.lt_add_one rank)).le (by positivity)
    have before : x < f.middle rank := by
      unfold middle
      linarith
    rintro (past | ⟨same, _⟩)
    · exact lt_asymm past before
    · exact before.ne' same
  · rintro previous rfl
    have gap := f.point_div_le_gap positive previous
    left
    unfold middle
    linarith

/-- **A number is close to the point that it is rounded to,** behind the first block. -/
theorem close (positive : 0 < f.precision) (nearest : f.IsNearest x rank)
    (leads : f.leading ≤ rank) : |x - f.point rank| ≤ f.point rank / 2 ^ f.precision := by
  have share : f.point rank / 2 ^ f.precision = f.point rank / f.leading / 2 := by
    have twice : (2 * f.leading : ℚ) = 2 ^ f.precision := by
      exact_mod_cast two_mul_leading positive
    rw [← twice, mul_comm, div_div]
  have above : x ≤ f.middle rank := by
    by_contra past
    exact lt_irrefl rank (nearest.passes_iff.mp (.inl (not_le.mp past)))
  obtain ⟨previous, rfl⟩ := Nat.exists_eq_add_one_of_ne_zero
    (Nat.lt_of_lt_of_le f.leading_pos leads).ne'
  have below : f.middle previous ≤ x :=
    (nearest.passes_iff.mpr (Nat.lt_add_one previous)).elim le_of_lt fun same => same.1.le
  have gapAbove := gap_le_point_div leads
  have gapBelow := gap_le_succ_div leads
  unfold middle at above below
  rw [share, abs_le]
  constructor
  · linarith
  · linarith

end IsNearest

end Format

end FilterScript
