import FilterScript.Number.Rounding
import Mathlib.Algebra.Order.Field.Rat
import Mathlib.Algebra.Ring.Parity
import Mathlib.Order.Monotone.Basic
import Mathlib.Tactic.FieldSimp
import Mathlib.Tactic.Linarith
import Mathlib.Tactic.Positivity
import Mathlib.Tactic.Ring

/-! # The numbers of a format on the line

The magnitudes of a format are points on the line, one for every rank, and ever larger ones when the
ranks beyond the finite ones are counted in. A number is rounded to the point that is nearest to it,
and to the one of even rank when two are equally near (`Format.IsNearest`). The same is said by
thresholds: the rank exceeds `k` when the number lies past the middle between the points `k` and
`k + 1` (`Format.isNearest_iff`). From the thresholds it is read off that there is at most one
nearest rank, and that rounding is monotone. What `nearestRank` computes is the nearest rank
(`Format.isNearest_nearestRank`).
-/

namespace FilterScript

/-! ## Quotients -/

/-- A quotient is at most a half away from the whole number that it is rounded to, and exactly a
half only if that one is even. -/
theorem abs_sub_roundDiv (num : ℕ) {den : ℕ} (positive : 0 < den) :
    |(num / den : ℚ) - roundDiv num den| ≤ 1 / 2 ∧
      (|(num / den : ℚ) - roundDiv num den| = 1 / 2 → Even (roundDiv num den)) := by
  have denPositive : (0 : ℚ) < den := by exact_mod_cast positive
  have parts : (num / den : ℚ) = (num / den : ℕ) + (num % den : ℕ) / (den : ℚ) := by
    field_simp
    exact_mod_cast (Nat.div_add_mod num den).symm
  have low : (0 : ℚ) ≤ (num % den : ℕ) / (den : ℚ) := by positivity
  have high : (num % den : ℕ) / (den : ℚ) < 1 := by
    rw [div_lt_one denPositive]
    exact_mod_cast Nat.mod_lt num positive
  unfold roundDiv
  dsimp only
  rw [parts]
  rcases lt_trichotomy (2 * (num % den)) den with less | tie | more
  · have near : (num % den : ℕ) / (den : ℚ) < 1 / 2 := by
      rw [div_lt_iff₀ denPositive]
      have cast : (2 * (num % den : ℕ) : ℚ) < den := by exact_mod_cast less
      linarith
    simp only [less, ↓reduceIte, add_sub_cancel_left, abs_of_nonneg low]
    exact ⟨near.le, fun same => absurd same near.ne⟩
  · have middle : (num % den : ℕ) / (den : ℚ) = 1 / 2 := by
      rw [div_eq_iff denPositive.ne']
      have cast : (2 * (num % den : ℕ) : ℚ) = den := by exact_mod_cast tie
      linarith
    rw [middle]
    simp only [tie, lt_irrefl, ↓reduceIte]
    by_cases even : num / den % 2 = 0
    · simp only [even, ↓reduceIte, add_sub_cancel_left]
      rw [abs_of_pos (by norm_num)]
      exact ⟨le_rfl, fun _ => Nat.even_iff.mpr even⟩
    · simp only [even, ↓reduceIte]
      push_cast
      rw [abs_of_neg (by linarith)]
      exact ⟨by linarith, fun _ => Nat.even_iff.mpr (by omega)⟩
  · have near : 1 / 2 < (num % den : ℕ) / (den : ℚ) := by
      rw [lt_div_iff₀ denPositive]
      have cast : (den : ℚ) < 2 * (num % den : ℕ) := by exact_mod_cast more
      linarith
    simp only [more, not_lt_of_gt more, ↓reduceIte]
    push_cast
    rw [abs_of_neg (by linarith)]
    exact ⟨by linarith, fun same => absurd same (by linarith)⟩

namespace Format

variable {f : Format}

/-! ## Magnitudes in blocks -/

theorem leading_pos : 0 < f.leading := Nat.pow_pos (by decide)

theorem two_mul_leading (positive : 0 < f.precision) : 2 * f.leading = 2 ^ f.precision := by
  have precision : f.precision = f.precision - 1 + 1 := by omega
  rw [leading, Nat.pow_eq, precision, Nat.pow_succ, Nat.add_sub_cancel]
  ring

/-- The block of a rank, counted from the first two, which have unit steps. -/
def block (f : Format) (rank : ℕ) : ℕ := rank / f.leading - 1

/-- The place of a rank in its block. It has the leading bit, unless the block is the first one. -/
def significand (f : Format) (rank : ℕ) : ℕ := rank - f.block rank * f.leading

/-- Every place is one of a block, with a significand that leads unless the block is the first. -/
theorem block_spec (f : Format) (rank : ℕ) :
    rank = f.block rank * f.leading + f.significand rank ∧
      (f.block rank = 0 ∨ f.leading ≤ f.significand rank) ∧
      f.significand rank < 2 * f.leading := by
  have split := Nat.div_add_mod rank f.leading
  have small := Nat.mod_lt rank f.leading_pos
  unfold significand block
  cases place : rank / f.leading with
  | zero =>
      rw [place, Nat.mul_zero] at split
      refine ⟨?_, ?_, ?_⟩ <;> omega
  | succ scale =>
      rw [place, Nat.mul_succ, Nat.mul_comm] at split
      rw [Nat.add_sub_cancel]
      refine ⟨?_, ?_, ?_⟩ <;> omega

/-- Every rank stands in a block, at a significand that has its leading bit, unless the block is the
first one. -/
theorem exists_block (f : Format) (rank : ℕ) : ∃ scale significand,
    rank = scale * f.leading + significand ∧ (scale = 0 ∨ f.leading ≤ significand) ∧
      significand < 2 * f.leading :=
  ⟨f.block rank, f.significand rank, f.block_spec rank⟩

/-- The magnitude at a significand of a block. The last one of a block is the first one of the
next. -/
theorem magnitude_block {scale significand : ℕ} (leads : scale = 0 ∨ f.leading ≤ significand)
    (fits : significand ≤ 2 * f.leading) :
    f.magnitude (scale * f.leading + significand) = significand * 2 ^ scale := by
  have positive := f.leading_pos
  have place : (scale * f.leading + significand) / f.leading =
      scale + significand / f.leading := by
    rw [Nat.add_comm, Nat.add_mul_div_right _ _ positive, Nat.add_comm]
  unfold magnitude
  simp only [Nat.pow_eq, place]
  rcases Nat.lt_or_eq_of_le fits with inside | last
  · have scaled : scale + significand / f.leading - 1 = scale := by
      rcases leads with first | leads
      · have quotient : significand / f.leading < 2 := Nat.div_lt_of_lt_mul (by omega)
        omega
      · have quotient : significand / f.leading = 1 :=
          Nat.div_eq_of_lt_le (by omega) (by omega)
        omega
    rw [scaled, Nat.add_sub_cancel_left]
  · have scaled : scale + significand / f.leading - 1 = scale + 1 := by
      rw [last, Nat.mul_div_cancel _ positive]
      omega
    have rest : scale * f.leading + significand - (scale + 1) * f.leading = f.leading := by
      rw [last, Nat.add_mul]
      omega
    rw [scaled, rest, last, Nat.pow_succ]
    ring

/-- Each place is larger than the one before it. -/
theorem magnitude_lt_succ (f : Format) (rank : ℕ) : f.magnitude rank < f.magnitude (rank + 1) := by
  obtain ⟨scale, significand, rfl, leads, inside⟩ := f.exists_block rank
  rw [Nat.add_assoc, magnitude_block leads inside.le,
    magnitude_block (leads.imp_right (Nat.le_succ_of_le)) inside, Nat.succ_mul]
  exact Nat.lt_add_of_pos_right (Nat.two_pow_pos scale)

theorem magnitude_strictMono (f : Format) : StrictMono f.magnitude :=
  strictMono_nat_of_lt_succ f.magnitude_lt_succ

/-! ## Points and thresholds -/

/-- The number that a rank stands for. -/
def point (f : Format) (rank : ℕ) : ℚ := f.magnitude rank / 2 ^ f.places

/-- The middle between a point and the next one. -/
def middle (f : Format) (rank : ℕ) : ℚ := (f.point rank + f.point (rank + 1)) / 2

/-- No point is nearer to the number than the one of the rank, and if another one is as near the
rank is even. -/
def IsNearest (f : Format) (x : ℚ) (rank : ℕ) : Prop :=
  ∀ other, other ≠ rank → |x - f.point rank| < |x - f.point other| ∨
    |x - f.point rank| = |x - f.point other| ∧ Even rank

/-- The number is rounded to a rank above the given one: it lies past the middle between the rank
and the next, or it is that middle and the next rank is the even one. -/
def Passes (f : Format) (x : ℚ) (rank : ℕ) : Prop :=
  f.middle rank < x ∨ f.middle rank = x ∧ ¬ Even rank

/-- The numbers of the grid grow with the places. -/
theorem point_strictMono (f : Format) : StrictMono f.point := by
  intro rank other less
  have magnitudes : (f.magnitude rank : ℚ) < f.magnitude other := by
    exact_mod_cast f.magnitude_strictMono less
  exact div_lt_div_of_pos_right magnitudes (by positivity)

/-- The first number of the grid is zero. -/
theorem point_zero (f : Format) : f.point 0 = 0 := by
  have zero : f.magnitude 0 = 0 := by
    unfold magnitude
    simp only [Nat.zero_sub, Nat.zero_mul]
  rw [point, zero, Nat.cast_zero, zero_div]

theorem point_nonneg (f : Format) (rank : ℕ) : 0 ≤ f.point rank := by
  unfold point
  positivity

/-- The middles grow with the places. -/
theorem middle_strictMono (f : Format) : StrictMono f.middle := by
  intro rank other less
  have one := f.point_strictMono less
  have two := f.point_strictMono (Nat.add_lt_add_right less 1)
  unfold middle
  linarith

/-- A number of the grid is less than the middle above it. -/
theorem point_lt_middle (f : Format) (rank : ℕ) : f.point rank < f.middle rank := by
  have step := f.point_strictMono (Nat.lt_add_one rank)
  unfold middle
  linarith

/-- A middle is less than the number of the grid above it. -/
theorem middle_lt_point (f : Format) (rank : ℕ) : f.middle rank < f.point (rank + 1) := by
  have step := f.point_strictMono (Nat.lt_add_one rank)
  unfold middle
  linarith

/-- What passes a middle passes every one below. -/
theorem Passes.of_lt {x : ℚ} {rank lower : ℕ} (passes : f.Passes x rank) (less : lower < rank) :
    f.Passes x lower := by
  have thresholds := f.middle_strictMono less
  rcases passes with past | ⟨tie, _⟩
  · exact .inl (thresholds.trans past)
  · exact .inl (tie ▸ thresholds)

/-- What is no less passes the same middles. -/
theorem Passes.mono {x y : ℚ} {rank : ℕ} (passes : f.Passes x rank) (le : x ≤ y) :
    f.Passes y rank := by
  rcases passes with past | ⟨tie, odd⟩
  · exact .inl (past.trans_le le)
  · rcases le.lt_or_eq with less | same
    · exact .inl (tie ▸ less)
    · exact .inr ⟨tie.trans same, odd⟩

/-- A middle above an even place is passed only by what is greater. -/
theorem passes_of_even {x : ℚ} {rank : ℕ} (even : Even rank) :
    f.Passes x rank ↔ f.middle rank < x := by
  simp only [Passes, even, not_true_eq_false, and_false, or_false]

/-- A middle above an odd place is passed by itself as well. -/
theorem passes_of_odd {x : ℚ} {rank : ℕ} (odd : ¬ Even rank) :
    f.Passes x rank ↔ f.middle rank ≤ x := by
  simp only [Passes, odd, not_false_eq_true, and_true, le_iff_lt_or_eq]

/-- A point that a number does not pass is nearer to it than every later one. Only the next one may
be as near. -/
theorem nearer_of_not_passes {x : ℚ} {rank other : ℕ} (stays : ¬ f.Passes x rank)
    (later : rank < other) :
    |x - f.point rank| < |x - f.point other| ∨
      |x - f.point rank| = |x - f.point other| ∧ Even rank ∧ other = rank + 1 := by
  have before := f.point_lt_middle rank
  have after := f.middle_lt_point rank
  have next : f.point (rank + 1) ≤ f.point other := f.point_strictMono.monotone later
  have center : 2 * f.middle rank = f.point rank + f.point (rank + 1) := by
    unfold middle
    ring
  rcases lt_trichotomy x (f.middle rank) with less | tie | more
  · left
    rw [abs_sub_comm x (f.point other), abs_of_pos (show 0 < f.point other - x by linarith), abs_lt]
    constructor <;> linarith
  · have even : Even rank := by
      by_contra odd
      exact stays (.inr ⟨tie.symm, odd⟩)
    rw [abs_sub_comm x (f.point other), abs_of_pos (by linarith), abs_of_pos (by linarith)]
    rcases Nat.eq_or_lt_of_le later with same | beyond
    · right
      refine ⟨?_, even, same.symm⟩
      rw [← same, Nat.succ_eq_add_one]
      linarith
    · left
      have further := f.point_strictMono beyond
      rw [Nat.succ_eq_add_one] at further
      linarith
  · exact absurd (.inl more) stays

/-- A point behind a threshold that a number passes is nearer to it than every earlier one. Only the
one before it may be as near. -/
theorem nearer_of_passes {x : ℚ} {rank other : ℕ} (passes : f.Passes x rank)
    (earlier : other ≤ rank) :
    |x - f.point (rank + 1)| < |x - f.point other| ∨
      |x - f.point (rank + 1)| = |x - f.point other| ∧ Even (rank + 1) ∧ other = rank := by
  have before := f.point_lt_middle rank
  have after := f.middle_lt_point rank
  have previous : f.point other ≤ f.point rank := f.point_strictMono.monotone earlier
  have center : 2 * f.middle rank = f.point rank + f.point (rank + 1) := by
    unfold middle
    ring
  rcases passes with past | ⟨tie, odd⟩
  · left
    rw [abs_of_pos (show 0 < x - f.point other by linarith), abs_lt]
    constructor <;> linarith
  · rw [abs_sub_comm x, abs_of_pos (by linarith), abs_of_pos (by linarith)]
    rcases Nat.eq_or_lt_of_le earlier with rfl | beyond
    · right
      exact ⟨by linarith, Nat.even_add_one.mpr odd, rfl⟩
    · left
      have further := f.point_strictMono beyond
      linarith

/-- **The nearest rank by thresholds.** -/
theorem isNearest_iff {x : ℚ} {rank : ℕ} :
    f.IsNearest x rank ↔ ∀ k, k < rank ↔ f.Passes x k := by
  constructor
  · intro nearest k
    constructor
    · intro less
      by_contra stays
      rcases nearer_of_not_passes stays less with nearer | ⟨same, even, rfl⟩
      · rcases nearest k less.ne with other | ⟨other, _⟩ <;> linarith
      · rcases nearest k less.ne with other | ⟨_, even'⟩
        · linarith
        · exact Nat.even_add_one.mp even' even
    · intro passes
      by_contra notLess
      have le := Nat.le_of_not_lt notLess
      rcases nearer_of_passes passes le with nearer | ⟨same, even, rfl⟩
      · rcases nearest (k + 1) (by omega) with other | ⟨other, _⟩ <;> linarith
      · rcases nearest (rank + 1) (by omega) with other | ⟨_, even'⟩
        · linarith
        · exact Nat.even_add_one.mp even even'
  · intro thresholds other different
    rcases Nat.lt_or_gt_of_ne different with less | more
    · obtain ⟨k, rfl⟩ := Nat.exists_eq_add_one_of_ne_zero (Nat.ne_zero_of_lt less)
      have passes := (thresholds k).mp (Nat.lt_add_one k)
      exact (nearer_of_passes passes (Nat.le_of_lt_add_one less)).imp_right
        fun ⟨same, even, _⟩ => ⟨same, even⟩
    · have stays : ¬ f.Passes x rank := fun passes =>
        lt_irrefl rank ((thresholds rank).mpr passes)
      exact (nearer_of_not_passes stays more).imp_right fun ⟨same, even, _⟩ => ⟨same, even⟩

namespace IsNearest

variable {x y : ℚ} {rank other : ℕ}

theorem passes_iff (nearest : f.IsNearest x rank) {k : ℕ} : f.Passes x k ↔ k < rank :=
  (isNearest_iff.mp nearest k).symm

/-- Rounding is monotone. -/
theorem mono (nearest : f.IsNearest x rank) (nearest' : f.IsNearest y other) (le : x ≤ y) :
    rank ≤ other := by
  by_contra less
  have passes : f.Passes x other := nearest.passes_iff.mpr (Nat.lt_of_not_le less)
  exact lt_irrefl other (nearest'.passes_iff.mp (passes.mono le))

/-- There is at most one nearest rank. -/
theorem unique (nearest : f.IsNearest x rank) (nearest' : f.IsNearest x other) : rank = other :=
  le_antisymm (nearest.mono nearest' le_rfl) (nearest'.mono nearest le_rfl)

end IsNearest

/-- A point is rounded to itself. -/
theorem isNearest_point (f : Format) (rank : ℕ) : f.IsNearest (f.point rank) rank := by
  intro other different
  left
  rw [sub_self, abs_zero, abs_pos]
  exact sub_ne_zero_of_ne (f.point_strictMono.injective.ne different.symm)

/-! ## The nearest rank -/

/-- How far the points of a block are apart. -/
def step (f : Format) (scale : ℕ) : ℚ := 2 ^ scale / 2 ^ f.places

theorem step_pos (f : Format) (scale : ℕ) : 0 < f.step scale := by
  unfold step
  positivity

/-- From one block to the next the step doubles. -/
theorem step_succ (f : Format) (scale : ℕ) : f.step (scale + 1) = 2 * f.step scale := by
  unfold step
  rw [pow_succ]
  ring

/-- In a block the numbers of the grid are multiples of its step. -/
theorem point_block {scale significand : ℕ} (leads : scale = 0 ∨ f.leading ≤ significand)
    (fits : significand ≤ 2 * f.leading) :
    f.point (scale * f.leading + significand) = significand * f.step scale := by
  rw [point, magnitude_block leads fits, step]
  push_cast
  ring

/-- In a block the middles are halfway between multiples of its step. -/
theorem middle_block {scale significand : ℕ} (leads : scale = 0 ∨ f.leading ≤ significand)
    (inside : significand < 2 * f.leading) :
    f.middle (scale * f.leading + significand) = (significand + 1 / 2) * f.step scale := by
  rw [middle, Nat.add_assoc, point_block leads inside.le,
    point_block (leads.imp_right Nat.le_succ_of_le) inside]
  push_cast
  ring

/-- The rank of a whole number of steps that fits the precision, at the scale where the significand
has its leading bit. -/
def stepsRank (f : Format) (scale count : ℕ) : ℕ :=
  (scale + count.log2 + 1 - f.precision) * f.leading + count * 2 ^ (f.precision - 1 - count.log2)

/-- A count that fits is brought to a significand that leads. -/
theorem stepsRank_leads {count : ℕ} (some' : 0 < count)
    (fits : count < 2 ^ f.precision) :
    f.leading ≤ count * 2 ^ (f.precision - 1 - count.log2) ∧
      count * 2 ^ (f.precision - 1 - count.log2) < 2 * f.leading := by
  have short : count.log2 < f.precision := (Nat.log2_lt some'.ne').mpr fits
  have leading : f.leading = 2 ^ count.log2 * 2 ^ (f.precision - 1 - count.log2) := by
    rw [← Nat.pow_add, Nat.add_sub_cancel' (Nat.le_sub_one_of_lt short)]
    rfl
  have scale := Nat.two_pow_pos (f.precision - 1 - count.log2)
  rw [leading, ← Nat.mul_assoc, Nat.mul_comm 2, ← Nat.pow_succ]
  exact ⟨Nat.mul_le_mul_right _ (Nat.log2_self_le some'.ne'),
    Nat.mul_lt_mul_of_pos_right Nat.lt_log2_self scale⟩

/-- A count that fits, of steps of a block low enough, is a number of the grid. -/
theorem point_stepsRank {scale count : ℕ} (some' : 0 < count)
    (fits : count < 2 ^ f.precision) (room : f.precision ≤ scale + count.log2 + 1) :
    f.point (f.stepsRank scale count) = count * f.step scale := by
  obtain ⟨leads, inside⟩ := stepsRank_leads some' fits
  have short : count.log2 < f.precision := (Nat.log2_lt some'.ne').mpr fits
  have exponent :
      f.precision - 1 - count.log2 + (scale + count.log2 + 1 - f.precision) = scale := by
    omega
  rw [stepsRank, point_block (.inr leads) inside.le, step, step]
  push_cast
  rw [mul_assoc, ← mul_div_assoc, ← pow_add, exponent]

/-- Whole numbers of the precision are points, and so is the power of two behind them. -/
theorem exists_point_eq_natCast (positive : 0 < f.precision) (room : f.precision ≤ f.places + 1)
    {count : ℕ} (fits : count ≤ 2 ^ f.precision) : ∃ rank, f.point rank = count := by
  have whole : f.step f.places = 1 := div_self (by positivity)
  rcases Nat.lt_or_eq_of_le fits with fits | rfl
  · rcases Nat.eq_zero_or_pos count with rfl | some'
    · exact ⟨0, f.point_zero.trans Nat.cast_zero.symm⟩
    · refine ⟨f.stepsRank f.places count, ?_⟩
      rw [point_stepsRank some' fits (by omega), whole, mul_one]
  · -- The power of two is the last point of the block of unit steps.
    refine ⟨f.places * f.leading + 2 * f.leading, ?_⟩
    rw [point_block (.inr (by omega)) le_rfl, whole, mul_one, two_mul_leading positive]

/-- The nearest point to a whole number of the precision is the number. -/
theorem IsNearest.point_eq_natCast {count rank : ℕ} (nearest : f.IsNearest count rank)
    (positive : 0 < f.precision) (room : f.precision ≤ f.places + 1)
    (fits : count ≤ 2 ^ f.precision) : f.point rank = count := by
  obtain ⟨exact', same⟩ := exists_point_eq_natCast positive room fits
  rw [← same] at nearest ⊢
  rw [nearest.unique (f.isNearest_point exact')]

theorem even_leading (wide : 2 ≤ f.precision) : Even f.leading := by
  have positive : f.precision - 1 ≠ 0 := by omega
  rw [leading, Nat.pow_eq, Nat.even_pow]
  exact ⟨even_two, positive⟩

/-- In a block a place is even where its significand is. -/
theorem even_block (wide : 2 ≤ f.precision) {scale significand : ℕ} :
    Even (scale * f.leading + significand) ↔ Even significand := by
  rw [Nat.even_add]
  simp only [(f.even_leading wide).mul_left scale, true_iff]

/-- The scale leaves a quotient of the precision, with its leading bit unless it is the first. -/
theorem scaleFor_spec (positive : 0 < f.precision) (units : ℕ) :
    units < 2 * f.leading * 2 ^ f.scaleFor units ∧
      (f.scaleFor units = 0 ∨ f.leading * 2 ^ f.scaleFor units ≤ units) := by
  have top : units < 2 ^ (units.log2 + 1) := Nat.lt_log2_self
  rw [two_mul_leading positive, ← Nat.pow_add]
  constructor
  · refine top.trans_le (Nat.pow_le_pow_right (by decide) ?_)
    unfold scaleFor
    omega
  · by_cases first : f.scaleFor units = 0
    · exact .inl first
    · right
      have exact' : f.precision - 1 + f.scaleFor units = units.log2 := by
        unfold scaleFor at first ⊢
        omega
      have nonzero : units ≠ 0 := by
        rintro rfl
        unfold scaleFor at first
        simp only [Nat.log2_zero] at first
        omega
      rw [leading, Nat.pow_eq, ← Nat.pow_add, exact']
      exact Nat.log2_self_le nonzero

/-- A place whose middle is not passed, while the one below is, is the nearest. -/
theorem isNearest_of_passes {x : ℚ} {rank : ℕ} (stays : ¬ f.Passes x rank)
    (passes : ∀ k, rank = k + 1 → f.Passes x k) : f.IsNearest x rank := by
  rw [isNearest_iff]
  intro k
  constructor
  · intro less
    obtain ⟨last, rfl⟩ := Nat.exists_eq_add_one_of_ne_zero (Nat.ne_zero_of_lt less)
    rcases Nat.eq_or_lt_of_le (Nat.le_of_lt_add_one less) with rfl | further
    · exact passes k rfl
    · exact (passes last rfl).of_lt further
  · intro past
    by_contra notLess
    rcases Nat.eq_or_lt_of_le (Nat.le_of_not_lt notLess) with rfl | further
    · exact stays past
    · exact stays (past.of_lt further)

section

variable {quotient : ℚ} {scale significand : ℕ}

/-- A significand near a quotient in a block fits the block or is the first of the next one. -/
theorem rounded_fits (fits : quotient < 2 * f.leading) (near : |quotient - significand| ≤ 1 / 2) :
    significand ≤ 2 * f.leading := by
  obtain ⟨low, _⟩ := abs_le.mp near
  have cast : (significand : ℚ) < (2 * f.leading + 1 : ℕ) := by
    push_cast
    linarith
  exact Nat.le_of_lt_add_one (by exact_mod_cast cast)

/-- A significand near a quotient that leads does so as well. -/
theorem rounded_leads (leads : scale = 0 ∨ f.leading ≤ quotient)
    (near : |quotient - significand| ≤ 1 / 2) : scale = 0 ∨ f.leading ≤ significand := by
  refine leads.imp_right fun leads => Nat.le_of_lt_add_one ?_
  obtain ⟨_, high⟩ := abs_le.mp near
  have cast : (f.leading : ℚ) < (significand + 1 : ℕ) := by
    push_cast
    linarith
  exact_mod_cast cast

/-- A quotient that is rounded to a significand does not pass it. A quotient that is rounded up to
the end of the block is far from the middle behind the beginning of the next one. -/
theorem not_passes_block (wide : 2 ≤ f.precision) (leads : scale = 0 ∨ f.leading ≤ quotient)
    (fits : quotient < 2 * f.leading) (near : |quotient - significand| ≤ 1 / 2)
    (tie : |quotient - significand| = 1 / 2 → Even significand) :
    ¬ f.Passes (quotient * f.step scale) (scale * f.leading + significand) := by
  have positive := f.step_pos scale
  obtain ⟨_, high⟩ := abs_le.mp near
  intro passes
  rcases Nat.lt_or_eq_of_le (rounded_fits fits near) with inside | last
  · unfold Passes at passes
    rw [middle_block (rounded_leads leads near) inside, even_block wide] at passes
    rcases passes with past | ⟨same, odd⟩
    · have past := lt_of_mul_lt_mul_right past positive.le
      linarith
    · have same := mul_right_cancel₀ positive.ne' same
      refine odd (tie ?_)
      rw [← same, add_sub_cancel_left, abs_of_pos (by norm_num)]
  · have next : scale * f.leading + significand = (scale + 1) * f.leading + f.leading := by
      rw [last]
      ring
    have further : quotient * f.step scale < f.middle ((scale + 1) * f.leading + f.leading) := by
      rw [middle_block (.inr le_rfl) (by linarith [f.leading_pos]), step_succ]
      nlinarith
    rw [next] at passes
    rcases passes with past | ⟨same, _⟩
    · exact lt_asymm past further
    · exact further.ne' same

/-- A quotient that is rounded to a significand passes the one before. -/
theorem passes_block (wide : 2 ≤ f.precision) (leads : scale = 0 ∨ f.leading ≤ quotient)
    (fits : quotient < 2 * f.leading) (near : |quotient - (significand + 1 : ℕ)| ≤ 1 / 2)
    (tie : |quotient - (significand + 1 : ℕ)| = 1 / 2 → Even (significand + 1)) :
    f.Passes (quotient * f.step scale) (scale * f.leading + significand) := by
  have positive := f.step_pos scale
  have bound := rounded_fits fits near
  have rounded := rounded_leads leads near
  push_cast at near tie
  obtain ⟨low, _⟩ := abs_le.mp near
  by_cases leads' : scale = 0 ∨ f.leading ≤ significand
  · unfold Passes
    rw [middle_block leads' bound, even_block wide]
    rcases (show (significand : ℚ) + 1 / 2 ≤ quotient by linarith).lt_or_eq with past | same
    · exact .inl (mul_lt_mul_of_pos_right past positive)
    · refine .inr ⟨by rw [same], ?_⟩
      refine Nat.even_add_one.mp (tie ?_)
      rw [← same, abs_of_neg (by linarith)]
      ring
  · -- The significand has its leading bit alone, so the point before it is in the last block.
    obtain ⟨scaled, notLeads⟩ := not_or.mp leads'
    obtain ⟨lower, rfl⟩ := Nat.exists_eq_add_one_of_ne_zero scaled
    have edge : significand + 1 = f.leading := by
      have rounded := rounded.resolve_left scaled
      omega
    have before : (lower + 1) * f.leading + significand =
        lower * f.leading + (2 * f.leading - 1) := by
      rw [Nat.add_mul]
      omega
    have numberLeads : (f.leading : ℚ) ≤ quotient := leads.resolve_left scaled
    have some' : 1 ≤ 2 * f.leading := by omega
    left
    rw [before, middle_block (.inr (by omega)) (by omega), step_succ, Nat.cast_sub some']
    push_cast
    nlinarith [f.step_pos lower]

/-- In a block a number is rounded as the quotient by the step is rounded to a whole number. -/
theorem isNearest_block (wide : 2 ≤ f.precision) (leads : scale = 0 ∨ f.leading ≤ quotient)
    (fits : quotient < 2 * f.leading) (near : |quotient - significand| ≤ 1 / 2)
    (tie : |quotient - significand| = 1 / 2 → Even significand) :
    f.IsNearest (quotient * f.step scale) (scale * f.leading + significand) := by
  refine isNearest_of_passes (not_passes_block wide leads fits near tie) ?_
  intro k first
  cases significand with
  | zero =>
      have unscaled : scale = 0 := by
        have positive := f.leading_pos
        have rounded := rounded_leads leads near
        omega
      rw [unscaled] at first
      omega
  | succ previous =>
      obtain rfl : k = scale * f.leading + previous := by omega
      exact passes_block wide leads fits near tie

end

/-- **What `nearestRank` computes is the nearest rank.** -/
theorem isNearest_nearestRank (wide : 2 ≤ f.precision) (num : ℕ) {den : ℕ} (positive : 0 < den) :
    f.IsNearest (num / den) (f.nearestRank num den) := by
  have denPositive : (0 : ℚ) < den := by exact_mod_cast positive
  obtain ⟨fits, leads⟩ := scaleFor_spec (f := f) (by omega) (num * 2 ^ f.places / den)
  unfold nearestRank
  simp only [Nat.pow_eq]
  generalize f.scaleFor (num * 2 ^ f.places / den) = scale at fits leads ⊢
  have scaled : 0 < den * 2 ^ scale := by positivity
  have rounded := abs_sub_roundDiv (num * 2 ^ f.places) scaled
  have value : (num / den : ℚ) =
      ((num * 2 ^ f.places : ℕ) / (den * 2 ^ scale : ℕ) : ℚ) * f.step scale := by
    unfold step
    push_cast
    field_simp
  rw [value]
  refine isNearest_block wide ?_ ?_ rounded.1 rounded.2
  · refine leads.imp_right fun leads => ?_
    rw [le_div_iff₀ (by positivity)]
    have product := (Nat.le_div_iff_mul_le positive).mp leads
    calc (f.leading : ℚ) * (den * 2 ^ scale : ℕ) = (f.leading * 2 ^ scale * den : ℕ) := by
          push_cast
          ring
      _ ≤ (num * 2 ^ f.places : ℕ) := by exact_mod_cast product
  · rw [div_lt_iff₀ (by positivity)]
    have product := (Nat.div_lt_iff_lt_mul positive).mp fits
    calc ((num * 2 ^ f.places : ℕ) : ℚ) < (2 * f.leading * 2 ^ scale * den : ℕ) := by
          exact_mod_cast product
      _ = 2 * f.leading * (den * 2 ^ scale : ℕ) := by
          push_cast
          ring

end Format

end FilterScript
