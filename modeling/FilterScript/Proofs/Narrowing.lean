import FilterScript.Proofs.Reading
import FilterScript.Value.Relation

/-! # Singles among the doubles

A numeral is read in single precision by way of double precision: it is rounded to the nearest
double, and that double to the nearest single (`Decimal.readSingle_eq`). Every single and every
middle between two singles is a double (`Format.point_finer`), so the two roundings differ from one
only where the first of them meets such a middle (`Format.isNearest_narrowed_iff`).
-/

namespace FilterScript

/-! ## Narrowing -/

namespace Format

/-- The rank that a point of one format is rounded to in another. -/
def convertRank (f g : Format) (rank : ℕ) : ℕ :=
  g.nearestRank (f.magnitude rank) (Nat.pow 2 f.places)

/-- Conversion leads from the number of a place to the nearest number of the other format. -/
theorem isNearest_convertRank (f : Format) {g : Format} (regular : g.Regular) (rank : ℕ) :
    g.IsNearest (f.point rank) (f.convertRank g rank) := by
  have units : 0 < Nat.pow 2 f.places := Nat.pow_pos two_pos
  have nearest := g.isNearest_nearestRank regular.wide (f.magnitude rank) units
  rw [point, ← Nat.cast_ofNat, ← Nat.cast_pow]
  exact nearest

/-- The rank of the single that a double is rounded to. -/
def narrowRank (rank : ℕ) : ℕ := double.convertRank single rank

theorem isNearest_narrowRank (rank : ℕ) :
    single.IsNearest (double.point rank) (narrowRank rank) :=
  double.isNearest_convertRank regular_single rank

theorem narrowRank_zero : narrowRank 0 = 0 := by
  have nearest := isNearest_narrowRank 0
  rw [double.point_zero, ← single.point_zero] at nearest
  exact nearest.unique (single.isNearest_point 0)

end Format

/-- The finite doubles reach further than the finite singles. -/
theorem Format.point_finiteCount_le :
    single.point single.finiteCount ≤ double.point double.finiteCount := by
  rw [point_finiteCount, point_finiteCount, div_le_div_iff₀ (by positivity) (by positivity),
    ← pow_add, ← pow_add]
  exact pow_le_pow_right₀ (by norm_num) (by decide)

/-- A double beyond the finite ones is beyond the finite singles. -/
theorem Format.finiteCount_le_narrowRank {rank : ℕ} (infinite : double.finiteCount ≤ rank) :
    single.finiteCount ≤ narrowRank rank :=
  (single.isNearest_point _).mono (isNearest_narrowRank rank)
    (point_finiteCount_le.trans (double.point_strictMono.monotone infinite))

/-! ## Half steps of singles -/

namespace Format

/-- A half step of the singles is a step of the doubles further up. -/
theorem step_half (scale : ℕ) : double.step (scale + 924) = single.step scale / 2 := by
  have places : (2 : ℚ) ^ double.places = 2 ^ 924 * (2 ^ single.places * 2) := by
    rw [← pow_succ, ← pow_add]
    rfl
  rw [step, step, places, pow_add, mul_comm ((2 : ℚ) ^ scale), mul_div_mul_left _ _ (by positivity),
    div_div]

/-- The rank of the double that stands so many half steps of a block of singles from zero. -/
def finer (scale halves : ℕ) : ℕ := double.stepsRank (scale + 924) halves

/-- A number of half steps that fits a double is one. -/
theorem point_finer {scale halves : ℕ} (positive : 0 < halves) (fits : halves < 2 ^ 53) :
    double.point (finer scale halves) = halves * (single.step scale / 2) := by
  have room : double.precision ≤ scale + 924 + halves.log2 + 1 := by
    have precision : double.precision = 53 := rfl
    omega
  rw [finer, point_stepsRank positive fits room, step_half]

/-- The rank of the double that is the middle behind a single. -/
def tieRank (rank : ℕ) : ℕ := finer (single.block rank) (2 * single.significand rank + 1)

/-- The double between two singles is their middle. -/
theorem point_tieRank (rank : ℕ) : double.point (tieRank rank) = single.middle rank := by
  obtain ⟨place, leads, inside⟩ := single.block_spec rank
  have small : single.leading = 2 ^ 23 := rfl
  have middle := middle_block leads inside
  rw [← place] at middle
  rw [tieRank, point_finer (by omega) (by omega), middle]
  push_cast
  ring

/-! ## Widening -/

/-- Every single is a double. -/
theorem point_eq_point (rank : ℕ) : ∃ wide, double.point wide = single.point rank := by
  obtain ⟨scale, significand, rfl, leads, inside⟩ := single.exists_block rank
  have small : single.leading = 2 ^ 23 := rfl
  rcases Nat.eq_zero_or_pos significand with zero | positive
  · have first : scale = 0 := leads.resolve_right (by omega)
    refine ⟨0, ?_⟩
    rw [zero, first, Nat.zero_mul, Nat.add_zero, point_zero, point_zero]
  · refine ⟨finer scale (2 * significand), ?_⟩
    rw [point_finer (by omega) (by omega), point_block leads inside.le]
    push_cast
    ring

/-- A single is widened to the double that it is. -/
theorem point_convertRank_double (rank : ℕ) :
    double.point (single.convertRank double rank) = single.point rank := by
  obtain ⟨wide, same⟩ := point_eq_point rank
  have nearest := single.isNearest_convertRank regular_double rank
  rw [← same] at nearest ⊢
  exact congrArg _ (nearest.unique (double.isNearest_point wide))

/-- Only zero is converted to zero. -/
theorem convertRank_double_eq_zero_iff {rank : ℕ} :
    single.convertRank double rank = 0 ↔ rank = 0 := by
  rw [← double.point_strictMono.injective.eq_iff, point_convertRank_double, double.point_zero,
    ← single.point_zero, single.point_strictMono.injective.eq_iff]

/-- The finite singles are finite as doubles. -/
theorem convertRank_double_lt {rank : ℕ} (bounded : rank < single.finiteCount) :
    single.convertRank double rank < double.finiteCount := by
  rw [← double.point_strictMono.lt_iff_lt, point_convertRank_double]
  refine (single.point_strictMono bounded).trans_le ?_
  exact point_finiteCount_le

/-- A widened single is narrowed to itself. -/
theorem narrowRank_convertRank (rank : ℕ) :
    narrowRank (single.convertRank double rank) = rank := by
  have nearest := isNearest_narrowRank (single.convertRank double rank)
  rw [point_convertRank_double] at nearest
  exact nearest.unique (single.isNearest_point rank)

/-! ## Two roundings and one -/

/-- A number that is rounded to a double passes a middle between singles as the double does, unless
the double is this middle, the number is none, and the tie is broken to the other side. -/
theorem passes_point_double_iff {x : ℚ} {rank : ℕ} (nearest : double.IsNearest x rank) (k : ℕ) :
    (single.Passes x k ↔ single.Passes (double.point rank) k) ↔
      ¬ (double.point rank = single.middle k ∧
        (single.middle k < x ∧ Even k ∨ x < single.middle k ∧ ¬ Even k)) := by
  have middle := point_tieRank k
  generalize tieRank k = tie at middle
  have above (least : single.middle k ≤ x) : tie ≤ rank :=
    (double.isNearest_point tie).mono nearest (middle ▸ least)
  have below (most : x ≤ single.middle k) : rank ≤ tie :=
    nearest.mono (double.isNearest_point tie) (middle ▸ most)
  unfold Passes
  rw [← middle] at above below ⊢
  rcases lt_trichotomy rank tie with less | rfl | more
  · have point := double.point_strictMono less
    have number : x < double.point tie := by
      by_contra least
      exact Nat.not_lt_of_le (above (le_of_not_gt least)) less
    simp only [number.not_gt, number.ne', point.not_gt, point.ne', point.ne, false_and, or_self,
      not_false_eq_true]
  · by_cases even : Even k
    · simp only [even, not_true_eq_false, and_false, or_false, lt_irrefl, iff_false, true_and,
        and_true]
    · simp only [even, not_false_eq_true, and_true, lt_irrefl, false_or, iff_true, true_and,
        and_false, not_lt]
      exact le_iff_lt_or_eq.symm
  · have point := double.point_strictMono more
    have number : double.point tie < x := by
      by_contra most
      exact Nat.not_lt_of_le (below (le_of_not_gt most)) more
    simp only [number, point, point.ne', true_or, false_and, not_false_eq_true]

/-- **Two roundings are one, unless the first meets a tie of the second.** -/
theorem isNearest_narrowed_iff {x : ℚ} {rank narrow : ℕ} (nearest : double.IsNearest x rank)
    (narrowed : single.IsNearest (double.point rank) narrow) :
    single.IsNearest x narrow ↔ ¬ ∃ k, double.point rank = single.middle k ∧
      (single.middle k < x ∧ Even k ∨ x < single.middle k ∧ ¬ Even k) := by
  rw [not_exists, isNearest_iff]
  refine forall_congr' fun k => ?_
  rw [← narrowed.passes_iff, ← passes_point_double_iff nearest k]
  exact Iff.comm

end Format

/-! ## Numbers -/

namespace Binary

/-- A double is converted with its sign. -/
theorem convert_ofRank (negative : Bool) (rank : ℕ) :
    (ofRank negative rank : Double).convert .single = ofRank negative (Format.narrowRank rank) := by
  unfold ofRank
  by_cases bounded : rank < Format.double.finiteCount
  · rw [dif_pos bounded]
    rfl
  · have infinite := Format.finiteCount_le_narrowRank (Nat.le_of_not_lt bounded)
    rw [dif_neg bounded, dif_neg (Nat.not_lt_of_le infinite)]
    rfl

/-- A single is infinite as a double only if it is infinite. -/
theorem convert_double_ofRank (negative : Bool) (rank : ℕ) :
    (ofRank negative rank : Single).convert .double =
      if rank < Format.single.finiteCount then
        ofRank negative (Format.single.convertRank .double rank)
      else .infinity negative := by
  unfold ofRank
  by_cases bounded : rank < Format.single.finiteCount
  · rw [dif_pos bounded, if_pos bounded]
    rfl
  · rw [dif_neg bounded, if_neg bounded]
    rfl

/-- The zeros of the singles are those of the doubles. -/
theorem convert_double_zero (negative : Bool) :
    (ofRank negative 0 : Single).convert .double = ofRank negative 0 := by
  rw [convert_double_ofRank, if_pos (by decide), Format.convertRank_double_eq_zero_iff.mpr rfl]

/-- **A single that is widened and narrowed again is the same.** -/
theorem convert_convert (x : Single) : (x.convert .double).convert .single = x := by
  cases x with
  | nan => rfl
  | infinity negative => rfl
  | finite negative rank =>
      have widened : (finite negative rank : Single).convert .double =
          ofRank negative (Format.single.convertRank .double rank) := rfl
      rw [widened, convert_ofRank, Format.narrowRank_convertRank, ofRank, dif_pos rank.isLt]

end Binary

/-- **A decimal is read in single precision as the single nearest to the double nearest to it.** -/
theorem Decimal.readSingle_eq (negative : Bool) (d : Decimal) :
    d.readSingle negative = .ofRank negative (Format.narrowRank (d.rank .double)) := by
  rw [readSingle, read_eq Format.regular_double, Binary.convert_ofRank]

/-- A numeral stands for the single that its digits are read as. -/
theorem Single.ofText_text (n : Numeral) :
    Single.ofText n.text = n.decimal.readSingle n.negative := by
  rw [ofText, Literal.ofText?_text, Option.map_some, Option.getD_some, Literal.toSingle]

end FilterScript
