import FilterScript.Proofs.WholeNumberOrder
import FilterScript.Value.Native

/-! # Doubles rounded to single precision

A float of single precision is made from a double, and is a double again for the host
(`Double.narrowed`). Among the ranks this is a monotone function that keeps zero, so the order and
the signs are kept. A finite double becomes the single nearest to it, of two equally near ones the
one with the even significand (`Binary.NearestTo`), as long as it lies before the middle behind the
last finite single, which is `2 ^ 128 - 2 ^ 103`. From there on it becomes an infinity. The laws are
collected in `Double.RoundsToSingle`.
-/

namespace FilterScript

/-! ## Ranks -/

namespace Format

/-- The rank of the single that a double is rounded to, among the doubles. -/
def roundedRank (rank : ℕ) : ℕ := widenRank (narrowRank rank)

/-- Rounding through the singles keeps the order of the doubles. -/
theorem roundedRank_mono : Monotone roundedRank := by
  intro rank other le
  apply widenRank_mono
  apply narrowRank_mono
  exact le

theorem roundedRank_le (rank : ℕ) : roundedRank rank ≤ double.finiteCount :=
  widenRank_le (narrowRank rank)

theorem roundedRank_zero : roundedRank 0 = 0 := by
  rw [roundedRank, narrowRank_zero, widenRank_zero]

/-- From where on a double is rounded to an infinity. -/
theorem finiteCount_le_roundedRank_iff {rank : ℕ} :
    double.finiteCount ≤ roundedRank rank ↔ 2 ^ 128 - 2 ^ 103 ≤ double.point rank := by
  rw [roundedRank, finiteCount_le_widenRank_iff, finiteCount_le_narrowRank_iff_le_point,
    point_finer_last]

/-- To a number that is not negative no point with a negative sign is nearer than the nearest point,
since the same point without the sign is on the way to it. -/
theorem IsNearest.nearer_than_neg {f : Format} {v : ℚ} {rank other : ℕ}
    (nearest : f.IsNearest v rank) (nonneg : 0 ≤ v) (different : -f.point other ≠ f.point rank) :
    |v - f.point rank| < |v - -f.point other| ∨
      |v - f.point rank| = |v - -f.point other| ∧ Even rank := by
  have point := f.point_nonneg rank
  have across : |v - -f.point other| = v + f.point other := by
    rw [sub_neg_eq_add, abs_of_nonneg (add_nonneg nonneg (f.point_nonneg other))]
  rw [across]
  rcases eq_or_ne other rank with rfl | apart
  · -- The two differ in their sign alone, so they are not zero, nor is the number.
    have beyond : 0 < f.point other := by
      refine point.lt_of_ne fun zero => different ?_
      rw [← zero, neg_zero]
    have positive : 0 < v := by
      refine nonneg.lt_of_ne fun zero => beyond.ne' ?_
      rw [← zero, ← f.point_zero] at nearest
      rw [nearest.unique (f.isNearest_point 0), f.point_zero]
    exact .inl (abs_lt.mpr ⟨by linarith, by linarith⟩)
  · have along : |v - f.point other| ≤ v + f.point other := by
      have point' := f.point_nonneg other
      exact abs_le.mpr ⟨by linarith, by linarith⟩
    rcases nearest other apart with nearer | ⟨near, even⟩
    · exact .inl (nearer.trans_le along)
    · rw [near]
      exact along.lt_or_eq.imp_right fun equal => ⟨equal, even⟩

end Format

/-! ## The nearest number -/

namespace Binary

variable {f : Format} {x y : Binary f} {v w : ℚ}

/-- The number is finite, and its significand is even. -/
def HasEvenSignificand : Binary f → Prop
  | .finite _ rank => Even (f.significand rank)
  | _ => False

/-- The number is finite, and no finite number of the format is nearer to the rational number. If
another one is as near, the significand of this one is even. -/
def NearestTo (x : Binary f) (v : ℚ) : Prop :=
  ∃ w, x.value? = some w ∧ ∀ (other : Binary f) (w' : ℚ), other.value? = some w' → w' ≠ w →
    |v - w| < |v - w'| ∨ |v - w| = |v - w'| ∧ x.HasEvenSignificand

/-- A number with a value is a sign with a rank, and its value has this sign and the magnitude of
the rank. -/
theorem exists_finite_of_value? (value : x.value? = some v) :
    ∃ negative rank, x = .finite negative rank ∧
      v = if negative then -f.point rank else f.point rank := by
  cases x with
  | nan => cases value
  | infinity negative => cases value
  | finite negative rank => exact ⟨negative, rank, rfl, (Option.some.inj value).symm⟩

/-- A sign does not change the distance from zero. -/
theorem abs_signed_point (negative : Bool) (rank : ℕ) :
    |if negative then -f.point rank else f.point rank| = f.point rank := by
  cases negative with
  | false => exact abs_of_nonneg (f.point_nonneg rank)
  | true => exact (abs_neg _).trans (abs_of_nonneg (f.point_nonneg rank))

/-- The negative of a double stands for the negative number. -/
theorem value?_neg (value : x.value? = some w) : x.neg.value? = some (-w) := by
  obtain ⟨negative, rank, rfl, rfl⟩ := exists_finite_of_value? value
  cases negative with
  | false => rfl
  | true => exact congrArg some (neg_eq_iff_eq_neg.mp rfl)

/-- The sign has no part in whether a significand is even. -/
theorem hasEvenSignificand_neg (x : Binary f) :
    x.neg.HasEvenSignificand ↔ x.HasEvenSignificand := by
  cases x with
  | nan => exact Iff.rfl
  | infinity negative => exact Iff.rfl
  | finite negative rank => exact Iff.rfl

/-- The numbers of a format lie symmetrically around zero. -/
theorem NearestTo.neg (nearest : x.NearestTo v) : x.neg.NearestTo (-v) := by
  obtain ⟨w, value, nearer⟩ := nearest
  refine ⟨-w, value?_neg value, fun other w' value' different => ?_⟩
  have mirrored := nearer other.neg (-w') (value?_neg value') fun same =>
    different (neg_eq_iff_eq_neg.mp same)
  have center : |-v - -w| = |v - w| := by rw [neg_sub_neg, abs_sub_comm]
  have away : |-v - w'| = |v - -w'| := by rw [← neg_add', abs_neg, sub_neg_eq_add]
  rw [center, away, hasEvenSignificand_neg]
  exact mirrored

/-- A magnitude that a number is rounded to is nearest to it, with ties to even. -/
theorem nearestTo_of_isNearest {rank : Fin f.finiteCount} (wide : 2 ≤ f.precision) (nonneg : 0 ≤ v)
    (nearest : f.IsNearest v rank) : (finite false rank).NearestTo v := by
  have even : Even rank.val → Even (f.significand rank) := by
    obtain ⟨place, -, -⟩ := f.block_spec rank
    exact fun even => (Format.even_block wide).mp (place ▸ even)
  refine ⟨f.point rank, rfl, fun other w' value different => ?_⟩
  obtain ⟨negative, rank', rfl, rfl⟩ := exists_finite_of_value? value
  cases negative with
  | false =>
      have apart : rank'.val ≠ rank := fun same => different (congrArg f.point same)
      exact (nearest rank' apart).imp_right (.imp_right even)
  | true => exact (nearest.nearer_than_neg nonneg different).imp_right (.imp_right even)

/-- A single is the same number as a double. -/
theorem value?_convert_double (x : Single) : (x.convert .double).value? = x.value? := by
  cases x with
  | nan => rfl
  | infinity negative => rfl
  | finite negative rank =>
      have bounded := Format.convertRank_double_lt rank.isLt
      rw [finite_eq_ofRank, convert_double_ofRank, if_pos rank.isLt, ofRank, dif_pos bounded,
        value?, Format.point_convertRank_double, ofRank, dif_pos rank.isLt, value?]

/-- A double is less than or equal to another exactly if its place in the order is. -/
theorem le_iff : x.le y = true ↔ ∃ a b, x.position? = some a ∧ y.position? = some b ∧ a ≤ b := by
  unfold le
  split
  · next a b left right =>
      rw [decide_eq_true_eq, left, right]
      constructor
      · exact fun less => ⟨a, b, rfl, rfl, less⟩
      · rintro ⟨a', b', same, same', less⟩
        rw [Option.some.inj same, Option.some.inj same']
        exact less
  · next none =>
      refine iff_of_false Bool.false_ne_true ?_
      rintro ⟨a, b, left, right, -⟩
      exact none a b left right

/-- A monotone function of the ranks that keeps zero keeps the order of the places. -/
theorem signed_magnitude_le {round : ℕ → ℕ} (mono : Monotone round) (zero : round 0 = 0)
    {negative negative' : Bool} {rank rank' : ℕ}
    (le : signed negative (f.magnitude rank) ≤ signed negative' (f.magnitude rank')) :
    signed negative (f.magnitude (round rank)) ≤ signed negative' (f.magnitude (round rank')) := by
  have grows {rank rank' : ℕ} (le : f.magnitude rank ≤ f.magnitude rank') :
      f.magnitude (round rank) ≤ f.magnitude (round rank') :=
    f.magnitude_strictMono.monotone (mono (f.magnitude_strictMono.le_iff_le.mp le))
  have kept {rank : ℕ} (none : f.magnitude rank = 0) : f.magnitude (round rank) = 0 := by
    have first := f.magnitude_strictMono.injective (none.trans f.magnitude_zero.symm)
    rw [first, zero, f.magnitude_zero]
  unfold signed at le ⊢
  cases negative <;> cases negative' <;>
    simp only [Bool.false_eq_true, ↓reduceIte] at le ⊢
  · exact Int.ofNat_le.mpr (grows (Int.ofNat_le.mp le))
  · -- A number is at most a negative one only if both are zero.
    have none : f.magnitude rank = 0 := by omega
    have none' : f.magnitude rank' = 0 := by omega
    rw [kept none, kept none']
    rfl
  · omega
  · have le := grows (show f.magnitude rank' ≤ f.magnitude rank by omega)
    omega

end Binary

/-! ## Rounding -/

namespace Double

open Binary

/-- The double is a single. The infinities are, and what is no number. -/
def IsSingle (x : Double) : Prop := ∃ y : Single, y.convert .double = x

/-- The function rounds the doubles to single precision. -/
structure RoundsToSingle (round : Double → Double) : Prop where
  single (x : Double) : IsSingle (round x)
  nan : round .nan = .nan
  infinity (negative : Bool) : round (.infinity negative) = .infinity negative
  nearest {x : Double} {v : ℚ} : x.value? = some v → |v| < 2 ^ 128 - 2 ^ 103 →
    ∃ y : Single, y.convert .double = round x ∧ y.NearestTo v
  overflow {x : Double} {v : ℚ} : x.value? = some v →
    (round x = .infinity x.isNegative ↔ 2 ^ 128 - 2 ^ 103 ≤ |v|)
  sign (x : Double) : (round x).isNegative = x.isNegative
  keeps {x : Double} : IsSingle x → round x = x
  neg (x : Double) : round x.neg = (round x).neg
  mono {x y : Double} : x.le y = true → (round x).le (round y) = true

/-- The double that a host gets for a float of single precision that is made from a double. -/
def narrowed (x : Double) : Double := (x.convert .single).convert .double

/-- A double is rounded by its rank, and keeps its sign. -/
theorem narrowed_ofRank (negative : Bool) (rank : ℕ) :
    narrowed (ofRank negative rank) = ofRank negative (Format.roundedRank rank) := by
  rw [narrowed, convert_ofRank, convert_double_eq_ofRank, Format.roundedRank]

/-- A double is rounded to an infinity exactly from the middle behind the last finite single on. -/
theorem narrowed_eq_infinity_iff {x : Double} {v : ℚ} (value : x.value? = some v) :
    narrowed x = .infinity x.isNegative ↔ 2 ^ 128 - 2 ^ 103 ≤ |v| := by
  obtain ⟨negative, rank, rfl, rfl⟩ := exists_finite_of_value? value
  rw [abs_signed_point, ← Format.finiteCount_le_roundedRank_iff, finite_eq_ofRank,
    narrowed_ofRank, isNegative_ofRank]
  constructor
  · intro infinite
    by_contra bounded
    rw [ofRank, dif_pos (Nat.lt_of_not_le bounded)] at infinite
    cases infinite
  · exact ofRank_eq_infinity negative

/-- Below that bound a double is rounded to the nearest single, with ties to even. -/
theorem nearestTo_convert_single {x : Double} {v : ℚ} (value : x.value? = some v)
    (inside : |v| < 2 ^ 128 - 2 ^ 103) : (x.convert .single).NearestTo v := by
  obtain ⟨negative, rank, rfl, rfl⟩ := exists_finite_of_value? value
  have bounded : Format.narrowRank rank < Format.single.finiteCount := by
    rw [abs_signed_point, ← not_le, ← Format.finiteCount_le_roundedRank_iff, Format.roundedRank,
      Format.finiteCount_le_widenRank_iff, not_le] at inside
    exact inside
  have positive : ((finite false rank : Double).convert .single).NearestTo
      (Format.double.point rank) := by
    rw [finite_eq_ofRank, convert_ofRank, ofRank, dif_pos bounded]
    exact nearestTo_of_isNearest (by decide) (Format.double.point_nonneg rank)
      (Format.isNearest_narrowRank rank)
  -- A number with a negative sign is rounded as the number without it.
  cases negative with
  | false => exact positive
  | true => exact convert_neg _ (finite false rank : Double) ▸ positive.neg

/-- Rounding to singles keeps the order, infinities included. -/
theorem narrowed_le_narrowed {x y : Double} (le : x.le y = true) :
    (narrowed x).le (narrowed y) = true := by
  obtain ⟨a, b, left, right, less⟩ := le_iff.mp le
  obtain ⟨negative, rank, rfl, rfl⟩ := exists_rank_of_position? left
  obtain ⟨negative', rank', rfl, rfl⟩ := exists_rank_of_position? right
  rw [narrowed_ofRank, narrowed_ofRank, le_iff]
  refine ⟨_, _, position?_ofRank _ _, position?_ofRank _ _, ?_⟩
  rw [min_eq_left (Format.roundedRank_le _), min_eq_left (Format.roundedRank_le _)]
  exact signed_magnitude_le Format.roundedRank_mono Format.roundedRank_zero less

/-- A double that is a single is not changed. -/
theorem narrowed_of_isSingle {x : Double} (single : IsSingle x) : narrowed x = x := by
  obtain ⟨y, rfl⟩ := single
  rw [narrowed, convert_convert]

/-- **Floats of single precision are correctly rounded.** The host gets the rounded double back, and
the single is the same number as the double that stands for it. -/
theorem narrowed_rounds :
    (∀ x : Double,
      (Value.ofDoubleOfKind .float32 x).map Value.toNative = .ok (.float (narrowed x))) ∧
    (∀ y : Single, (y.convert .double).value? = y.value?) ∧
    RoundsToSingle narrowed := by
  refine ⟨fun x => rfl, value?_convert_double, ?_⟩
  constructor
  case single => exact fun x => ⟨_, rfl⟩
  case nan => rfl
  case infinity => exact fun negative => rfl
  case nearest => exact fun value inside => ⟨_, rfl, nearestTo_convert_single value inside⟩
  case overflow => exact narrowed_eq_infinity_iff
  case sign => exact fun x => (isNegative_convert _ _).trans (isNegative_convert _ _)
  case keeps => exact narrowed_of_isSingle
  case neg => exact fun x => by rw [narrowed, convert_neg, convert_neg, narrowed]
  case mono => exact narrowed_le_narrowed

/-- The least double that is rounded to an infinity. -/
def leastInfinite : Double := ofRank false (Format.finer 253 (2 ^ 25 - 1))

/-- The value of the least double that is rounded to an infinity. -/
theorem value?_leastInfinite : leastInfinite.value? = some (2 ^ 128 - 2 ^ 103) := by
  have bounded : Format.finer 253 (2 ^ 25 - 1) < Format.double.finiteCount := by decide +kernel
  rw [leastInfinite, ofRank, dif_pos bounded, ← Format.point_finer_last]
  rfl

/-- Half of the least single, with a negative sign. It is as near to zero as to that single. -/
def negativeHalf : Double := ofRank true (Format.finer 0 1)

/-- The value of the negative tie. -/
theorem value?_negativeHalf : negativeHalf.value? = some (-(1 / 2 ^ 150)) := by
  have bounded : Format.finer 0 1 < Format.double.finiteCount := by decide +kernel
  have point : Format.double.point (Format.finer 0 1) = 1 / 2 ^ 150 := by
    have places : Format.single.places = 149 := rfl
    rw [Format.point_finer (by decide) (by decide), Format.step, places]
    norm_num
  rw [negativeHalf, ofRank, dif_pos bounded, ← point]
  rfl

/-- At both edges: the bound for the infinities is reached exactly, and a tie goes to zero. -/
theorem narrowed_rounds_edges :
    2 ^ 128 - 2 ^ 103 ≤ |(2 ^ 128 - 2 ^ 103 : ℚ)| ∧
    narrowed leastInfinite = .infinity leastInfinite.isNegative ∧
    |(-(1 / 2 ^ 150) : ℚ)| < 2 ^ 128 - 2 ^ 103 ∧
    (∃ y : Single, y.convert .double = narrowed negativeHalf ∧ y.NearestTo (-(1 / 2 ^ 150))) ∧
    narrowed negativeHalf = ofRank true 0 ∧
    negativeHalf.le leastInfinite = true ∧
    (narrowed negativeHalf).le (narrowed leastInfinite) = true ∧
    IsSingle (ofRank true 0) ∧ narrowed (ofRank true 0) = ofRank true 0 := by
  obtain ⟨-, -, rounds⟩ := narrowed_rounds
  have large : 2 ^ 128 - 2 ^ 103 ≤ |(2 ^ 128 - 2 ^ 103 : ℚ)| := le_abs_self _
  have small : |(-(1 / 2 ^ 150) : ℚ)| < 2 ^ 128 - 2 ^ 103 := by norm_num
  have less : negativeHalf.le leastInfinite = true := by decide +kernel
  have zero : IsSingle (ofRank true 0) := ⟨ofRank true 0, convert_double_zero true⟩
  have underflow : narrowed negativeHalf = ofRank true 0 := by decide +kernel
  exact ⟨large, (rounds.overflow value?_leastInfinite).mpr large, small,
    rounds.nearest value?_negativeHalf small, underflow, less, rounds.mono less, zero,
    rounds.keeps zero⟩

end Double

end FilterScript
