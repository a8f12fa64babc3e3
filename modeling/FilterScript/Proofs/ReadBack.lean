import FilterScript.Proofs.Closeness

/-! # The numbers that are read as a single

The numbers that are rounded to one single by way of the doubles lie between two of them without a
gap (`Format.ReadsAs.between`). Around a single that is no power of two they reach equally far to
both sides, to the middles towards the neighbours and half a step of the doubles more or less
(`Format.readsAs_block_iff`). A number that is nearer to such a single than one that is read as it
is therefore read as it, too (`Format.ReadsAs.of_nearer`). -/

namespace FilterScript

namespace Format

/-! ## Rounding twice -/

/-- The number is rounded to a double that is rounded to the single of the rank. -/
def ReadsAs (x : ℚ) (rank : ℕ) : Prop := ∃ wide, double.IsNearest x wide ∧ narrowRank wide = rank

theorem narrowRank_mono : Monotone narrowRank := fun wide other le =>
  (isNearest_narrowRank wide).mono (isNearest_narrowRank other)
    (double.point_strictMono.monotone le)

/-- Every single is read as itself. -/
theorem readsAs_point (rank : ℕ) : ReadsAs (single.point rank) rank := by
  refine ⟨single.convertRank double rank, ?_, narrowRank_convertRank rank⟩
  rw [← point_convertRank_double]
  exact double.isNearest_point _

namespace ReadsAs

variable {x y z : ℚ} {rank other : ℕ}

theorem mono (reads : ReadsAs x rank) (reads' : ReadsAs y other) (le : x ≤ y) : rank ≤ other := by
  obtain ⟨wide, nearest, rfl⟩ := reads
  obtain ⟨wide', nearest', rfl⟩ := reads'
  exact narrowRank_mono (nearest.mono nearest' le)

theorem unique (reads : ReadsAs x rank) (reads' : ReadsAs x other) : rank = other :=
  le_antisymm (reads.mono reads' le_rfl) (reads'.mono reads le_rfl)

/-- Only zero is read as zero. -/
theorem coefficient_ne_zero {d : Decimal} (reads : ReadsAs d.value rank) (nonzero : rank ≠ 0) :
    d.coefficient ≠ 0 := by
  intro zero
  rw [d.value_eq_zero zero, ← single.point_zero] at reads
  exact nonzero (reads.unique (readsAs_point 0))

/-- Between two numbers that are read as one single there is no other. -/
theorem between (reads : ReadsAs x rank) (reads' : ReadsAs y rank) (inside : ReadsAs z other)
    (low : x ≤ z) (high : z ≤ y) : other = rank :=
  le_antisymm (inside.mono reads' high) (reads.mono inside low)

end ReadsAs

theorem readsAs_narrowRank {x : ℚ} {wide : ℕ} (nearest : double.IsNearest x wide) :
    ReadsAs x (narrowRank wide) :=
  ⟨wide, nearest, rfl⟩

end Format

/-- A decimal is read as the single of a rank when its value is. -/
theorem Decimal.readSingle_eq_ofRank_iff {negative : Bool} {d : Decimal} {rank : ℕ}
    (bounded : rank < Format.single.finiteCount) :
    d.readSingle negative = .ofRank negative rank ↔ Format.ReadsAs d.value rank := by
  have nearest := d.isNearest_rank Format.regular_double
  rw [readSingle_eq, Binary.ofRank_eq_iff bounded]
  constructor
  · rintro rfl
    exact Format.readsAs_narrowRank nearest
  · intro reads
    exact (Format.readsAs_narrowRank nearest).unique reads

namespace Format

/-- A decimal between two numbers that are read as one single is read as it, too. -/
theorem ReadsAs.decimal_between {x y : ℚ} {d : Decimal} {rank : ℕ} (reads : ReadsAs x rank)
    (reads' : ReadsAs y rank) (low : x ≤ d.value) (high : d.value ≤ y) : ReadsAs d.value rank := by
  have inside := readsAs_narrowRank (d.isNearest_rank regular_double)
  rw [reads.between reads' inside low high] at inside
  exact inside

/-! ## How far the numbers of a single reach -/

/-- The doubles that are rounded to a single are those between the two middles. These belong to the
neighbour of even rank. -/
theorem narrowRank_eq_succ_iff {rank wide lower upper : ℕ}
    (below : double.point lower = single.middle rank)
    (above : double.point upper = single.middle (rank + 1)) :
    narrowRank wide = rank + 1 ↔
      if Even rank then lower < wide ∧ wide < upper else lower ≤ wide ∧ wide ≤ upper := by
  have exact' : narrowRank wide = rank + 1 ↔
      single.Passes (double.point wide) rank ∧ ¬ single.Passes (double.point wide) (rank + 1) := by
    rw [(isNearest_narrowRank wide).passes_iff, (isNearest_narrowRank wide).passes_iff]
    omega
  rw [exact']
  by_cases even : Even rank
  · have odd : ¬ Even (rank + 1) := not_not.mpr even ∘ Nat.even_add_one.mp
    rw [passes_of_even even, passes_of_odd odd, ← below, ← above, if_pos even, not_le,
      double.point_strictMono.lt_iff_lt, double.point_strictMono.lt_iff_lt]
  · have odd : Even (rank + 1) := Nat.even_add_one.mpr even
    rw [passes_of_odd even, passes_of_even odd, ← below, ← above, if_neg even, not_lt,
      double.point_strictMono.le_iff_le, double.point_strictMono.le_iff_le]

/-- The numbers that are read as a single, when the middles around it are doubles of even rank: they
are those between the middles, and half a step of the doubles less or more. -/
theorem readsAs_succ_iff {x : ℚ} {rank lower upper : ℕ}
    (below : double.point (lower + 1) = single.middle rank)
    (above : double.point (upper + 1) = single.middle (rank + 1))
    (evenBelow : Even (lower + 1)) (evenAbove : Even (upper + 1)) {wide : ℕ}
    (nearest : double.IsNearest x wide) :
    ReadsAs x (rank + 1) ↔
      if Even rank then double.middle (lower + 1) < x ∧ x < double.middle upper
      else double.middle lower ≤ x ∧ x ≤ double.middle (upper + 1) := by
  have reads : ReadsAs x (rank + 1) ↔ narrowRank wide = rank + 1 :=
    ⟨(readsAs_narrowRank nearest).unique, fun same => same ▸ readsAs_narrowRank nearest⟩
  have lowerOdd := Nat.even_add_one.mp evenBelow
  have upperOdd := Nat.even_add_one.mp evenAbove
  rw [reads, narrowRank_eq_succ_iff below above]
  by_cases even : Even rank
  · rw [if_pos even, if_pos even, ← passes_of_even evenBelow, ← @not_le _ _ _ x,
      ← passes_of_odd upperOdd, nearest.passes_iff, nearest.passes_iff]
    omega
  · rw [if_neg even, if_neg even, ← passes_of_odd lowerOdd, ← @not_lt _ _ _ x,
      ← passes_of_even evenAbove, nearest.passes_iff, nearest.passes_iff]
    omega

/-- Doubles at half steps of singles have even ranks: the half steps leave some bits free. -/
theorem even_finer {scale halves : ℕ} (positive : halves ≠ 0) (fits : halves < 2 ^ 52) :
    Even (finer scale halves) := by
  have short : halves.log2 < 52 := (Nat.log2_lt positive).mpr fits
  have free : 52 - halves.log2 ≠ 0 := by omega
  have weight : Even (2 ^ (52 - halves.log2)) := Nat.even_pow.mpr ⟨even_two, free⟩
  exact (even_block (by decide)).mpr (weight.mul_left halves)

/-- The middle between two neighbouring singles is a double of even rank. -/
theorem even_tieRank (rank : ℕ) : Even (tieRank rank) := by
  have inside := (single.block_spec rank).2.2
  have small : single.leading = 2 ^ 23 := rfl
  exact even_finer (Nat.succ_ne_zero _) (by omega)

/-- The middle between two neighbouring singles lies above zero. -/
theorem exists_tieRank (rank : ℕ) : ∃ last, tieRank rank = last + 1 := by
  refine Nat.exists_eq_add_one_of_ne_zero fun zero => ?_
  have middle := single.point_lt_middle rank
  rw [← point_tieRank, zero, point_zero] at middle
  exact absurd (single.point_nonneg rank) (not_le_of_gt middle)

/-! ## Deciding it by whole numbers -/

/-- The middle behind a double, in halves of the least double. -/
def doubleMiddle (rank : ℕ) : ℕ := double.magnitude rank + double.magnitude (rank + 1)

/-- The middle behind a double, in the halves of the least double. -/
theorem middle_double (rank : ℕ) : double.middle rank = doubleMiddle rank / 2 ^ 1075 := by
  have places : (2 : ℚ) ^ 1075 = 2 ^ double.places * 2 := (pow_succ 2 1074)
  rw [middle, point, point, doubleMiddle, places]
  push_cast
  ring

/-- A decimal lies where the numbers of the single behind the given rank reach. -/
def Reaches (rank : ℕ) (d : Decimal) : Prop :=
  if Even rank then
    doubleMiddle (tieRank rank) * d.den < d.num * 2 ^ 1075 ∧
      d.num * 2 ^ 1075 < doubleMiddle (tieRank (rank + 1) - 1) * d.den
  else
    doubleMiddle (tieRank rank - 1) * d.den ≤ d.num * 2 ^ 1075 ∧
      d.num * 2 ^ 1075 ≤ doubleMiddle (tieRank (rank + 1)) * d.den

instance (rank : ℕ) (d : Decimal) : Decidable (Reaches rank d) :=
  inferInstanceAs (Decidable (ite _ _ _))

/-- Whether a decimal is read as a single is decided by comparing whole numbers. -/
theorem reaches_iff {rank : ℕ} {d : Decimal} : Reaches rank d ↔ ReadsAs d.value (rank + 1) := by
  have nearest := d.isNearest_rank regular_double
  obtain ⟨lower, lowerRank⟩ := exists_tieRank rank
  obtain ⟨upper, upperRank⟩ := exists_tieRank (rank + 1)
  have below := lowerRank ▸ point_tieRank rank
  have above := upperRank ▸ point_tieRank (rank + 1)
  have evenBelow := lowerRank ▸ even_tieRank rank
  have evenAbove := upperRank ▸ even_tieRank (rank + 1)
  have den : (0 : ℚ) < d.den := Nat.cast_pos.mpr d.den_pos
  have units : (0 : ℚ) < 2 ^ 1075 := by positivity
  have lt_iff (middle : ℕ) : double.middle middle < d.value ↔
      doubleMiddle middle * d.den < d.num * 2 ^ 1075 := by
    rw [middle_double, d.value_eq_div, div_lt_div_iff₀ units den]
    exact_mod_cast Iff.rfl
  have gt_iff (middle : ℕ) : d.value < double.middle middle ↔
      d.num * 2 ^ 1075 < doubleMiddle middle * d.den := by
    rw [middle_double, d.value_eq_div, div_lt_div_iff₀ den units]
    exact_mod_cast Iff.rfl
  rw [readsAs_succ_iff below above evenBelow evenAbove nearest, ← not_lt, ← not_lt, lt_iff, lt_iff,
    gt_iff, gt_iff, Reaches, lowerRank, upperRank, Nat.add_sub_cancel, Nat.add_sub_cancel, not_lt,
    not_lt]

/-! ## Ordinary singles -/

/-- Half steps in a row, of which the first is no power of two, have one leading bit. -/
theorem log2_of_between {count exponent : ℕ} (low : 2 ^ exponent ≤ count)
    (high : count < 2 ^ (exponent + 1)) : count.log2 = exponent := by
  have nonzero : count ≠ 0 := (Nat.lt_of_lt_of_le (Nat.two_pow_pos _) low).ne'
  exact (Nat.log2_eq_iff nonzero).mpr ⟨low, high⟩

/-- Half a step of the doubles to either side of a whole number of half steps of singles, unless
that is a power of two: below such a number the doubles would be twice as dense. -/
theorem middle_finer {scale halves exponent : ℕ} (low : 2 ^ exponent < halves)
    (high : halves < 2 ^ (exponent + 1)) (short : exponent < 52) :
    ∃ lower, finer scale halves = lower + 1 ∧ Even (lower + 1) ∧
      double.middle lower = (halves - 1 / 2 / 2 ^ (52 - exponent)) * (single.step scale / 2) ∧
      double.middle (lower + 1) =
        (halves + 1 / 2 / 2 ^ (52 - exponent)) * (single.step scale / 2) := by
  have log := log2_of_between low.le high
  have leading : double.leading = 2 ^ exponent * 2 ^ (52 - exponent) := by
    rw [← Nat.pow_add, Nat.add_sub_cancel' short.le]
    rfl
  have rank : finer scale halves =
      (scale + 872 + exponent) * double.leading + halves * 2 ^ (52 - exponent) := by
    have scaled : scale + 872 + exponent = scale + 924 + exponent + 1 - 53 := by omega
    rw [scaled, ← log]
    rfl
  have step : double.step (scale + 872 + exponent) =
      single.step scale / 2 / 2 ^ (52 - exponent) := by
    have exponents : scale + 924 = scale + 872 + exponent + (52 - exponent) := by omega
    rw [← step_half, exponents, Format.step, Format.step, pow_add _ _ (52 - exponent)]
    field_simp
  have positive := Nat.two_pow_pos (52 - exponent)
  have significand : double.leading + 1 ≤ halves * 2 ^ (52 - exponent) := by
    rw [leading]
    exact (Nat.mul_lt_mul_right positive).mpr low
  have inside : halves * 2 ^ (52 - exponent) < 2 * double.leading := by
    rw [leading, ← Nat.mul_assoc, Nat.mul_comm 2, ← Nat.pow_succ]
    exact (Nat.mul_lt_mul_right positive).mpr high
  obtain ⟨lower, before⟩ := Nat.exists_eq_add_one_of_ne_zero
    (Nat.ne_of_gt (Nat.lt_of_lt_of_le (Nat.succ_pos _) significand))
  refine ⟨(scale + 872 + exponent) * double.leading + lower, ?_, ?_, ?_, ?_⟩
  · rw [rank, before]
    exact (Nat.add_assoc _ _ _).symm
  · have fits : halves < 2 ^ 52 := high.trans_le (Nat.pow_le_pow_right two_pos short)
    rw [Nat.add_assoc, ← before, ← rank]
    exact even_finer (Nat.ne_of_gt (Nat.zero_lt_of_lt low)) fits
  · have whole : (halves : ℚ) = (lower + 1) / 2 ^ (52 - exponent) := by
      rw [eq_div_iff (by positivity)]
      exact_mod_cast before
    rw [middle_block (.inr (by omega)) (by omega), step, whole]
    ring
  · rw [Nat.add_assoc, ← before, middle_block (.inr (by omega)) inside, step]
    push_cast
    field_simp

/-- The half steps to both sides of a significand that is no power of two have one leading bit. -/
theorem half_steps_between {previous : ℕ} (ordinary : ∀ exponent, previous + 1 ≠ 2 ^ exponent) :
    2 ^ ((previous + 1).log2 + 1) < 2 * previous + 1 ∧
      2 * previous + 3 < 2 ^ ((previous + 1).log2 + 1 + 1) := by
  have low : 2 ^ (previous + 1).log2 < previous + 1 :=
    (Nat.log2_self_le (Nat.succ_ne_zero _)).lt_of_ne (ordinary _).symm
  have high : previous + 1 < 2 ^ ((previous + 1).log2 + 1) := Nat.lt_log2_self
  rw [Nat.pow_succ] at high
  constructor
  · rw [Nat.pow_succ]
    omega
  · rw [Nat.pow_succ, Nat.pow_succ]
    omega

/-- The numbers that are read as a single reach equally far to both sides of it, to the middles and
half a step of the doubles less or more, unless the single is a power of two. -/
theorem readsAs_block_iff {scale previous : ℕ} (leads : scale = 0 ∨ single.leading ≤ previous)
    (inside : previous + 1 < 2 * single.leading)
    (ordinary : ∀ exponent, previous + 1 ≠ 2 ^ exponent)
    {x : ℚ} {wide : ℕ} (nearest : double.IsNearest x wide) :
    ReadsAs x (scale * single.leading + previous + 1) ↔
      if Even (scale * single.leading + previous) then
        |x - single.point (scale * single.leading + previous + 1)| <
          (1 - 1 / 2 / 2 ^ (51 - (previous + 1).log2)) * (single.step scale / 2)
      else
        |x - single.point (scale * single.leading + previous + 1)| ≤
          (1 + 1 / 2 / 2 ^ (51 - (previous + 1).log2)) * (single.step scale / 2) := by
  have small : single.leading = 2 ^ 23 := rfl
  have short : (previous + 1).log2 < 24 := (Nat.log2_lt (Nat.succ_ne_zero _)).mpr (by omega)
  obtain ⟨lowTwice, highTwice⟩ := half_steps_between ordinary
  generalize (previous + 1).log2 = exponent at lowTwice highTwice short ⊢
  have room : exponent + 1 < 52 := by omega
  have places : 52 - (exponent + 1) = 51 - exponent := by omega
  obtain ⟨lower, lowerRank, lowerEven, lowerMiddle, lowerNext⟩ :=
    @middle_finer scale _ _ lowTwice (by omega) room
  obtain ⟨upper, upperRank, upperEven, upperMiddle, upperNext⟩ :=
    @middle_finer scale _ _ (lowTwice.trans (by omega)) highTwice room
  have below : double.point (lower + 1) = single.middle (scale * single.leading + previous) := by
    rw [← lowerRank, point_finer (by omega) (by omega), middle_block leads (by omega)]
    push_cast
    ring
  have further := leads.imp_right Nat.le_succ_of_le
  have above : double.point (upper + 1) =
      single.middle (scale * single.leading + previous + 1) := by
    rw [← upperRank, point_finer (by omega) (by omega), Nat.add_assoc,
      middle_block further inside]
    push_cast
    ring
  rw [readsAs_succ_iff below above lowerEven upperEven nearest, lowerMiddle, lowerNext, upperMiddle,
    upperNext, Nat.add_assoc, point_block further inside.le, abs_lt, abs_le, places]
  push_cast
  by_cases even : Even (scale * single.leading + previous)
  · rw [if_pos even, if_pos even]
    constructor
    · rintro ⟨past, before⟩
      constructor <;> linarith
    · rintro ⟨past, before⟩
      constructor <;> linarith
  · rw [if_neg even, if_neg even]
    constructor
    · rintro ⟨past, before⟩
      constructor <;> linarith
    · rintro ⟨past, before⟩
      constructor <;> linarith

/-- The rank is that of a power of two: a power of two itself in the first block, and the first
rank of a later one. -/
def IsPower (rank : ℕ) : Prop :=
  (∃ exponent < 23, rank = 2 ^ exponent) ∨ ∃ block, rank = (block + 1) * single.leading

/-- A rank that stands for no power of two, in its block. -/
theorem exists_ordinary_block {rank : ℕ} (nonzero : rank ≠ 0) (ordinary : ¬ IsPower rank) :
    ∃ scale previous, rank = scale * single.leading + previous + 1 ∧
      (scale = 0 ∨ single.leading ≤ previous) ∧ previous + 1 < 2 * single.leading ∧
      ∀ exponent, previous + 1 ≠ 2 ^ exponent := by
  obtain ⟨small, later⟩ := not_or.mp ordinary
  have size : single.leading = 2 ^ 23 := rfl
  obtain ⟨scale, significand, rfl, leads, inside⟩ := single.exists_block rank
  have notLeading : significand ≠ single.leading := by
    rintro rfl
    exact later ⟨scale, (Nat.succ_mul _ _).symm⟩
  have positive : significand ≠ 0 := by
    rintro rfl
    rcases leads with rfl | leads
    · exact nonzero (by rw [Nat.zero_mul])
    · omega
  obtain ⟨previous, rfl⟩ := Nat.exists_eq_add_one_of_ne_zero positive
  refine ⟨scale, previous, (Nat.add_assoc _ _ _).symm, leads.imp_right (by omega), inside, ?_⟩
  intro exponent power
  have below : exponent < 24 := by
    rw [← Nat.pow_lt_pow_iff_right (by decide : 1 < 2), ← power]
    omega
  rcases Nat.lt_or_eq_of_le (Nat.le_of_lt_succ below) with less | rfl
  · have first : scale = 0 := by
      refine leads.resolve_right fun leads => ?_
      have bound := Nat.pow_lt_pow_right (by decide : 1 < 2) less
      omega
    exact small ⟨exponent, less, by rw [first, Nat.zero_mul, Nat.zero_add, power]⟩
  · exact notLeading power

/-- **A number that is nearer to a single than one that is read as it is read as it, too,** unless
the single is a power of two. -/
theorem ReadsAs.of_nearer {x y : ℚ} {rank : ℕ} (nonzero : rank ≠ 0) (ordinary : ¬ IsPower rank)
    (reads : ReadsAs x rank) {wide : ℕ} (nearest : double.IsNearest y wide)
    (nearer : |y - single.point rank| ≤ |x - single.point rank|) : ReadsAs y rank := by
  obtain ⟨scale, previous, rfl, leads, inside, notPower⟩ := exists_ordinary_block nonzero ordinary
  have ⟨_, nearest', _⟩ := reads
  have iff := @readsAs_block_iff scale previous leads inside notPower
  rw [iff nearest'] at reads
  rw [iff nearest]
  split at reads
  · next even => exact if_pos even ▸ nearer.trans_lt reads
  · next odd => exact if_neg odd ▸ nearer.trans reads

/-! ## Close numbers -/

namespace ReadsAs

variable {x : ℚ} {rank : ℕ}

/-- A number that is closer to a single than its significand can tell is read as it: the double
nearest to the number is at most twice as far away. -/
theorem of_close {wide : ℕ} (nearest : double.IsNearest x wide)
    (close : |x - single.point rank| < single.point rank / 2 ^ 26) : ReadsAs x rank := by
  obtain ⟨center, same⟩ := point_eq_point rank
  have nearer := nearest.abs_sub_le_abs_sub center
  rw [same, abs_sub_comm] at nearer
  have narrowed : single.IsNearest (double.point wide) rank := by
    apply IsNearest.of_close (by decide)
    calc |double.point wide - single.point rank|
        ≤ |double.point wide - x| + |x - single.point rank| := abs_sub_le _ _ _
      _ < 2 * (single.point rank / 2 ^ 26) := by linarith
      _ = single.point rank / 2 ^ (single.precision + 1) := by
          norm_num [single]
          ring
  exact ⟨wide, nearest, (isNearest_narrowRank wide).unique narrowed⟩

/-- A number that is read as a single from one on is close to it. -/
theorem close (reads : ReadsAs x rank) (least : 1 ≤ single.point rank) :
    |x - single.point rank| ≤ single.point rank / 2 ^ 23 := by
  obtain ⟨wide, nearest, rfl⟩ := reads
  have narrowed := (isNearest_narrowRank wide).close (by decide)
    (leading_le_of_half_le (by decide) (by decide) (by linarith))
  have precision : (2 : ℚ) ^ single.precision = 2 ^ 24 := rfl
  rw [precision] at narrowed
  obtain ⟨low, high⟩ := abs_le.mp narrowed
  have widened := nearest.close (by decide)
    (leading_le_of_half_le (by decide) (by decide) (by linarith))
  have precision : (2 : ℚ) ^ double.precision = 2 ^ 53 := rfl
  rw [precision] at widened
  have triangle := abs_sub_le x (double.point wide) (single.point (narrowRank wide))
  linarith

end ReadsAs

end Format

end FilterScript
