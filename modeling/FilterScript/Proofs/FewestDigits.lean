import FilterScript.Proofs.DecimalGrid
import FilterScript.Proofs.ReadBack

/-! # The fewest digits of a single

A single is written with the first number of digits at which the rounded single is read back. Around
most singles the numbers that are read back reach equally far to both sides, so if any numeral of
some digits is read back the nearest one is, and the first number of digits is the least
(`Format.writtenWith_of_ordinary`). Powers of two have to be looked at one by one
(`Format.settled_first`, `Format.settled_later`). There a numeral further away above may be read
back while the nearest one, below, is not; three of them have one of fewer digits
(`Format.exists_writtenWith`). -/

namespace FilterScript

namespace Format

/-! ## Numerals of a single -/

/-- No number of so many digits is read as the single. -/
def NoShorter (rank digits : ℕ) : Prop := ∀ x, HasDigits x digits → ¬ ReadsAs x rank

theorem noShorter_zero {rank : ℕ} (nonzero : rank ≠ 0) : NoShorter rank 0 := by
  rintro x ⟨d, rfl, none⟩ reads
  exact reads.coefficient_ne_zero nonzero (Nat.lt_one_iff.mp none)

/-- If neither neighbour of so many digits is read as the single, no number of so many digits is. -/
theorem noShorter_of_neighbours {rank digits : ℕ} (nonzero : rank ≠ 0)
    (below : ¬ ReadsAs ((single.ratio rank).below
      ((single.ratio rank).lastExponent (digits + 1))).value rank)
    (above : ¬ ReadsAs ((single.ratio rank).above
      ((single.ratio rank).lastExponent (digits + 1))).value rank) :
    NoShorter rank (digits + 1) := by
  intro x short reads
  have proper := ratio_proper single nonzero
  have center := ratio_value single rank ▸ readsAs_point rank
  rcases Ratio.not_between_neighbours proper short with low | high
  · exact below (reads.decimal_between center low (Ratio.below_le_value proper _))
  · exact above (center.decimal_between reads (Ratio.value_lt_above proper _).le high)

theorem NoShorter.mono {rank digits fewer : ℕ} (none : NoShorter rank digits)
    (le : fewer ≤ digits) : NoShorter rank fewer :=
  fun x short => none x (short.mono le)

/-- The rounded single has so many digits, or is a power of ten. -/
theorem hasDigits_rounded {rank : ℕ} (nonzero : rank ≠ 0) (digits : ℕ) :
    HasDigits ((single.ratio rank).rounded (digits + 1)).value (digits + 1) :=
  Decimal.hasDigits (Ratio.rounded_coefficient (ratio_proper single nonzero) digits).2

/-- A single is written with so many digits, one more than the given number, and there is no
numeral of fewer digits for it. -/
structure WrittenWith (rank digits : ℕ) : Prop where
  few : digits < 9
  numeral : fewestRounded rank = (single.ratio rank).rounded (digits + 1)
  fewest : NoShorter rank digits

/-- The numerals that are tried for a single, of one digit first and of nine at last. -/
def trials (rank : ℕ) : List Decimal :=
  (List.range 9).map fun n => (single.ratio rank).rounded (n + 1)

/-- The decimal is read back as the single. -/
def readsBack (rank : ℕ) (d : Decimal) : Bool := decide (d.readSingle false = .ofRank false rank)

/-- The numeral of a single is the first trial that is read back, or else that of the double. -/
theorem fewestRounded_eq_getD (rank : ℕ) : fewestRounded rank =
    ((trials rank).find? (readsBack rank)).getD
      (double.shortest (double.nearestRank (single.ratio rank).num (single.ratio rank).den)) :=
  rfl

/-- A decimal is accepted exactly if it reads as the place. -/
theorem readsBack_iff {rank : ℕ} (bounded : rank < single.finiteCount) {d : Decimal} :
    readsBack rank d = true ↔ ReadsAs d.value rank := by
  rw [readsBack, decide_eq_true_eq, Decimal.readSingle_eq_ofRank_iff bounded]

/-- The first accepted one of the rounded ratios. -/
theorem find?_rounded (r : Ratio) (accepted : Decimal → Bool) {digits : ℕ} (few : digits < 9)
    (reads : accepted (r.rounded (digits + 1)) = true)
    (first : ∀ fewer < digits, accepted (r.rounded (fewer + 1)) = false) :
    ((List.range 9).map fun n => r.rounded (n + 1)).find? accepted =
      some (r.rounded (digits + 1)) := by
  have found : (List.range 9).find? (accepted ∘ fun n => r.rounded (n + 1)) = some digits := by
    rw [List.find?_range_eq_some]
    simp only [Function.comp_apply, reads, List.mem_range, few, true_and, Bool.not_eq_true']
    exact first
  rw [List.find?_map, found, Option.map_some]

/-- What is found is the first numeral that is read back. -/
theorem find?_trials {rank digits : ℕ} (bounded : rank < single.finiteCount) (few : digits < 9)
    (reads : ReadsAs ((single.ratio rank).rounded (digits + 1)).value rank)
    (first : ∀ fewer < digits, ¬ ReadsAs ((single.ratio rank).rounded (fewer + 1)).value rank) :
    (trials rank).find? (readsBack rank) = some ((single.ratio rank).rounded (digits + 1)) := by
  refine find?_rounded _ _ few ((readsBack_iff bounded).mpr reads) fun fewer less => ?_
  rw [Bool.eq_false_iff, Ne, readsBack_iff bounded]
  exact first fewer less

/-- A single is written with the first number of digits at which it is read back. -/
theorem fewestRounded_eq {rank digits : ℕ} (bounded : rank < single.finiteCount)
    (few : digits < 9) (reads : ReadsAs ((single.ratio rank).rounded (digits + 1)).value rank)
    (first : ∀ fewer < digits, ¬ ReadsAs ((single.ratio rank).rounded (fewer + 1)).value rank) :
    fewestRounded rank = (single.ratio rank).rounded (digits + 1) := by
  rw [fewestRounded_eq_getD, find?_trials bounded few reads first, Option.getD_some]

/-- A number of digits that read back, while no fewer do, is the one that the place is written with.
-/
theorem writtenWith_of {rank digits : ℕ} (nonzero : rank ≠ 0)
    (bounded : rank < single.finiteCount) (few : digits < 9)
    (reads : ReadsAs ((single.ratio rank).rounded (digits + 1)).value rank)
    (fewest : NoShorter rank digits) : WrittenWith rank digits where
  few := few
  numeral := fewestRounded_eq bounded few reads fun fewer less =>
    fewest.mono less _ (hasDigits_rounded nonzero fewer)
  fewest := fewest

/-! ## Ordinary singles -/

/-- Nine digits tell a single from its neighbours. -/
theorem readsAs_rounded_nine {rank : ℕ} (nonzero : rank ≠ 0) :
    ReadsAs ((single.ratio rank).rounded 9).value rank := by
  have near := Ratio.rounded_close (ratio_proper single nonzero) 8
  have positive := Ratio.value_pos (ratio_proper single nonzero)
  refine ReadsAs.of_close (Decimal.isNearest_rank regular_double _) ?_
  rw [ratio_value] at near positive
  rw [abs_sub_comm]
  refine near.trans_lt ?_
  rw [div_div]
  exact div_lt_div_of_pos_left positive (by positivity) (by norm_num)

/-- **The nearest numeral of so many digits is read back if any of them is.** -/
theorem readsAs_rounded {rank digits : ℕ} (nonzero : rank ≠ 0) (ordinary : ¬ IsPower rank) {x : ℚ}
    (short : HasDigits x (digits + 1)) (reads : ReadsAs x rank) :
    ReadsAs ((single.ratio rank).rounded (digits + 1)).value rank := by
  have nearer := Ratio.rounded_nearest (ratio_proper single nonzero) short
  rw [ratio_value, abs_sub_comm, abs_sub_comm _ x] at nearer
  exact reads.of_nearer nonzero ordinary (Decimal.isNearest_rank regular_double _) nearer

/-- If the rounded single is read back at some number of digits, it is written with the first such
number. -/
theorem exists_first {rank digits : ℕ} (bounded : rank < single.finiteCount) (few : digits < 9)
    (reads : ReadsAs ((single.ratio rank).rounded (digits + 1)).value rank) :
    ∃ first ≤ digits, fewestRounded rank = (single.ratio rank).rounded (first + 1) ∧
      ReadsAs ((single.ratio rank).rounded (first + 1)).value rank ∧
      ∀ fewer < first, ¬ ReadsAs ((single.ratio rank).rounded (fewer + 1)).value rank := by
  classical
  have some' : ∃ digits, ReadsAs ((single.ratio rank).rounded (digits + 1)).value rank :=
    ⟨digits, reads⟩
  have least : Nat.find some' ≤ digits := Nat.find_min' some' reads
  have earlier (fewer : ℕ) (less : fewer < Nat.find some') :
      ¬ ReadsAs ((single.ratio rank).rounded (fewer + 1)).value rank := Nat.find_min some' less
  refine ⟨Nat.find some', least, ?_, Nat.find_spec some', earlier⟩
  exact fewestRounded_eq bounded (least.trans_lt few) (Nat.find_spec some') earlier

/-- **The numeral of a single is read back.** -/
theorem readsAs_fewestRounded {rank : ℕ} (nonzero : rank ≠ 0)
    (bounded : rank < single.finiteCount) : ReadsAs (fewestRounded rank).value rank := by
  obtain ⟨first, _, numeral, reads, _⟩ :=
    exists_first bounded (by decide) (readsAs_rounded_nine nonzero)
  rw [numeral]
  exact reads

/-- The decimal that a place other than zero is written as is not zero. -/
theorem coefficient_fewestRounded_ne_zero {rank : ℕ} (nonzero : rank ≠ 0)
    (bounded : rank < single.finiteCount) : (fewestRounded rank).coefficient ≠ 0 :=
  (readsAs_fewestRounded nonzero bounded).coefficient_ne_zero nonzero

/-- A place that is no power of two is written with the fewest digits that read back. -/
theorem writtenWith_of_ordinary {rank : ℕ} (nonzero : rank ≠ 0)
    (bounded : rank < single.finiteCount) (ordinary : ¬ IsPower rank) :
    ∃ digits, WrittenWith rank digits := by
  obtain ⟨first, most, numeral, _, earlier⟩ :=
    exists_first bounded (by decide) (readsAs_rounded_nine nonzero)
  refine ⟨first, Nat.lt_succ_of_le most, numeral, ?_⟩
  intro x short reads
  cases first with
  | zero => exact noShorter_zero nonzero x short reads
  | succ fewer =>
      exact earlier fewer (Nat.lt_succ_self fewer) (readsAs_rounded nonzero ordinary short reads)

/-! ## Powers of two -/

/-- The single behind the given rank has the given leading exponent, and one number of digits at
which the nearest numeral is read back, while with one digit less neither neighbour is. -/
def Settled (rank : ℕ) (leading : ℤ) : Prop :=
  let ratio := single.ratio (rank + 1)
  (ratio.inSteps leading).2 ≤ (ratio.inSteps leading).1 ∧
    ¬ (ratio.inSteps (leading + 1)).2 ≤ (ratio.inSteps (leading + 1)).1 ∧
    ∃ digits ∈ List.range 9, Reaches rank (ratio.nearest (leading - digits)) ∧
      (digits = 0 ∨ ¬ Reaches rank (ratio.below (leading + 1 - digits)) ∧
        ¬ Reaches rank (ratio.above (leading + 1 - digits)))

instance (rank : ℕ) (leading : ℤ) : Decidable (Settled rank leading) :=
  inferInstanceAs (Decidable (_ ∧ _ ∧ ∃ digits ∈ List.range 9, _))

/-- A single whose digits are settled is written with the fewest that read back. -/
theorem Settled.writtenWith {rank : ℕ} {leading : ℤ} (settled : Settled rank leading)
    (bounded : rank + 1 < single.finiteCount) : ∃ digits, WrittenWith (rank + 1) digits := by
  obtain ⟨reached, missed, digits, inRange, reads, fewest⟩ := settled
  have nonzero := Nat.succ_ne_zero rank
  have exponent := Ratio.leadingExponent_eq_of (ratio_proper single nonzero) reached missed
  refine ⟨digits, writtenWith_of nonzero bounded (List.mem_range.mp inRange) ?_ ?_⟩
  · have last : leading - digits = (single.ratio (rank + 1)).lastExponent (digits + 1) := by
      rw [Ratio.lastExponent, exponent]
      push_cast
      ring
    rw [last, reaches_iff] at reads
    exact reads
  · cases digits with
    | zero => exact noShorter_zero nonzero
    | succ fewer =>
        obtain ⟨below, above⟩ := fewest.resolve_left (Nat.succ_ne_zero fewer)
        have last : leading + 1 - (fewer + 1 : ℕ) =
            (single.ratio (rank + 1)).lastExponent (fewer + 1) := by
          rw [Ratio.lastExponent, exponent]
        rw [last, reaches_iff] at below above
        exact noShorter_of_neighbours nonzero below above

/-- The powers of two below the second block, one by one. The leading exponent of a power of two is
the whole part of a multiple of the decimal logarithm of two. -/
theorem settled_first : ∀ exponent : ℕ, exponent < 23 →
    Settled (2 ^ exponent - 1) (((exponent : ℤ) - 149) * 30103 / 100000) := by
  decide +kernel

/-- The powers of two at the beginnings of blocks, one by one. -/
theorem settled_later : ∀ block : ℕ, block < 254 → block = 30 ∨ block = 213 ∨ block = 216 ∨
    Settled ((block + 1) * 2 ^ 23 - 1) (((block : ℤ) - 126) * 30103 / 100000) := by
  decide +kernel

/-- **Of all singles but three, the numeral has the fewest digits.** -/
theorem exists_writtenWith {rank : ℕ} (nonzero : rank ≠ 0) (bounded : rank < single.finiteCount)
    (apart : ∀ block ∈ [30, 213, 216], rank ≠ (block + 1) * single.leading) :
    ∃ digits, WrittenWith rank digits := by
  by_cases power : IsPower rank
  · have size : single.leading = 2 ^ 23 := rfl
    rcases power with ⟨exponent, small, rfl⟩ | ⟨block, rfl⟩
    · have settled := (settled_first exponent small).writtenWith
      rw [Nat.sub_add_cancel Nat.one_le_two_pow] at settled
      exact settled bounded
    · have few : block < 254 := by
        unfold finiteCount at bounded
        have count := Nat.lt_of_mul_lt_mul_right bounded
        have scales : single.scales = 254 := rfl
        omega
      have positive : 1 ≤ (block + 1) * 2 ^ 23 := by omega
      rw [size] at apart bounded nonzero ⊢
      rcases settled_later block few with rfl | rfl | rfl | settled
      · exact absurd rfl (apart 30 (by decide))
      · exact absurd rfl (apart 213 (by decide))
      · exact absurd rfl (apart 216 (by decide))
      · have written := settled.writtenWith
        rw [Nat.sub_add_cancel positive] at written
        exact written bounded
  · exact writtenWith_of_ordinary nonzero bounded power

end Format

end FilterScript
