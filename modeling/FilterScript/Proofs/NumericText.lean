import FilterScript.Proofs.Narrowing

/-! # The numbers of numeric texts

A text that is a numeral stands for a number that is rounded twice. It is the single nearest to the
numeral unless the double nearest to the numeral is the middle between two singles
(`Value.number_text`); then the second rounding does not know on which side of the middle the
numeral lies, and may go to the wrong single (`Value.not_number_text_nearest`).
-/

namespace FilterScript

namespace Format

/-- The last middle before infinity. It is a double, and the rank behind it is even. -/
theorem middle_last :
    single.middle (single.finiteCount - 1) = double.point (finer 253 (2 ^ 25 - 1)) := by
  have block : single.middle (253 * single.leading + (2 ^ 24 - 1)) =
      ((2 ^ 24 - 1 : ℕ) + 1 / 2) * single.step 253 :=
    middle_block (.inr (by decide)) (by decide)
  have last : single.finiteCount - 1 = 253 * single.leading + (2 ^ 24 - 1) := by decide
  rw [last, block, point_finer (by decide) (by decide)]
  push_cast
  ring

/-- The double right below the largest middle of the singles is as far from it as a step of theirs.
-/
theorem point_finer_last : double.point (finer 253 (2 ^ 25 - 1)) = 2 ^ 128 - 2 ^ 103 := by
  have places : single.places = 149 := rfl
  rw [point_finer (by decide) (by decide), step, places]
  norm_num

/-- The last finite single is of odd rank, so the middle behind it is rounded up. -/
theorem finiteCount_le_narrowRank_iff_le_point {rank : ℕ} :
    single.finiteCount ≤ narrowRank rank ↔
      double.point (finer 253 (2 ^ 25 - 1)) ≤ double.point rank := by
  have positive : 0 < single.finiteCount := by decide
  have odd : ¬ Even (single.finiteCount - 1) := by decide
  rw [← middle_last, ← passes_of_odd odd, (isNearest_narrowRank rank).passes_iff]
  omega

/-- From where on a number is rounded to a double that is rounded to an infinite single. -/
theorem finiteCount_le_narrowRank_iff {x : ℚ} {rank : ℕ} (nearest : double.IsNearest x rank) :
    single.finiteCount ≤ narrowRank rank ↔ 2 ^ 128 - 2 ^ 103 - 2 ^ 74 ≤ x := by
  have tie : finer 253 (2 ^ 25 - 1) = 1149 * double.leading + (2 ^ 53 - 2 ^ 28 - 1) + 1 := by
    decide
  have odd : ¬ Even (1149 * double.leading + (2 ^ 53 - 2 ^ 28 - 1)) := by decide
  have edge : double.middle (1149 * double.leading + (2 ^ 53 - 2 ^ 28 - 1)) =
      2 ^ 128 - 2 ^ 103 - 2 ^ 74 := by
    have scale : double.step 1149 = 2 ^ 75 := by
      rw [step, div_eq_iff (by positivity), ← pow_add]
      rfl
    rw [middle_block (.inr (by decide)) (by decide), scale]
    norm_num
  calc single.finiteCount ≤ narrowRank rank
      ↔ double.point (finer 253 (2 ^ 25 - 1)) ≤ double.point rank :=
        finiteCount_le_narrowRank_iff_le_point
    _ ↔ 1149 * double.leading + (2 ^ 53 - 2 ^ 28 - 1) < rank := by
        rw [double.point_strictMono.le_iff_le, tie, Nat.succ_le_iff]
    _ ↔ 2 ^ 128 - 2 ^ 103 - 2 ^ 74 ≤ x := by
        rw [← nearest.passes_iff, passes_of_odd odd, edge]

end Format

namespace Value

/-- The number of a numeral by its ranks among the doubles and then among the singles. -/
theorem number_numeral (n : Numeral) : (Value.string n.text).number =
    .ok ((Binary.ofRank n.negative (Format.narrowRank (n.decimal.rank .double)) :
      Single).convert .double) := by
  rw [number, Single.ofText_text, Decimal.readSingle_eq]

/-- **A numeral is rounded to a double and then to a single.** -/
theorem number_text (n : Numeral) : ∃ rank narrow,
    Format.double.IsNearest n.magnitude rank ∧
    Format.single.IsNearest (Format.double.point rank) narrow ∧
    (Value.string n.text).number =
      .ok ((Binary.ofRank n.negative narrow : Single).convert .double) ∧
    (Format.single.IsNearest n.magnitude narrow ↔
      ¬ ∃ k, Format.double.point rank = Format.single.middle k ∧
        (Format.single.middle k < n.magnitude ∧ Even k ∨
          n.magnitude < Format.single.middle k ∧ ¬ Even k)) ∧
    ((Value.string n.text).number = .ok (.infinity n.negative) ↔
      2 ^ 128 - 2 ^ 103 - 2 ^ 74 ≤ n.magnitude) := by
  have nearest := n.decimal.isNearest_rank Format.regular_double
  rw [n.value_decimal] at nearest
  have narrowed := Format.isNearest_narrowRank (n.decimal.rank .double)
  refine ⟨_, _, nearest, narrowed, number_numeral n,
    Format.isNearest_narrowed_iff nearest narrowed, ?_⟩
  rw [← Format.finiteCount_le_narrowRank_iff nearest, number_numeral n,
    Binary.convert_double_ofRank]
  split
  · next bounded =>
      have finite := Format.convertRank_double_lt bounded
      rw [Binary.ofRank, dif_pos finite]
      simp only [Except.ok.injEq, reduceCtorEq, false_iff, not_le, bounded]
  · next unbounded =>
      simp only [Nat.le_of_not_lt unbounded]

/-- One, half a step of the singles behind it, and a little more that no double shows. -/
def pastTie : Numeral where
  sign := none
  whole := ['1']
  fraction := some "00000005960464478".toList
  exponent := none
  whole_digits := UsualDigits.allDigits (by decide)
  fraction_digits := UsualDigits.allDigits (by decide)
  some_digit := by decide

/-- **Two roundings do not always go to the nearest single.** The numeral lies past the middle
between one and the next single, and is read as one. -/
theorem not_number_text_nearest : ¬ ∀ n : Numeral, ∃ narrow,
    Format.single.IsNearest n.magnitude narrow ∧
    (Value.string n.text).number =
      .ok ((Binary.ofRank n.negative narrow : Single).convert .double) := by
  intro nearestOf
  obtain ⟨narrow, nearest, reading⟩ := nearestOf pastTie
  have one : pastTie.decimal.readSingle false = .ofRank false (127 * 2 ^ 23) := by decide +kernel
  have rank : narrow = 127 * 2 ^ 23 := by
    rw [number, Single.ofText_text, Except.ok.injEq] at reading
    have narrowed := congrArg (Binary.convert .single) reading
    rw [Binary.convert_convert, Binary.convert_convert] at narrowed
    exact (Binary.ofRank_eq_iff (by decide)).mp (narrowed.symm.trans one)
  have passes : Format.single.Passes pastTie.magnitude (127 * 2 ^ 23) := by
    have middle : Format.single.middle (126 * Format.single.leading + 2 ^ 23) =
        ((2 ^ 23 : ℕ) + 1 / 2) * Format.single.step 126 :=
      Format.middle_block (.inr (by decide)) (by decide)
    have value : pastTie.decimal = ⟨100000005960464478, -17⟩ := by decide +kernel
    left
    rw [← pastTie.value_decimal, value, Decimal.value]
    refine lt_of_eq_of_lt middle ?_
    rw [Format.step]
    norm_num [Format.single]
  rw [rank] at nearest
  exact lt_irrefl _ (nearest.passes_iff.mp passes)

end Value

end FilterScript
