import FilterScript.Proofs.RoundTrip

/-! # Nine digits are enough for a single

The numeral of a single is sought among its roundings to one digit, two digits and so on up to nine.
The rounding to nine digits is so near to the single that the double nearest to it is rounded to the
single again, so the search always ends at one of the nine (`Format.exists_trial`), and the numeral
of the single as a double is never asked for. Hence what a script shows for a single has at most
nine significant digits (`Single.nine_digits`). -/

namespace FilterScript

namespace Format

/-! ## The search -/

/-- A single is read back with some of nine numbers of digits, and up to there its roundings have as
many digits as are asked for. -/
theorem exists_enough (rank : ℕ) : ∃ digits < 9,
    ReadsAs ((single.ratio rank).rounded (digits + 1)).value rank ∧
      ∀ fewer ≤ digits, HasDigits ((single.ratio rank).rounded (fewer + 1)).value (fewer + 1) := by
  rcases eq_or_ne rank 0 with rfl | nonzero
  · -- Zero has no leading digit, and is read back with its first one.
    have none : ((single.ratio 0).rounded 1).coefficient = 0 := by decide +kernel
    refine ⟨0, by decide, ?_, fun fewer most => ?_⟩
    · rw [Decimal.value_eq_zero _ none, ← single.point_zero]
      exact readsAs_point 0
    · rw [Nat.le_zero.mp most]
      exact Decimal.hasDigits (none.trans_le (Nat.zero_le _))
  · exact ⟨8, by decide, readsAs_rounded_nine nonzero,
      fun fewer _ => hasDigits_rounded nonzero fewer⟩

/-- **The search ends at one of the nine numerals.** -/
theorem exists_trial {rank : ℕ} (bounded : rank < single.finiteCount) :
    ∃ tried ∈ trials rank, (trials rank).find? (readsBack rank) = some tried ∧
      fewestRounded rank = tried ∧ HasDigits tried.value 9 ∧ ReadsAs tried.value rank := by
  obtain ⟨digits, few, enough, short⟩ := exists_enough rank
  obtain ⟨first, most, numeral, reads, earlier⟩ := exists_first bounded few enough
  have found := find?_trials bounded (most.trans_lt few) reads earlier
  exact ⟨_, List.mem_of_find?_eq_some found, found, numeral,
    (short first most).mono (by omega), reads⟩

end Format

/-! ## What is shown -/

/-- A numeral is told by the decimal that its text is read as. -/
theorem Numeral.magnitude_eq_of_ofText? {n : Numeral} {negative : Bool} {d : Decimal}
    (read : Literal.ofText? n.text.toList = some (.decimal negative d)) :
    n.magnitude = d.value := by
  rw [Literal.ofText?_text, Option.some.injEq, Literal.decimal.injEq] at read
  rw [← n.value_decimal, read.2]

namespace NumberStyle

variable {f : Format} (numeral : ℕ → Decimal)

/-- A zero is shown as a numeral with its sign. -/
theorem exists_text_zero (negative : Bool) {rank : Fin f.finiteCount} (zero : rank.val = 0) :
    ∃ n : Numeral, n.text = script.text numeral (.finite negative rank) := by
  obtain ⟨n, sign, unsigned, -⟩ := exists_plain_of_parts (if negative then some true else none)
    (UsualDigits.zeros 1) (List.cons_ne_nil _ _) (fun _ => rfl) .none
  refine ⟨n, ?_⟩
  rw [Numeral.text, sign, unsigned, text, if_pos zero]
  cases negative with
  | false => rfl
  | true => rfl

end NumberStyle

namespace Single

/-- A finite single is shown as a numeral. -/
theorem exists_text (negative : Bool) (rank : Fin Format.single.finiteCount) :
    ∃ shown : Numeral, shown.text = Single.render (.finite negative rank) := by
  by_cases zero : rank.val = 0
  · exact NumberStyle.exists_text_zero fewestRounded negative zero
  · obtain ⟨shown, text, -⟩ := NumberStyle.exists_shows_text zero
      (Format.coefficient_fewestRounded_ne_zero zero rank.isLt) negative
    exact ⟨shown, text⟩

/-- The number that a script shows for a single has at most nine digits. -/
theorem hasDigits_of_text {x : Single} {shown : Numeral} (text : shown.text = x.render) :
    HasDigits shown.magnitude 9 := by
  have read := Literal.ofText?_text shown
  cases x with
  | nan =>
      rw [text, render, NumberStyle.ofText?_text_nan] at read
      cases read
  | infinity negative =>
      rw [text, render, NumberStyle.ofText?_text_infinity] at read
      cases read
  | finite negative rank =>
      by_cases zero : rank.val = 0
      · have digits := NumberStyle.ofText?_text_zero fewestRounded negative zero
        rw [← render, ← text] at digits
        rw [Numeral.magnitude_eq_of_ofText? digits]
        exact Decimal.hasDigits (Nat.zero_le _)
      · obtain ⟨n, same, shows⟩ := NumberStyle.exists_shows_text zero
          (Format.coefficient_fewestRounded_ne_zero zero rank.isLt) negative
        obtain ⟨tried, -, -, numeral, short, -⟩ := Format.exists_trial rank.isLt
        rw [← render, ← text] at same
        have digits := Literal.ofText?_text n
        rw [same] at digits
        rw [Numeral.magnitude_eq_of_ofText? digits, n.value_decimal, shows.magnitude, numeral]
        exact short

/-- **Nine digits are enough.** The search for the numeral of a finite single ends at one of its
roundings to at most nine digits, which is read as the single by way of the doubles. What a script
shows for a single is a numeral if the single is finite, and has no more than nine significant
digits. -/
theorem nine_digits :
    (∀ (negative : Bool) (rank : Fin Format.single.finiteCount),
      (∃ tried ∈ Format.trials rank,
        (Format.trials rank).find? (Format.readsBack rank) = some tried ∧
          fewestRounded rank = tried ∧ HasDigits tried.value 9 ∧
          tried.readSingle negative = .finite negative rank) ∧
      ∃ shown : Numeral, shown.text = (Value.float32 (.finite negative rank)).render) ∧
    ∀ (x : Single) (shown : Numeral), shown.text = (Value.float32 x).render →
      shown.significant ≤ 9 := by
  constructor
  · intro negative rank
    obtain ⟨tried, member, found, numeral, short, reads⟩ := Format.exists_trial rank.isLt
    refine ⟨⟨tried, member, found, numeral, short, ?_⟩, exists_text negative rank⟩
    rw [Binary.finite_eq_ofRank]
    exact (Decimal.readSingle_eq_ofRank_iff rank.isLt).mpr reads
  · intro x shown text
    exact (shown.significant_le_iff 9).mpr (hasDigits_of_text text)

/-- The numeral of the power of two of exponent `-96`. -/
def nineDigitPower : Numeral where
  sign := none
  whole := "1".toList
  fraction := some "26217745".toList
  exponent := some ⟨false, some true, "29".toList, UsualDigits.allDigits (by decide), by decide⟩
  whole_digits := UsualDigits.allDigits (by decide)
  fraction_digits := UsualDigits.allDigits (by decide)
  some_digit := by decide

/-- The power of two of exponent `-96` is shown with all nine digits. -/
theorem nine_digits_power :
    nineDigitPower.text =
        (Value.float32 (.finite false ⟨(30 + 1) * 2 ^ 23, by decide⟩)).render ∧
      nineDigitPower.significant ≤ 9 ∧ ¬ nineDigitPower.significant ≤ 8 := by
  have shown : nineDigitPower.text =
      (Value.float32 (.finite false ⟨(30 + 1) * 2 ^ 23, by decide⟩)).render := by decide +kernel
  exact ⟨shown, nine_digits.2 _ _ shown, by decide +kernel⟩

end Single

end FilterScript
