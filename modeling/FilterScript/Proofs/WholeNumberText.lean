import FilterScript.Proofs.RoundTrip

/-! # Whole numbers among the floats

An integer and a float are equal for a script when they are shown alike. Below a million the numeral
of a float is whole exactly when the float is, and then it is the float
(`Format.WholeBelowMillion`): a decimal of six digits that is rounded to a whole number of six
digits can only be that number. From a million on a float is shown with an exponent, which no
integer is. So an integer equals just the float that is the same number below a million, the
negative zero excepted (`Value.relate_integer_float`). -/

namespace FilterScript

/-! ## The text of an integer -/

/-- A usual digit is the digit of its value. -/
theorem digitChar_digitsValue {c : Char} (digit : c.isDigit = true) :
    Nat.digitChar (digitsValue [c]) = c := by
  obtain ⟨code, small⟩ := toNat_eq_digitsValue digit
  apply Char.toNat_inj.mp
  rw [Nat.toNat_digitChar_of_lt_ten small, code]
  rfl

/-- Digits without needless zeros in front are the digits of their number. -/
theorem toDigits_digitsValue {digits : List Char} (usual : UsualDigits digits)
    (some_digit : digits ≠ []) (first : digits.head? = some '0' → digits = ['0']) :
    Nat.toDigits 10 (digitsValue digits) = digits := by
  induction digits using List.reverseRecOn with
  | nil => exact absurd rfl some_digit
  | append_singleton front c ih =>
      have digit := usual c (List.mem_append_right _ List.mem_cons_self)
      have small := (toNat_eq_digitsValue digit).2
      by_cases alone : front = []
      · rw [alone, List.nil_append, Nat.toDigits_of_lt_base small, digitChar_digitsValue digit]
      · have leads : front.head? ≠ some '0' := by
          intro zero
          have whole := first ((List.head?_append_of_ne_nil _ alone).trans zero)
          have length := congrArg List.length whole
          rw [List.length_append, List.length_singleton, List.length_singleton,
            Nat.add_eq_right] at length
          exact alone (List.length_eq_zero_iff.mp length)
        have before := ih (usual.of_subset (List.subset_append_left _ _)) alone
          fun zero => absurd zero leads
        have positive : 0 < digitsValue front := by
          refine Nat.pos_of_ne_zero fun zero => leads ?_
          rw [← before, zero]
          rfl
        rw [digitsValue_concat front digit,
          ← Nat.toDigits_append_toDigits (by decide) positive small, before,
          Nat.toDigits_of_lt_base small, digitChar_digitsValue digit]

namespace Numeral

/-- An integer as a numeral. -/
def ofInt (n : ℤ) : Numeral where
  sign := if n < 0 then some true else none
  whole := Nat.toDigits 10 n.natAbs
  fraction := none
  exponent := none
  whole_digits := (UsualDigits.toDigits _).allDigits
  fraction_digits := UsualDigits.nil.allDigits
  some_digit := List.append_ne_nil_of_left_ne_nil Nat.toDigits_ne_nil _

/-- The numeral of an integer is written as the integer is. -/
theorem text_ofInt (n : ℤ) : (ofInt n).text = toString n := by
  have unsigned : (ofInt n).unsignedText = Nat.toDigits 10 n.natAbs := List.append_nil _
  rw [text, unsigned, Int.toString_eq_repr]
  unfold ofInt
  dsimp only
  cases n with
  | ofNat n => rfl
  | negSucc n =>
      rw [if_pos (Int.negSucc_lt_zero n), String.ofList_append]
      rfl

/-- The numeral of an integer has its sign. -/
theorem negative_ofInt (n : ℤ) : (ofInt n).negative = decide (n < 0) := by
  unfold negative ofInt
  dsimp only
  split
  · next below => exact (decide_eq_true below).symm
  · next above => exact (decide_eq_false above).symm

/-- The numeral of an integer has its magnitude. -/
theorem magnitude_ofInt (n : ℤ) : (ofInt n).magnitude = n.natAbs := by
  rw [magnitude_of_plain rfl]
  have digits : (ofInt n).whole ++ (ofInt n).fraction.getD [] = Nat.toDigits 10 n.natAbs :=
    List.append_nil _
  have none : ((ofInt n).fraction.getD []).length = 0 := rfl
  rw [digits, none, digitsValue_toDigits, pow_zero, div_one]

/-- A numeral that is written out without a point is an integer. -/
theorem IsPlain.text_eq {n : Numeral} (plain : n.IsPlain) (noPoint : n.fraction = none) {whole : ℤ}
    (sign : n.sign = if whole < 0 then some true else none) (value : n.magnitude = whole.natAbs) :
    n.text = toString whole := by
  obtain ⟨usual, some_digit, first⟩ := plain.whole
  have digits : n.whole = Nat.toDigits 10 whole.natAbs := by
    rw [magnitude_of_plain plain.exponent, noPoint, Option.getD_none, List.append_nil,
      List.length_nil, pow_zero, div_one, Nat.cast_inj] at value
    rw [← value, toDigits_digitsValue usual some_digit first]
  have unsigned : n.unsignedText = (ofInt whole).unsignedText := by
    unfold unsignedText ofInt
    rw [plain.exponent, noPoint, digits]
  rw [← text_ofInt, text, text, sign, unsigned]
  rfl

/-- A numeral with an exponent is no integer. -/
theorem IsScientific.text_ne {n : Numeral} {exponent : ℤ} (scientific : n.IsScientific exponent)
    (whole : ℤ) : n.text ≠ toString whole := by
  obtain ⟨written, some', small, _⟩ := scientific.exponent
  have mark : 'e' ∈ n.text.toList := by
    rw [text, String.toList_ofList, unsignedText, some', Option.elim_some, WrittenExponent.text,
      small]
    simp only [Bool.false_eq_true, ↓reduceIte, List.mem_append, List.mem_cons, true_or, or_true]
  have noMark : 'e' ∉ (ofInt whole).text.toList := by
    have digits : 'e' ∉ Nat.toDigits 10 whole.natAbs := fun member =>
      absurd (UsualDigits.toDigits _ _ member) (by decide)
    have unsigned : (ofInt whole).unsignedText = Nat.toDigits 10 whole.natAbs := List.append_nil _
    rw [text, String.toList_ofList, unsigned, List.mem_append]
    refine not_or.mpr ⟨?_, digits⟩
    unfold ofInt
    dsimp only
    split
    · decide
    · decide
  intro same
  rw [same, ← text_ofInt] at mark
  exact noMark mark

/-- An integer and a numeral of one text have one sign and one number. -/
theorem of_text_eq_toString {n : Numeral} {whole : ℤ} (same : n.text = toString whole) :
    n.negative = decide (whole < 0) ∧ n.magnitude = whole.natAbs := by
  have read := Literal.ofText?_text n
  rw [same, ← text_ofInt, Literal.ofText?_text, Option.some.injEq, Literal.decimal.injEq] at read
  rw [← negative_ofInt, ← magnitude_ofInt, ← n.value_decimal, ← (ofInt whole).value_decimal, read.1,
    read.2]
  exact ⟨rfl, rfl⟩

namespace Shows

variable {n : Numeral} {negative : Bool} {x : ℚ}

/-- From one to a million a number is written out. -/
theorem isPlain (shows : n.Shows negative x) (least : 1 ≤ x) (most : x < 10 ^ 6) :
    n.IsPlain ∧ (n.fraction = none ↔ ∃ whole : ℕ, x = whole) := by
  obtain ⟨exponent, low, high, form⟩ := shows.form
  have near : ¬ (exponent < -4 ∨ 6 ≤ exponent) := by
    rintro (below | above)
    · have bound : (10 : ℚ) ^ (exponent + 1) ≤ 10 ^ (0 : ℤ) :=
        zpow_le_zpow_right₀ (by norm_num) (by omega)
      rw [zpow_zero] at bound
      exact not_lt_of_ge least (high.trans_le bound)
    · have bound : (10 : ℚ) ^ (6 : ℤ) ≤ 10 ^ exponent := zpow_le_zpow_right₀ (by norm_num) above
      exact not_lt_of_ge (bound.trans low) most
  rw [if_neg near] at form
  exact form

/-- A number that is shown like an integer is below a million. -/
theorem lt_of_text_eq (shows : n.Shows negative x) {whole : ℤ} (same : n.text = toString whole) :
    x < 10 ^ 6 := by
  obtain ⟨exponent, _, high, form⟩ := shows.form
  have near : ¬ (exponent < -4 ∨ 6 ≤ exponent) := by
    intro far
    rw [if_pos far] at form
    exact form.text_ne whole same
  have bound : (10 : ℚ) ^ (exponent + 1) ≤ 10 ^ (6 : ℤ) :=
    zpow_le_zpow_right₀ (by norm_num) (by omega)
  exact high.trans_le bound

end Shows

end Numeral

/-! ## Six digits -/

/-- Whole numbers that are closer than one are equal. -/
theorem natCast_eq_of_near {a b : ℕ} (near : |(a : ℚ) - b| ≤ b / 2 ^ 23)
    (small : a < 10 ^ 6 ∨ b < 10 ^ 6) : a = b := by
  by_contra different
  have apart : (1 : ℚ) ≤ |(a : ℚ) - b| := by
    have nonzero : (a : ℤ) - b ≠ 0 := by omega
    exact_mod_cast Int.one_le_abs nonzero
  obtain ⟨low, _⟩ := abs_le.mp near
  rcases small with few | few
  · have few : (a : ℚ) < 10 ^ 6 := by exact_mod_cast few
    linarith
  · have few : (b : ℚ) < 10 ^ 6 := by exact_mod_cast few
    linarith

/-- **A number of six digits that is close to a whole number below a million is that number.** Both
are whole multiples of the power of ten of its last digit. -/
theorem HasDigits.eq_natCast {x : ℚ} {whole : ℕ} (short : HasDigits x 6) (small : whole < 10 ^ 6)
    (near : |x - whole| ≤ whole / 2 ^ 23) : x = whole := by
  obtain ⟨d, rfl, fits⟩ := short
  rcases le_total 0 d.exponent with nonneg | negative
  · obtain ⟨places, exponent⟩ := Int.eq_ofNat_of_zero_le nonneg
    have value : d.value = (d.coefficient * 10 ^ places : ℕ) := by
      rw [Decimal.value, exponent, zpow_natCast]
      push_cast
      rfl
    rw [value] at near ⊢
    exact congrArg _ (natCast_eq_of_near near (.inr small))
  · obtain ⟨places, exponent⟩ := Int.eq_ofNat_of_zero_le (Int.neg_nonneg.mpr negative)
    have power : (0 : ℚ) < 10 ^ places := by positivity
    have value : d.value = d.coefficient / 10 ^ places := by
      rw [Decimal.value, ← neg_neg d.exponent, exponent, zpow_neg, zpow_natCast]
      rfl
    have scaled : |(d.coefficient : ℚ) - (whole * 10 ^ places : ℕ)| ≤
        (whole * 10 ^ places : ℕ) / 2 ^ 23 := by
      have product := mul_le_mul_of_nonneg_right near power.le
      rw [value, ← abs_of_pos power, ← abs_mul, abs_of_pos power, sub_mul,
        div_mul_cancel₀ _ power.ne'] at product
      push_cast
      rw [mul_div_right_comm]
      exact product
    have same := natCast_eq_of_near scaled (.inl fits)
    rw [value, same, div_eq_iff power.ne']
    push_cast
    rfl

theorem hasDigits_natCast {whole : ℕ} (small : whole < 10 ^ 6) : HasDigits whole 6 :=
  ⟨⟨whole, 0⟩, by rw [Decimal.value, zpow_zero, mul_one], small⟩

/-! ## Whole numbers of a format -/

variable {f : Format}

/-- The number that a finite number stands for. -/
def Binary.value? : Binary f → Option ℚ
  | .finite negative rank => some (if negative then -f.point rank else f.point rank)
  | _ => none

/-- Below a million, the numeral of a magnitude is a whole number exactly when the magnitude is that
whole number. -/
structure WholeBelowMillion (f : Format) (numeral : ℕ → Decimal) : Prop where
  digits (rank : Fin f.finiteCount) : rank.val ≠ 0 → (numeral rank).coefficient ≠ 0
  whole (rank : Fin f.finiteCount) (whole : ℕ) : rank.val ≠ 0 → whole < 10 ^ 6 →
    ((numeral rank).value = whole ↔ f.point rank = whole)

/-- A whole magnitude but zero is at least one. -/
theorem one_le_of_point_eq {rank whole : ℕ} (nonzero : rank ≠ 0) (same : f.point rank = whole) :
    1 ≤ f.point rank := by
  have positive := f.point_strictMono (Nat.pos_of_ne_zero nonzero)
  rw [f.point_zero, same, Nat.cast_pos] at positive
  rw [same]
  exact_mod_cast positive

/-- The numerals of doubles show whole numbers below a million exactly. -/
theorem Double.wholeBelowMillion : WholeBelowMillion .double Format.double.shortest where
  digits rank nonzero := Format.coefficient_shortest_ne_zero nonzero rank.isLt
  whole rank whole nonzero small := by
    have nearest := Format.isNearest_shortest nonzero rank.isLt
    constructor
    · intro same
      have fits : whole < 2 ^ Format.double.precision := small.trans (by decide)
      rw [same] at nearest
      exact nearest.point_eq_natCast (by decide) (by decide) fits.le
    · intro same
      have least := one_le_of_point_eq nonzero same
      have short := Format.hasDigits_shortest Format.regular_double nonzero rank.isLt (by decide)
        (same ▸ hasDigits_natCast small) (Format.double.isNearest_point rank)
      have near := nearest.close (by decide)
        (Format.leading_le_of_half_le (by decide) (by decide) (by linarith))
      rw [same] at near
      refine short.eq_natCast small (near.trans ?_)
      exact div_le_div_of_nonneg_left (Nat.cast_nonneg whole) (by positivity)
        (pow_le_pow_right₀ (by norm_num) (by decide))

/-- The numerals of singles show whole numbers below a million exactly. -/
theorem Single.wholeBelowMillion : WholeBelowMillion .single fewestRounded where
  digits rank nonzero := Format.coefficient_fewestRounded_ne_zero nonzero rank.isLt
  whole rank whole nonzero small := by
    have reads := Format.readsAs_fewestRounded nonzero rank.isLt
    constructor
    · intro same
      have fits : whole < 2 ^ Format.single.precision := small.trans (by decide)
      obtain ⟨exact', point⟩ := Format.exists_point_eq_natCast (by decide) (by decide) fits.le
      rw [same, ← point] at reads
      rw [reads.unique (Format.readsAs_point exact'), point]
    · intro same
      -- At six digits the single is rounded to itself, so that no more are written.
      have six : ((Format.single.ratio rank).rounded 6).value = whole := by
        have nearest := Ratio.rounded_nearest (Format.ratio_proper .single nonzero)
          (hasDigits_natCast small)
        rw [Format.ratio_value, same, sub_self, abs_zero, abs_nonpos_iff, sub_eq_zero] at nearest
        exact nearest.symm
      have back : Format.ReadsAs ((Format.single.ratio rank).rounded 6).value rank := by
        rw [six, ← same]
        exact Format.readsAs_point rank
      obtain ⟨first, most, numeral, _⟩ := Format.exists_first rank.isLt (by decide) back
      have short : HasDigits (fewestRounded rank).value 6 := by
        rw [numeral]
        exact (Format.hasDigits_rounded nonzero first).mono (Nat.succ_le_succ most)
      have near := reads.close (one_le_of_point_eq nonzero same)
      rw [same] at near
      exact short.eq_natCast small near

/-! ## Integers and floats -/

/-- A magnitude with a sign is an integer when both are the integer's. -/
theorem signed_eq_intCast_iff {negative : Bool} {x : ℚ} (positive : 0 < x) {n : ℤ} :
    (if negative then -x else x) = n ↔ x = n.natAbs ∧ negative = decide (n < 0) := by
  have nonneg : (0 : ℚ) ≤ n.natAbs := Nat.cast_nonneg _
  by_cases below : n < 0
  · have value : (n : ℚ) = -n.natAbs := by
      have whole : n = -(n.natAbs : ℤ) := by omega
      rw [whole, Int.cast_neg, Int.cast_natCast, Int.natAbs_neg, Int.natAbs_natCast]
    rw [value, decide_eq_true below]
    cases negative with
    | false =>
        refine iff_of_false (fun same => ?_) fun ⟨_, sign⟩ => Bool.false_ne_true sign
        rw [if_neg Bool.false_ne_true] at same
        linarith
    | true =>
        rw [if_pos rfl, neg_inj]
        exact (and_iff_left rfl).symm
  · have value : (n : ℚ) = n.natAbs := by
      have whole : n = (n.natAbs : ℤ) := by omega
      rw [whole, Int.cast_natCast, Int.natAbs_natCast]
    rw [value, decide_eq_false below]
    cases negative with
    | false =>
        rw [if_neg Bool.false_ne_true]
        exact (and_iff_left rfl).symm
    | true =>
        refine iff_of_false (fun same => ?_) fun ⟨_, sign⟩ => Bool.false_ne_true sign.symm
        rw [if_pos rfl] at same
        linarith

/-- Only zero with a negative sign is negative zero. -/
theorem Binary.finite_eq_negativeZero_iff {negative : Bool} {rank : Fin f.finiteCount} :
    (finite negative rank : Binary f) = ofRank true 0 ↔ negative = true ∧ rank.val = 0 := by
  have bounded : 0 < f.finiteCount := Nat.zero_lt_of_lt rank.isLt
  rw [ofRank, dif_pos bounded, finite.injEq, Fin.ext_iff]

section

variable {numeral : ℕ → Decimal} {negative : Bool} {rank : Fin f.finiteCount} {n : ℤ}

/-- An integer is shown like a zero when both are zero without a sign. -/
theorem toString_eq_text_zero_iff (zero : rank.val = 0) :
    toString n = NumberStyle.script.text numeral (.finite negative rank) ↔
      n = 0 ∧ negative = false := by
  constructor
  · intro same
    have literal := Literal.ofText?_text (.ofInt n)
    rw [Numeral.text_ofInt, same, NumberStyle.ofText?_text_zero numeral negative zero,
      Option.some.injEq, Literal.decimal.injEq, Numeral.negative_ofInt] at literal
    obtain ⟨sign, decimal⟩ := literal
    have none := Numeral.magnitude_ofInt n
    rw [← Numeral.value_decimal, ← decimal, Decimal.value_eq_zero _ rfl, eq_comm, Nat.cast_eq_zero,
      Int.natAbs_eq_zero] at none
    exact ⟨none, sign.trans (by rw [none]; rfl)⟩
  · rintro ⟨rfl, rfl⟩
    rw [NumberStyle.text, if_pos zero]
    rfl

/-- An integer is shown like a number but zero exactly when the number is the integer and below a
million. -/
theorem WholeBelowMillion.toString_eq_text_finite_iff (wholes : WholeBelowMillion f numeral)
    (nonzero : rank.val ≠ 0) :
    toString n = NumberStyle.script.text numeral (.finite negative rank) ↔
      (if negative then -f.point rank else f.point rank) = n ∧ n.natAbs < 10 ^ 6 := by
  obtain ⟨shown, text, shows⟩ :=
    NumberStyle.exists_shows_text nonzero (wholes.digits rank nonzero) negative
  have positive : 0 < f.point rank := by
    rw [← f.point_zero]
    exact f.point_strictMono (Nat.pos_of_ne_zero nonzero)
  rw [← text, signed_eq_intCast_iff positive]
  constructor
  · intro same
    obtain ⟨sign, magnitude⟩ := Numeral.of_text_eq_toString same.symm
    have value := shows.magnitude.symm.trans magnitude
    have small : n.natAbs < 10 ^ 6 := by
      have bound := shows.lt_of_text_eq same.symm
      rw [value] at bound
      exact_mod_cast bound
    exact ⟨⟨(wholes.whole rank _ nonzero small).mp value, shows.negative_eq.symm.trans sign⟩, small⟩
  · rintro ⟨⟨point, sign⟩, small⟩
    have value := (wholes.whole rank _ nonzero small).mpr point
    have least : (1 : ℚ) ≤ n.natAbs := point ▸ one_le_of_point_eq nonzero point
    have most : (n.natAbs : ℚ) < 10 ^ 6 := by exact_mod_cast small
    obtain ⟨plain, noPoint⟩ := shows.isPlain (value ▸ least) (value ▸ most)
    refine (plain.text_eq (noPoint.mpr ⟨_, value⟩) ?_ (shows.magnitude.trans value)).symm
    rw [shows.sign, sign]
    simp only [decide_eq_true_eq]

end

/-- **An integer is shown like a number of a format exactly when the number is the integer, is below
a million, and is not the negative zero.** -/
theorem WholeBelowMillion.toString_eq_text_iff {numeral : ℕ → Decimal}
    (wholes : WholeBelowMillion f numeral) (n : ℤ) (x : Binary f) :
    toString n = NumberStyle.script.text numeral x ↔
      x.value? = some (n : ℚ) ∧ n.natAbs < 10 ^ 6 ∧ x ≠ .ofRank true 0 := by
  have literal := Literal.ofText?_text (.ofInt n)
  rw [Numeral.text_ofInt] at literal
  cases x with
  | nan =>
      refine iff_of_false (fun same => ?_) fun ⟨value, _⟩ => nomatch value
      rw [same, NumberStyle.ofText?_text_nan] at literal
      cases literal
  | infinity negative =>
      refine iff_of_false (fun same => ?_) fun ⟨value, _⟩ => nomatch value
      rw [same, NumberStyle.ofText?_text_infinity] at literal
      cases literal
  | finite negative rank =>
      rw [Ne, Binary.finite_eq_negativeZero_iff, Binary.value?, Option.some.injEq]
      by_cases zero : rank.val = 0
      · rw [toString_eq_text_zero_iff zero, zero, f.point_zero, neg_zero, ite_self]
        constructor
        · rintro ⟨rfl, rfl⟩
          exact ⟨Int.cast_zero.symm, by decide, fun ⟨sign, _⟩ => Bool.false_ne_true sign⟩
        · rintro ⟨value, _, sign⟩
          refine ⟨Int.cast_eq_zero.mp value.symm, Bool.eq_false_iff.mpr fun below => ?_⟩
          exact sign ⟨below, rfl⟩
      · rw [wholes.toString_eq_text_finite_iff zero]
        simp only [zero, and_false, not_false_eq_true, and_true]

/-- **An integer equals the finite number that it is, below a million and but for the negative
zero**, in either format. -/
theorem Value.relate_integer_float (kind : IntKind) (n : ℤ) :
    (∀ x : Double, relate (.integer kind n) (some (.float64 x)) "==" =
      .ok (decide (x.value? = some (n : ℚ) ∧ n.natAbs < 10 ^ 6 ∧ x ≠ .ofRank true 0))) ∧
    (∀ x : Single, relate (.integer kind n) (some (.float32 x)) "==" =
      .ok (decide (x.value? = some (n : ℚ) ∧ n.natAbs < 10 ^ 6 ∧ x ≠ .ofRank true 0))) := by
  constructor
  · intro x
    have same : relate (.integer kind n) (some (.float64 x)) "==" =
        .ok (toString n == Double.render x) := rfl
    rw [same, beq_eq_decide]
    exact congrArg _ (decide_eq_decide.mpr (Double.wholeBelowMillion.toString_eq_text_iff n x))
  · intro x
    have same : relate (.integer kind n) (some (.float32 x)) "==" =
        .ok (toString n == Single.render x) := rfl
    rw [same, beq_eq_decide]
    exact congrArg _ (decide_eq_decide.mpr (Single.wholeBelowMillion.toString_eq_text_iff n x))

end FilterScript
