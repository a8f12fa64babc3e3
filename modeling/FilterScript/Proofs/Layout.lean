import FilterScript.Number.Style
import FilterScript.Proofs.Numeral
import Mathlib.Data.List.TakeWhile

/-! # Layouts are numerals

A decimal that is laid out, positionally or with an exponent, is a numeral that stands for it
(`NumberStyle.isNumeral_layout`): the layout moves the point, and the exponent makes up for it.
-/

namespace FilterScript

/-! ## Digits and their numbers -/

/-- Digits in front count as many tens as there are digits behind them. -/
theorem digitsValue_append {front back : List Char} (digits : AllDigits back) :
    digitsValue (front ++ back) = digitsValue front * 10 ^ back.length + digitsValue back := by
  unfold digitsValue
  rw [List.filterMap_append, Literal.ofDigits_append, Literal.length_values digits]

/-- Zeros have the value zero. -/
theorem digitsValue_zeros (count : ℕ) : digitsValue (List.replicate count '0') = 0 := by
  induction count with
  | zero => rfl
  | succ count ih =>
      have one : AllDigits ['0'] := (UsualDigits.zeros 1).allDigits
      rw [List.replicate_succ', digitsValue_append one, ih, Nat.zero_mul]
      rfl

/-- The usual digits of a number have its value. -/
theorem digitsValue_toDigits (n : ℕ) : digitsValue (Nat.toDigits 10 n) = n := by
  have read {digits : List Char} (usual : UsualDigits digits) (start : ℕ) :
      (digits.filterMap Text.digitValue?).foldl (fun total value => 10 * total + value) start =
        Nat.ofDigitChars 10 digits start := by
    induction digits generalizing start with
    | nil => rfl
    | cons c rest ih =>
        rw [List.filterMap_cons, Text.digitValue?_of_isDigit (usual c List.mem_cons_self)]
        exact ih (usual.of_subset (List.subset_cons_self _ _)) _
  exact (read (UsualDigits.toDigits n) 0).trans Nat.ofDigitChars_ten_toDigits

/-- The digits of a number are those that count and the zeros at its end. -/
theorem toDigits_eq_significantDigits (n : ℕ) : ∃ zeros,
    Nat.toDigits 10 n = significantDigits n ++ List.replicate zeros '0' := by
  have parts := (Nat.toDigits 10 n).reverse.takeWhile_append_dropWhile (p := (· == '0'))
  have zeros : (Nat.toDigits 10 n).reverse.takeWhile (· == '0') =
      List.replicate ((Nat.toDigits 10 n).reverse.takeWhile (· == '0')).length '0' := by
    refine List.eq_replicate_of_mem fun c member => ?_
    have zero := List.mem_takeWhile_imp member
    exact beq_iff_eq.mp zero
  refine ⟨((Nat.toDigits 10 n).reverse.takeWhile (· == '0')).length, ?_⟩
  rw [significantDigits, ← List.reverse_inj, List.reverse_append, List.reverse_reverse,
    List.reverse_replicate, ← zeros]
  exact parts.symm

/-- The digits of a number without the zeros at its end, and these zeros. -/
theorem significantDigits_spec {n : ℕ} (nonzero : n ≠ 0) :
    significantDigits n ≠ [] ∧ UsualDigits (significantDigits n) ∧
      ∃ zeros, digitCount n = (significantDigits n).length + zeros ∧
        n = digitsValue (significantDigits n) * 10 ^ zeros := by
  obtain ⟨zeros, split⟩ := toDigits_eq_significantDigits n
  have usual : UsualDigits (significantDigits n) :=
    (UsualDigits.toDigits n).of_subset (split ▸ List.subset_append_left _ _)
  have total : n = digitsValue (significantDigits n) * 10 ^ zeros := by
    have value := digitsValue_toDigits n
    rw [split, digitsValue_append (UsualDigits.zeros zeros).allDigits, digitsValue_zeros,
      List.length_replicate, Nat.add_zero] at value
    exact value.symm
  refine ⟨?_, usual, zeros, ?_, total⟩
  · intro none
    rw [none] at total
    exact nonzero (total.trans (Nat.zero_mul _))
  · rw [digitCount, split, List.length_append, List.length_replicate]

/-! ## The two layouts -/

/-- A numeral without a sign, written with the given characters, that stands for a number. -/
def IsNumeral (text : List Char) (x : ℚ) : Prop :=
  ∃ n : Numeral, n.sign = none ∧ n.unsignedText = text ∧ n.magnitude = x

/-- The parts of a numeral put together. -/
theorem isNumeral_of_parts {whole : List Char} (fraction : Option (List Char))
    (exponent : Option WrittenExponent) (wholeDigits : UsualDigits whole)
    (fractionDigits : UsualDigits (fraction.getD []))
    (some_digit : whole ++ fraction.getD [] ≠ []) :
    IsNumeral (whole ++ (fraction.elim [] ('.' :: ·) ++ exponent.elim [] WrittenExponent.text))
      (digitsValue (whole ++ fraction.getD []) *
        10 ^ (exponent.elim 0 WrittenExponent.value - (fraction.getD []).length)) := by
  refine ⟨⟨none, whole, fraction, exponent, wholeDigits.allDigits, fractionDigits.allDigits,
    some_digit⟩, rfl, rfl, ?_⟩
  rw [← Numeral.value_decimal]
  rfl

/-- The exponent of a numeral as it is laid out. -/
def laidOutExponent (exponent : ℤ) : WrittenExponent where
  capital := false
  sign := some (decide (exponent < 0))
  digits := List.replicate (2 - (Nat.toDigits 10 exponent.natAbs).length) '0' ++
    Nat.toDigits 10 exponent.natAbs
  allDigits := ((UsualDigits.zeros _).append (UsualDigits.toDigits _)).allDigits
  some_digit := List.append_ne_nil_of_right_ne_nil _ Nat.toDigits_ne_nil

/-- A laid out exponent is written behind its mark. -/
theorem text_laidOutExponent (exponent : ℤ) :
    (laidOutExponent exponent).text = 'e' :: exponentText exponent := by
  unfold WrittenExponent.text laidOutExponent exponentText
  by_cases negative : exponent < 0
  · rw [decide_eq_true negative, if_pos negative]
    rfl
  · rw [decide_eq_false negative, if_neg negative]
    rfl

/-- A laid out exponent has the value that it was made from. -/
theorem value_laidOutExponent (exponent : ℤ) : (laidOutExponent exponent).value = exponent := by
  have digits : digitsValue (laidOutExponent exponent).digits = exponent.natAbs := by
    unfold laidOutExponent
    rw [digitsValue_append (UsualDigits.toDigits _).allDigits, digitsValue_zeros, Nat.zero_mul,
      Nat.zero_add, digitsValue_toDigits]
  have sign : (laidOutExponent exponent).sign = some (decide (exponent < 0)) := rfl
  rw [WrittenExponent.value, digits, sign]
  by_cases negative : exponent < 0
  · rw [decide_eq_true negative, if_pos rfl]
    omega
  · rw [decide_eq_false negative, if_neg (by decide)]
    omega

/-- Digits with an exponent stand for themselves with the point behind the first one. -/
theorem isNumeral_scientificText {digits : List Char} (usual : UsualDigits digits)
    (some_digit : digits ≠ []) (exponent : ℤ) :
    IsNumeral (scientificText digits exponent)
      (digitsValue digits * 10 ^ (exponent + 1 - digits.length)) := by
  have exponentParts : (some (laidOutExponent exponent)).elim [] WrittenExponent.text =
      'e' :: exponentText exponent := text_laidOutExponent exponent
  have exponentValue : (some (laidOutExponent exponent)).elim 0 WrittenExponent.value = exponent :=
    value_laidOutExponent exponent
  match digits with
  | [] => exact absurd rfl some_digit
  | [digit] =>
      have numeral :=
        isNumeral_of_parts none (some (laidOutExponent exponent)) usual .nil some_digit
      rw [exponentParts, exponentValue] at numeral
      have place : exponent + 1 - [digit].length = exponent - ([] : List Char).length := by
        simp only [List.length_singleton, List.length_nil]
        omega
      rw [place]
      exact numeral
  | digit :: next :: rest =>
      have front : UsualDigits [digit] := usual.of_subset (by simp only [List.cons_subset,
        List.mem_cons, true_or, List.nil_subset, and_self])
      have back : UsualDigits (next :: rest) := usual.of_subset (List.subset_cons_self _ _)
      have numeral := isNumeral_of_parts (some (next :: rest)) (some (laidOutExponent exponent))
        front back (List.cons_ne_nil _ _)
      rw [exponentParts, exponentValue] at numeral
      have place : exponent + 1 - (digit :: next :: rest).length =
          exponent - (next :: rest).length := by
        simp only [List.length_cons]
        omega
      rw [place]
      exact numeral

/-- Digits behind the point and some zeros. -/
theorem isNumeral_behindZeros {digits : List Char} (usual : UsualDigits digits) (zeros : ℕ) :
    IsNumeral ('0' :: '.' :: (List.replicate zeros '0' ++ digits))
      (digitsValue digits * 10 ^ (-(zeros + digits.length : ℕ) : ℤ)) := by
  have fraction := (UsualDigits.zeros zeros).append usual
  have numeral := isNumeral_of_parts (some _) none (UsualDigits.zeros 1) fraction
    (List.cons_ne_nil _ _)
  have value : digitsValue (List.replicate 1 '0' ++ (List.replicate zeros '0' ++ digits)) =
      digitsValue digits := by
    rw [← List.append_assoc, List.replicate_append_replicate, digitsValue_append usual.allDigits,
      digitsValue_zeros, Nat.zero_mul, Nat.zero_add]
  have place : (-(zeros + digits.length : ℕ) : ℤ) =
      0 - (List.replicate zeros '0' ++ digits).length := by
    rw [List.length_append, List.length_replicate, zero_sub]
  rw [place, ← value]
  rw [Option.elim_some, Option.elim_none, List.append_nil] at numeral
  exact numeral

/-- Digits before some zeros, with no point. -/
theorem isNumeral_beforeZeros {digits : List Char} (usual : UsualDigits digits)
    (some_digit : digits ≠ []) (zeros : ℕ) :
    IsNumeral (digits ++ List.replicate zeros '0') (digitsValue digits * 10 ^ zeros) := by
  have behind := UsualDigits.zeros zeros
  have numeral := isNumeral_of_parts none none (usual.append behind) .nil (by
    rw [Option.getD_none, List.append_nil]
    exact List.append_ne_nil_of_left_ne_nil some_digit _)
  have value : (digitsValue digits : ℚ) * 10 ^ zeros =
      digitsValue (digits ++ List.replicate zeros '0') := by
    rw [digitsValue_append behind.allDigits, digitsValue_zeros, List.length_replicate]
    push_cast
    ring
  rw [value]
  simpa only [Option.elim_none, Option.getD_none, List.append_nil, List.length_nil, Nat.cast_zero,
    sub_zero, zpow_zero, mul_one] using numeral

/-- Digits with the point among them. -/
theorem isNumeral_around {digits : List Char} (usual : UsualDigits digits)
    (some_digit : digits ≠ []) (places : ℕ) :
    IsNumeral (digits.take places ++ '.' :: digits.drop places)
      (digitsValue digits * 10 ^ (-(digits.length - places : ℕ) : ℤ)) := by
  have front := usual.of_subset (List.take_subset places digits)
  have back := usual.of_subset (List.drop_subset places digits)
  have numeral := isNumeral_of_parts (some _) none front back (by
    rw [Option.getD_some, List.take_append_drop]
    exact some_digit)
  have place : (-(digits.length - places : ℕ) : ℤ) = 0 - (digits.drop places).length := by
    rw [List.length_drop, zero_sub]
  rw [place]
  rw [Option.getD_some, List.take_append_drop, Option.elim_some, Option.elim_none,
    List.append_nil] at numeral
  exact numeral

/-- Digits with all places written out stand for themselves with the point behind the place of the
exponent. -/
theorem isNumeral_positionalText {digits : List Char} (usual : UsualDigits digits)
    (some_digit : digits ≠ []) (exponent : ℤ) :
    IsNumeral (positionalText [] digits exponent)
      (digitsValue digits * 10 ^ (exponent + 1 - digits.length)) := by
  unfold positionalText
  split
  · next below =>
      have place : exponent + 1 - digits.length =
          -((-exponent - 1).toNat + digits.length : ℕ) := by omega
      rw [place]
      exact isNumeral_behindZeros usual _
  · next above =>
      dsimp only
      split
      · next fits =>
          have place : exponent + 1 - digits.length =
              ((exponent.toNat + 1 - digits.length : ℕ) : ℤ) := by omega
          rw [place, zpow_natCast, List.append_nil]
          exact isNumeral_beforeZeros usual some_digit _
      · next more =>
          have place : exponent + 1 - digits.length =
              -(digits.length - (exponent.toNat + 1) : ℕ) := by omega
          rw [place]
          exact isNumeral_around usual some_digit _

namespace NumberStyle

/-- **A layout is a numeral that stands for what is laid out.** -/
theorem isNumeral_layout {style : NumberStyle} (noSuffix : style.wholeSuffix = "") {d : Decimal}
    (nonzero : d.coefficient ≠ 0) : IsNumeral (style.layout d) d.value := by
  obtain ⟨some_digit, usual, zeros, length, total⟩ := significantDigits_spec nonzero
  have value : d.value = digitsValue (significantDigits d.coefficient) *
      10 ^ (d.point - 1 + 1 - (significantDigits d.coefficient).length) := by
    have place : d.point - 1 + 1 - (significantDigits d.coefficient).length =
        (zeros : ℤ) + d.exponent := by
      unfold Decimal.point
      omega
    rw [place, zpow_add₀ (by norm_num), zpow_natCast, ← mul_assoc, Decimal.value]
    congr 1
    exact_mod_cast total
  unfold layout
  rw [value, noSuffix]
  dsimp only
  split
  · exact isNumeral_scientificText usual some_digit _
  · exact isNumeral_positionalText usual some_digit _

end NumberStyle

end FilterScript
