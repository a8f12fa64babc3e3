import FilterScript.Proofs.FewestDigits
import FilterScript.Proofs.Layout
import FilterScript.Proofs.ShortestDouble
import FilterScript.Value.Relation

/-! # The form of a float as it is shown

A float is shown as a numeral with the sign of the float, for the decimal that its digits make. The
numeral has an exponent when the leading digit stands far from the point, and is written out
otherwise (`Numeral.Shows`). In both forms no zero stands where it says nothing, and a number that
is written out has a point exactly when it is no whole number
(`Numeral.IsPlain.fraction_eq_none_iff`). This is what a script shows for every finite float but
zero (`Value.exists_shows_float`). -/

namespace FilterScript

/-! ## Digits without zeros at their ends -/

/-- Some usual digits, of which neither the first nor the last is zero. -/
structure TrimmedDigits (digits : List Char) : Prop where
  usual : UsualDigits digits
  nonempty : digits ≠ []
  first : digits.head? ≠ some '0'
  last : digits.getLast? ≠ some '0'

/-- The digits behind the point, if there is one: at least one, and no zero at the end. -/
def TrimmedFraction (fraction : Option (List Char)) : Prop :=
  ∀ digits ∈ fraction, UsualDigits digits ∧ digits ≠ [] ∧ digits.getLast? ≠ some '0'

namespace TrimmedFraction

theorem none : TrimmedFraction none := fun _ member => nomatch member

/-- Digits behind the point are trimmed if there are some and the last is not zero. -/
theorem some {digits : List Char} (usual : UsualDigits digits) (some_digit : digits ≠ [])
    (last : digits.getLast? ≠ some '0') : TrimmedFraction (some digits) := by
  rintro _ ⟨⟩
  exact ⟨usual, some_digit, last⟩

/-- A trimmed fraction has usual digits only. -/
theorem usual {fraction : Option (List Char)} (trimmed : TrimmedFraction fraction) :
    UsualDigits (fraction.getD []) := by
  cases fraction with
  | none => exact .nil
  | some digits => exact (trimmed digits rfl).1

end TrimmedFraction

/-- The digits of a number but zero do not start with zero. -/
theorem head?_toDigits {n : ℕ} (nonzero : n ≠ 0) : (Nat.toDigits 10 n).head? ≠ some '0' := by
  induction n using Nat.strongRecOn with
  | ind n ih =>
      rw [Nat.toDigits_eq_if (by decide)]
      split
      · next small =>
          have digit : ∀ value < 10, value ≠ 0 → Nat.digitChar value ≠ '0' := by decide
          exact fun zero => digit n small nonzero (Option.some.inj zero)
      · next large =>
          rw [List.head?_append_of_ne_nil _ Nat.toDigits_ne_nil]
          exact ih (n / 10) (Nat.div_lt_self (Nat.pos_of_ne_zero nonzero) (by decide)) (by omega)

/-- The digits that count. -/
theorem trimmed_significantDigits {n : ℕ} (nonzero : n ≠ 0) :
    TrimmedDigits (significantDigits n) := by
  obtain ⟨some_digit, usual, _⟩ := significantDigits_spec nonzero
  refine ⟨usual, some_digit, ?_, ?_⟩
  · obtain ⟨zeros, split⟩ := toDigits_eq_significantDigits n
    have first := head?_toDigits nonzero
    rwa [split, List.head?_append_of_ne_nil _ some_digit] at first
  · intro zero
    rw [significantDigits, List.getLast?_reverse] at zero
    have stops := List.head?_dropWhile_not (fun c => c == '0') (Nat.toDigits 10 n).reverse
    rw [zero] at stops
    exact absurd stops (by decide)

theorem UsualDigits.singleton {c : Char} (digit : c.isDigit = true) : UsualDigits [c] :=
  fun _ member => List.mem_singleton.mp member ▸ digit

/-- A usual digit is as far behind the zero as its value says. -/
theorem toNat_eq_digitsValue {c : Char} (digit : c.isDigit = true) :
    c.toNat = '0'.toNat + digitsValue [c] ∧ digitsValue [c] < 10 := by
  have read := Text.digitValue?_of_isDigit digit
  have values : [c].filterMap Text.digitValue? = [c.toNat - '0'.toNat] := by
    rw [List.filterMap_cons, read, List.filterMap_nil]
  have code := Text.digit_code ((UsualDigits.singleton digit).allDigits c List.mem_cons_self)
  have zero : '0'.toNat = 48 := rfl
  rw [digitsValue, values, Literal.ofDigits_singleton]
  exact ⟨by omega, Text.digitValue?_lt read⟩

/-- The last digit counts once and all digits before it ten times. -/
theorem digitsValue_concat (front : List Char) {c : Char} (digit : c.isDigit = true) :
    digitsValue (front ++ [c]) = 10 * digitsValue front + digitsValue [c] := by
  rw [digitsValue_append (UsualDigits.singleton digit).allDigits, List.length_singleton, pow_one,
    Nat.mul_comm]

/-- A number whose last digit is not zero is no multiple of ten. -/
theorem digitsValue_mod {digits : List Char} (usual : UsualDigits digits) (some_digit : digits ≠ [])
    (last : digits.getLast? ≠ some '0') : digitsValue digits % 10 ≠ 0 := by
  obtain ⟨front, c, rfl⟩ := (List.eq_nil_or_concat' digits).resolve_left some_digit
  rw [List.getLast?_concat] at last
  have digit := usual c (List.mem_append_right _ List.mem_cons_self)
  have notZero : c.toNat ≠ '0'.toNat := fun same => last (congrArg some (Char.toNat_inj.mp same))
  obtain ⟨code, small⟩ := toNat_eq_digitsValue digit
  rw [digitsValue_concat front digit]
  omega

/-! ## Forms -/

namespace Numeral

/-- One digit that is not zero before the point, and an exponent of at least two digits: its sign is
written, and a zero is put before it only when it is below ten. -/
structure IsScientific (n : Numeral) (exponent : ℤ) : Prop where
  whole : ∃ digit, n.whole = [digit] ∧ digit.isDigit = true ∧ digit ≠ '0'
  fraction : TrimmedFraction n.fraction
  exponent : ∃ written, n.exponent = some written ∧ written.capital = false ∧
    written.sign = some (decide (exponent < 0)) ∧
    written.digits = (if exponent.natAbs < 10 then ['0'] else []) ++ Nat.toDigits 10 exponent.natAbs

/-- No exponent, and a zero before the point only when nothing else stands there. -/
structure IsPlain (n : Numeral) : Prop where
  whole : UsualDigits n.whole ∧ n.whole ≠ [] ∧ (n.whole.head? = some '0' → n.whole = ['0'])
  fraction : TrimmedFraction n.fraction
  exponent : n.exponent = none

/-- The numeral shows a number: with its sign and digits, in the form that the place of its leading
digit asks for. Written out it has a point exactly when the number is not whole. -/
structure Shows (n : Numeral) (negative : Bool) (x : ℚ) : Prop where
  sign : n.sign = if negative then some true else none
  magnitude : n.magnitude = x
  form : ∃ exponent : ℤ, 10 ^ exponent ≤ x ∧ x < 10 ^ (exponent + 1) ∧
    if exponent < -4 ∨ 6 ≤ exponent then n.IsScientific exponent
    else n.IsPlain ∧ (n.fraction = none ↔ ∃ whole : ℕ, x = whole)

/-- The sign that is shown is the number's. -/
theorem Shows.negative_eq {n : Numeral} {negative : Bool} {x : ℚ} (shows : n.Shows negative x) :
    n.negative = negative := by
  rw [Numeral.negative, shows.sign]
  cases negative with
  | false => rfl
  | true => rfl

/-- Without an exponent, a numeral is all its digits over a power of ten. -/
theorem magnitude_of_plain {n : Numeral} (plain : n.exponent = none) : n.magnitude =
    digitsValue (n.whole ++ n.fraction.getD []) / 10 ^ (n.fraction.getD []).length := by
  rw [← n.value_decimal, Decimal.value]
  unfold decimal
  rw [plain, Option.elim_none, zero_sub, zpow_neg, zpow_natCast]
  rfl

/-- **A number that is written out has no point exactly when it is whole.** -/
theorem IsPlain.fraction_eq_none_iff {n : Numeral} (plain : n.IsPlain) :
    n.fraction = none ↔ ∃ whole : ℕ, n.magnitude = whole := by
  rw [magnitude_of_plain plain.exponent]
  constructor
  · intro none
    rw [none, Option.getD_none, List.length_nil, pow_zero, div_one]
    exact ⟨_, rfl⟩
  · rintro ⟨whole, same⟩
    by_contra point
    obtain ⟨digits, fraction⟩ := Option.ne_none_iff_exists'.mp point
    obtain ⟨usual, some_digit, last⟩ := plain.fraction digits fraction
    rw [fraction, Option.getD_some, div_eq_iff (by positivity)] at same
    have multiple : digitsValue (n.whole ++ digits) = whole * 10 ^ digits.length := by
      exact_mod_cast same
    have tens : 10 ∣ 10 ^ digits.length :=
      dvd_pow_self 10 (List.length_pos_iff.mpr some_digit).ne'
    refine digitsValue_mod (plain.whole.1.append usual)
      (List.append_ne_nil_of_right_ne_nil _ some_digit) ?_
      (Nat.mod_eq_zero_of_dvd (multiple ▸ tens.mul_left whole))
    rw [List.getLast?_append_of_ne_nil _ some_digit]
    exact last

/-- What a numeral stands for is told by its text. -/
theorem magnitude_eq_of_text {n other : Numeral} (same : n.unsignedText = other.unsignedText) :
    n.magnitude = other.magnitude := by
  have decimals : some n.decimal = some other.decimal := by
    rw [← Literal.decimal?_unsignedText, same, Literal.decimal?_unsignedText]
  rw [← n.value_decimal, ← other.value_decimal, Option.some.inj decimals]

end Numeral

/-! ## The layouts have the forms -/

/-- The exponent is laid out with two digits at least. -/
theorem laidOutExponent_digits (exponent : ℤ) : (laidOutExponent exponent).digits =
    (if exponent.natAbs < 10 then ['0'] else []) ++ Nat.toDigits 10 exponent.natAbs := by
  have count : (Nat.toDigits 10 exponent.natAbs).length ≤ 1 ↔ exponent.natAbs < 10 :=
    digitCount_le_iff one_pos
  have positive : 0 < (Nat.toDigits 10 exponent.natAbs).length := digitCount_pos _
  unfold laidOutExponent
  dsimp only
  split
  · next small =>
      have one : 2 - (Nat.toDigits 10 exponent.natAbs).length = 1 := by
        have most := count.mpr small
        omega
      rw [one]
      rfl
  · next large =>
      have none : 2 - (Nat.toDigits 10 exponent.natAbs).length = 0 := by
        have more := mt count.mp large
        omega
      rw [none]
      rfl

section

variable (sign : Option Bool) {digits : List Char}

/-- The parts of a numeral with an exponent put together. -/
theorem exists_scientific_of_parts {digit : Char} {fraction : Option (List Char)}
    (usual : digit.isDigit = true) (notZero : digit ≠ '0') (trimmed : TrimmedFraction fraction)
    (exponent : ℤ) : ∃ n : Numeral, n.sign = sign ∧
      n.unsignedText = digit :: (fraction.elim [] ('.' :: ·) ++ 'e' :: exponentText exponent) ∧
      n.IsScientific exponent := by
  have written : ∃ written, some (laidOutExponent exponent) = some written ∧
      written.capital = false ∧ written.sign = some (decide (exponent < 0)) ∧
      written.digits =
        (if exponent.natAbs < 10 then ['0'] else []) ++ Nat.toDigits 10 exponent.natAbs :=
    ⟨_, rfl, rfl, rfl, laidOutExponent_digits exponent⟩
  refine ⟨⟨sign, [digit], fraction, some (laidOutExponent exponent),
    (UsualDigits.singleton usual).allDigits, trimmed.usual.allDigits,
    List.cons_ne_nil _ _⟩, rfl, ?_, ⟨⟨digit, rfl, usual, notZero⟩, trimmed, written⟩⟩
  exact congrArg (fun text => digit :: (fraction.elim [] ('.' :: ·) ++ text))
    (text_laidOutExponent exponent)

/-- Trimmed digits in scientific form make a numeral of that form. -/
theorem exists_scientific (trimmed : TrimmedDigits digits) (exponent : ℤ) : ∃ n : Numeral,
    n.sign = sign ∧ n.unsignedText = scientificText digits exponent ∧ n.IsScientific exponent := by
  match digits with
  | [] => exact absurd rfl trimmed.nonempty
  | [digit] =>
      have usual := trimmed.usual digit List.mem_cons_self
      have notZero : digit ≠ '0' := fun zero => trimmed.first (congrArg some zero)
      exact exists_scientific_of_parts sign usual notZero .none exponent
  | digit :: next :: rest =>
      have usual := trimmed.usual digit List.mem_cons_self
      have notZero : digit ≠ '0' := fun zero => trimmed.first (congrArg some zero)
      have back := trimmed.usual.of_subset (List.subset_cons_self digit (next :: rest))
      have last := trimmed.last
      rw [List.getLast?_cons_cons] at last
      exact exists_scientific_of_parts sign usual notZero
        (.some back (List.cons_ne_nil _ _) last) exponent

/-- The parts of a numeral without an exponent put together. -/
theorem exists_plain_of_parts {whole : List Char} {fraction : Option (List Char)}
    (usual : UsualDigits whole) (some_digit : whole ≠ [])
    (first : whole.head? = some '0' → whole = ['0']) (trimmed : TrimmedFraction fraction) :
    ∃ n : Numeral, n.sign = sign ∧ n.unsignedText = whole ++ fraction.elim [] ('.' :: ·) ∧
      n.IsPlain := by
  refine ⟨⟨sign, whole, fraction, none, usual.allDigits, trimmed.usual.allDigits,
    List.append_ne_nil_of_left_ne_nil some_digit _⟩, rfl, ?_,
    ⟨⟨usual, some_digit, first⟩, trimmed, rfl⟩⟩
  exact congrArg (whole ++ ·) (List.append_nil _)

/-- Trimmed digits behind a point and zeros make a plain numeral. -/
theorem exists_plain_behindZeros (trimmed : TrimmedDigits digits) (zeros : ℕ) : ∃ n : Numeral,
    n.sign = sign ∧ n.unsignedText = '0' :: '.' :: (List.replicate zeros '0' ++ digits) ∧
      n.IsPlain := by
  have back := (UsualDigits.zeros zeros).append trimmed.usual
  have some_back := List.append_ne_nil_of_right_ne_nil (List.replicate zeros '0') trimmed.nonempty
  have last := trimmed.last
  rw [← List.getLast?_append_of_ne_nil (List.replicate zeros '0') trimmed.nonempty] at last
  exact exists_plain_of_parts sign (UsualDigits.zeros 1) (List.cons_ne_nil _ _) (fun _ => rfl)
    (.some back some_back last)

/-- Trimmed digits in front of zeros make a plain numeral. -/
theorem exists_plain_beforeZeros (trimmed : TrimmedDigits digits) (zeros : ℕ) : ∃ n : Numeral,
    n.sign = sign ∧ n.unsignedText = digits ++ List.replicate zeros '0' ∧ n.IsPlain := by
  have whole := trimmed.usual.append (UsualDigits.zeros zeros)
  have some_digit := List.append_ne_nil_of_left_ne_nil trimmed.nonempty (List.replicate zeros '0')
  have first := trimmed.first
  rw [← List.head?_append_of_ne_nil _ trimmed.nonempty] at first
  rw [← List.append_nil (digits ++ _)]
  exact exists_plain_of_parts sign whole some_digit (fun zero => absurd zero first) .none

/-- Trimmed digits with a point among them make a plain numeral. -/
theorem exists_plain_around (trimmed : TrimmedDigits digits) {places : ℕ} (some' : places ≠ 0)
    (more : places < digits.length) : ∃ n : Numeral, n.sign = sign ∧
      n.unsignedText = digits.take places ++ '.' :: digits.drop places ∧ n.IsPlain := by
  have front := trimmed.usual.of_subset (List.take_subset places digits)
  have some_front : digits.take places ≠ [] := by
    rw [Ne, List.take_eq_nil_iff]
    exact not_or.mpr ⟨some', trimmed.nonempty⟩
  have first : (digits.take places).head? ≠ some '0' := by
    rw [List.head?_take, if_neg some']
    exact trimmed.first
  have back := trimmed.usual.of_subset (List.drop_subset places digits)
  have some_back : digits.drop places ≠ [] := mt List.drop_eq_nil_iff.mp (Nat.not_le_of_lt more)
  have last : (digits.drop places).getLast? ≠ some '0' := by
    rw [List.getLast?_drop, if_neg (Nat.not_le_of_lt more)]
    exact trimmed.last
  exact exists_plain_of_parts sign front some_front (fun zero => absurd zero first)
    (.some back some_back last)

/-- Trimmed digits written out make a plain numeral, wherever the point falls. -/
theorem exists_plain (trimmed : TrimmedDigits digits) (exponent : ℤ) : ∃ n : Numeral,
    n.sign = sign ∧ n.unsignedText = positionalText [] digits exponent ∧ n.IsPlain := by
  unfold positionalText
  split
  · exact exists_plain_behindZeros sign trimmed _
  · dsimp only
    split
    · rw [List.append_nil]
      exact exists_plain_beforeZeros sign trimmed _
    · next more =>
        exact exists_plain_around sign trimmed (Nat.succ_ne_zero _) (Nat.lt_of_not_le more)

end

namespace NumberStyle

/-- **A decimal that is laid out for a script is shown.** -/
theorem exists_shows_layout {d : Decimal} (nonzero : d.coefficient ≠ 0) (negative : Bool) :
    ∃ n : Numeral, n.text =
      String.ofList (if negative then '-' :: script.layout d else script.layout d) ∧
      n.Shows negative d.value := by
  have numeral : IsNumeral (script.layout d) d.value := isNumeral_layout rfl nonzero
  obtain ⟨laidOut, _, unsigned, value⟩ := numeral
  have trimmed := trimmed_significantDigits nonzero
  obtain ⟨n, sign, text, form⟩ : ∃ n : Numeral,
      n.sign = (if negative then some true else none) ∧ n.unsignedText = script.layout d ∧
      if d.point - 1 < -4 ∨ 6 ≤ d.point - 1 then n.IsScientific (d.point - 1) else n.IsPlain := by
    by_cases far : d.point - 1 < -4 ∨ 6 ≤ d.point - 1
    · have layout : script.layout d =
          scientificText (significantDigits d.coefficient) (d.point - 1) := if_pos far
      simp only [layout, far, ↓reduceIte]
      exact exists_scientific _ trimmed _
    · have layout : script.layout d =
          positionalText [] (significantDigits d.coefficient) (d.point - 1) := if_neg far
      simp only [layout, far, ↓reduceIte]
      exact exists_plain _ trimmed _
  have magnitude : n.magnitude = d.value :=
    (Numeral.magnitude_eq_of_text (text.trans unsigned.symm)).trans value
  refine ⟨n, ?_, sign, magnitude, d.point - 1, Decimal.point_le_value nonzero, ?_, ?_⟩
  · rw [Numeral.text, sign, text]
    cases negative with
    | false => rfl
    | true => rfl
  · rw [sub_add_cancel]
    exact d.value_lt_point
  · split at form
    · next far => exact if_pos far ▸ form
    · next near =>
        rw [if_neg near, ← magnitude]
        exact ⟨form, form.fraction_eq_none_iff⟩

/-- A finite number but zero is shown with its sign and its numeral. -/
theorem exists_shows_text {f : Format} {numeral : ℕ → Decimal} {rank : Fin f.finiteCount}
    (nonzero : rank.val ≠ 0) (digits : (numeral rank).coefficient ≠ 0) (negative : Bool) :
    ∃ n : Numeral, n.text = script.text numeral (.finite negative rank) ∧
      n.Shows negative (numeral rank).value := by
  obtain ⟨n, text, shows⟩ := exists_shows_layout digits negative
  refine ⟨n, ?_, shows⟩
  rw [text, NumberStyle.text, if_neg nonzero]

end NumberStyle

/-! ## Floats -/

namespace Value

/-- **A finite float but zero is shown as its numeral,** in the form that the place of the leading
digit asks for. -/
theorem exists_shows_float :
    (∀ (negative : Bool) (rank : Fin Format.double.finiteCount), rank.val ≠ 0 →
      ∃ n : Numeral, n.text = (Value.float64 (.finite negative rank)).render ∧
        n.Shows negative (Format.double.shortest rank).value) ∧
    (∀ (negative : Bool) (rank : Fin Format.single.finiteCount), rank.val ≠ 0 →
      ∃ n : Numeral, n.text = (Value.float32 (.finite negative rank)).render ∧
        n.Shows negative (fewestRounded rank).value) := by
  constructor
  · intro negative rank nonzero
    have digits := Format.coefficient_shortest_ne_zero nonzero rank.isLt
    exact NumberStyle.exists_shows_text nonzero digits negative
  · intro negative rank nonzero
    have digits := Format.coefficient_fewestRounded_ne_zero nonzero rank.isLt
    exact NumberStyle.exists_shows_text nonzero digits negative

/-- The least double below zero, and the single nearest to a third. -/
theorem exists_shows_float_least_third :
    (1 : ℕ) ≠ 0 ∧ (125 * 2 ^ 23 + 2796203 : ℕ) ≠ 0 ∧
    (∃ n : Numeral, n.text = (Value.float64 (.finite true ⟨1, by decide⟩)).render ∧
      n.Shows true (Format.double.shortest 1).value) ∧
    ∃ n : Numeral,
      n.text = (Value.float32 (.finite false ⟨125 * 2 ^ 23 + 2796203, by decide⟩)).render ∧
      n.Shows false (fewestRounded (125 * 2 ^ 23 + 2796203)).value := by
  have least : (1 : ℕ) ≠ 0 := by decide
  have third : (125 * 2 ^ 23 + 2796203 : ℕ) ≠ 0 := by decide
  exact ⟨least, third, exists_shows_float.1 true ⟨1, by decide⟩ least,
    exists_shows_float.2 false ⟨125 * 2 ^ 23 + 2796203, by decide⟩ third⟩

end Value

end FilterScript
