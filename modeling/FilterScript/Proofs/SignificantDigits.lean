import FilterScript.Proofs.Numeral
import Mathlib.Data.Nat.Digits.Lemmas

/-! # Significant digits

The significant digits of a numeral are those from the first to the last that is not zero. Their
number is the least one with which the number of the numeral can be written at all
(`Numeral.significant_le_iff`).
-/

namespace FilterScript

/-- The number can be written with so many digits and a power of ten. -/
def HasDigits (x : ℚ) (digits : ℕ) : Prop :=
  ∃ d : Decimal, x = d.value ∧ d.coefficient < 10 ^ digits

theorem HasDigits.mono {x : ℚ} {digits more : ℕ} (short : HasDigits x digits)
    (le : digits ≤ more) : HasDigits x more := by
  obtain ⟨d, value, fits⟩ := short
  exact ⟨d, value, fits.trans_le (Nat.pow_le_pow_right (by decide) le)⟩

/-- A coefficient of so many digits is written with them, and so is the power of ten behind
these. -/
theorem Decimal.hasDigits {d : Decimal} {digits : ℕ} (most : d.coefficient ≤ 10 ^ (digits + 1)) :
    HasDigits d.value (digits + 1) := by
  rcases Nat.lt_or_eq_of_le most with fits | power
  · exact ⟨d, rfl, fits⟩
  · refine ⟨⟨1, (digits + 1 : ℕ) + d.exponent⟩, ?_,
      Nat.one_lt_pow (Nat.succ_ne_zero _) (by decide)⟩
    rw [value, power, value, zpow_add₀ (by norm_num), zpow_natCast]
    push_cast
    ring

/-- A decimal without a zero at its end has no shorter form. -/
theorem HasDigits.coefficient_lt {d : Decimal} {digits : ℕ} (short : HasDigits d.value digits)
    (last : d.coefficient % 10 ≠ 0) : d.coefficient < 10 ^ digits := by
  obtain ⟨other, same, fits⟩ := short
  unfold Decimal.value at same
  rcases le_or_gt other.exponent d.exponent with finer | coarser
  · have exponent : d.exponent = ((d.exponent - other.exponent).toNat : ℤ) + other.exponent := by
      omega
    rw [exponent, zpow_add₀ (by norm_num), zpow_natCast, ← mul_assoc] at same
    have coefficients : d.coefficient * 10 ^ (d.exponent - other.exponent).toNat =
        other.coefficient := by
      exact_mod_cast mul_right_cancel₀ (zpow_ne_zero _ (by norm_num)) same
    exact (Nat.le_mul_of_pos_right _ (Nat.pow_pos (by decide))).trans_lt (coefficients ▸ fits)
  · have exponent : other.exponent =
        ((other.exponent - d.exponent - 1).toNat + 1 : ℕ) + d.exponent := by
      push_cast
      omega
    rw [exponent, zpow_add₀ (by norm_num), zpow_natCast, ← mul_assoc] at same
    have coefficients : d.coefficient =
        other.coefficient * 10 ^ ((other.exponent - d.exponent - 1).toNat + 1) := by
      exact_mod_cast mul_right_cancel₀ (zpow_ne_zero _ (by norm_num)) same
    rw [coefficients, Nat.pow_succ, ← Nat.mul_assoc, Nat.mul_mod_left] at last
    exact absurd rfl last

/-! ## Zeros at the ends -/

namespace Literal

theorem ofDigits_singleton (value : ℕ) : ofDigits [value] = value := by
  unfold ofDigits
  rw [List.foldl_cons, List.foldl_nil, Nat.mul_zero, Nat.zero_add]

/-- The digits of a text lead with the greatest place, those of a number with the least. -/
theorem ofDigits_eq (values : List ℕ) : ofDigits values = Nat.ofDigits 10 values.reverse := by
  induction values using List.reverseRecOn with
  | nil => rfl
  | append_singleton values last ih =>
      rw [ofDigits_append, ih, List.reverse_append, List.reverse_singleton, List.singleton_append,
        Nat.ofDigits_cons, List.length_singleton, pow_one, ofDigits_singleton]
      ring

/-- Zeros in front do not count. -/
theorem ofDigits_dropZeros (values : List ℕ) :
    ofDigits (values.dropWhile (· == 0)) = ofDigits values := by
  induction values with
  | nil => rfl
  | cons value rest ih =>
      by_cases zero : value = 0
      · subst zero
        have front : ofDigits ([0] ++ rest) = ofDigits rest := by
          rw [ofDigits_append]
          exact (congrArg (· + _) (Nat.zero_mul _)).trans (Nat.zero_add _)
        rw [List.dropWhile_cons_of_pos rfl, ih]
        exact front.symm
      · rw [List.dropWhile_cons_of_neg (by rwa [beq_iff_eq])]

end Literal

/-- Zeros at the end are a power of ten. -/
theorem ofDigits_dropZeros_mul (values : List ℕ) : ∃ zeros,
    Nat.ofDigits 10 values = Nat.ofDigits 10 (values.dropWhile (· == 0)) * 10 ^ zeros := by
  induction values with
  | nil => exact ⟨0, rfl⟩
  | cons value rest ih =>
      by_cases zero : value = 0
      · subst zero
        obtain ⟨zeros, same⟩ := ih
        refine ⟨zeros + 1, ?_⟩
        rw [List.dropWhile_cons_of_pos rfl, Nat.ofDigits_cons, same, pow_succ]
        ring
      · exact ⟨0, by rw [List.dropWhile_cons_of_neg (by rwa [beq_iff_eq]), pow_zero, mul_one]⟩

/-- The digits without the zeros at both ends, the last one first. -/
def coreDigits (values : List ℕ) : List ℕ :=
  (values.dropWhile (· == 0)).reverse.dropWhile (· == 0)

/-- The digits without the zeros at both ends, scaled by a power of ten, give the number. -/
theorem ofDigits_core (values : List ℕ) : ∃ zeros,
    Literal.ofDigits values = Nat.ofDigits 10 (coreDigits values) * 10 ^ zeros := by
  rw [← Literal.ofDigits_dropZeros, Literal.ofDigits_eq]
  exact ofDigits_dropZeros_mul _

/-- Dropping zeros at the ends leaves decimal digits. -/
theorem coreDigits_lt {values : List ℕ} (small : ∀ value ∈ values, value < 10) :
    ∀ value ∈ coreDigits values, value < 10 := by
  intro value member
  have inside := (List.dropWhile_suffix _).subset member
  exact small value ((List.dropWhile_suffix _).subset (List.mem_reverse.mp inside))

/-- The last digit that counts is not zero. -/
theorem coreDigits_mod {values : List ℕ} (small : ∀ value ∈ values, value < 10)
    (some_digit : coreDigits values ≠ []) : Nat.ofDigits 10 (coreDigits values) % 10 ≠ 0 := by
  have nonzero := List.head_dropWhile_not (fun value : ℕ => value == 0) some_digit
  have inside := coreDigits_lt small _ (List.head_mem some_digit)
  rw [← List.cons_head_tail some_digit, Nat.ofDigits_cons, Nat.add_mul_mod_self_left,
    Nat.mod_eq_of_lt inside]
  exact beq_eq_false_iff_ne.mp nonzero

/-- The first digit that counts is not zero. -/
theorem pow_le_coreDigits {values : List ℕ} (some_digit : coreDigits values ≠ []) :
    10 ^ (coreDigits values).length ≤ 10 * Nat.ofDigits 10 (coreDigits values) := by
  have dropped : values.dropWhile (· == 0) ≠ [] := by
    intro none
    refine some_digit ?_
    rw [coreDigits, none]
    rfl
  have nonzero := List.head_dropWhile_not (fun value : ℕ => value == 0) dropped
  refine Nat.pow_length_le_mul_ofDigits some_digit ?_
  have suffix : coreDigits values <:+ (values.dropWhile (· == 0)).reverse := List.dropWhile_suffix _
  rw [suffix.getLast some_digit, List.getLast_reverse]
  exact beq_eq_false_iff_ne.mp nonzero

/-- A digit is below ten. -/
theorem Text.digitValue?_lt {c : Char} {value : ℕ} (digit : Text.digitValue? c = some value) :
    value < 10 := by
  unfold Text.digitValue? at digit
  obtain ⟨range, _, rfl⟩ := Option.map_eq_some_iff.mp digit
  exact Nat.mod_lt _ (by decide)

namespace Numeral

/-- The values of all digits of a numeral. -/
def values (n : Numeral) : List ℕ := (n.whole ++ n.fraction.getD []).filterMap Text.digitValue?

/-- The number of digits from the first to the last that is not zero. -/
def significant (n : Numeral) : ℕ := (coreDigits n.values).length

theorem values_lt (n : Numeral) : ∀ value ∈ n.values, value < 10 := by
  intro value member
  obtain ⟨c, _, digit⟩ := List.mem_filterMap.mp member
  exact Text.digitValue?_lt digit

/-- The number of a numeral by the digits that count. -/
theorem magnitude_core (n : Numeral) : ∃ exponent,
    n.magnitude = (⟨Nat.ofDigits 10 (coreDigits n.values), exponent⟩ : Decimal).value := by
  obtain ⟨zeros, total⟩ := ofDigits_core n.values
  have coefficient : n.decimal.coefficient = Literal.ofDigits n.values := rfl
  refine ⟨zeros + n.decimal.exponent, ?_⟩
  rw [← n.value_decimal, Decimal.value, coefficient, total, Decimal.value,
    zpow_add₀ (by norm_num), zpow_natCast]
  push_cast
  ring

/-- **The significant digits of a numeral are as few as its number can be written with.** -/
theorem significant_le_iff (n : Numeral) (digits : ℕ) :
    n.significant ≤ digits ↔ HasDigits n.magnitude digits := by
  obtain ⟨exponent, core⟩ := n.magnitude_core
  have inside := coreDigits_lt n.values_lt
  constructor
  · intro few
    refine ⟨_, core, ?_⟩
    exact (Nat.ofDigits_lt_base_pow_length (by decide) inside).trans_le
      (Nat.pow_le_pow_right (by decide) few)
  · intro short
    by_cases some_digit : coreDigits n.values = []
    · rw [significant, some_digit]
      exact Nat.zero_le _
    · rw [core] at short
      have few := short.coefficient_lt (coreDigits_mod n.values_lt some_digit)
      have many := pow_le_coreDigits some_digit
      have bound : 10 ^ n.significant < 10 ^ (digits + 1) := by
        rw [Nat.pow_succ']
        exact many.trans_lt (Nat.mul_lt_mul_of_pos_left few (by decide))
      exact Nat.le_of_lt_succ ((Nat.pow_lt_pow_iff_right (by decide)).mp bound)

end Numeral

end FilterScript
