import FilterScript.Number.Literal
import Mathlib.Algebra.Order.Field.Rat
import Mathlib.Tactic.FieldSimp
import Mathlib.Tactic.Positivity
import Mathlib.Tactic.Ring

/-! # Numerals and what they stand for

A numeral is written with an optional sign, digits with at most one point among them, and an
optional exponent. Apart from the sign it stands for a rational number, which is said here by its
digits and not by the way it is read (`Numeral.magnitude`). Reading the text of a numeral gives that
number as a sign and a decimal (`Literal.ofText?_text`, `Numeral.value_decimal`).
-/

namespace FilterScript

/-! ## Decimals -/

namespace Decimal

/-- The number that a decimal stands for. -/
def value (d : Decimal) : ℚ := d.coefficient * 10 ^ d.exponent

theorem value_eq_zero (d : Decimal) (zero : d.coefficient = 0) : d.value = 0 := by
  rw [value, zero, Nat.cast_zero, zero_mul]

theorem den_pos (d : Decimal) : 0 < d.den := Nat.pow_pos (by decide)

/-- A power of ten is a numerator over a denominator, of which one is a whole power. -/
theorem ten_zpow (exponent : ℤ) :
    (10 : ℚ) ^ exponent = 10 ^ exponent.toNat / 10 ^ (-exponent).toNat := by
  rcases le_total 0 exponent with nonneg | nonpos
  · have none : (-exponent).toNat = 0 := by omega
    rw [none, pow_zero, div_one, ← zpow_natCast, Int.toNat_of_nonneg nonneg]
  · have none : exponent.toNat = 0 := by omega
    rw [none, pow_zero, one_div, ← zpow_natCast, ← zpow_neg, Int.toNat_of_nonneg (by omega),
      neg_neg]

/-- The value of a decimal is its numerator over its denominator. -/
theorem value_eq_div (d : Decimal) : d.value = d.num / d.den := by
  unfold value num den
  simp only [Nat.pow_eq]
  rw [ten_zpow]
  push_cast
  ring

end Decimal

/-! ## Digits -/

namespace Literal

/-- Digits in front count as many tens as there are digits behind them. -/
theorem ofDigits_append (front back : List ℕ) :
    ofDigits (front ++ back) = ofDigits front * 10 ^ back.length + ofDigits back := by
  have grown (digits : List ℕ) (start : ℕ) :
      digits.foldl (fun total digit => 10 * total + digit) start =
        start * 10 ^ digits.length + ofDigits digits := by
    induction digits generalizing start with
    | nil =>
        unfold ofDigits
        simp only [List.foldl_nil, List.length_nil, pow_zero, mul_one, add_zero]
    | cons digit rest ih =>
        unfold ofDigits
        simp only [List.foldl_cons, List.length_cons]
        rw [ih, ih (10 * 0 + digit)]
        ring
  unfold ofDigits
  rw [List.foldl_append, grown]
  rfl

/-- Digits are split off up to the first character that is none. -/
theorem splitDigits_append {digits rest : List Char}
    (allDigits : ∀ c ∈ digits, (Text.digitValue? c).isSome = true)
    (stops : ∀ c ∈ rest.head?, Text.digitValue? c = none) :
    splitDigits (digits ++ rest) = (digits.filterMap Text.digitValue?, rest) := by
  induction digits with
  | nil =>
      cases rest with
      | nil => rfl
      | cons c rest =>
          have none := stops c rfl
          simp only [List.nil_append, splitDigits, none, List.filterMap_nil]
  | cons c digits ih =>
      obtain ⟨value, digit⟩ := Option.isSome_iff_exists.mp (allDigits c List.mem_cons_self)
      have others := ih fun other member => allDigits other (List.mem_cons_of_mem _ member)
      simp only [List.cons_append, splitDigits, digit, others, List.filterMap_cons]

end Literal

/-- A sign that may be written; true for a minus. -/
def signText : Option Bool → List Char
  | none => []
  | some false => ['+']
  | some true => ['-']

/-- A sign is split off what begins with none. -/
theorem Literal.splitSign_append {sign : Option Bool} {rest : List Char}
    (unsigned : ∀ c ∈ rest.head?, c ≠ '-' ∧ c ≠ '+') :
    splitSign (signText sign ++ rest) = (sign.getD false, rest) := by
  match sign with
  | some true | some false => rfl
  | none =>
      cases rest with
      | nil => rfl
      | cons c rest =>
          obtain ⟨noMinus, noPlus⟩ := unsigned c rfl
          unfold signText splitSign
          split
          · next same => exact absurd (List.cons.inj same).1 noMinus
          · next same => exact absurd (List.cons.inj same).1 noPlus
          · rfl

/-! ## Numerals -/

/-- The characters are decimal digits. -/
def AllDigits (text : List Char) : Prop := ∀ c ∈ text, (Text.digitValue? c).isSome = true

/-- The characters are the usual decimal digits. -/
def UsualDigits (text : List Char) : Prop := ∀ c ∈ text, c.isDigit = true

instance (text : List Char) : Decidable (UsualDigits text) := List.decidableBAll _ text

namespace UsualDigits

variable {text other : List Char}

theorem allDigits (usual : UsualDigits text) : AllDigits text := by
  intro c member
  rw [Text.digitValue?_of_isDigit (usual c member)]
  rfl

theorem append (usual : UsualDigits text) (usual' : UsualDigits other) :
    UsualDigits (text ++ other) := fun c member =>
  (List.mem_append.mp member).elim (usual c) (usual' c)

theorem of_subset (usual : UsualDigits other) (subset : text ⊆ other) : UsualDigits text :=
  fun c member => usual c (subset member)

theorem nil : UsualDigits [] := fun _ member => absurd member List.not_mem_nil

theorem zeros (count : ℕ) : UsualDigits (List.replicate count '0') := by
  intro c member
  rw [List.eq_of_mem_replicate member]
  rfl

theorem toDigits (n : ℕ) : UsualDigits (Nat.toDigits 10 n) := fun _ member =>
  Nat.isDigit_of_mem_toDigits (by decide) (by decide) member

end UsualDigits

/-- An exponent as it is written behind its mark. -/
structure WrittenExponent where
  capital : Bool
  sign : Option Bool
  digits : List Char
  allDigits : AllDigits digits
  some_digit : digits ≠ []

/-- A decimal numeral as it is written. -/
structure Numeral where
  sign : Option Bool
  whole : List Char
  /-- The digits behind the point, if there is one. -/
  fraction : Option (List Char)
  exponent : Option WrittenExponent
  whole_digits : AllDigits whole
  fraction_digits : AllDigits (fraction.getD [])
  some_digit : whole ++ fraction.getD [] ≠ []

/-- The number that digits stand for. -/
def digitsValue (digits : List Char) : ℕ := Literal.ofDigits (digits.filterMap Text.digitValue?)

namespace WrittenExponent

/-- The exponent with its mark. -/
def text (exponent : WrittenExponent) : List Char :=
  (if exponent.capital then 'E' else 'e') :: signText exponent.sign ++ exponent.digits

/-- The number of the exponent. -/
def value (exponent : WrittenExponent) : ℤ :=
  if exponent.sign = some true then -(digitsValue exponent.digits) else digitsValue exponent.digits

end WrittenExponent

namespace Numeral

/-- The numeral without its sign. -/
def unsignedText (n : Numeral) : List Char :=
  n.whole ++ (n.fraction.elim [] ('.' :: ·) ++ n.exponent.elim [] WrittenExponent.text)

/-- The numeral as it is written. -/
def text (n : Numeral) : String := String.ofList (signText n.sign ++ n.unsignedText)

/-- The numeral has a minus. -/
def negative (n : Numeral) : Bool := n.sign.getD false

/-- The number that the numeral stands for without its sign: the whole digits, and those behind the
point by their places, times the power of ten of the exponent. -/
def magnitude (n : Numeral) : ℚ :=
  (digitsValue n.whole +
    digitsValue (n.fraction.getD []) / (10 : ℚ) ^ (n.fraction.getD []).length) *
    (10 : ℚ) ^ n.exponent.elim 0 WrittenExponent.value

/-- All digits of the numeral as a coefficient. -/
def decimal (n : Numeral) : Decimal where
  coefficient := digitsValue (n.whole ++ n.fraction.getD [])
  exponent := n.exponent.elim 0 WrittenExponent.value - (n.fraction.getD []).length

end Numeral

/-! ## Reading -/

/-- Decimal digits are the usual ones or lie beyond the first 128 code points. -/
theorem Text.digit_code {c : Char} (digit : (Text.digitValue? c).isSome = true) :
    48 ≤ c.toNat ∧ c.toNat ≤ 57 ∨ 128 ≤ c.toNat := by
  have apart : ∀ range ∈ digitPoints.ranges, 48 ≤ range.1 ∧ range.2 ≤ 57 ∨ 128 ≤ range.1 := by
    decide
  unfold digitValue? CodePoints.rangeOf? at digit
  rw [Option.isSome_map, List.find?_isSome] at digit
  obtain ⟨range, member, inside⟩ := digit
  simp only [Bool.and_eq_true, decide_eq_true_eq] at inside
  have := apart range member
  omega

namespace Literal

/-- Digits have no case. -/
theorem toLower_of_digit {c : Char} (digit : (Text.digitValue? c).isSome = true) :
    c.toLower = c := by
  have code := Text.digit_code digit
  have notUpper : ¬ ('A' ≤ c ∧ c ≤ 'Z') := by
    rintro ⟨low, high⟩
    have low : 65 ≤ c.toNat := low
    have high : c.toNat ≤ 90 := high
    omega
  unfold Char.toLower
  exact dif_neg notUpper

/-- A sign is none of the digits, and neither is a point or the mark of an exponent. -/
theorem digitValue?_mark {c : Char} (mark : c ∈ ['+', '-', '.', 'e', 'E']) :
    Text.digitValue? c = none := by
  rw [← Option.not_isSome_iff_eq_none]
  intro digit
  have code := Text.digit_code digit
  simp only [List.mem_cons, List.not_mem_nil, or_false] at mark
  rcases mark with rfl | rfl | rfl | rfl | rfl <;> exact absurd code (by decide)

/-- No digit is a mark of a numeral. -/
theorem ne_of_digit {c mark : Char} (digit : (Text.digitValue? c).isSome = true)
    (isMark : mark ∈ ['+', '-', '.', 'e', 'E']) : c ≠ mark := by
  rintro rfl
  rw [digitValue?_mark isMark] at digit
  cases digit

/-- Where there are digits there are values. -/
theorem values_ne_nil {digits : List Char} (allDigits : AllDigits digits)
    (some_digit : digits ≠ []) : digits.filterMap Text.digitValue? ≠ [] := by
  obtain ⟨c, rest, rfl⟩ := List.exists_cons_of_ne_nil some_digit
  obtain ⟨value, digit⟩ := Option.isSome_iff_exists.mp (allDigits c List.mem_cons_self)
  rw [List.filterMap_cons, digit]
  exact List.cons_ne_nil _ _

/-- A written exponent is read as its value. -/
theorem exponent?_text (exponent : WrittenExponent) :
    exponent? exponent.text = some exponent.value := by
  have marked : (if exponent.capital then 'E' else 'e') = 'e' ∨
      (if exponent.capital then 'E' else 'e') = 'E' := by
    cases exponent.capital with
    | false => exact .inl rfl
    | true => exact .inr rfl
  have unsigned : ∀ c ∈ exponent.digits.head?, c ≠ '-' ∧ c ≠ '+' := by
    intro c first
    have digit := exponent.allDigits c (List.mem_of_mem_head? first)
    exact ⟨ne_of_digit digit (by decide), ne_of_digit digit (by decide)⟩
  have split : splitDigits (exponent.digits ++ []) =
      (exponent.digits.filterMap Text.digitValue?, []) :=
    splitDigits_append exponent.allDigits fun _ first => by cases first
  rw [List.append_nil] at split
  obtain ⟨first, rest, values⟩ :=
    List.exists_cons_of_ne_nil (values_ne_nil exponent.allDigits exponent.some_digit)
  have total : digitsValue exponent.digits = ofDigits (first :: rest) := congrArg ofDigits values
  unfold WrittenExponent.text exponent? WrittenExponent.value
  dsimp only [List.cons_append]
  rw [if_pos marked, splitSign_append unsigned]
  dsimp only
  rw [split, values, total]
  match exponent.sign with
  | none | some false | some true => rfl

/-- What may stand behind the digits of a numeral starts with no digit. -/
theorem exponentText_head (exponent : Option WrittenExponent) :
    ∀ c ∈ (exponent.elim [] WrittenExponent.text).head?, c = 'e' ∨ c = 'E' := by
  intro c first
  cases exponent with
  | none => cases first
  | some exponent =>
      unfold WrittenExponent.text at first
      simp only [Option.elim_some, List.cons_append, List.head?_cons, Option.mem_def,
        Option.some.injEq] at first
      subst first
      cases exponent.capital with
      | false => exact .inl rfl
      | true => exact .inr rfl

/-- An exponent that may be missing is read as its value or as zero. -/
theorem exponent?_textOption (exponent : Option WrittenExponent) :
    exponent? (exponent.elim [] WrittenExponent.text) =
      some (exponent.elim 0 WrittenExponent.value) := by
  cases exponent with
  | none => rfl
  | some exponent => exact exponent?_text exponent

/-- The digits behind a point, if there is one, and what follows them. -/
def splitFraction (text : List Char) : List ℕ × List Char :=
  match text with
  | '.' :: rest => splitDigits rest
  | _ => ([], text)

/-- A text without a sign is read by splitting off its whole digits, then those behind a point. -/
theorem decimal?_eq (text : List Char) : decimal? text =
    if (splitDigits text).1.isEmpty = true ∧
      (splitFraction (splitDigits text).2).1.isEmpty = true then none
    else (exponent? (splitFraction (splitDigits text).2).2).map fun exponent =>
      ⟨ofDigits ((splitDigits text).1 ++ (splitFraction (splitDigits text).2).1),
        exponent - (splitFraction (splitDigits text).2).1.length⟩ := rfl

/-- The parts that a text is split into, put together again. -/
theorem decimal?_of_split {text afterWhole afterFraction : List Char} {whole fraction : List ℕ}
    {exponent : ℤ} (back : splitFraction afterWhole = (fraction, afterFraction))
    (front : splitDigits text = (whole, afterWhole)) (some_digit : whole ++ fraction ≠ [])
    (last : exponent? afterFraction = some exponent) :
    decimal? text = some ⟨ofDigits (whole ++ fraction), exponent - fraction.length⟩ := by
  have digits : ¬ (whole.isEmpty = true ∧ fraction.isEmpty = true) := by
    rintro ⟨noWhole, noFraction⟩
    rw [List.isEmpty_iff] at noWhole noFraction
    exact some_digit (List.append_eq_nil_iff.mpr ⟨noWhole, noFraction⟩)
  simp only [decimal?_eq, front, back, digits, ↓reduceIte, last, Option.map_some]

/-- Every digit has one value. -/
theorem length_values {digits : List Char} (allDigits : AllDigits digits) :
    (digits.filterMap Text.digitValue?).length = digits.length := by
  induction digits with
  | nil => rfl
  | cons c rest ih =>
      obtain ⟨value, digit⟩ := Option.isSome_iff_exists.mp (allDigits c List.mem_cons_self)
      rw [List.filterMap_cons, digit, List.length_cons, List.length_cons,
        ih fun other member => allDigits other (List.mem_cons_of_mem _ member)]

/-- What stands behind the whole digits of a numeral starts with no digit. -/
theorem behindWhole_stops (fraction : Option (List Char)) (exponent : Option WrittenExponent) :
    ∀ c ∈ (fraction.elim [] ('.' :: ·) ++ exponent.elim [] WrittenExponent.text).head?,
      Text.digitValue? c = none := by
  intro c first
  cases fraction with
  | none =>
      rcases exponentText_head exponent c first with rfl | rfl
      · exact digitValue?_mark (by decide)
      · exact digitValue?_mark (by decide)
  | some digits =>
      obtain rfl : '.' = c := Option.some.inj first
      exact digitValue?_mark (by decide)

/-- The digits behind the point, if there is one, end before the exponent. -/
theorem splitFraction_append {fraction : Option (List Char)} (digits : AllDigits (fraction.getD []))
    (exponent : Option WrittenExponent) :
    splitFraction (fraction.elim [] ('.' :: ·) ++ exponent.elim [] WrittenExponent.text) =
      ((fraction.getD []).filterMap Text.digitValue?, exponent.elim [] WrittenExponent.text) := by
  cases fraction with
  | none =>
      -- What starts with the mark of an exponent starts with no point.
      unfold splitFraction
      rw [Option.elim_none, List.nil_append]
      split
      · next rest marks =>
          rcases exponentText_head exponent '.' (marks ▸ rfl) with same | same
          · exact absurd same (by decide)
          · exact absurd same (by decide)
      · rfl
  | some written => exact splitDigits_append digits (behindWhole_stops none exponent)

/-- A numeral without its sign is read as its decimal. -/
theorem decimal?_unsignedText (n : Numeral) : decimal? n.unsignedText = some n.decimal := by
  have some_digit : n.whole.filterMap Text.digitValue? ++
      (n.fraction.getD []).filterMap Text.digitValue? ≠ [] := by
    rw [← List.filterMap_append]
    refine values_ne_nil ?_ n.some_digit
    intro c member
    exact (List.mem_append.mp member).elim (n.whole_digits c) (n.fraction_digits c)
  have split := decimal?_of_split (splitFraction_append n.fraction_digits n.exponent)
    (splitDigits_append n.whole_digits (behindWhole_stops n.fraction n.exponent)) some_digit
    (exponent?_textOption n.exponent)
  rw [length_values n.fraction_digits, ← List.filterMap_append] at split
  exact split

/-- A numeral without its sign starts with a digit or with a point. -/
theorem unsignedText_head (n : Numeral) : ∃ c rest, n.unsignedText = c :: rest ∧
    ((Text.digitValue? c).isSome = true ∨ c = '.') := by
  unfold Numeral.unsignedText
  cases whole : n.whole with
  | cons c digits =>
      exact ⟨c, _, rfl, .inl (n.whole_digits c (whole ▸ List.mem_cons_self))⟩
  | nil =>
      cases fraction : n.fraction with
      | some digits => exact ⟨'.', _, rfl, .inr rfl⟩
      | none =>
          have some_digit := n.some_digit
          rw [whole, fraction] at some_digit
          exact absurd rfl some_digit

/-- **A numeral is read as its sign and all its digits.** -/
theorem ofText?_text (n : Numeral) :
    ofText? n.text.toList = some (.decimal n.negative n.decimal) := by
  obtain ⟨c, rest, starts, first⟩ := unsignedText_head n
  have notMark : c ≠ '-' ∧ c ≠ '+' ∧ c.toLower ≠ 'i' ∧ c.toLower ≠ 'n' := by
    rcases first with digit | rfl
    · rw [toLower_of_digit digit]
      refine ⟨ne_of_digit digit (by decide), ne_of_digit digit (by decide), ?_, ?_⟩ <;>
        · rintro rfl
          exact absurd digit (by decide)
    · decide
  obtain ⟨noMinus, noPlus, noInfinity, noNan⟩ := notMark
  have split : splitSign n.text.toList = (n.negative, n.unsignedText) := by
    rw [Numeral.text, String.toList_ofList]
    refine splitSign_append ?_
    intro other member
    rw [starts] at member
    obtain rfl : c = other := Option.some.inj member
    exact ⟨noMinus, noPlus⟩
  have unnamed : ∀ name : List Char, name.head? = some 'i' ∨ name.head? = some 'n' →
      n.unsignedText.map Char.toLower ≠ name := by
    rintro name named rfl
    rw [starts, List.map_cons, List.head?_cons, Option.some.injEq, Option.some.injEq] at named
    exact named.elim noInfinity noNan
  unfold ofText?
  rw [split]
  dsimp only
  rw [if_neg (not_or.mpr ⟨unnamed _ (.inl rfl), unnamed _ (.inl rfl)⟩),
    if_neg (unnamed _ (.inr rfl)), decimal?_unsignedText, Option.map_some]

end Literal

/-! ## What a numeral stands for -/

namespace Numeral

/-- The digits of a numeral, with the place of the last one, make up its number. -/
theorem value_decimal (n : Numeral) : n.decimal.value = n.magnitude := by
  unfold decimal magnitude Decimal.value digitsValue
  dsimp only
  rw [List.filterMap_append, Literal.ofDigits_append, Literal.length_values n.fraction_digits,
    zpow_sub₀ (by norm_num), zpow_natCast]
  push_cast
  field_simp

end Numeral

end FilterScript
