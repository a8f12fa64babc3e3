import FilterScript.Proofs.Narrowing
import FilterScript.Proofs.NumericOrder
import FilterScript.Proofs.WellFormed
import Mathlib

/-! # The order of whole numbers

Relations of order compare whole numbers by the doubles nearest to them. Rounding keeps the order of
two numbers or makes them equal, so a comparison of two signed integers is right unless they differ
and have one nearest double (`Value.relate_integers`). Up to `2 ^ 53` a whole number is a double;
behind it stands the first pair that is taken for equal (`Value.not_relate_integers_exact`).
-/

namespace FilterScript

namespace Format

/-- The rank of the double nearest to a whole number. -/
def wholeRank (count : ℕ) : ℕ := double.nearestRank count 1

/-- The rank that a whole number is given is that of a nearest double. -/
theorem isNearest_wholeRank (count : ℕ) : double.IsNearest count (wholeRank count) := by
  have nearest := double.isNearest_nearestRank (by decide) count one_pos
  rwa [Nat.cast_one, div_one] at nearest

end Format

/-- A number is the double nearest to a whole number, in a format that goes on without end. -/
def IsNearestDouble (n : ℤ) (x : ℚ) : Prop :=
  ∃ rank, Format.double.IsNearest n.natAbs rank ∧
    x = if n < 0 then -Format.double.point rank else Format.double.point rank

namespace IsNearestDouble

/-- Rounding keeps the order or makes equal. -/
theorem mono {a b : ℤ} {x y : ℚ} (left : IsNearestDouble a x) (right : IsNearestDouble b y)
    (le : a ≤ b) : x ≤ y := by
  obtain ⟨rank, nearest, rfl⟩ := left
  obtain ⟨rank', nearest', rfl⟩ := right
  have low := Format.double.point_nonneg rank
  have low' := Format.double.point_nonneg rank'
  by_cases negative : a < 0
  · by_cases negative' : b < 0
    · have magnitudes : ((b.natAbs : ℕ) : ℚ) ≤ a.natAbs := by
        exact_mod_cast (show b.natAbs ≤ a.natAbs by omega)
      rw [if_pos negative, if_pos negative']
      exact neg_le_neg (Format.double.point_strictMono.monotone (nearest'.mono nearest magnitudes))
    · rw [if_pos negative, if_neg negative']
      linarith
  · have magnitudes : ((a.natAbs : ℕ) : ℚ) ≤ b.natAbs := by
      exact_mod_cast (show a.natAbs ≤ b.natAbs by omega)
    rw [if_neg negative, if_neg (by omega)]
    exact Format.double.point_strictMono.monotone (nearest.mono nearest' magnitudes)

/-- There is at most one nearest double. -/
theorem unique {n : ℤ} {x y : ℚ} (nearest : IsNearestDouble n x) (nearest' : IsNearestDouble n y) :
    x = y :=
  le_antisymm (nearest.mono nearest' le_rfl) (nearest'.mono nearest le_rfl)

/-- Numbers that are told apart after rounding are in the same order. -/
theorem lt_iff_lt {a b : ℤ} {x y : ℚ} (left : IsNearestDouble a x) (right : IsNearestDouble b y)
    (apart : x = y → a = b) : x < y ↔ a < b := by
  constructor
  · intro less
    by_contra notLess
    exact absurd (right.mono left (le_of_not_gt notLess)) (not_le_of_gt less)
  · intro less
    rcases (left.mono right less.le).lt_or_eq with rounded | same
    · exact rounded
    · exact absurd (apart same) less.ne

/-- A number of the precision of a double is one. -/
theorem eq_of_natAbs_le {n : ℤ} {x : ℚ} (nearest : IsNearestDouble n x)
    (small : n.natAbs ≤ 2 ^ 53) : x = n := by
  obtain ⟨rank, nearest, rfl⟩ := nearest
  rw [nearest.point_eq_natCast (by decide) (by decide) small]
  split
  · next negative =>
      have whole : n = -(n.natAbs : ℤ) := by omega
      rw [whole, Int.cast_neg, Int.cast_natCast, Int.natAbs_neg, Int.natAbs_natCast]
  · next nonneg =>
      have whole : n = (n.natAbs : ℤ) := by omega
      rw [whole, Int.cast_natCast, Int.natAbs_natCast]

end IsNearestDouble

namespace Binary

/-- Where the double of a whole number stands. -/
theorem position?_ofInt {n : ℤ} (small : n.natAbs < 2 ^ 64) :
    ∃ units x, IsNearestDouble n x ∧ (ofInt n : Double).position? = some units ∧
      (units : ℚ) = x * 2 ^ Format.double.places := by
  have nearest := Format.isNearest_wholeRank n.natAbs
  unfold Format.wholeRank at nearest
  obtain ⟨negative, rank, finite⟩ := ofInt_finite (f := .double) (by decide) small (by decide)
  unfold ofInt ofRatio ofRank at finite ⊢
  generalize Format.double.nearestRank n.natAbs 1 = nearestRank at nearest finite ⊢
  have bounded : nearestRank < Format.double.finiteCount := by
    by_contra unbounded
    rw [dif_neg unbounded] at finite
    cases finite
  rw [dif_pos bounded]
  refine ⟨_, _, ⟨nearestRank, nearest, rfl⟩, rfl, ?_⟩
  unfold signed Format.point
  by_cases below : n < 0
  · rw [decide_eq_true below, if_pos rfl, if_pos below]
    push_cast
    field_simp
  · rw [decide_eq_false below, if_neg Bool.false_ne_true, if_neg below]
    push_cast
    field_simp

end Binary

namespace Value

/-- The relations of order hold between two values as between two numbers. -/
def OrderedAs (left right : Value) (x y : ℚ) : Prop :=
  left.relate (some right) "<" = .ok (decide (x < y)) ∧
    left.relate (some right) "<=" = .ok (decide (x ≤ y)) ∧
    left.relate (some right) ">" = .ok (decide (y < x)) ∧
    left.relate (some right) ">=" = .ok (decide (y ≤ x))

/-- Values with numbers are ordered as the places of these on the line. -/
theorem orderedAs_of_position {left right : Value} {leftNumber rightNumber : Double} {a b : ℤ}
    {x y scale : ℚ} (leftReads : left.number = .ok leftNumber)
    (rightReads : right.number = .ok rightNumber) (leftPlace : leftNumber.position? = some a)
    (rightPlace : rightNumber.position? = some b) (positive : 0 < scale)
    (leftScaled : (a : ℚ) = x * scale) (rightScaled : (b : ℚ) = y * scale) :
    OrderedAs left right x y := by
  have less : (a < b) = (x < y) := by
    rw [← Int.cast_lt (R := ℚ), leftScaled, rightScaled, mul_lt_mul_iff_left₀ positive]
  have more : (b < a) = (y < x) := by
    rw [← Int.cast_lt (R := ℚ), leftScaled, rightScaled, mul_lt_mul_iff_left₀ positive]
  have lessEqual : (a ≤ b) = (x ≤ y) := by
    rw [← not_lt, ← not_lt, more]
  have moreEqual : (b ≤ a) = (y ≤ x) := by
    rw [← not_lt, ← not_lt, less]
  have related := relate_places leftReads rightReads leftPlace rightPlace
  simp only [less, lessEqual, more, moreEqual] at related
  exact related

/-- Values that are shown as whole numbers are equal when the numbers are. -/
theorem relate_equal_of_render {left right : Value} {a b : ℤ} (shown : left.render = toString a)
    (shown' : right.render = toString b) :
    left.relate (some right) "==" = .ok (decide (a = b)) ∧
      left.relate (some right) "!=" = .ok (decide (a ≠ b)) := by
  have equal : left.relate (some right) "==" = .ok (left.render == right.render) := rfl
  have unequal : left.relate (some right) "!=" = .ok (left.render != right.render) := rfl
  have texts : toString a = toString b ↔ a = b := Int.repr_inj
  rw [equal, unequal, shown, shown', bne, beq_eq_decide, ← decide_not]
  exact ⟨congrArg _ (decide_eq_decide.mpr texts), congrArg _ (decide_eq_decide.mpr texts.not)⟩

/-- Whole numbers are equal by rendering exactly if they are the same. -/
theorem relate_equal_integer (kind kind' : IntKind) (a b : ℤ) :
    relate (.integer kind a) (some (.integer kind' b)) "==" = .ok (decide (a = b)) :=
  (relate_equal_of_render rfl rfl).1

variable {kind kind' : IntKind} {a b : ℤ}

/-- **Signed integers are ordered as the doubles nearest to them.** -/
theorem relate_integers (isSigned : kind.isSigned = true) (isSigned' : kind'.isSigned = true)
    (holds : kind.Holds a) (holds' : kind'.Holds b) : ∃ x y : ℚ,
    IsNearestDouble a x ∧ IsNearestDouble b y ∧
    OrderedAs (.integer kind a) (.integer kind' b) x y ∧
    relate (.integer kind a) (some (.integer kind' b)) "==" = .ok (decide (a = b)) ∧
    (OrderedAs (.integer kind a) (.integer kind' b) a b ↔ (x = y → a = b)) ∧
    (a.natAbs ≤ 2 ^ 53 → b.natAbs ≤ 2 ^ 53 →
      OrderedAs (.integer kind a) (.integer kind' b) a b) := by
  have bits {kind : IntKind} {n : ℤ} (holds : kind.Holds n) : n.natAbs < 2 ^ 64 := holds.natAbs_lt
  obtain ⟨units, x, nearest, place, scaled⟩ := Binary.position?_ofInt (bits holds)
  obtain ⟨units', y, nearest', place', scaled'⟩ := Binary.position?_ofInt (bits holds')
  have ordered : OrderedAs (.integer kind a) (.integer kind' b) x y :=
    orderedAs_of_position (number_integer isSigned holds) (number_integer isSigned' holds') place
      place' (by positivity) scaled scaled'
  refine ⟨x, y, nearest, nearest', ordered, relate_equal_integer kind kind' a b, ?_, ?_⟩
  · constructor
    · -- The relations tell both pairs of numbers apart in the same way.
      intro exact' same
      have less := ordered.1.symm.trans exact'.1
      have more := ordered.2.2.1.symm.trans exact'.2.2.1
      rw [Except.ok.injEq, decide_eq_decide, Int.cast_lt] at less more
      subst same
      exact le_antisymm (not_lt.mp (more.not.mp (lt_irrefl x)))
        (not_lt.mp (less.not.mp (lt_irrefl x)))
    · intro apart
      have less : x < y ↔ (a : ℚ) < b := by
        rw [Int.cast_lt]
        exact nearest.lt_iff_lt nearest' apart
      have more : y < x ↔ (b : ℚ) < a := by
        rw [Int.cast_lt]
        exact nearest'.lt_iff_lt nearest fun same => (apart same.symm).symm
      unfold OrderedAs at ordered ⊢
      simp only [← not_lt, less, more] at ordered ⊢
      exact ordered
  · intro small small'
    rw [← nearest.eq_of_natAbs_le small, ← nearest'.eq_of_natAbs_le small']
    exact ordered

/-- The law at the precision of a double, on both sides of zero. -/
theorem relate_integers_precision :
    IntKind.int64.isSigned = true ∧ IntKind.int.isSigned = true ∧
    IntKind.int64.Holds (-2 ^ 53) ∧ IntKind.int.Holds (2 ^ 53) ∧
    OrderedAs (.integer .int64 (-2 ^ 53)) (.integer .int (2 ^ 53))
      ((-2 ^ 53 : ℤ) : ℚ) ((2 ^ 53 : ℤ) : ℚ) := by
  have low : IntKind.int64.Holds (-2 ^ 53) := by decide
  have high : IntKind.int.Holds (2 ^ 53) := by decide
  have isSigned : IntKind.int64.isSigned = true := rfl
  have isSigned' : IntKind.int.isSigned = true := rfl
  obtain ⟨_, _, _, _, _, _, _, exact'⟩ := relate_integers isSigned isSigned' low high
  exact ⟨rfl, rfl, low, high, exact' (by decide) (by decide)⟩

/-- **The order of signed integers is not always that of their numbers.** The first number that is
no double is not found greater than the one before it. -/
theorem not_relate_integers_exact : ¬ ∀ (kind kind' : IntKind) (a b : ℤ),
    kind.isSigned = true → kind'.isSigned = true → kind.Holds a → kind'.Holds b →
      OrderedAs (.integer kind a) (.integer kind' b) a b := by
  intro exact'
  have ordered := (exact' .int .int (2 ^ 53) (2 ^ 53 + 1) rfl rfl (by decide) (by decide)).1
  have alike : (Binary.ofInt (2 ^ 53) : Double).lt (Binary.ofInt (2 ^ 53 + 1)) = false := by
    decide +kernel
  have related : relate (.integer .int (2 ^ 53)) (some (.integer .int (2 ^ 53 + 1))) "<" =
      .ok (NumberRelation.less.holds (Binary.ofInt (2 ^ 53)) (Binary.ofInt (2 ^ 53 + 1))) :=
    relate_numbers (number_integer rfl (by decide)) (number_integer rfl (by decide)) rfl
  rw [related, NumberRelation.holds, alike, Except.ok.injEq] at ordered
  norm_num at ordered

end Value

end FilterScript
