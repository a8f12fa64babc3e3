import FilterScript.Proofs.IntegerOrder
import FilterScript.Proofs.NumericText
import FilterScript.Proofs.ReadBack
import FilterScript.Proofs.WholeNumberText

/-! # The order of whole numbers and their digits

A whole number has the double nearest to it as its number when it is given as a signed integer, and
when it is given by its digits the single nearest to that double. Both ways of rounding keep the
order, and both keep the whole numbers up to `2 ^ 24` (`Format.Rounding`). So whole numbers that are
given in one way are never found in the wrong order, and up to `2 ^ 24` they are compared as whole
numbers in whatever way each of them is given (`Value.relate_whole_numbers`).
-/

namespace FilterScript

/-! ## Ways of rounding -/

namespace Format

/-- A way of giving a rank of the doubles to each whole number that keeps the order, and keeps the
numbers of the precision of a single. -/
structure Rounding (rank : ℕ → ℕ) : Prop where
  mono : Monotone rank
  point {count : ℕ} (small : count ≤ 2 ^ 24) : double.point (rank count) = count

theorem wholeRank_mono : Monotone wholeRank := fun count other le =>
  (isNearest_wholeRank count).mono (isNearest_wholeRank other) (Nat.cast_le.mpr le)

/-- Whole numbers up to the precision of a double are doubles. -/
theorem point_wholeRank {count : ℕ} (fits : count ≤ 2 ^ 53) :
    double.point (wholeRank count) = count :=
  (isNearest_wholeRank count).point_eq_natCast (by decide) (by decide) fits

/-- An integer is rounded in order, and not at all up to the precision of a single. -/
theorem rounding_wholeRank : Rounding wholeRank where
  mono := wholeRank_mono
  point small := point_wholeRank (small.trans (by decide))

/-- The rank of the double that a single is. The infinite single is the infinite double. -/
def widenRank (narrow : ℕ) : ℕ :=
  if narrow < single.finiteCount then single.convertRank double narrow else double.finiteCount

/-- Of two singles the greater one is the greater double. -/
theorem widenRank_mono : Monotone widenRank := by
  intro narrow other le
  unfold widenRank
  split
  · split
    · rw [← double.point_strictMono.le_iff_le, point_convertRank_double, point_convertRank_double]
      exact single.point_strictMono.monotone le
    · next bounded _ => exact (convertRank_double_lt bounded).le
  · next unbounded => rw [if_neg fun bounded => unbounded (le.trans_lt bounded)]

theorem widenRank_zero : widenRank 0 = 0 := by
  rw [widenRank, if_pos (by decide)]
  exact convertRank_double_eq_zero_iff.mpr rfl

/-- No single is beyond the infinite double. -/
theorem widenRank_le (narrow : ℕ) : widenRank narrow ≤ double.finiteCount := by
  unfold widenRank
  split
  · next bounded => exact (convertRank_double_lt bounded).le
  · exact le_rfl

/-- Of the singles only infinity is the infinite double. -/
theorem finiteCount_le_widenRank_iff {narrow : ℕ} :
    double.finiteCount ≤ widenRank narrow ↔ single.finiteCount ≤ narrow := by
  unfold widenRank
  split
  · next bounded => exact iff_of_false (convertRank_double_lt bounded).not_ge bounded.not_ge
  · next unbounded => exact iff_of_true le_rfl (Nat.le_of_not_lt unbounded)

/-- The rank of the double that the digits of a whole number are read as. -/
def digitsRank (count : ℕ) : ℕ := widenRank (narrowRank (wholeRank count))

/-- A point up to `2 ^ 24` is finite, if the format has room for it. -/
theorem lt_finiteCount_of_point {f : Format} {count rank : ℕ} (point : f.point rank = count)
    (room : 24 + f.places < f.precision - 1 + f.scales) (small : count ≤ 2 ^ 24) :
    rank < f.finiteCount := by
  rw [← f.point_strictMono.lt_iff_lt, point, point_finiteCount, lt_div_iff₀ (by positivity)]
  calc (count : ℚ) * 2 ^ f.places
      ≤ 2 ^ 24 * 2 ^ f.places := by
        gcongr
        exact_mod_cast small
    _ = 2 ^ (24 + f.places) := (pow_add _ _ _).symm
    _ < 2 ^ (f.precision - 1 + f.scales) := pow_lt_pow_right₀ (by norm_num) room

/-- The text of an integer is rounded in order, and not at all up to the precision of a single. -/
theorem rounding_digitsRank : Rounding digitsRank where
  mono := by
    intro count other le
    apply widenRank_mono
    apply narrowRank_mono
    apply wholeRank_mono
    exact le
  point := by
    intro count small
    have narrowed := isNearest_narrowRank (wholeRank count)
    rw [point_wholeRank (small.trans (by decide))] at narrowed
    have point := narrowed.point_eq_natCast (by decide) (by decide) small
    have bounded := lt_finiteCount_of_point point (by decide) small
    rw [digitsRank, widenRank, if_pos bounded, point_convertRank_double, point]

end Format

/-! ## Places of rounded numbers -/

namespace Binary

/-- Signed magnitudes are in the order of the integers, if they grow with the size of these. -/
theorem signed_le_signed {magnitude : ℕ → ℕ} (mono : Monotone magnitude) {a b : ℤ} (le : a ≤ b) :
    signed (decide (a < 0)) (magnitude a.natAbs) ≤
      signed (decide (b < 0)) (magnitude b.natAbs) := by
  unfold signed
  by_cases below : a < 0
  · by_cases below' : b < 0
    · have magnitudes := mono (show b.natAbs ≤ a.natAbs by omega)
      simp only [below, below', decide_true, ↓reduceIte]
      omega
    · simp only [below, below', decide_true, decide_false, ↓reduceIte, Bool.false_eq_true]
      omega
  · have above : ¬ b < 0 := fun below' => below (le.trans_lt below')
    have magnitudes := mono (show a.natAbs ≤ b.natAbs by omega)
    simp only [below, above, decide_false, Bool.false_eq_true, ↓reduceIte]
    omega

/-- A whole number that is a point stands at so many units. -/
theorem position?_of_point {f : Format} {rank : ℕ} {n : ℤ} (point : f.point rank = n.natAbs)
    (bounded : rank ≤ f.finiteCount) :
    (ofRank (decide (n < 0)) rank : Binary f).position? = some (n * 2 ^ f.places) := by
  have magnitude : f.magnitude rank = n.natAbs * 2 ^ f.places := by
    rw [Format.point, div_eq_iff (by positivity)] at point
    exact_mod_cast point
  rw [position?_ofRank, min_eq_left bounded, magnitude, Option.some.injEq]
  unfold signed
  by_cases below : n < 0
  · have whole : n = -(n.natAbs : ℤ) := by omega
    simp only [below, decide_true, ↓reduceIte]
    push_cast
    rw [← neg_mul, ← Int.natCast_natAbs, ← whole]
  · have whole : n = (n.natAbs : ℤ) := by omega
    simp only [below, decide_false, ↓reduceIte, Bool.false_eq_true]
    push_cast
    rw [← Int.natCast_natAbs, ← whole]

/-- A single is widened by its rank. -/
theorem convert_double_eq_ofRank (negative : Bool) (narrow : ℕ) :
    (ofRank negative narrow : Single).convert .double =
      ofRank negative (Format.widenRank narrow) := by
  rw [convert_double_ofRank, Format.widenRank]
  split
  · rfl
  · exact (ofRank_eq_infinity negative le_rfl).symm

end Binary

/-! ## Whole numbers as values -/

namespace Value

/-- The value is a signed integer in the range of its kind. -/
def IsSignedInteger (value : Value) (n : ℤ) : Prop :=
  ∃ kind : IntKind, kind.isSigned = true ∧ kind.Holds n ∧ value = .integer kind n

/-- The value is the text of an integer. -/
def IsDigits (value : Value) (n : ℤ) : Prop := value = .string (toString n)

/-- The value is an integer or its text. -/
def Represents (value : Value) (n : ℤ) : Prop := value.IsSignedInteger n ∨ value.IsDigits n

/-- The number of the value is the rounded integer. -/
def ReadsBy (rank : ℕ → ℕ) (value : Value) (n : ℤ) : Prop :=
  value.number = .ok (.ofRank (decide (n < 0)) (rank n.natAbs))

variable {left right : Value} {a b n : ℤ}

/-- A signed integer is read as the double nearest to it. -/
theorem IsSignedInteger.readsBy (integer : left.IsSignedInteger n) :
    left.ReadsBy Format.wholeRank n := by
  obtain ⟨kind, isSigned, holds, rfl⟩ := integer
  exact number_integer isSigned holds

/-- The text of an integer is read as the single that it is rounded to. -/
theorem IsDigits.readsBy (digits : left.IsDigits n) : left.ReadsBy Format.digitsRank n := by
  subst digits
  have nearest := (Numeral.ofInt n).decimal.isNearest_rank Format.regular_double
  rw [Numeral.value_decimal, Numeral.magnitude_ofInt] at nearest
  rw [ReadsBy, ← Numeral.text_ofInt, number_numeral, Numeral.negative_ofInt,
    nearest.unique (Format.isNearest_wholeRank _), Binary.convert_double_eq_ofRank]
  rfl

/-- Integers and their texts are each read in some order-keeping way. -/
theorem Represents.exists_rounding (represents : left.Represents n) :
    ∃ rank, Format.Rounding rank ∧ left.ReadsBy rank n := by
  rcases represents with integer | digits
  · exact ⟨_, Format.rounding_wholeRank, integer.readsBy⟩
  · exact ⟨_, Format.rounding_digitsRank, digits.readsBy⟩

/-- Integers and their texts are shown alike. -/
theorem Represents.render (represents : left.Represents n) : left.render = toString n := by
  rcases represents with ⟨_, -, -, rfl⟩ | rfl
  · rfl
  · rfl

variable {rank rank' : ℕ → ℕ}

/-- Integers that are rounded in one way are not found in the wrong order. -/
theorem ReadsBy.relate_of_le (rounding : Format.Rounding rank) (reads : left.ReadsBy rank a)
    (reads' : right.ReadsBy rank b) (le : a ≤ b) :
    left.relate (some right) "<=" = .ok true ∧ left.relate (some right) ">" = .ok false := by
  have mono : Monotone fun count =>
      Format.double.magnitude (min (rank count) Format.double.finiteCount) := by
    intro count other le
    apply Format.double.magnitude_strictMono.monotone
    exact min_le_min_right _ (rounding.mono le)
  have places := Binary.signed_le_signed mono le
  obtain ⟨-, atMost, above, -⟩ :=
    relate_places reads reads' (Binary.position?_ofRank _ _) (Binary.position?_ofRank _ _)
  rw [atMost, above, decide_eq_true places, decide_eq_false places.not_gt]
  exact ⟨rfl, rfl⟩

/-- A small whole number has the place of its own value in the order of the doubles. -/
theorem ReadsBy.exists_place (rounding : Format.Rounding rank) (reads : left.ReadsBy rank n)
    (small : n.natAbs ≤ 2 ^ 24) :
    ∃ x : Double, left.number = .ok x ∧ x.position? = some (n * 2 ^ Format.double.places) := by
  have point := rounding.point small
  have bounded := Format.lt_finiteCount_of_point point (by decide) small
  exact ⟨_, reads, Binary.position?_of_point point bounded.le⟩

/-- Values of small integers are ordered as these, in whatever way each of them is given. -/
theorem Represents.orderedAs (represents : left.Represents a) (represents' : right.Represents b)
    (small : a.natAbs ≤ 2 ^ 24) (small' : b.natAbs ≤ 2 ^ 24) : OrderedAs left right a b := by
  obtain ⟨rank, rounding, reads⟩ := represents.exists_rounding
  obtain ⟨rank', rounding', reads'⟩ := represents'.exists_rounding
  obtain ⟨x, number, place⟩ := reads.exists_place rounding small
  obtain ⟨y, number', place'⟩ := reads'.exists_place rounding' small'
  have units : (0 : ℚ) < 2 ^ Format.double.places := by positivity
  apply orderedAs_of_position number number' place place' units
  · push_cast
    rfl
  · push_cast
    rfl

/-- **The order of whole numbers is kept, and up to `2 ^ 24` it is that of the numbers.** -/
theorem relate_whole_numbers :
    (∀ (a b : ℤ) (left right : Value), a ≤ b →
      left.IsSignedInteger a ∧ right.IsSignedInteger b ∨ left.IsDigits a ∧ right.IsDigits b →
      left.relate (some right) "<=" = .ok true ∧ left.relate (some right) ">" = .ok false) ∧
    (∀ (a b : ℤ) (left right : Value), a.natAbs ≤ 2 ^ 24 → b.natAbs ≤ 2 ^ 24 →
      left.Represents a → right.Represents b →
      OrderedAs left right a b ∧
      left.relate (some right) "==" = .ok (decide (a = b)) ∧
      left.relate (some right) "!=" = .ok (decide (a ≠ b))) := by
  constructor
  · rintro a b left right le (⟨integer, integer'⟩ | ⟨digits, digits'⟩)
    · exact integer.readsBy.relate_of_le Format.rounding_wholeRank integer'.readsBy le
    · exact digits.readsBy.relate_of_le Format.rounding_digitsRank digits'.readsBy le
  · intro a b left right small small' represents represents'
    exact ⟨represents.orderedAs represents' small small',
      relate_equal_of_render represents.render represents'.render⟩

/-- The laws at the lowest integer of 64 bits and at the last number of the precision of a single.
-/
theorem relate_whole_numbers_boundary :
    (-2 ^ 63 : ℤ) ≤ 2 ^ 24 ∧ IsSignedInteger (.integer .int64 (-2 ^ 63)) (-2 ^ 63) ∧
    IsSignedInteger (.integer .int32 (2 ^ 24)) (2 ^ 24) ∧ IsDigits (.string "16777216") (2 ^ 24) ∧
    relate (.integer .int64 (-2 ^ 63)) (some (.integer .int32 (2 ^ 24))) "<=" = .ok true ∧
    OrderedAs (.integer .int32 (2 ^ 24)) (.string "16777216") ((2 ^ 24 : ℤ) : ℚ)
      ((2 ^ 24 : ℤ) : ℚ) ∧
    relate (.integer .int32 (2 ^ 24)) (some (.string "16777216")) "==" = .ok true := by
  have low : IsSignedInteger (.integer .int64 (-2 ^ 63)) (-2 ^ 63) := ⟨_, rfl, by decide, rfl⟩
  have high : IsSignedInteger (.integer .int32 (2 ^ 24)) (2 ^ 24) := ⟨_, rfl, by decide, rfl⟩
  have digits : IsDigits (.string "16777216") (2 ^ 24) := rfl
  obtain ⟨kept, exact'⟩ := relate_whole_numbers
  have le : (-2 ^ 63 : ℤ) ≤ 2 ^ 24 := by decide
  have small : (2 ^ 24 : ℤ).natAbs ≤ 2 ^ 24 := by decide
  obtain ⟨ordered, equal, -⟩ := exact' _ _ _ _ small small (.inl high) (.inr digits)
  exact ⟨le, low, high, digits, (kept _ _ _ _ le (.inl ⟨low, high⟩)).1, ordered, equal⟩

-- The digits of the next number are read as the number before it.
example : (Single.ofText "16777217").convert .double = Binary.ofInt (2 ^ 24) := by
  decide +kernel

end Value

end FilterScript
