import FilterScript.Proofs.Reading
import FilterScript.Proofs.WellFormed

/-! # The order of numbers

The relations of order compare the numbers of two values by their places on the line, the zeros at
one place and the infinities at its ends. So values that have a number are in one order, whatever
their kinds are, in which the values of equal numbers stand at one place (`Value.relate_order`). A
text that is no number is in no relation of order to anything, and a value of a kind without numbers
is refused, as is an integer that is too large for a double, which none is that keeps to its kind;
if both values are refused, the left one is. -/

namespace FilterScript

/-! ## Places on the line -/

theorem Format.magnitude_zero (f : Format) : f.magnitude 0 = 0 := by
  have block : f.magnitude (0 * f.leading + 0) = 0 * 2 ^ 0 :=
    magnitude_block (.inl rfl) (Nat.zero_le _)
  rwa [Nat.zero_mul, Nat.zero_mul] at block

namespace Binary

variable {f : Format} {x y : Binary f} {a b : ℤ}

/-- Equal as numbers: the two zeros are, and otherwise a number is equal to itself alone. What is no
number is equal to nothing. -/
def SameNumber (x y : Binary f) : Prop :=
  x ≠ .nan ∧ (x = y ∨ x.isZero = true ∧ y.isZero = true)

/-- From the first rank without a finite magnitude on there are the infinities. -/
theorem ofRank_eq_infinity (negative : Bool) {rank : ℕ} (unbounded : f.finiteCount ≤ rank) :
    (ofRank negative rank : Binary f) = .infinity negative :=
  dif_neg (Nat.not_lt_of_le unbounded)

/-- A number is a sign with a rank. -/
theorem exists_rank (number : x ≠ .nan) :
    ∃ negative rank, rank ≤ f.finiteCount ∧ x = ofRank negative rank := by
  cases x with
  | nan => exact absurd rfl number
  | infinity negative => exact ⟨negative, f.finiteCount, le_rfl, (ofRank_eq_infinity _ le_rfl).symm⟩
  | finite negative rank => exact ⟨negative, rank, rank.isLt.le, finite_eq_ofRank negative rank⟩

/-- What has a place is a number. -/
theorem ofRank_ne_nan (negative : Bool) (rank : ℕ) : (ofRank negative rank : Binary f) ≠ .nan := by
  unfold ofRank
  split <;> exact nofun

/-- The place of a number is that of its magnitude, with its sign. -/
theorem position?_ofRank (negative : Bool) (rank : ℕ) :
    (ofRank negative rank : Binary f).position? =
      some (signed negative (f.magnitude (min rank f.finiteCount))) := by
  rcases Nat.lt_or_ge rank f.finiteCount with bounded | unbounded
  · rw [ofRank, dif_pos bounded, min_eq_left bounded.le]
    rfl
  · rw [ofRank_eq_infinity _ unbounded, min_eq_right unbounded]
    rfl

/-- Every number has a place. -/
theorem exists_position? (number : x ≠ .nan) : ∃ place, x.position? = some place := by
  obtain ⟨negative, rank, -, rfl⟩ := exists_rank number
  exact ⟨_, position?_ofRank negative rank⟩

/-- What stands on the line is a sign with a rank, and stands at the magnitude of the rank. -/
theorem exists_rank_of_position? (stands : x.position? = some a) :
    ∃ negative rank, x = ofRank negative rank ∧ a = signed negative (f.magnitude rank) := by
  have number : x ≠ .nan := by
    rintro rfl
    cases stands
  obtain ⟨negative, rank, bounded, rfl⟩ := exists_rank number
  rw [position?_ofRank, min_eq_left bounded, Option.some.injEq] at stands
  exact ⟨negative, rank, rfl, stands.symm⟩

/-- A number is zero exactly if its rank is. -/
theorem isZero_ofRank_iff (negative : Bool) {rank : ℕ} :
    (ofRank negative rank : Binary f).isZero = true ↔ rank = 0 := by
  have positive : 0 < f.finiteCount := Nat.mul_pos (Nat.succ_pos _) f.leading_pos
  rcases Nat.lt_or_ge rank f.finiteCount with bounded | unbounded
  · rw [ofRank, dif_pos bounded]
    exact beq_iff_eq
  · rw [ofRank_eq_infinity _ unbounded]
    exact ⟨fun zero => Bool.noConfusion zero, by omega⟩

/-- Signed numbers are equal when the numbers are, and the signs too unless the numbers are zero. -/
theorem signed_inj {negative negative' : Bool} {m n : ℕ} :
    signed negative m = signed negative' n ↔ m = n ∧ (m = 0 ∨ negative = negative') := by
  unfold signed
  cases negative <;> cases negative' <;>
    simp only [Bool.false_eq_true, ↓reduceIte, reduceCtorEq, or_false, or_true, and_true] <;> omega

/-- Both zeros stand at zero. -/
theorem position?_of_isZero (zero : x.isZero = true) : x.position? = some 0 := by
  cases x with
  | nan => cases zero
  | infinity negative => cases zero
  | finite negative rank =>
      have first : rank.val = 0 := beq_iff_eq.mp zero
      have place : signed negative 0 = 0 := by cases negative <;> rfl
      rw [position?, first, f.magnitude_zero, place]

/-- Numbers are equal when they have one place on the line. -/
theorem sameNumber_iff (left : x.position? = some a) (right : y.position? = some b) :
    x.SameNumber y ↔ a = b := by
  constructor
  · rintro ⟨-, rfl | ⟨zero, zero'⟩⟩
    · exact Option.some.inj (left.symm.trans right)
    · rw [position?_of_isZero zero] at left
      rw [position?_of_isZero zero'] at right
      exact Option.some.inj (left.symm.trans right)
  · rintro rfl
    obtain ⟨negative, rank, rfl, place⟩ := exists_rank_of_position? left
    obtain ⟨negative', rank', rfl, place'⟩ := exists_rank_of_position? right
    refine ⟨ofRank_ne_nan negative rank, ?_⟩
    obtain ⟨magnitudes, zero | signs⟩ := signed_inj.mp (place.symm.trans place')
    · right
      have first := f.magnitude_strictMono.injective (zero.trans f.magnitude_zero.symm)
      have first' := f.magnitude_strictMono.injective
        ((magnitudes.symm.trans zero).trans f.magnitude_zero.symm)
      exact ⟨(isZero_ofRank_iff _).mpr first, (isZero_ofRank_iff _).mpr first'⟩
    · left
      rw [signs, f.magnitude_strictMono.injective magnitudes]

end Binary

/-! ## Relations of order between values -/

namespace Value

/-- The value is of a kind that has numbers: a text or a signed integer. -/
def HasNumber : Value → Prop
  | .string _ => True
  | .integer kind _ => kind.isSigned = true
  | _ => False

/-- The value has a number on the line. -/
def Measurable (value : Value) : Prop :=
  value.HasNumber ∧ value.Convertible ∧ value.number ≠ .ok .nan

/-- The left value is below the right one or beside it. -/
def AtMost (left right : Value) : Prop := left.relate (some right) "<=" = .ok true

variable {left right : Value}

/-- A value of a kind that has numbers has one, unless it is too large for a double. -/
theorem HasNumber.exists_number (numeric : left.HasNumber) (convertible : left.Convertible) :
    ∃ x, left.number = .ok x := by
  cases left with
  | string text => exact ⟨_, rfl⟩
  | integer kind n =>
      have reads : (integer kind n).number = doubleOfInt n := if_pos numeric
      cases converted : doubleOfInt n with
      | ok x => exact ⟨x, reads.trans converted⟩
      | error failure =>
          have tooLarge := requireFinite_eq_error converted
          subst tooLarge
          exact absurd (reads.trans converted) convertible
  | _ => exact numeric.elim

/-- A text is measured by the single that it is read as. -/
theorem measurable_string {text : String} (number : Single.ofText text ≠ .nan) :
    Measurable (.string text) := by
  refine ⟨trivial, nofun, fun nan => number ?_⟩
  rw [Value.number, Except.ok.injEq] at nan
  cases single : Single.ofText text with
  | nan => rfl
  | infinity negative =>
      rw [single] at nan
      cases nan
  | finite negative rank =>
      rw [single] at nan
      exact absurd nan (Binary.ofRank_ne_nan _ _)

/-- The number of a signed integer that keeps to its kind is the double nearest to it. -/
theorem number_integer {kind : IntKind} (isSigned : kind.isSigned = true) {n : ℤ}
    (holds : kind.Holds n) : (Value.integer kind n).number = .ok (Binary.ofInt n) :=
  (if_pos isSigned).trans (doubleOfInt_eq_ok holds)

/-- A signed integer that keeps to its kind has a number on the line. -/
theorem measurable_integer {kind : IntKind} (isSigned : kind.isSigned = true) {n : ℤ}
    (holds : kind.Holds n) : Measurable (.integer kind n) := by
  have valid : WellFormed (.integer kind n) := by
    simp only [WellFormed]
    exact holds
  refine ⟨isSigned, valid.convertible, fun nan => ?_⟩
  rw [number_integer isSigned holds, Except.ok.injEq] at nan
  exact Binary.ofRank_ne_nan _ _ nan

/-- A value of another kind is refused by its text and the name of its kind. -/
theorem number_of_not_hasNumber (other : ¬ left.HasNumber) :
    left.number = .error (.ofCause (.notNumeric left.render left.typeName)) := by
  cases left with
  | string text => exact absurd trivial other
  | integer kind n => exact if_neg other
  | _ => rfl

/-- A value that cannot be converted has no number because it is too large. -/
theorem number_of_not_convertible (tooLarge : ¬ left.Convertible) :
    left.number = .error .integerTooLarge := not_not.mp tooLarge

/-- The symbols of the relations of order. -/
def orderSymbols : List String := ["<", "<=", ">", ">="]

/-- The symbols of order name relations of numbers. -/
theorem exists_relation_of_mem {symbol : String} (member : symbol ∈ orderSymbols) :
    ∃ relation, Operator.ofSymbol? symbol = some (.numbers relation) := by
  simp only [orderSymbols, List.mem_cons, List.not_mem_nil, or_false] at member
  rcases member with rfl | rfl | rfl | rfl
  · exact ⟨.less, rfl⟩
  · exact ⟨.lessOrEqual, rfl⟩
  · exact ⟨.greater, rfl⟩
  · exact ⟨.greaterOrEqual, rfl⟩

variable {symbol : String} {relation : NumberRelation}

/-- A relation of order asks for the numbers of both values, the left one first. -/
theorem relate_eq_of_ofSymbol? (named : Operator.ofSymbol? symbol = some (.numbers relation)) :
    left.relate (some right) symbol =
      left.number.bind fun x => right.number.bind fun y => .ok (relation.holds x y) := by
  unfold relate
  rw [if_neg (Operator.ne_empty_of_ofSymbol? named), named]
  rfl

/-- Values that have numbers are related as these are. -/
theorem relate_numbers {x y : Double} (leftReads : left.number = .ok x)
    (rightReads : right.number = .ok y)
    (named : Operator.ofSymbol? symbol = some (.numbers relation)) :
    left.relate (some right) symbol = .ok (relation.holds x y) := by
  rw [relate_eq_of_ofSymbol? named, leftReads, rightReads]
  rfl

/-- A left value that has no number is refused, whatever the right one is. -/
theorem relate_refuses_left {failure : Failure}
    (named : Operator.ofSymbol? symbol = some (.numbers relation))
    (refused : left.number = .error failure) :
    left.relate (some right) symbol = .error failure := by
  rw [relate_eq_of_ofSymbol? named, refused]
  rfl

/-- A right value that has no number is refused if the left one is not. -/
theorem relate_refuses_right {failure : Failure}
    (named : Operator.ofSymbol? symbol = some (.numbers relation)) (numeric : left.HasNumber)
    (convertible : left.Convertible) (refused : right.number = .error failure) :
    left.relate (some right) symbol = .error failure := by
  obtain ⟨x, reads⟩ := numeric.exists_number convertible
  rw [relate_eq_of_ofSymbol? named, reads, refused]
  rfl

end Value

/-! ## The order -/

namespace NumberRelation

/-- What is no number is in no relation of order. -/
theorem holds_eq_false {x y : Double} (relation : NumberRelation)
    (noNumber : x = .nan ∨ y = .nan) : relation.holds x y = false := by
  rcases noNumber with rfl | rfl
  · cases relation with
    | less | lessOrEqual => rfl
    | greater | greaterOrEqual =>
        unfold holds
        cases y <;> rfl
  · cases relation with
    | greater | greaterOrEqual => rfl
    | less | lessOrEqual =>
        unfold holds
        cases x <;> rfl

end NumberRelation

namespace Value

/-- A value with a number on the line has a place there, by which it is compared. -/
theorem Measurable.exists_place {value : Value} (measurable : value.Measurable) :
    ∃ x place, value.number = .ok x ∧ x.position? = some place := by
  obtain ⟨x, reads⟩ := measurable.1.exists_number measurable.2.1
  have number : x ≠ .nan := by
    rintro rfl
    exact measurable.2.2 reads
  obtain ⟨place, stands⟩ := Binary.exists_position? number
  exact ⟨x, place, reads, stands⟩

/-- Values are compared by the places of their numbers. -/
theorem relate_places {left right : Value} {x y : Double} {a b : ℤ}
    (leftReads : left.number = .ok x) (rightReads : right.number = .ok y)
    (leftPlace : x.position? = some a) (rightPlace : y.position? = some b) :
    left.relate (some right) "<" = .ok (decide (a < b)) ∧
      left.relate (some right) "<=" = .ok (decide (a ≤ b)) ∧
      left.relate (some right) ">" = .ok (decide (b < a)) ∧
      left.relate (some right) ">=" = .ok (decide (b ≤ a)) := by
  have related (relation : NumberRelation) {symbol : String}
      (named : Operator.ofSymbol? symbol = some (.numbers relation)) :=
    relate_numbers leftReads rightReads named
  rw [related .less rfl, related .lessOrEqual rfl, related .greater rfl,
    related .greaterOrEqual rfl]
  unfold NumberRelation.holds Binary.lt Binary.le
  rw [leftPlace, rightPlace]
  exact ⟨rfl, rfl, rfl, rfl⟩

/-- **The relations of order put the values with numbers into one order.** -/
theorem relate_order :
    (∀ a b c : Value, a.Measurable → b.Measurable → c.Measurable →
      a.AtMost a ∧ (a.AtMost b → b.AtMost c → a.AtMost c) ∧ (a.AtMost b ∨ b.AtMost a) ∧
      (∃ below, a.relate (some b) "<" = .ok below ∧ a.relate (some b) ">=" = .ok (!below)) ∧
      (∃ above, a.relate (some b) ">" = .ok above ∧ a.relate (some b) "<=" = .ok (!above)) ∧
      a.relate (some b) ">" = b.relate (some a) "<" ∧
      ∃ x y, a.number = .ok x ∧ b.number = .ok y ∧
        (a.AtMost b ∧ b.AtMost a ↔ x.SameNumber y)) ∧
    (∀ a b : Value, a.HasNumber → a.Convertible → b.HasNumber → b.Convertible →
      a.number = .ok .nan ∨ b.number = .ok .nan →
        ∀ symbol ∈ orderSymbols, a.relate (some b) symbol = .ok false) ∧
    (∀ a b : Value, ∀ symbol ∈ orderSymbols,
      (¬ a.HasNumber → a.relate (some b) symbol =
        .error (.ofCause (.notNumeric a.render a.typeName))) ∧
      (a.HasNumber → a.Convertible → ¬ b.HasNumber → a.relate (some b) symbol =
        .error (.ofCause (.notNumeric b.render b.typeName))) ∧
      (¬ a.Convertible ∨ a.HasNumber ∧ ¬ b.Convertible →
        a.relate (some b) symbol = .error .integerTooLarge)) ∧
    ∀ a : Value, a.WellFormed → a.Convertible := by
  refine ⟨?_, ?_, ?_, fun _ => WellFormed.convertible⟩
  · intro a b c measurable measurable' measurable''
    obtain ⟨x, place, reads, stands⟩ := measurable.exists_place
    obtain ⟨y, place', reads', stands'⟩ := measurable'.exists_place
    obtain ⟨z, place'', reads'', stands''⟩ := measurable''.exists_place
    obtain ⟨less, atMost, more, atLeast⟩ := relate_places reads reads' stands stands'
    obtain ⟨less', atMost', -, -⟩ := relate_places reads' reads stands' stands
    obtain ⟨-, self, -, -⟩ := relate_places reads reads stands stands
    obtain ⟨-, next, -, -⟩ := relate_places reads' reads'' stands' stands''
    obtain ⟨-, both, -, -⟩ := relate_places reads reads'' stands stands''
    unfold AtMost
    rw [self, atMost, atMost', next, both, less, atLeast, more, less']
    simp only [Except.ok.injEq, decide_eq_true_eq]
    refine ⟨le_rfl, le_trans, le_total place place', ⟨_, rfl, ?_⟩, ⟨_, rfl, ?_⟩,
      trivial, x, y, reads, reads', ?_⟩
    · rw [← decide_not, decide_eq_decide, not_lt]
    · rw [← decide_not, decide_eq_decide, not_lt]
    · rw [Binary.sameNumber_iff stands stands', ← le_antisymm_iff]
  · intro a b numeric convertible numeric' convertible' noNumber symbol member
    obtain ⟨relation, named⟩ := exists_relation_of_mem member
    obtain ⟨x, reads⟩ := numeric.exists_number convertible
    obtain ⟨y, reads'⟩ := numeric'.exists_number convertible'
    rw [reads, reads', Except.ok.injEq, Except.ok.injEq] at noNumber
    rw [relate_numbers reads reads' named, relation.holds_eq_false noNumber]
  · intro a b symbol member
    obtain ⟨relation, named⟩ := exists_relation_of_mem member
    refine ⟨fun other => relate_refuses_left named (number_of_not_hasNumber other), ?_, ?_⟩
    · intro numeric convertible other
      exact relate_refuses_right named numeric convertible (number_of_not_hasNumber other)
    · intro tooLarge
      by_cases convertible : a.Convertible
      · obtain ⟨numeric, tooLarge'⟩ := tooLarge.resolve_left (not_not_intro convertible)
        exact relate_refuses_right named numeric convertible (number_of_not_convertible tooLarge')
      · exact relate_refuses_left named (number_of_not_convertible convertible)

/-- Infinity is measured like other numbers, while what is no number is related to none, and other
kinds are refused. -/
theorem relate_order_infinity :
    Measurable (.string "inf") ∧ Measurable (.integer .int8 (-5)) ∧ Measurable (.string "-0") ∧
    (AtMost (.integer .int8 (-5)) (.string "-0") → AtMost (.string "-0") (.string "inf") →
      AtMost (.integer .int8 (-5)) (.string "inf")) ∧
    HasNumber (.string "NaN") ∧ (Value.string "NaN").number = .ok .nan ∧
    relate (.integer .int8 (-5)) (some (.string "NaN")) ">=" = .ok false ∧
    ¬ HasNumber (.boolean true) ∧ ¬ HasNumber (.integer .uint8 5) ∧
    relate (.boolean true) (some (.integer .uint8 5)) "<" =
      .error (.ofCause (.notNumeric "true" "boolean")) ∧
    relate (.string "NaN") (some (.integer .uint8 5)) "<" =
      .error (.ofCause (.notNumeric "5" "uint8")) := by
  have infinite : Measurable (.string "inf") := measurable_string (by decide)
  have five : Measurable (.integer .int8 (-5)) := measurable_integer rfl (by decide)
  have zero : Measurable (.string "-0") := measurable_string (by decide +kernel)
  have nan : (Value.string "NaN").number = .ok .nan := rfl
  have unsigned : ¬ HasNumber (.integer .uint8 5) := Bool.noConfusion
  obtain ⟨order, noNumber, refused, -⟩ := relate_order
  exact ⟨infinite, five, zero, (order _ _ _ five zero infinite).2.1, trivial, nan,
    noNumber _ (.string "NaN") five.1 five.2.1 trivial nofun (.inr nan) _ (by decide), not_false,
    unsigned, (refused _ _ _ (by decide)).1 not_false,
    (refused _ _ _ (by decide)).2.1 trivial nofun unsigned⟩

end Value

end FilterScript
