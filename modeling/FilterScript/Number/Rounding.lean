import FilterScript.Number.Format

/-! # Rounding to a binary format

A non-negative ratio is rounded once, to the nearest magnitude of a format, and a tie goes to the
even significand. The scale is the least one that leaves the quotient within the precision; a
quotient that rounds up to a full further bit is the first magnitude of the next scale, and the
rank says so without a case of its own. What rounds to the first rank without a finite magnitude is
infinite.
-/

namespace FilterScript

/-- The whole number nearest to a quotient; of two equally near ones the even. -/
def roundDiv (num den : Nat) : Nat :=
  let quotient := num / den
  let twice := 2 * (num % den)
  if twice < den then quotient
  else if den < twice then quotient + 1
  else if quotient % 2 = 0 then quotient
  else quotient + 1

/-- Rounding takes the whole part or one more. -/
theorem roundDiv_eq_or (num den : Nat) :
    roundDiv num den = num / den ∨ roundDiv num den = num / den + 1 := by
  unfold roundDiv
  dsimp only
  split
  · exact .inl rfl
  · split
    · exact .inr rfl
    · split
      · exact .inl rfl
      · exact .inr rfl

namespace Format

/-- The least scale at which a magnitude of `units` least units fits the precision. -/
def scaleFor (f : Format) (units : Nat) : Nat :=
  units.log2 + 1 - f.precision

/-- The rank of the magnitude nearest to `num / den`; it may lie past the finite ones. -/
def nearestRank (f : Format) (num den : Nat) : Nat :=
  let units := num * Nat.pow 2 f.places
  let scale := f.scaleFor (units / den)
  scale * f.leading + roundDiv units (den * Nat.pow 2 scale)

end Format

namespace Binary

variable {f : Format}

/-- A signed ratio rounded to the format. -/
def ofRatio (negative : Bool) (num den : Nat) : Binary f :=
  ofRank negative (f.nearestRank num den)

/-- A whole number rounded to the format; zero is positive. -/
def ofInt (n : Int) : Binary f :=
  ofRatio (decide (n < 0)) n.natAbs 1

/-- A number of one format rounded to another. Sign, infinity and not-a-number are kept. -/
def convert (g : Format) : Binary f → Binary g
  | .nan => .nan
  | .infinity negative => .infinity negative
  | .finite negative rank => ofRatio negative (f.magnitude rank) (Nat.pow 2 f.places)

theorem isNegative_ofRank (negative : Bool) (rank : Nat) :
    (ofRank negative rank : Binary f).isNegative = negative := by
  unfold ofRank
  split <;> rfl

/-- Rounding to another format keeps the sign. -/
theorem isNegative_convert (g : Format) (x : Binary f) :
    (x.convert g).isNegative = x.isNegative := by
  cases x with
  | nan => rfl
  | infinity negative => rfl
  | finite negative rank => exact isNegative_ofRank negative _

/-- Rounding to another format keeps a change of sign. -/
theorem convert_neg (g : Format) (x : Binary f) : x.neg.convert g = (x.convert g).neg := by
  cases x with
  | nan => rfl
  | infinity negative => rfl
  | finite negative rank => exact (neg_ofRank negative _).symm

end Binary

end FilterScript
