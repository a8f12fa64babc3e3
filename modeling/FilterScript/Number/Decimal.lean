import FilterScript.Number.Rounding

/-! # Decimal numerals of binary numbers

A decimal is a whole coefficient times a power of ten. Read into a format it is rounded once.
Towards a numeral for a magnitude there are two roads. `shortest` takes the fewest digits of which
some numeral reads back as the magnitude, and of those the nearest one. `fewestRounded` rounds the
magnitude to one digit, two digits and so on, and takes the first that reads back; the reading then
need not be the direct one.
-/

namespace FilterScript

/-- The number `coefficient * 10 ^ exponent`. -/
structure Decimal where
  coefficient : Nat
  exponent : Int
  deriving DecidableEq, Repr

/-- How many decimal digits a number is written with. -/
def digitCount (n : Nat) : Nat := (Nat.toDigits 10 n).length

namespace Decimal

/-- Numerator of the value. -/
def num (d : Decimal) : Nat := d.coefficient * Nat.pow 10 d.exponent.toNat

/-- Denominator of the value. -/
def den (d : Decimal) : Nat := Nat.pow 10 (-d.exponent).toNat

/-- The value is below `10 ^ d.point`, and at least a tenth of that unless it is zero. -/
def point (d : Decimal) : Int := digitCount d.coefficient + d.exponent

/-- A signed decimal rounded to a format. A value that lies beyond every magnitude by its number of
digits alone is decided without the power of ten, however large the exponent. -/
def read (f : Format) (negative : Bool) (d : Decimal) : Binary f :=
  if d.coefficient = 0 ∨ d.point < -f.places then .ofRank negative 0
  else if f.precision + f.scales < d.point + f.places then .infinity negative
  else .ofRatio negative d.num d.den

end Decimal

/-- A positive rational number. -/
structure Ratio where
  num : Nat
  den : Nat

namespace Ratio

/-- The exponent of the leading digit: the greatest power of ten not above the ratio. -/
def leadingExponent (r : Ratio) : Int :=
  let guess : Int := digitCount r.num - digitCount r.den
  let reached :=
    if 0 ≤ guess then r.den * Nat.pow 10 guess.toNat ≤ r.num
    else r.den ≤ r.num * Nat.pow 10 (-guess).toNat
  if reached then guess else guess - 1

/-- The ratio in steps of a power of ten, as a numerator and a denominator. -/
def inSteps (r : Ratio) (exponent : Int) : Nat × Nat :=
  if 0 ≤ exponent then (r.num, r.den * Nat.pow 10 exponent.toNat)
  else (r.num * Nat.pow 10 (-exponent).toNat, r.den)

/-- The exponent of the last of `digits` digits. -/
def lastExponent (r : Ratio) (digits : Nat) : Int :=
  r.leadingExponent + 1 - digits

/-- The ratio rounded to the given number of digits, a tie to the even last digit. -/
def rounded (r : Ratio) (digits : Nat) : Decimal :=
  let exponent := r.lastExponent digits
  let steps := r.inSteps exponent
  ⟨roundDiv steps.1 steps.2, exponent⟩

/-- Of the two numerals with the given number of digits next to the ratio, the nearest one that is
accepted; of two equally near ones the even. -/
def neighbour? (r : Ratio) (accepted : Decimal → Bool) (digits : Nat) : Option Decimal :=
  let exponent := r.lastExponent digits
  let steps := r.inSteps exponent
  let below : Decimal := ⟨steps.1 / steps.2, exponent⟩
  let above : Decimal := ⟨steps.1 / steps.2 + 1, exponent⟩
  match accepted below, accepted above with
  | true, true => some ⟨roundDiv steps.1 steps.2, exponent⟩
  | true, false => some below
  | false, true => some above
  | false, false => none

end Ratio

namespace Format

/-- The value of a rank. -/
def ratio (f : Format) (rank : Nat) : Ratio := ⟨f.magnitude rank, Nat.pow 2 f.places⟩

/-- The fewest digits that read back as a magnitude of the format, and of such numerals the nearest.
Seventeen digits tell all doubles apart, and nine all singles. -/
def shortest (f : Format) (rank : Nat) : Decimal :=
  let accepted (d : Decimal) : Bool := decide (d.read f false = .ofRank false rank)
  ((List.range 17).findSome? fun n => (f.ratio rank).neighbour? accepted (n + 1)).getD
    ((f.ratio rank).rounded 17)

end Format

/-- A decimal read as single precision by way of double precision. -/
def Decimal.readSingle (negative : Bool) (d : Decimal) : Single :=
  (d.read .double negative).convert .single

/-- A single-precision magnitude rounded to one digit, two digits and so on up to nine: the first of
these numerals that reads back, or else the shortest numeral of the magnitude as a double. -/
def fewestRounded (rank : Nat) : Decimal :=
  let value := Format.single.ratio rank
  let numerals := (List.range 9).map fun n => value.rounded (n + 1)
  (numerals.find? fun d => decide (d.readSingle false = .ofRank false rank)).getD
    (Format.double.shortest (Format.double.nearestRank value.num value.den))

end FilterScript
