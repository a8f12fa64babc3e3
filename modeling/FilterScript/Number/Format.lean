/-! # Binary floating-point numbers

A format fixes how many bits a significand has and which powers of two may multiply it. The finite
magnitudes of a format, zero first, form one ascending sequence, and a finite number is a sign with
a rank in that sequence. So every number has exactly one representation, neighbouring ranks are
neighbouring magnitudes, and the magnitude after the largest finite one is where infinity begins.
Every magnitude is a whole number of least units, which keeps comparison inside the integers.
-/

namespace FilterScript

/-- A binary format: significands of `precision` bits, a least unit of `2 ^ -places`, and `scales`
successive powers of two that a significand may be multiplied by. -/
structure Format where
  precision : Nat
  places : Nat
  scales : Nat
  deriving DecidableEq

namespace Format

/-- The double-precision format. -/
def double : Format := ⟨53, 1074, 2046⟩

/-- The single-precision format. -/
def single : Format := ⟨24, 149, 254⟩

/-- The least significand with its leading bit set. -/
def leading (f : Format) : Nat := Nat.pow 2 (f.precision - 1)

/-- The number of finite magnitudes, which is also the rank at which infinity stands. -/
def finiteCount (f : Format) : Nat := (f.scales + 1) * f.leading

/-- The magnitude of a rank, in least units. The first two blocks of `leading` ranks have unit
steps, and every later block steps twice as far as the one before it. -/
def magnitude (f : Format) (rank : Nat) : Nat :=
  let scale := rank / f.leading - 1
  (rank - scale * f.leading) * Nat.pow 2 scale

end Format

/-- A number of a binary format: not-a-number, an infinity, or a sign and the rank of a magnitude.
Zero has rank zero and keeps its sign. -/
inductive Binary (f : Format) where
  | nan
  | infinity (negative : Bool)
  | finite (negative : Bool) (rank : Fin f.finiteCount)
  deriving DecidableEq

/-- A double-precision number. -/
abbrev Double := Binary .double

/-- A single-precision number. -/
abbrev Single := Binary .single

namespace Binary

variable {f : Format}

/-- The number of a sign and a rank; from the first rank without a finite magnitude on it is an
infinity. -/
def ofRank (negative : Bool) (rank : Nat) : Binary f :=
  if bounded : rank < f.finiteCount then .finite negative ⟨rank, bounded⟩ else .infinity negative

/-- The sign bit; not-a-number has none. -/
def isNegative : Binary f → Bool
  | .nan => false
  | .infinity negative => negative
  | .finite negative _ => negative

/-- Both zeros. -/
def isZero : Binary f → Bool
  | .finite _ rank => rank.val == 0
  | _ => false

/-- The number with the opposite sign. -/
def neg : Binary f → Binary f
  | .nan => .nan
  | .infinity negative => .infinity !negative
  | .finite negative rank => .finite (!negative) rank

/-- Turning the sign twice changes nothing. -/
@[simp]
theorem neg_neg (x : Binary f) : x.neg.neg = x := by
  cases x with
  | nan => rfl
  | infinity negative => simp [neg]
  | finite negative rank => simp [neg]

/-- Zero has either sign. -/
@[simp]
theorem isZero_neg (x : Binary f) : x.neg.isZero = x.isZero := by
  cases x with
  | nan => rfl
  | infinity negative => rfl
  | finite negative rank => rfl

/-- Turning the sign leaves the magnitude. -/
theorem neg_ofRank (negative : Bool) (rank : Nat) :
    (ofRank negative rank : Binary f).neg = ofRank (!negative) rank := by
  unfold ofRank
  split <;> rfl

/-- A whole number with the given sign. -/
def signed (negative : Bool) (n : Nat) : Int :=
  if negative then -n else n

/-- The place of a number on the line, in least units. An infinity stands where the magnitude after
the last finite one would, and not-a-number stands nowhere. -/
def position? : Binary f → Option Int
  | .nan => none
  | .infinity negative => some (signed negative (f.magnitude f.finiteCount))
  | .finite negative rank => some (signed negative (f.magnitude rank))

/-- Strictly below on the line; false when either side is not a number. -/
def lt (x y : Binary f) : Bool :=
  match x.position?, y.position? with
  | some a, some b => a < b
  | _, _ => false

/-- Below or at the same place on the line; false when either side is not a number. -/
def le (x y : Binary f) : Bool :=
  match x.position?, y.position? with
  | some a, some b => a ≤ b
  | _, _ => false

/-- The weight of the sign bit in the interchange encoding. -/
def signWeight (f : Format) : Nat := (f.scales + 2) * f.leading

/-- The interchange encoding. The rank is the encoding of a magnitude, infinity follows the last of
them, and not-a-number is written in its quiet form. -/
def toBits : Binary f → Nat
  | .nan => f.finiteCount + f.leading / 2
  | .infinity negative => (if negative then signWeight f else 0) + f.finiteCount
  | .finite negative rank => (if negative then signWeight f else 0) + rank

/-- The number of an interchange encoding. -/
def ofBits (bits : Nat) : Binary f :=
  let negative := decide (signWeight f ≤ bits)
  let rank := bits % signWeight f
  if rank ≤ f.finiteCount then ofRank negative rank else .nan

end Binary

end FilterScript
