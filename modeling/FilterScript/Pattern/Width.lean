/-! # Widths

How many characters a pattern can take: at least and, if there is a bound, at most. Conditions on
places take none. A part that recalls a group is as wide as the group. Only a pattern whose two
bounds agree can be looked for behind a place.
-/

namespace FilterScript.Pattern

/-- The least and the greatest number of characters taken; without a greatest there is no bound. -/
structure Width where
  least : Nat
  most : Option Nat
  deriving DecidableEq, Repr

namespace Width

/-- No characters. -/
def zero : Width := ⟨0, some 0⟩

/-- One character. -/
def one : Width := ⟨1, some 1⟩

/-- The first and then the second. -/
def add (a b : Width) : Width :=
  ⟨a.least + b.least, a.most.bind fun m => b.most.map (m + ·)⟩

/-- Either of two. -/
def either (a b : Width) : Width :=
  ⟨min a.least b.least, a.most.bind fun m => b.most.map (max m ·)⟩

/-- Rounds of a body of the given width. -/
def times (a : Width) (least : Nat) (most : Option Nat) : Width :=
  ⟨a.least * least,
    match a.most, most with
    | some 0, _ => some 0
    | _, some 0 => some 0
    | some m, some n => some (m * n)
    | _, _ => none⟩

end Width

/-- The farthest that a pattern can look back. -/
def lookLimit : Nat := 4294967295

end FilterScript.Pattern
