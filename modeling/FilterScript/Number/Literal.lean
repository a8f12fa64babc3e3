import FilterScript.Number.Decimal
import FilterScript.Text.Digit

/-! # Numbers written in text

The grammar of a numeric text: an optional sign, then digits with at most one point among them and
an optional exponent, or the name of a special value in any mixture of cases. The digits may be of
any script. A text of that grammar is read as double precision and then rounded to single
precision; every other text reads as zero.
-/

namespace FilterScript

/-- What a numeric text says. -/
inductive Literal where
  | decimal (negative : Bool) (magnitude : Decimal)
  | infinity (negative : Bool)
  | nan
  deriving DecidableEq

namespace Literal

/-- The digits at the beginning of a text, by value, and what follows them. -/
def splitDigits : List Char → List Nat × List Char
  | [] => ([], [])
  | c :: rest =>
    match Text.digitValue? c with
    | some value =>
      let (values, after) := splitDigits rest
      (value :: values, after)
    | none => ([], c :: rest)

/-- The number that digits, the first one leading, stand for. -/
def ofDigits (values : List Nat) : Nat :=
  values.foldl (fun total value => 10 * total + value) 0

/-- An optional sign; true for a minus. -/
def splitSign : List Char → Bool × List Char
  | '-' :: rest => (true, rest)
  | '+' :: rest => (false, rest)
  | text => (false, text)

/-- A whole text as an exponent: nothing, or its mark, an optional sign and digits. -/
def exponent? : List Char → Option Int
  | [] => some 0
  | mark :: rest =>
    if mark = 'e' ∨ mark = 'E' then
      let (negative, unsigned) := splitSign rest
      match splitDigits unsigned with
      | ([], _) => none
      | (values, []) => some (Binary.signed negative (ofDigits values))
      | (_, _ :: _) => none
    else
      none

/-- A whole text as an unsigned decimal. -/
def decimal? (text : List Char) : Option Decimal :=
  let (whole, afterWhole) := splitDigits text
  let (fraction, afterFraction) :=
    match afterWhole with
    | '.' :: rest => splitDigits rest
    | _ => ([], afterWhole)
  if whole.isEmpty ∧ fraction.isEmpty then none
  else (exponent? afterFraction).map fun exponent =>
    ⟨ofDigits (whole ++ fraction), exponent - fraction.length⟩

/-- A whole text as a literal. -/
def ofText? (text : List Char) : Option Literal :=
  let (negative, unsigned) := splitSign text
  let name := unsigned.map Char.toLower
  if name = ['i', 'n', 'f'] ∨ name = ['i', 'n', 'f', 'i', 'n', 'i', 't', 'y'] then
    some (.infinity negative)
  else if name = ['n', 'a', 'n'] then some .nan
  else (decimal? unsigned).map (.decimal negative)

/-- A literal read as double precision and rounded to single precision. -/
def toSingle : Literal → Single
  | .decimal negative magnitude => magnitude.readSingle negative
  | .infinity negative => .infinity negative
  | .nan => .nan

end Literal

/-- The number that a text stands for: that of a literal, and zero when the text is none. The
grammar speaks of the whole text, so blanks around a literal or an underscore inside it make the
text none. -/
def Single.ofText (text : String) : Single :=
  ((Literal.ofText? text.toList).map Literal.toSingle).getD (.ofRank false 0)

end FilterScript
