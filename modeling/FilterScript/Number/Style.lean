import FilterScript.Number.Decimal

/-! # Styles of writing a number

A numeral is laid out positionally or with an exponent, by the place of its leading digit. A style
says where each layout begins, whether a positional whole number carries a fraction, and how the
values without digits are written. Two styles are in use: that of a script's own values, and that of
keys and debugging views.
-/

namespace FilterScript

/-- The choices left open by the digits of a number. -/
structure NumberStyle where
  /-- The least exponent of the leading digit that is laid out positionally. -/
  positionalFrom : Int
  /-- The least exponent of the leading digit, above the former, that takes an exponent. -/
  scientificFrom : Int
  /-- What a positional whole number is followed by. -/
  wholeSuffix : String
  nan : String
  positiveInfinity : String
  negativeInfinity : String

namespace NumberStyle

/-- Values of a script: at most six places before the point, and no needless fraction. -/
def script : NumberStyle := ⟨-4, 6, "", "NaN", "+Inf", "-Inf"⟩

/-- Keys and debugging views: at most sixteen places before the point, and always a fraction. -/
def debug : NumberStyle := ⟨-4, 16, ".0", "nan", "inf", "-inf"⟩

end NumberStyle

/-- The digits of a number without the zeros at its end. -/
def significantDigits (n : Nat) : List Char :=
  ((Nat.toDigits 10 n).reverse.dropWhile (· == '0')).reverse

/-- A signed exponent of at least two digits. -/
def exponentText (exponent : Int) : List Char :=
  let digits := Nat.toDigits 10 exponent.natAbs
  (if exponent < 0 then '-' else '+') ::
    (List.replicate (2 - digits.length) '0' ++ digits)

/-- One digit before the point, the others behind it, and the exponent of the first. -/
def scientificText (digits : List Char) (exponent : Int) : List Char :=
  match digits with
  | [] => ['0']
  | [d] => d :: 'e' :: exponentText exponent
  | d :: fraction => d :: '.' :: fraction ++ 'e' :: exponentText exponent

/-- All places written out; `exponent` is that of the first digit. -/
def positionalText (wholeSuffix : List Char) (digits : List Char) (exponent : Int) : List Char :=
  if exponent < 0 then
    '0' :: '.' :: (List.replicate (-exponent - 1).toNat '0' ++ digits)
  else
    let places := exponent.toNat + 1
    if digits.length ≤ places then
      digits ++ List.replicate (places - digits.length) '0' ++ wholeSuffix
    else
      digits.take places ++ '.' :: digits.drop places

namespace NumberStyle

/-- A positive numeral in the layout that the style gives to its leading exponent. -/
def layout (style : NumberStyle) (d : Decimal) : List Char :=
  let digits := significantDigits d.coefficient
  let exponent := d.point - 1
  if exponent < style.positionalFrom ∨ style.scientificFrom ≤ exponent then
    scientificText digits exponent
  else
    positionalText style.wholeSuffix.toList digits exponent

/-- A number whose finite magnitudes have the given numerals. -/
def text {f : Format} (style : NumberStyle) (numeral : Nat → Decimal) : Binary f → String
  | .nan => style.nan
  | .infinity negative => if negative then style.negativeInfinity else style.positiveInfinity
  | .finite negative rank =>
    let magnitude :=
      if rank.val = 0 then '0' :: style.wholeSuffix.toList else style.layout (numeral rank)
    String.ofList (if negative then '-' :: magnitude else magnitude)

end NumberStyle

/-- A double as a script shows it. -/
def Double.render (x : Double) : String :=
  NumberStyle.script.text Format.double.shortest x

/-- A single as a script shows it. -/
def Single.render (x : Single) : String :=
  NumberStyle.script.text fewestRounded x

/-- A double in a debugging view. -/
def Double.debug (x : Double) : String :=
  NumberStyle.debug.text Format.double.shortest x

end FilterScript
