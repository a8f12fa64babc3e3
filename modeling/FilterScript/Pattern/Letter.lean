import FilterScript.Pattern.Syntax
import FilterScript.Text.Blank
import FilterScript.Text.Case
import FilterScript.Text.Digit
import FilterScript.Text.Word

/-! # Conditions on a character

Whether a character meets a condition hangs on two flags. One narrows digits, blanks, letters and
letter case to the first 128 code points. The other compares without regard to case: a character
then meets a condition when some case variant of it does. Code points past the first sixteen bits
are the exception in a class, where a listed one is compared with the lower case of the character,
and a range with the lower case and with the upper case of that.
-/

namespace FilterScript.Pattern

/-- Membership of a category; `narrow` leaves the first 128 code points only. -/
def Category.contains (narrow : Bool) : Category → Char → Bool
  | .digit, c => if narrow then c.isDigit else Text.isDigit c
  | .blank, c => if narrow then c == ' ' || ('\t' ≤ c && c ≤ '\r') else Text.isBlank c
  | .word, c => if narrow then c.isAlphanum || c == '_' else Text.isWord c

/-- A capital among the first 128 code points. -/
def isNarrowCapital (code : Nat) : Bool := 65 ≤ code && code ≤ 90

/-- A small letter among the first 128 code points. -/
def isNarrowSmall (code : Nat) : Bool := 97 ≤ code && code ≤ 122

/-- The lower case of a code point. -/
def lowerOf (narrow : Bool) (code : Nat) : Nat :=
  if narrow then (if isNarrowCapital code then code + 32 else code) else Text.lowerPoint code

/-- The representative of all code points that differ in case alone. -/
def foldOf (narrow : Bool) (code : Nat) : Nat :=
  if narrow then lowerOf true code else Text.foldPoint code

/-- All code points that differ in case alone. -/
def variantsOf (narrow : Bool) (code : Nat) : List Nat :=
  if narrow then
    if isNarrowCapital code then [code, code + 32]
    else if isNarrowSmall code then [code, code - 32]
    else [code]
  else
    Text.caseVariants code

/-- A code point that case makes no difference to has a single variant. -/
def isCased (narrow : Bool) (code : Nat) : Bool :=
  if narrow then isNarrowCapital code || isNarrowSmall code else Text.hasCase code

/-- The greatest code point of sixteen bits. -/
def sixteenBits : Nat := 0xFFFF

namespace ClassItem

/-- The character is taken, case regarded. -/
def accepts (narrow : Bool) : ClassItem → Char → Bool
  | .point code, c => c.toNat == code
  | .range first last, c => first ≤ c.toNat && c.toNat ≤ last
  | .category kind negated, c => kind.contains narrow c != negated

/-- The character is taken, case disregarded. -/
def acceptsAnyCase (narrow : Bool) : ClassItem → Char → Bool
  | .point code, c =>
    if code ≤ sixteenBits then foldOf narrow c.toNat == foldOf narrow code
    else lowerOf narrow c.toNat == code
  | .range first last, c =>
    let within (code : Nat) : Bool := first ≤ code && code ≤ last
    let lower := lowerOf narrow c.toNat
    ((variantsOf narrow c.toNat).any fun code => within code && code ≤ sixteenBits) ||
      (sixteenBits < last && (within lower || within (Text.upperPoint lower)))
  | .category kind negated, c => kind.contains narrow c != negated

/-- Case could make a difference to the item. -/
def isCased (narrow : Bool) : ClassItem → Bool
  | .point code => Pattern.isCased narrow code
  | .range first last =>
    sixteenBits < last ||
      (List.range (last + 1 - first)).any fun n => Pattern.isCased narrow (first + n)
  | .category _ _ => false

end ClassItem

/-- The character meets the condition under the given flags. -/
def CharTest.accepts (flags : List Flag) (test : CharTest) (c : Char) : Bool :=
  let narrow := flags.contains .ascii
  let anyCase := flags.contains .ignoreCase
  match test with
  | .any => flags.contains .dotAll || c != '\n'
  | .point negated code =>
    (if anyCase then foldOf narrow c.toNat == foldOf narrow code else c.toNat == code) != negated
  | .oneOf negated items =>
    (items.any fun item =>
      if anyCase then item.acceptsAnyCase narrow c else item.accepts narrow c) != negated

end FilterScript.Pattern
