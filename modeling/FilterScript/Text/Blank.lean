import FilterScript.Text.CodePoints

/-! # Blank characters

The characters that count as white space: those that separate words or lines in running text,
with the four information separators. They surround a text, and are taken off it, on both sides.
-/

namespace FilterScript.Text

/-- The twenty-nine blank code points. -/
def blankPoints : CodePoints :=
  ⟨[(0x0009, 0x000D), (0x001C, 0x0020), (0x0085, 0x0085), (0x00A0, 0x00A0), (0x1680, 0x1680),
    (0x2000, 0x200A), (0x2028, 0x2029), (0x202F, 0x202F), (0x205F, 0x205F), (0x3000, 0x3000)]⟩

/-- A character is blank when its code point is one of the blank code points. -/
def isBlank (c : Char) : Bool :=
  blankPoints.contains c.toNat

/-- Characters from the first that is not blank on. -/
def dropBlanks (cs : List Char) : List Char :=
  cs.dropWhile isBlank

/-- A text without the blanks at its two ends; blanks between other characters stay. -/
def trim (s : String) : String :=
  String.ofList (dropBlanks (dropBlanks s.toList).reverse).reverse

end FilterScript.Text
