import FilterScript.Text.CaseTable

/-! # Letter case

Two kinds of case change live here. Of a text, lower and upper case are full: a character may
become several, and a capital sigma that ends a word takes its final form. Of a single character,
`lowerPoint` keeps one character only, and `foldPoint` picks one representative of all the
characters that differ in nothing but case; that is what a comparison without regard to case
compares.
-/

namespace FilterScript.Text

namespace CaseRun

/-- The image of a code point that lies on the run. -/
def map? (run : CaseRun) (code : Nat) : Option Nat :=
  if run.first ≤ code ∧ code ≤ run.last ∧ (code - run.first) % run.step = 0 then
    some (run.image + (code - run.first))
  else
    none

/-- The code point of the run that has the given image. -/
def unmap? (run : CaseRun) (image : Nat) : Option Nat :=
  if run.image ≤ image ∧ run.first + (image - run.image) ≤ run.last ∧
      (image - run.image) % run.step = 0 then
    some (run.first + (image - run.image))
  else
    none

end CaseRun

/-- Lower case as a sequence of code points. -/
def lowerSequence (code : Nat) : List Nat :=
  (lowerSequences.lookup code).getD [(lowerRuns.findSome? (·.map? code)).getD code]

/-- Upper case as a sequence of code points. -/
def upperSequence (code : Nat) : List Nat :=
  (upperSequences.lookup code).getD [(upperRuns.findSome? (·.map? code)).getD code]

/-- The first character of the lower case. -/
def lowerPoint (code : Nat) : Nat :=
  (lowerSequence code).headD code

/-- The first character of the upper case. -/
def upperPoint (code : Nat) : Nat :=
  (upperSequence code).headD code

/-- A code point has case when its lower or its upper case is another one. -/
def hasCase (code : Nat) : Bool :=
  lowerPoint code != code || upperPoint code != code

/-- Lower-case letters that share the upper case of the given one, itself among them. -/
def sharedLower (code : Nat) : List Nat :=
  (sharedUpper.find? (·.contains code)).getD [code]

/-- One representative for all characters that differ in case alone. -/
def foldPoint (code : Nat) : Nat :=
  (sharedLower (lowerPoint code)).headD code

/-- All code points whose lower case is the given one. -/
def withLower (lower : Nat) : List Nat :=
  (if lowerPoint lower = lower then [lower] else []) ++ lowerRuns.filterMap (·.unmap? lower) ++
    (lowerSequences.filter fun entry => entry.2.head? == some lower).map (·.1)

/-- All code points that differ from the given one in case alone, itself among them. -/
def caseVariants (code : Nat) : List Nat :=
  (sharedLower (lowerPoint code)).flatMap withLower

/-- A character is followed, past characters without bearing on case, by a cased one. -/
def meetsCased (neighbours : List Char) : Bool :=
  ((neighbours.dropWhile fun c => caseIgnorablePoints.contains c.toNat).head?).any
    fun c => casedPoints.contains c.toNat

/-- Lower case of a text whose characters before it stand, last first, in `before`. -/
def lowerFrom (before : List Char) : List Char → List Char
  | [] => []
  | c :: rest =>
    (if c = 'Σ' then
      [if meetsCased before && !meetsCased rest then 'ς' else 'σ']
    else
      (lowerSequence c.toNat).map Char.ofNat) ++ lowerFrom (c :: before) rest

/-- The lower case of a text; a sigma at the end of a word takes its final form. -/
def lower (s : String) : String :=
  String.ofList (lowerFrom [] s.toList)

/-- The upper case of a text. -/
def upper (s : String) : String :=
  String.ofList (s.toList.flatMap fun c => (upperSequence c.toNat).map Char.ofNat)

end FilterScript.Text
