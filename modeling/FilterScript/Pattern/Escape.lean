import FilterScript.Pattern.Group

/-! # Escaped characters

What a backslash and the character behind it stand for: a control, a category, a place, a code point
in base eight or sixteen, a group, or the character itself. A letter without a meaning is a fault. A
class knows neither places nor groups, and takes the letter of the word boundary for a control.
-/

namespace FilterScript.Pattern

/-- A digit of base sixteen. -/
def isHexDigit (c : Char) : Bool :=
  c.isDigit || ('a' ≤ c && c ≤ 'f') || ('A' ≤ c && c ≤ 'F')

/-- A digit of base eight. -/
def isOctalDigit (c : Char) : Bool := '0' ≤ c && c ≤ '7'

/-- Characters that a backslash and a letter stand for. -/
def controlOf? : Char → Option Nat
  | 'a' => some 7
  | 'b' => some 8
  | 't' => some 9
  | 'n' => some 10
  | 'v' => some 11
  | 'f' => some 12
  | 'r' => some 13
  | '\\' => some 92
  | _ => none

/-- Categories that a backslash and a letter stand for; capitals negate them. -/
def categoryOf? : Char → Option (Category × Bool)
  | 'd' => some (.digit, false)
  | 'D' => some (.digit, true)
  | 's' => some (.blank, false)
  | 'S' => some (.blank, true)
  | 'w' => some (.word, false)
  | 'W' => some (.word, true)
  | _ => none

/-- Places that a backslash and a letter stand for. -/
def anchorOf? : Char → Option Anchor
  | 'A' => some .textStart
  | 'Z' => some .textEnd
  | 'b' => some .wordBoundary
  | 'B' => some .insideWord
  | _ => none

/-- The first number that the host cannot count to, which is far past every code point. -/
def codeLimit : Nat := 2147483648

/-- A code point given by exactly `width` digits of base sixteen behind a backslash and a letter. -/
def readCode (token : Token) (width : Nat) : Read Nat := do
  let digits ← takeChars isHexDigit width
  let text := token.text ++ digits
  if digits.length ≠ width then
    fail (.incompleteEscape (String.ofList text)) text.length
  let code := numberOf 16 digits
  if codeLimit ≤ code then throw .codeTooLarge
  if 0x10FFFF < code then
    fail (.badEscape (String.ofList text)) text.length
  return code

/-- A character given by name in braces. -/
def readNamed : Read Nat := do
  if !(← accept '\x7b') then fail .missingNameBrace 0
  let name ← takeName '\x7d' .character
  match (← get).characterNamed? (String.ofList name) with
  | some c => return c.toNat
  | none => fail (.unknownCharacterName (String.ofList name)) (name.length + 4)

/-- Octal digits behind a backslash that do not exceed a byte. -/
def octalCode (text : List Char) : Read Nat := do
  let code := numberOf 8 (text.drop 1)
  if 0o377 < code then fail (.octalTooLarge (String.ofList text)) text.length
  return code

/-- A code point given in any way that holds inside and outside a class. -/
def readPoint (token : Token) : Read Nat := do
  match token.char with
  | 'x' => readCode token 2
  | 'u' => readCode token 4
  | 'U' => readCode token 8
  | 'N' => readNamed
  | c =>
    if c.isAlphanum then fail (.badEscape (String.ofList token.text)) 2
    return c.toNat

/-- The item of a class that an escaped character stands for. -/
def readClassEscape (token : Token) : Read ClassItem := do
  match controlOf? token.char, categoryOf? token.char with
  | some code, _ => return .point code
  | none, some (kind, negated) => return .category kind negated
  | none, none =>
    if isOctalDigit token.char then
      return .point (← octalCode (token.text ++ (← takeChars isOctalDigit 2)))
    else
      return .point (← readPoint token)

/-- A backslash and a digit other than zero: three octal digits, or a group of one or two digits. -/
def readNumbered (token : Token) : Read Node := do
  let second ← takeChars Char.isDigit 1
  let text := token.text ++ second
  if isOctalDigit token.char && second.any isOctalDigit then
    let third ← takeChars isOctalDigit 1
    if third.isEmpty then readRecall text
    else return .one (.point false (← octalCode (text ++ third)))
  else
    readRecall text

/-- The part that an escaped character outside a class stands for. -/
def readEscape (token : Token) : Read Node := do
  match anchorOf? token.char, categoryOf? token.char, controlOf? token.char with
  | some place, _, _ => return .anchor place
  | none, some (kind, negated), _ => return .one (.oneOf false [.category kind negated])
  | none, none, some code => return .one (.point false code)
  | none, none, none =>
    if token.char = '0' then
      return .one (.point false (numberOf 8 (← takeChars isOctalDigit 2)))
    else if token.char.isDigit then
      readNumbered token
    else
      return .one (.point false (← readPoint token))

end FilterScript.Pattern
