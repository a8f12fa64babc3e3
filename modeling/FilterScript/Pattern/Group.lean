import FilterScript.Pattern.Token
import FilterScript.Text.Blank
import FilterScript.Text.Digit
import FilterScript.Text.Identifier

/-! # Groups of a pattern text

Groups are numbered in the order of their opening and may have names. A group can be recalled once
it is closed, and inside a look-behind only if it was opened outside. A condition may ask for a
group that comes later; whether there is one is seen at the end.
-/

namespace FilterScript.Pattern

/-- The number of a group that is closed. -/
def isClosed (number : Nat) : Read Bool := do
  return ((← get).groups[number - 1]?).join.isSome && number != 0

/-- Refuses a group that a look-behind may not ask for: one that it opened itself, or one still
open. -/
def checkLookBehind (number : Nat) : Read Unit := do
  match (← get).lookStart with
  | none => return
  | some start =>
    if !(← isClosed number) then fail .openGroup 0
    if start ≤ number then fail .groupOfSameLook 0

/-- A part that recalls a numbered group, written with the given characters. -/
def readRecall (text : List Char) : Read Node := do
  let number := numberOf 10 (text.drop 1)
  if (← get).groups.length < number then fail (.unknownGroup number) (text.length - 1)
  if !(← isClosed number) then fail .openGroup text.length
  checkLookBehind number
  return .recall number ((← get).widthOf number)

/-- Opens a group and gives it the next number. -/
def openGroup (name : Option (List Char)) : Read Nat := do
  let progress ← get
  let number := progress.groups.length + 1
  match name with
  | none => set { progress with groups := progress.groups ++ [none] }
  | some name =>
    match progress.names.lookup name with
    | some earlier =>
      fail (.redefinedGroup (String.ofList name) number earlier) (name.length + 1)
    | none =>
      set { progress with
        groups := progress.groups ++ [none], names := (name, number) :: progress.names }
  return number

/-- Closes a group that has the given body. -/
def closeGroup (number : Nat) (body : List Node) : Read Unit :=
  modify fun progress =>
    { progress with
      groups := progress.groups.set (number - 1) (some (sequenceWidth body)) }

/-- Refuses a name that is no identifier. -/
def checkName (name : List Char) : Read Unit := do
  if !Text.isIdentifier name then
    fail (.badGroupName (String.ofList name)) (name.length + 1)

/-- The number of a named group. -/
def numberOfName (name : List Char) : Read Nat := do
  match (← get).names.lookup name with
  | some number => return number
  | none => fail (.unknownGroupName (String.ofList name)) (name.length + 1)

/-- Digits of any script with single underscores between them, as many as are read as a number. -/
def wholeNumber? : List Char → Option Nat
  | [] => none
  | c :: rest =>
    if digitLimit < (c :: rest).countP (· != '_') then none
    else (Text.digitValue? c).bind (go · rest)
where
  go (total : Nat) : List Char → Option Nat
    | [] => some total
    | '_' :: c :: rest => (Text.digitValue? c).bind fun value => go (10 * total + value) rest
    | c :: rest => (Text.digitValue? c).bind fun value => go (10 * total + value) rest

/-- A blank that may stand around a number; the information separators may not. -/
def isNumberBlank (c : Char) : Bool :=
  Text.isBlank c && !(0x1C ≤ c.toNat && c.toNat ≤ 0x1F)

/-- A group number as a condition may write it: blanks around, and a sign that is not a minus except
before zero. -/
def groupNumber? (name : List Char) : Option Nat :=
  let bare := ((name.dropWhile isNumberBlank).reverse.dropWhile isNumberBlank).reverse
  match bare with
  | '+' :: rest => wholeNumber? rest
  | '-' :: rest => (wholeNumber? rest).filter (· == 0)
  | _ => wholeNumber? bare

/-- The greatest number that a group could have. -/
def groupLimit : Nat := 1073741823

/-- The group that a condition asks for, by name or by number. -/
def readCondition : Read Nat := do
  let name ← takeName ')' .group
  let back := name.length + 1
  let number ←
    if Text.isIdentifier name then numberOfName name
    else
      match groupNumber? name with
      | none => fail (.badGroupName (String.ofList name)) back
      | some 0 => fail .badGroupNumber back
      | some number =>
        if groupLimit ≤ number then fail (.unknownGroup number) back
        let place := (← here) - back
        modify fun progress =>
          if (progress.wanted.lookup number).isSome then progress
          else { progress with wanted := progress.wanted ++ [(number, place)] }
        pure number
  checkLookBehind number
  return number

end FilterScript.Pattern
