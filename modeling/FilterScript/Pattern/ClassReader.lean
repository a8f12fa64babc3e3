import FilterScript.Pattern.Escape

/-! # Character classes of a pattern text

The items between brackets: characters, ranges and categories. A closing bracket that comes first
and a hyphen that comes last stand for themselves.
-/

namespace FilterScript.Pattern

/-- One item of a class, from its first token on; true for a class that the item has closed. -/
def readItem (start : Nat) (token : Token) : Read (List ClassItem × Bool) := do
  let first ← if token.escaped then readClassEscape token else pure (.point token.char.toNat)
  if ← accept '-' then
    match ← take? with
    | none => failAt .unterminatedClass start
    | some last =>
      if last.isPlain ']' then
        return ([first, .point '-'.toNat], true)
      let second ← if last.escaped then readClassEscape last else pure (.point last.char.toNat)
      let fault := Fault.badRange (String.ofList token.text) (String.ofList last.text)
      match first, second with
      | .point low, .point high =>
        if high < low then fail fault (token.text.length + 1 + last.text.length)
        return ([.range low high], false)
      | _, _ => fail fault (token.text.length + 1 + last.text.length)
  else
    return ([first], false)

/-- The items of a class up to its closing bracket. A bracket at the very beginning is an item. -/
def readItems (start : Nat) : Nat → List ClassItem → Read (List ClassItem)
  | 0, items => return items
  | fuel + 1, items => do
    match ← take? with
    | none => failAt .unterminatedClass start
    | some token =>
      if token.isPlain ']' && !items.isEmpty then
        return items
      let (more, closed) ← readItem start token
      if closed then return items ++ more
      readItems start fuel (items ++ more)

/-- A class behind its opening bracket, which stands at `start`. -/
def readClass (start : Nat) : Read Node := do
  let negated ← accept '^'
  let items ← readItems start ((← get).rest.length + 1) []
  match items.eraseDups with
  | [.point code] => return .one (.point negated code)
  | items => return .one (.oneOf negated items)

end FilterScript.Pattern
