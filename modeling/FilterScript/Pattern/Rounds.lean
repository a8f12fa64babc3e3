import FilterScript.Pattern.Token

/-! # Loops of a pattern text

A mark of repetition turns the part before it into a loop. Braces that hold no bounds are ordinary
characters.
-/

namespace FilterScript.Pattern

/-- The greatest number of rounds, which is never reached. -/
def countLimit : Nat := 4294967295

/-- A number of rounds. -/
def readCount (digits : List Char) : Read Nat := do
  if digitLimit < digits.length then throw (.tooManyDigits digits.length)
  let count := numberOf 10 digits
  if countLimit ≤ count then throw .countTooLarge
  return count

/-- The bounds behind an opening brace, if they are bounds; else the brace stands for itself and
nothing behind it is taken. -/
def readBounds : Read (Option (Nat × Option Nat)) := do
  let rest := (← get).rest
  let start ← here
  if (← peek?).any (·.isPlain '\x7d') then return none
  let low ← takeDigits
  let high ← if ← accept ',' then takeDigits else pure low
  if !(← accept '\x7d') then
    modify fun progress => { progress with rest }
    return none
  let least ← if low.isEmpty then pure 0 else readCount low
  if high.isEmpty then return some (least, none)
  let most ← readCount high
  if most < least then failAt .boundsOutOfOrder start
  return some (least, some most)

/-- The bounds of the loop that a token begins. -/
def readRounds (token : Token) : Read (Option (Nat × Option Nat)) := do
  match token.char with
  | '*' => return some (0, none)
  | '+' => return some (1, none)
  | '?' => return some (0, some 1)
  | _ => readBounds

/-- Replaces the last part, the first of the list, by a loop over it. -/
def repeatLast (token : Token) (least : Nat) (most : Option Nat) :
    List Node → Read (List Node)
  | [] | .anchor _ :: _ => failAt .nothingToRepeat token.position
  | .loop _ _ _ _ :: _ => failAt .repeatedTwice token.position
  | part :: before => do
    let appetite ← do
      if ← accept '?' then pure .lazy
      else if ← accept '+' then pure .possessive
      else pure .greedy
    return .loop appetite least most part.splice :: before

end FilterScript.Pattern
