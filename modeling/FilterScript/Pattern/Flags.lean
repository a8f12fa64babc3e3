import FilterScript.Pattern.Token

/-! # Flags of a pattern text

Letters behind an opening parenthesis and a question mark turn flags on and, behind a hyphen, off.
They hold for the whole pattern when the parenthesis closes at once, and else for what is in it.
-/

namespace FilterScript.Pattern

/-- Flags to be turned on, the first already taken, and the character that ends them. -/
def readFlagsOn : Nat → Flag → List Flag → Read (List Flag × Char)
  | 0, _, _ => fail .missingFlagEnd 0
  | fuel + 1, flag, before => do
    if flag = .locale then fail .localeFlag 0
    let on := before ++ [flag]
    if flag.isAlphabet && on.any (fun other => other.isAlphabet && other != flag) then
      fail .mixedAlphabets 0
    match ← take? with
    | none => fail .missingFlagEnd 0
    | some token =>
      if token.isPlain ')' || token.isPlain '-' || token.isPlain ':' then
        return (on, token.char)
      match token.flag? with
      | some next => readFlagsOn fuel next on
      | none =>
        fail (if token.isLetter then .unknownFlag else .missingFlagEnd) token.text.length

/-- Flags to be turned off, the first already taken, up to the colon. -/
def readFlagsOff : Nat → Flag → List Flag → Read (List Flag)
  | 0, _, _ => fail .missingColon 0
  | fuel + 1, flag, before => do
    if flag.isAlphabet then fail .alphabetOff 0
    let off := before ++ [flag]
    match ← take? with
    | none => fail .missingColon 0
    | some token =>
      if token.isPlain ':' then return off
      match token.flag? with
      | some next => readFlagsOff fuel next off
      | none => fail (if token.isLetter then .unknownFlag else .missingColon) token.text.length

/-- The first of the flags to be turned off. -/
def readFirstOff : Read Flag := do
  match ← take? with
  | none => fail .missingFlag 0
  | some token =>
    match token.flag? with
    | some flag => return flag
    | none => fail (if token.isLetter then .unknownFlag else .missingFlag) token.text.length

/-- Flags behind an opening parenthesis and a question mark. No scope means that they are set for
the whole pattern. -/
def readScope (token : Token) : Read (Option Scope) := do
  let fuel := (← get).rest.length + 1
  let (on, ending) ←
    match token.flag? with
    | some flag => readFlagsOn fuel flag []
    | none => pure ([], '-')
  if ending = ')' then
    modify fun progress => { progress with flags := progress.flags ++ on }
    return none
  if on.contains .template then fail .globalOn 1
  let off ← if ending = '-' then readFlagsOff fuel (← readFirstOff) [] else pure []
  if off.contains .template then fail .globalOff 1
  if on.any off.contains then fail .flagOnAndOff 1
  return some ⟨on, off⟩

end FilterScript.Pattern
