import FilterScript.Pattern.ClassReader
import FilterScript.Pattern.Flags
import FilterScript.Pattern.Rounds

/-! # Reading a pattern

A sequence of parts ends at a bar, at a closing parenthesis or with the text; what opens with a
parenthesis is read by the same rules inside. Faults are found in the order of the text; those that
concern the pattern as a whole are found at the end, in the order of its parts. Every step takes a
token or descends from one, so a multiple of the number of tokens bounds the depth of the reading.
-/

namespace FilterScript.Pattern

/-- Takes tokens through a closing parenthesis. -/
def skipComment (start : Nat) : Read Unit := do
  match (← get).rest.dropWhile (!·.isPlain ')') with
  | [] =>
    goOn []
    failAt .unterminatedComment start
  | _ :: rest => goOn rest

/-- Takes tokens through the end of the line. -/
def skipLine : Read Unit := do
  goOn ((← get).rest.dropWhile (!·.isPlain '\n')).tail

/-- Takes the parenthesis that closes the one at `start`. -/
def closeParenthesis (start : Nat) : Read Unit := do
  if !(← accept ')') then failAt .unterminatedGroup start

/-- Characters that a verbose pattern may be laid out with. -/
def isLayout (c : Char) : Bool :=
  c == ' ' || ('\t' ≤ c && c ≤ '\r')

/-- What an opening parenthesis led to: a part, or only a change of how the rest is read. -/
inductive Opened where
  | part (node : Node)
  | nothing (verbose : Bool)

mutual

/-- Alternatives up to a closing parenthesis or the end. -/
def readAlternation : Nat → Bool → Bool → Read (List Node)
  | 0, _, _ => return []
  | fuel + 1, verbose, top => do
    let first ← readSequence fuel verbose top []
    readAlternatives fuel verbose top [first]
termination_by structural fuel => fuel

/-- Further alternatives, each behind a bar. -/
def readAlternatives : Nat → Bool → Bool → List (List Node) → Read (List Node)
  | 0, _, _, read => return alternation read
  | fuel + 1, verbose, top, read => do
    if ← accept '|' then
      let flags := (← get).flags
      let verbose := if top then flags.contains .verbose else verbose
      let next ← readSequence fuel verbose false []
      readAlternatives fuel verbose top (read ++ [next])
    else
      return alternation read
termination_by structural fuel => fuel

/-- Parts up to a bar, a closing parenthesis or the end. The parts already read are given, the last
one first. Flags for the whole pattern are admitted only at its start. -/
def readSequence : Nat → Bool → Bool → List Node → Read (List Node)
  | 0, _, _, parts => return parts.reverse.flatMap Node.splice
  | fuel + 1, verbose, atStart, parts => do
    match ← peek? with
    | none => return parts.reverse.flatMap Node.splice
    | some token =>
      if token.isPlain '|' || token.isPlain ')' then
        return parts.reverse.flatMap Node.splice
      goOn (← get).rest.tail
      if token.escaped then
        readSequence fuel verbose atStart ((← readEscape token) :: parts)
      else if verbose && isLayout token.char then
        readSequence fuel verbose atStart parts
      else if verbose && token.char == '#' then
        skipLine
        readSequence fuel verbose atStart parts
      else
        match token.char with
        | '[' => readSequence fuel verbose atStart ((← readClass token.position) :: parts)
        | '.' => readSequence fuel verbose atStart (.one .any :: parts)
        | '^' => readSequence fuel verbose atStart (.anchor .lineStart :: parts)
        | '$' => readSequence fuel verbose atStart (.anchor .lineEnd :: parts)
        | '(' =>
          match ← readGroup fuel verbose (atStart && parts.isEmpty) token.position with
          | .part node => readSequence fuel verbose atStart (node :: parts)
          | .nothing verbose => readSequence fuel verbose atStart parts
        | c =>
          if c = '*' || c = '+' || c = '?' || c = '\x7b' then
            match ← readRounds token with
            | some (least, most) =>
              readSequence fuel verbose atStart (← repeatLast token least most parts)
            | none => readSequence fuel verbose atStart (.one (.point false c.toNat) :: parts)
          else
            readSequence fuel verbose atStart (.one (.point false c.toNat) :: parts)
termination_by structural fuel => fuel

/-- What stands behind the opening parenthesis at `start`. -/
def readGroup : Nat → Bool → Bool → Nat → Read Opened
  | 0, verbose, _, _ => return .nothing verbose
  | fuel + 1, verbose, atStart, start => do
    if !(← accept '?') then
      return .part (← readCaptured fuel verbose start none)
    match ← take? with
    | none => fail .endOfPattern 0
    | some token =>
      if token.isPlain 'P' then
        if ← accept '<' then
          let name ← takeName '>' .group
          checkName name
          return .part (← readCaptured fuel verbose start (some name))
        else if ← accept '=' then
          let name ← takeName ')' .group
          checkName name
          let number ← numberOfName name
          if !(← isClosed number) then fail .openGroup (name.length + 1)
          checkLookBehind number
          return .part (.recall number ((← get).widthOf number))
        else
          match ← take? with
          | none => fail .endOfPattern 0
          | some next =>
            fail (.unknownExtension (String.ofList ('P' :: next.text))) (next.text.length + 2)
      else if token.isPlain ':' then
        return .part (.group none .plain (← readBody fuel verbose start))
      else if token.isPlain '#' then
        skipComment start
        return .nothing verbose
      else if token.isPlain '=' || token.isPlain '!' then
        return .part (.look none (token.char == '!') (← readBody fuel verbose start))
      else if token.isPlain '<' then
        readLookBehind fuel verbose start
      else if token.isPlain '(' then
        let number ← readCondition
        let present ← readSequence fuel verbose false []
        let absent ←
          if ← accept '|' then
            let absent ← readSequence fuel verbose false []
            if (← peek?).any (·.isPlain '|') then fail .thirdBranch 0
            pure absent
          else
            pure []
        closeParenthesis start
        return .part (.ifGroup number present absent)
      else if token.isPlain '>' then
        return .part (.atomic (← readBody fuel verbose start))
      else if token.flag?.isSome || token.isPlain '-' then
        match ← readScope token with
        | none =>
          if !atStart then failAt .misplacedFlags start
          return .nothing ((← get).flags.contains .verbose)
        | some scope =>
          let verbose :=
            (verbose || scope.on.contains .verbose) && !scope.off.contains .verbose
          return .part (.group none scope (← readBody fuel verbose start))
      else
        fail (.unknownExtension (String.ofList token.text)) (token.text.length + 1)
termination_by structural fuel => fuel

/-- Alternatives and the parenthesis that closes the one at `start`. -/
def readBody : Nat → Bool → Nat → Read (List Node)
  | 0, _, _ => return []
  | fuel + 1, verbose, start => do
    let body ← readAlternation fuel verbose false
    closeParenthesis start
    return body
termination_by structural fuel => fuel

/-- The body of a group that captures. -/
def readCaptured : Nat → Bool → Nat → Option (List Char) → Read Node
  | 0, _, _, _ => return .group none .plain []
  | fuel + 1, verbose, start, name => do
    let number ← openGroup name
    let body ← readBody fuel verbose start
    closeGroup number body
    return .group (some number) .plain body
termination_by structural fuel => fuel

/-- A look to the left. While it is read, groups opened inside it may not be asked for. -/
def readLookBehind : Nat → Bool → Nat → Read Opened
  | 0, verbose, _ => return .nothing verbose
  | fuel + 1, verbose, start => do
    match ← take? with
    | none => fail .endOfPattern 0
    | some token =>
      if !(token.isPlain '=' || token.isPlain '!') then
        fail (.unknownExtension (String.ofList ('<' :: token.text))) (token.text.length + 2)
      let outer := (← get).lookStart
      modify fun progress =>
        { progress with lookStart := outer <|> some (progress.groups.length + 1) }
      let body ← readAlternation fuel verbose false
      modify fun progress => { progress with lookStart := outer }
      closeParenthesis start
      return .part (.look (some (sequenceWidth body)) (token.char == '!') body)
termination_by structural fuel => fuel

end

/-- The word for a loop in a pattern that admits none. -/
def Appetite.word : Appetite → String
  | .greedy => "MAX_REPEAT"
  | .lazy => "MIN_REPEAT"
  | .possessive => "POSSESSIVE_REPEAT"

/-- Why a pattern of the given width cannot be looked for behind a place. -/
def Width.lookFault? (width : Width) : Option Fault :=
  if lookLimit < width.least then some .lookBehindTooFar
  else if width.most ≠ some width.least then some .lookBehindWidth
  else none

mutual

/-- The first fault of a part that shows only when the whole pattern is known. -/
def Node.fault? (template : Bool) : Node → Option Fault
  | .one _ => none
  | .anchor _ => none
  | .group _ _ body => sequenceFault? template body
  | .choice alternatives => choiceFault? template alternatives
  | .loop appetite _ _ body =>
    if template then some (.templateLoop appetite.word)
    else sequenceFault? template body
  | .atomic body => sequenceFault? template body
  | .look behind _ body =>
    behind.bind Width.lookFault? <|> sequenceFault? template body
  | .recall _ _ => none
  | .ifGroup _ present absent =>
    sequenceFault? template present <|> sequenceFault? template absent

/-- The first fault of the parts of a sequence. -/
def sequenceFault? (template : Bool) : List Node → Option Fault
  | [] => none
  | part :: rest => part.fault? template <|> sequenceFault? template rest

/-- The first fault of the alternatives of a choice. -/
def choiceFault? (template : Bool) : List (List Node) → Option Fault
  | [] => none
  | first :: rest => sequenceFault? template first <|> choiceFault? template rest

end

end Pattern

/-- A sequence of parts with the flags that hold for all of it. -/
structure Pattern where
  body : List Pattern.Node
  flags : List Pattern.Flag

namespace Pattern

/-- The whole text as a pattern. -/
def readWhole : Read Pattern := do
  goOn (← get).rest
  let fuel := 6 * (← get).rest.length + 6
  let body ← readAlternation fuel false true
  let progress ← get
  if progress.flags.contains .ascii && progress.flags.contains .unicode then throw .twoAlphabets
  if !progress.rest.isEmpty then fail .unbalanced 0
  match progress.wanted.find? fun entry => progress.groups.length < entry.1 with
  | some (number, place) => failAt (.unknownGroup number) place
  | none =>
    match sequenceFault? (progress.flags.contains .template) body with
    | some fault => throw (.malformed fault none)
    | none => return ⟨body, progress.flags⟩

/-- The reading of a text before its first step. -/
def Progress.ofText (characterNamed? : String → Option Char) (text : List Char) : Progress where
  rest := (tokensFrom 0 text).1
  lone := (tokensFrom 0 text).2
  size := text.length
  flags := []
  groups := []
  names := []
  lookStart := none
  wanted := []
  characterNamed? := characterNamed?

/-- The pattern of a text, in which characters may be given by name. -/
def ofText (characterNamed? : String → Option Char) (text : List Char) :
    Except ReadError Pattern :=
  match readWhole.run (.ofText characterNamed? text) with
  | .ok pattern _ => .ok pattern
  | .error error _ => .error error

end Pattern

end FilterScript
