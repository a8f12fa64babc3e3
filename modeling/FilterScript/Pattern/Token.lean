import FilterScript.Pattern.Fault
import FilterScript.Pattern.Syntax
import FilterScript.Text.Word

/-! # Tokens of a pattern text

A pattern text is cut into tokens, a token being one character or a backslash with the character
behind it, and the tokens are taken from left to right. A backslash that ends the text is found as
soon as the token before it has been taken. A step of the reading takes tokens and keeps what has
been learnt about groups and flags, or it fails at a place.
-/

namespace FilterScript.Pattern

/-- One character of a pattern text, with the backslash before it if there is one. -/
structure Token where
  position : Nat
  escaped : Bool
  char : Char

namespace Token

/-- The characters of a token. -/
def text (token : Token) : List Char :=
  if token.escaped then ['\\', token.char] else [token.char]

/-- A given character without a backslash. -/
def isPlain (token : Token) (c : Char) : Bool :=
  !token.escaped && token.char == c

/-- The flag whose letter the token is. -/
def flag? (token : Token) : Option Flag :=
  if token.escaped then none else Flag.ofChar? token.char

/-- A letter without a backslash. -/
def isLetter (token : Token) : Bool :=
  !token.escaped && Text.isLetter token.char

end Token

/-- The tokens of a text from a position on, and whether a lone backslash is left at the end. -/
def tokensFrom (position : Nat) : List Char → List Token × Bool
  | [] => ([], false)
  | ['\\'] => ([], true)
  | '\\' :: c :: rest =>
    let (tokens, lone) := tokensFrom (position + 2) rest
    (⟨position, true, c⟩ :: tokens, lone)
  | c :: rest =>
    let (tokens, lone) := tokensFrom (position + 1) rest
    (⟨position, false, c⟩ :: tokens, lone)

/-- How far the reading has come, and what has been learnt about groups and flags. -/
structure Progress where
  /-- The tokens still to be read. -/
  rest : List Token
  /-- A lone backslash follows the last token. -/
  lone : Bool
  /-- The number of characters of the text. -/
  size : Nat
  /-- Flags set for the whole pattern. -/
  flags : List Flag
  /-- The groups in the order of their numbers, each with its width once it is closed. -/
  groups : List (Option Width)
  /-- The numbers of the named groups. -/
  names : List (List Char × Nat)
  /-- The least number of a group opened inside the look-behind being read. -/
  lookStart : Option Nat
  /-- Group numbers that conditions ask for, each with the first place that does. -/
  wanted : List (Nat × Nat)
  /-- The character of a name, if there is one. This does not change while a text is read. -/
  characterNamed? : String → Option Char

/-- The width of a group that is closed. -/
def Progress.widthOf (progress : Progress) (number : Nat) : Width :=
  ((progress.groups[number - 1]?).join).getD .zero

/-- A step of the reading, which may fail for good. -/
abbrev Read := EStateM ReadError Progress

/-- The position of the next token. -/
def here : Read Nat := do
  let progress ← get
  return (progress.rest.head?.map Token.position).getD progress.size

/-- A fault at a number of characters before the next token. -/
def fail {α : Type} (fault : Fault) (back : Nat) : Read α := do
  throw (.malformed fault (some ((← here) - back)))

/-- A fault at a position. -/
def failAt {α : Type} (fault : Fault) (position : Nat) : Read α :=
  throw (.malformed fault (some position))

/-- Goes on with the given tokens; a lone backslash behind them is found when none is left. -/
def goOn (rest : List Token) : Read Unit := do
  let progress ← get
  set { progress with rest }
  if rest.isEmpty && progress.lone then
    throw (.malformed .escapeAtEnd (some (progress.size - 1)))

/-- The next token. -/
def peek? : Read (Option Token) := return (← get).rest.head?

/-- The next token, which is taken. -/
def take? : Read (Option Token) := do
  match (← get).rest with
  | [] => return none
  | token :: rest =>
    goOn rest
    return some token

/-- Takes the next token if it is the given character. -/
def accept (c : Char) : Read Bool := do
  match (← get).rest with
  | [] => return false
  | token :: rest =>
    if token.isPlain c then
      goOn rest
      return true
    else
      return false

/-- Takes plain characters of one kind, at most as many as given. -/
def takeChars (kind : Char → Bool) : Nat → Read (List Char)
  | 0 => return []
  | limit + 1 => do
    match (← get).rest with
    | [] => return []
    | token :: rest =>
      if !token.escaped && kind token.char then
        goOn rest
        return token.char :: (← takeChars kind limit)
      else
        return []

/-- Takes all plain decimal digits that follow. -/
def takeDigits : Read (List Char) := do
  takeChars Char.isDigit (← get).rest.length

/-- Takes a non-empty name and the character that ends it. -/
def takeName (terminator : Char) (kind : NameKind) : Read (List Char) := do
  let (body, after) := (← get).rest.span (!·.isPlain terminator)
  let name := body.flatMap Token.text
  match after with
  | [] =>
    goOn []
    if name.isEmpty then fail (.missingName kind) 0
    else fail (.unterminatedName terminator) name.length
  | _ :: rest =>
    goOn rest
    if name.isEmpty then fail (.missingName kind) 1
    return name

/-- The value of a digit up to sixteen. -/
def digitOf (c : Char) : Nat :=
  if c.isDigit then c.toNat - '0'.toNat
  else if c.isLower then c.toNat - 'a'.toNat + 10
  else c.toNat - 'A'.toNat + 10

/-- The greatest number of decimal digits that the host reads as a number. -/
def digitLimit : Nat := 4300

/-- The number that digits stand for. -/
def numberOf (base : Nat) (digits : List Char) : Nat :=
  digits.foldl (fun total c => base * total + digitOf c) 0

end FilterScript.Pattern
