import FilterScript.Text.Quoted

/-! # Faults of a pattern text

Why a text is no pattern, and where. A place is the number of characters before it; in a text of
several lines it is given by line and column as well.
-/

namespace FilterScript.Pattern

/-- What a name in a pattern text stands for. -/
inductive NameKind where
  | group | character
  deriving DecidableEq, Repr

/-- Why a text is no pattern. -/
inductive Fault where
  | escapeAtEnd
  | incompleteEscape (text : String)
  | badEscape (text : String)
  | octalTooLarge (text : String)
  | missingName (kind : NameKind)
  | unterminatedName (terminator : Char)
  | missingNameBrace
  | unknownCharacterName (name : String)
  | badGroupName (name : String)
  | unknownGroupName (name : String)
  | redefinedGroup (name : String) (number earlier : Nat)
  | badGroupNumber
  | unknownGroup (number : Nat)
  | openGroup
  | groupOfSameLook
  | unterminatedClass
  | badRange (first last : String)
  | nothingToRepeat
  | repeatedTwice
  | boundsOutOfOrder
  | endOfPattern
  | unknownExtension (text : String)
  | unterminatedComment
  | unterminatedGroup
  | unbalanced
  | thirdBranch
  | misplacedFlags
  | localeFlag
  | mixedAlphabets
  | unknownFlag
  | missingFlag
  | missingFlagEnd
  | missingColon
  | alphabetOff
  | globalOn
  | globalOff
  | flagOnAndOff
  | lookBehindTooFar
  | lookBehindWidth
  | templateLoop (name : String)
  deriving DecidableEq, Repr

/-- The wording of a fault. -/
def Fault.message : Fault → String
  | .escapeAtEnd => "bad escape (end of pattern)"
  | .incompleteEscape text => "incomplete escape " ++ text
  | .badEscape text => "bad escape " ++ text
  | .octalTooLarge text => "octal escape value " ++ text ++ " outside of range 0-0o377"
  | .missingName .group => "missing group name"
  | .missingName .character => "missing character name"
  | .unterminatedName terminator => "missing " ++ terminator.toString ++ ", unterminated name"
  | .missingNameBrace => "missing \x7b"
  | .unknownCharacterName name => "undefined character name " ++ Text.quoted name
  | .badGroupName name => "bad character in group name " ++ Text.quoted name
  | .unknownGroupName name => "unknown group name " ++ Text.quoted name
  | .redefinedGroup name number earlier =>
    "redefinition of group name " ++ Text.quoted name ++ " as group " ++ toString number ++
      "; was group " ++ toString earlier
  | .badGroupNumber => "bad group number"
  | .unknownGroup number => "invalid group reference " ++ toString number
  | .openGroup => "cannot refer to an open group"
  | .groupOfSameLook => "cannot refer to group defined in the same lookbehind subpattern"
  | .unterminatedClass => "unterminated character set"
  | .badRange first last => "bad character range " ++ first ++ "-" ++ last
  | .nothingToRepeat => "nothing to repeat"
  | .repeatedTwice => "multiple repeat"
  | .boundsOutOfOrder => "min repeat greater than max repeat"
  | .endOfPattern => "unexpected end of pattern"
  | .unknownExtension text => "unknown extension ?" ++ text
  | .unterminatedComment => "missing ), unterminated comment"
  | .unterminatedGroup => "missing ), unterminated subpattern"
  | .unbalanced => "unbalanced parenthesis"
  | .thirdBranch => "conditional backref with more than two branches"
  | .misplacedFlags => "global flags not at the start of the expression"
  | .localeFlag => "bad inline flags: cannot use 'L' flag with a str pattern"
  | .mixedAlphabets => "bad inline flags: flags 'a', 'u' and 'L' are incompatible"
  | .unknownFlag => "unknown flag"
  | .missingFlag => "missing flag"
  | .missingFlagEnd => "missing -, : or )"
  | .missingColon => "missing :"
  | .alphabetOff => "bad inline flags: cannot turn off flags 'a', 'u' and 'L'"
  | .globalOn => "bad inline flags: cannot turn on global flag"
  | .globalOff => "bad inline flags: cannot turn off global flag"
  | .flagOnAndOff => "bad inline flags: flag turned on and off"
  | .lookBehindTooFar => "looks too much behind"
  | .lookBehindWidth => "look-behind requires fixed-width pattern"
  | .templateLoop name => "internal: unsupported template operator " ++ name

/-- Why a pattern cannot be had from a text. -/
inductive ReadError where
  /-- The text is malformed, at a place if the fault has one. -/
  | malformed (fault : Fault) (position : Option Nat)
  /-- A number of rounds exceeds what a loop can count. -/
  | countTooLarge
  /-- Flags at the start ask for two alphabets. -/
  | twoAlphabets
  /-- A number of rounds has more digits than the host reads as a number. -/
  | tooManyDigits (count : Nat)
  /-- The number of a code point exceeds what the host can count. -/
  | codeTooLarge
  deriving DecidableEq, Repr

/-- A place in a text: its position, and its line and column when the text has several lines. -/
def placeText (text : List Char) (position : Nat) : String :=
  let before := text.take position
  let place := " at position " ++ toString position
  if text.contains '\n' then
    place ++ " (line " ++ toString (before.count '\n' + 1) ++ ", column " ++
      toString ((before.reverse.takeWhile (· != '\n')).length + 1) ++ ")"
  else
    place

/-- The wording of a fault in a given text, with its place if it has one. -/
def Fault.messageIn (text : List Char) (fault : Fault) : Option Nat → String
  | none => fault.message
  | some position => fault.message ++ placeText text position

end FilterScript.Pattern
