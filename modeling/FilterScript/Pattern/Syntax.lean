import FilterScript.Pattern.Width

/-! # Patterns

A pattern is a sequence of parts. A part stands for one character, for a condition on a place of the
text, or is built from further sequences: a group, a choice, a loop, a look to either side. Groups
that capture are numbered from one in the order of their opening, and parts behind them may recall
what a group holds or ask whether it holds anything.
-/

namespace FilterScript.Pattern

/-- Options that a pattern may turn on or off inside itself. -/
inductive Flag where
  | ignoreCase | multiline | dotAll | verbose | ascii | unicode | template | locale
  deriving DecidableEq, Repr

namespace Flag

/-- The letter of a flag. -/
def ofChar? : Char → Option Flag
  | 'i' => some .ignoreCase
  | 'm' => some .multiline
  | 's' => some .dotAll
  | 'x' => some .verbose
  | 'a' => some .ascii
  | 'u' => some .unicode
  | 't' => some .template
  | 'L' => some .locale
  | _ => none

/-- Flags that say which characters count as letters, digits and blanks; at most one is in force. -/
def isAlphabet : Flag → Bool
  | .ascii | .unicode | .locale => true
  | _ => false

end Flag

/-- Flags turned on and off for a part of a pattern. -/
structure Scope where
  on : List Flag
  off : List Flag
  deriving DecidableEq, Repr

namespace Scope

/-- A scope that changes nothing. -/
def plain : Scope := ⟨[], []⟩

/-- The flags inside a scope. Naming an alphabet replaces the one in force. -/
def apply (scope : Scope) (flags : List Flag) : List Flag :=
  let kept := if scope.on.any Flag.isAlphabet then flags.filter (!·.isAlphabet) else flags
  (kept ++ scope.on).filter (!scope.off.contains ·)

end Scope

/-- A named kind of character. -/
inductive Category where
  | digit | blank | word
  deriving DecidableEq, Repr

/-- One entry of a character class. -/
inductive ClassItem where
  | point (code : Nat)
  | range (first last : Nat)
  | category (kind : Category) (negated : Bool)
  deriving DecidableEq, Repr

/-- A condition on one character. -/
inductive CharTest where
  /-- Any character, line ends only where a flag admits them. -/
  | any
  /-- One code point, or any other one. -/
  | point (negated : Bool) (code : Nat)
  /-- A character that some item takes, or that none does. -/
  | oneOf (negated : Bool) (items : List ClassItem)
  deriving DecidableEq, Repr

/-- A condition on a place of the text. -/
inductive Anchor where
  | lineStart | lineEnd | textStart | textEnd | wordBoundary | insideWord
  deriving DecidableEq, Repr

/-- How a loop chooses its number of rounds: as many as possible first, as few as possible first, or
as many as possible and never fewer. -/
inductive Appetite where
  | greedy | lazy | possessive
  deriving DecidableEq, Repr

/-- One part of a pattern. -/
inductive Node where
  | one (test : CharTest)
  | anchor (place : Anchor)
  /-- A group, captured when it has a number. -/
  | group (number : Option Nat) (scope : Scope) (body : List Node)
  /-- The alternatives in order of preference. -/
  | choice (alternatives : List (List Node))
  /-- Rounds of the body, without a greatest number when `most` is absent. -/
  | loop (appetite : Appetite) (least : Nat) (most : Option Nat) (body : List Node)
  /-- The first way in which the body matches, and no other. -/
  | atomic (body : List Node)
  /-- The body matches from here on or, when its width is given, up to here; or it does not. -/
  | look (behind : Option Width) (negated : Bool) (body : List Node)
  /-- What a group of the given width holds, once more. -/
  | recall (number : Nat) (width : Width)
  /-- One of two sequences, by whether a group holds anything. -/
  | ifGroup (number : Nat) (present absent : List Node)

namespace Node

/-- Two parts are surely alike: both are the same condition on a character or a place, or recall the
same group. -/
def alike : Node → Node → Bool
  | .one a, .one b => a == b
  | .anchor a, .anchor b => a == b
  | .recall a _, .recall b _ => a == b
  | _, _ => false

/-- A part that stands for one character as items of a class. -/
def classItems? : Node → Option (List ClassItem)
  | .one (.point false code) => some [.point code]
  | .one (.oneOf false items) => some items
  | _ => none

/-- A group that neither captures nor changes a flag is its body. -/
def splice : Node → List Node
  | .group none scope body => if scope = .plain then body else [.group none scope body]
  | part => [part]

end Node

/-- The parts with which all alternatives begin, and what is left of each. -/
def commonStart : List Node → List (List Node) → List Node × List (List Node)
  | [], others => ([], [] :: others)
  | part :: rest, others =>
    if others.all fun other => other.head?.any part.alike then
      let (start, remaining) := commonStart rest (others.map List.tail)
      (part :: start, remaining)
    else
      ([], (part :: rest) :: others)

/-- The items of all alternatives, when each of them is a single class. -/
def mergedClass? (alternatives : List (List Node)) : Option (List ClassItem) :=
  (alternatives.mapM fun
    | [part] => Node.classItems? part
    | _ => none).map List.flatten

/-- A choice between sequences. What all alternatives begin with is taken out, and alternatives of
one character each become one class. -/
def alternation : List (List Node) → List Node
  | [] => []
  | [only] => only
  | first :: others =>
    let (start, remaining) := commonStart first others
    match mergedClass? remaining with
    | some items => start ++ [.one (.oneOf false items.eraseDups)]
    | none => start ++ [.choice remaining]

mutual

/-- The width of a part. -/
def Node.width : Node → Width
  | .one _ => .one
  | .anchor _ => .zero
  | .group _ _ body => sequenceWidth body
  | .choice alternatives => (choiceWidth? alternatives).getD .zero
  | .loop _ least most body => (sequenceWidth body).times least most
  | .atomic body => sequenceWidth body
  | .look _ _ _ => .zero
  | .recall _ width => width
  | .ifGroup _ present absent => (sequenceWidth present).either (sequenceWidth absent)

/-- The width of a sequence is the sum of the widths of its parts. -/
def sequenceWidth : List Node → Width
  | [] => .zero
  | part :: rest => part.width.add (sequenceWidth rest)

/-- The bounds over all alternatives, if there are any. -/
def choiceWidth? : List (List Node) → Option Width
  | [] => none
  | first :: rest =>
    let width := sequenceWidth first
    some (match choiceWidth? rest with
      | some others => width.either others
      | none => width)

end

end FilterScript.Pattern
