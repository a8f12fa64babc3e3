import FilterScript.Pattern.Letter

/-! # Matching

A cursor is a place in a text together with what the groups hold. To match is to move a cursor
along and to hand it to what comes after; when that refuses, the next way to match is tried. So a
sequence is a composition, a choice tries its alternatives in order, and nothing has to be undone,
because a cursor is a value. A round of a loop that takes no character ends the loop, therefore a
loop has at most one round more than there are characters ahead, beyond the rounds it owes.
-/

namespace FilterScript.Pattern

/-- What a group holds: where it was last opened, the text from there on, and where it was last
closed. -/
structure Holding where
  start : Nat
  ahead : List Char
  stop : Option Nat

/-- A place in a text, and the holdings of the groups. -/
structure Cursor where
  /-- The characters before the place, the nearest first. -/
  behind : List Char
  /-- The characters after the place. -/
  ahead : List Char
  /-- The number of characters before the place. -/
  offset : Nat
  held : List (Nat × Holding)

namespace Cursor

/-- The place before a text. -/
def atStart (text : List Char) : Cursor := ⟨[], text, 0, []⟩

/-- One character forward, over a character that meets a condition. -/
def step? (accepted : Char → Bool) (cursor : Cursor) : Option Cursor :=
  match cursor.ahead with
  | [] => none
  | c :: rest =>
    if accepted c then
      some { cursor with behind := c :: cursor.behind, ahead := rest, offset := cursor.offset + 1 }
    else
      none

/-- Over a text, character by character. -/
def follow? (same : Char → Char → Bool) : List Char → Cursor → Option Cursor
  | [], cursor => some cursor
  | c :: rest, cursor => (cursor.step? (same c)).bind (follow? same rest)

/-- A number of characters back, if there are as many. -/
def back? : Nat → Cursor → Option Cursor
  | 0, cursor => some cursor
  | count + 1, cursor =>
    match cursor.behind with
    | [] => none
    | c :: rest =>
      back? count
        { cursor with behind := rest, ahead := c :: cursor.ahead, offset := cursor.offset - 1 }

/-- The holding of a group. -/
def holding? (number : Nat) (cursor : Cursor) : Option Holding :=
  cursor.held.lookup number

/-- The cursor with another holding of a group. -/
def hold (number : Nat) (holding : Holding) (cursor : Cursor) : Cursor :=
  { cursor with held := (number, holding) :: cursor.held.filter (·.1 != number) }

/-- Opens a group here. It keeps the place where it was last closed. -/
def openGroup (number : Nat) (cursor : Cursor) : Cursor :=
  cursor.hold number
    ⟨cursor.offset, cursor.ahead, (cursor.holding? number).bind Holding.stop⟩

/-- Closes a group here. -/
def closeGroup (number : Nat) (cursor : Cursor) : Cursor :=
  match cursor.holding? number with
  | some holding => cursor.hold number { holding with stop := some cursor.offset }
  | none => cursor

/-- The text of a group that was last closed no earlier than it was last opened. -/
def heldText? (number : Nat) (cursor : Cursor) : Option (List Char) :=
  (cursor.holding? number).bind fun holding =>
    holding.stop.bind fun stop =>
      if holding.start ≤ stop then some (holding.ahead.take (stop - holding.start)) else none

/-- Exactly one of the two neighbours of the place is a word character. -/
def betweenWords (flags : List Flag) (cursor : Cursor) : Bool :=
  let isWord := Category.word.contains (flags.contains .ascii)
  cursor.behind.head?.any isWord != cursor.ahead.head?.any isWord

/-- The place meets a condition. A text without characters has neither a word boundary nor an inside
of a word. -/
def meets (flags : List Flag) (cursor : Cursor) : Anchor → Bool
  | .lineStart =>
    cursor.behind.isEmpty || (flags.contains .multiline && cursor.behind.head? == some '\n')
  | .lineEnd =>
    cursor.ahead.isEmpty || cursor.ahead == ['\n'] ||
      (flags.contains .multiline && cursor.ahead.head? == some '\n')
  | .textStart => cursor.behind.isEmpty
  | .textEnd => cursor.ahead.isEmpty
  | .wordBoundary =>
    !(cursor.behind.isEmpty && cursor.ahead.isEmpty) && cursor.betweenWords flags
  | .insideWord =>
    !(cursor.behind.isEmpty && cursor.ahead.isEmpty) && !cursor.betweenWords flags

end Cursor

/-- A way to move a cursor along: the cursor, and what takes it from there. -/
abbrev Matcher := Cursor → (Cursor → Option Cursor) → Option Cursor

namespace Matcher

/-- The body exactly as many times as given. -/
def times (body : Matcher) : Nat → Matcher
  | 0, cursor, next => next cursor
  | count + 1, cursor, next => body cursor fun reached => times body count reached next

/-- At most as many rounds as given, another one being tried before going on. -/
def greedy (body : Matcher) : Nat → Matcher
  | 0, cursor, next => next cursor
  | rounds + 1, cursor, next =>
    (body cursor fun reached =>
      if reached.offset = cursor.offset then next reached
      else greedy body rounds reached next) <|> next cursor

/-- At most as many rounds as given, going on being tried before another one. -/
def lazy (body : Matcher) : Nat → Matcher
  | 0, cursor, next => next cursor
  | rounds + 1, cursor, next =>
    next cursor <|> body cursor fun reached =>
      if reached.offset = cursor.offset then next reached
      else lazy body rounds reached next

/-- The first way in which the body matches. -/
def first? (body : Matcher) (cursor : Cursor) : Option Cursor := body cursor some

/-- The body exactly as many times as given, each time in its first way. -/
def firstTimes? (body : Matcher) : Nat → Cursor → Option Cursor
  | 0, cursor => some cursor
  | count + 1, cursor => (body.first? cursor).bind (firstTimes? body count)

/-- As many rounds as possible up to the given number, each in its first way. -/
def firstRounds (body : Matcher) : Nat → Cursor → Cursor
  | 0, cursor => cursor
  | rounds + 1, cursor =>
    match body.first? cursor with
    | none => cursor
    | some reached =>
      if reached.offset = cursor.offset then reached else firstRounds body rounds reached

/-- The rounds that a loop may add to those it owes, as far as they can matter. -/
def spare (least : Nat) (most : Option Nat) (cursor : Cursor) : Nat :=
  match most with
  | none => cursor.ahead.length + 1
  | some most => min (most - least) (cursor.ahead.length + 1)

/-- Rounds of the body between two bounds. -/
def loop (appetite : Appetite) (least : Nat) (most : Option Nat) (body : Matcher) : Matcher :=
  fun cursor next =>
    match appetite with
    | .greedy =>
      body.times least cursor fun reached => body.greedy (spare least most reached) reached next
    | .lazy =>
      body.times least cursor fun reached => body.lazy (spare least most reached) reached next
    | .possessive =>
      (body.firstTimes? least cursor).bind fun reached =>
        next (body.firstRounds (spare least most reached) reached)

/-- A look at the text without moving: what the groups hold afterwards stays, unless the look was to
find nothing. Where there are too few characters to look back over, nothing is found. -/
def look (behind : Option Width) (negated : Bool) (body : Matcher) : Matcher :=
  fun cursor next =>
    let found :=
      match behind with
      | none => body.first? cursor
      | some width => (cursor.back? width.least).bind body.first?
    match found with
    | some reached => if negated then none else next { cursor with held := reached.held }
    | none => if negated then next cursor else none

end Matcher

mutual

/-- The matcher of a part under the given flags. -/
def Node.matcher (flags : List Flag) : Node → Matcher
  | .one test => fun cursor next => (cursor.step? (test.accepts flags)).bind next
  | .anchor place => fun cursor next => if cursor.meets flags place then next cursor else none
  | .group none scope body => sequenceMatcher (scope.apply flags) body
  | .group (some number) scope body => fun cursor next =>
    sequenceMatcher (scope.apply flags) body (cursor.openGroup number) fun reached =>
      next (reached.closeGroup number)
  | .choice alternatives => choiceMatcher flags alternatives
  | .loop appetite least most body => Matcher.loop appetite least most (sequenceMatcher flags body)
  | .atomic body => fun cursor next => ((sequenceMatcher flags body).first? cursor).bind next
  | .look behind negated body => Matcher.look behind negated (sequenceMatcher flags body)
  | .recall number _ => fun cursor next =>
    let narrow := flags.contains .ascii
    let same (a b : Char) : Bool :=
      if flags.contains .ignoreCase then lowerOf narrow a.toNat == lowerOf narrow b.toNat
      else a == b
    (cursor.heldText? number).bind fun text => (cursor.follow? same text).bind next
  | .ifGroup number present absent => fun cursor next =>
    if (cursor.heldText? number).isSome then sequenceMatcher flags present cursor next
    else sequenceMatcher flags absent cursor next

/-- The matcher of a sequence: each part takes the cursor from the one before it. -/
def sequenceMatcher (flags : List Flag) : List Node → Matcher
  | [], cursor, next => next cursor
  | part :: rest, cursor, next =>
    part.matcher flags cursor fun reached => sequenceMatcher flags rest reached next

/-- The matcher of a choice: the alternatives in order. -/
def choiceMatcher (flags : List Flag) : List (List Node) → Matcher
  | [], _, _ => none
  | first :: rest, cursor, next =>
    sequenceMatcher flags first cursor next <|> choiceMatcher flags rest cursor next

end

end FilterScript.Pattern
