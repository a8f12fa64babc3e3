import FilterScript.Pattern.Matching
import FilterScript.Pattern.Reader

/-! # Searching

A pattern is found in a text when it matches from some place on; the places are tried from left to
right. A pattern that has to begin with a class is tried only where the next character is in that
class, and there the class is taken under the flags of the whole pattern, whatever scope it stands
in.
-/

namespace FilterScript.Pattern

mutual

/-- The class that a part begins with. A class that case makes a difference to is not given. -/
def Node.leadingClass? (flags : List Flag) : Node → Option CharTest
  | .one (.oneOf negated items) =>
    if flags.contains .ignoreCase && items.any (·.isCased (flags.contains .ascii)) then none
    else some (.oneOf negated items)
  | .group _ scope body => sequenceLeadingClass? (scope.apply flags) body
  | _ => none

/-- The class that a sequence begins with. -/
def sequenceLeadingClass? (flags : List Flag) : List Node → Option CharTest
  | [] => none
  | part :: _ => part.leadingClass? flags

end

/-- The pattern matches from a place on. -/
def matchesAt (pattern : Pattern) (cursor : Cursor) : Bool :=
  (sequenceMatcher pattern.flags pattern.body cursor some).isSome

/-- The pattern is tried at a place: it has no leading class, or the next character is in it. -/
def isTriedAt (pattern : Pattern) (cursor : Cursor) : Bool :=
  match sequenceLeadingClass? pattern.flags pattern.body with
  | none => true
  | some test => cursor.ahead.head?.any (test.accepts (pattern.flags.filter (· != .ignoreCase)))

/-- The pattern matches from a place of the rest of a text on. -/
def foundFrom (pattern : Pattern) (behind : List Char) (offset : Nat) : List Char → Bool
  | [] => pattern.isTriedAt ⟨behind, [], offset, []⟩ && pattern.matchesAt ⟨behind, [], offset, []⟩
  | c :: rest =>
    (pattern.isTriedAt ⟨behind, c :: rest, offset, []⟩ &&
        pattern.matchesAt ⟨behind, c :: rest, offset, []⟩) ||
      foundFrom pattern (c :: behind) (offset + 1) rest

/-- The pattern matches from some place of the text on. -/
def foundIn (pattern : Pattern) (text : String) : Bool :=
  pattern.foundFrom [] 0 text.toList

end FilterScript.Pattern
