import FilterScript.Proofs.SearchFailure
import FilterScript.Proofs.TextRelations

/-! # Patterns of ordinary characters

A text without marks is a pattern, and its parts are its characters, each a condition on one
character (`Pattern.ofText_plain`). Such a pattern matches from a place on exactly when the text
goes on with these characters there, so to find it is to find the text
(`Pattern.foundIn_characters`). Whatever is searched for with such a pattern is therefore what the
relation `~=` looks for, and the search never fails (`Builtin.search_plain`). -/

namespace FilterScript

namespace Pattern

/-- Characters one after the other, as parts of a pattern. -/
def characters (chars : List Char) : List Node := chars.map fun c => .one (.point false c.toNat)

/-! ## Reading -/

/-- Characters are not taken apart when they are spliced. -/
theorem splice_characters (chars : List Char) :
    (characters chars).flatMap Node.splice = characters chars := by
  induction chars with
  | nil => rfl
  | cons c chars ih => exact congrArg (_ :: ·) ih

theorem peek?_of_nil {progress : Progress} (ends : progress.rest = []) :
    peek? progress = .ok none progress := by
  rw [peek?, bind_of_ok (get_apply progress), ends, pure_apply]
  rfl

theorem accept_of_nil {progress : Progress} (ends : progress.rest = []) (c : Char) :
    accept c progress = .ok false progress := by
  rw [accept, bind_of_ok (get_apply progress), ends]
  rfl

/-- Ordinary characters up to the end of the text are read as themselves. -/
theorem readSequence_plain {chars : List Char} (ordinary : ∀ c ∈ chars, isOrdinary c = true)
    {fuel : ℕ} (enough : chars.length < fuel) {position : ℕ} {progress : Progress}
    (whole : progress.lone = false) (ahead : progress.rest = plainTokens position chars)
    (atStart : Bool) (parts : List Node) :
    readSequence fuel false atStart parts progress =
      .ok ((parts.reverse ++ characters chars).flatMap Node.splice)
        { progress with rest := [] } := by
  induction chars generalizing fuel position progress parts with
  | nil =>
      cases fuel with
      | zero => cases enough
      | succ fuel =>
          have same : progress = { progress with rest := [] } :=
            congrArg (fun rest => { progress with rest := rest }) ahead
          rw [readSequence, bind_of_ok (peek?_of_nil ahead), characters, List.map_nil,
            List.append_nil]
          exact congrArg _ same
  | cons c chars ih =>
      obtain ⟨here, others⟩ := List.forall_mem_cons.mp ordinary
      cases fuel with
      | zero => cases enough
      | succ fuel =>
          let next : Progress := { progress with rest := plainTokens (position + 1) chars }
          have stands : progress.rest = ⟨position, false, c⟩ :: next.rest := ahead
          have stillWhole : next.lone = false := whole
          rw [readSequence_ordinary stands rfl here fun _ => whole,
            ih others (Nat.lt_of_succ_lt_succ enough) stillWhole rfl, List.reverse_cons,
            List.append_assoc]
          rfl

/-- Characters have no fault. -/
theorem sequenceFault?_characters (template : Bool) (chars : List Char) :
    sequenceFault? template (characters chars) = none := by
  induction chars with
  | nil => rfl
  | cons c chars ih => exact ih

/-- **A text of ordinary characters is the pattern of its characters.** -/
theorem ofText_plain {characterNamed? : String → Option Char} {chars : List Char}
    (ordinary : ∀ c ∈ chars, isOrdinary c = true) :
    ofText characterNamed? chars = .ok ⟨characters chars, []⟩ := by
  have tokens : tokensFrom 0 chars = (plainTokens 0 chars, false) := by
    have split := tokensFrom_plain (ne_backslash_of_isOrdinary ordinary) 0 []
    rw [List.append_nil] at split
    rw [split, tokensFrom, List.append_nil]
  let start : Progress := .ofText characterNamed? chars
  have ahead : start.rest = plainTokens 0 chars := congrArg Prod.fst tokens
  have stillWhole : start.lone = false := congrArg Prod.snd tokens
  let done : Progress := { start with rest := [] }
  have enough : chars.length < 6 * start.rest.length + 5 := by
    rw [ahead, length_plainTokens]
    omega
  have sequence : readSequence (6 * start.rest.length + 5) false true [] start =
      .ok (characters chars) done := by
    rw [readSequence_plain ordinary enough stillWhole ahead, List.reverse_nil, List.nil_append,
      splice_characters]
  have alternatives : readAlternatives (6 * start.rest.length + 5) false true [characters chars]
      done = .ok (characters chars) done := by
    rw [readAlternatives, bind_of_ok (accept_of_nil rfl '|')]
    rfl
  have body : readAlternation (6 * start.rest.length + 6) false true start =
      .ok (characters chars) done := by
    rw [readAlternation, bind_of_ok sequence, alternatives]
  have whole : readWhole start = .ok ⟨characters chars, []⟩ done := by
    rw [readWhole, bind_of_ok (get_apply start), bind_of_ok (goOn_apply fun _ => stillWhole),
      bind_of_ok (get_apply start), bind_of_ok body, bind_of_ok (get_apply done)]
    have noFault : sequenceFault? (([] : List Flag).contains .template) (characters chars) = none :=
      sequenceFault?_characters _ chars
    simp only [done, start, Progress.ofText, List.contains_nil, Bool.and_false, Bool.false_eq_true,
      ↓reduceIte, List.isEmpty_nil, Bool.not_true, List.find?_nil, List.length_nil] at noFault ⊢
    rw [noFault]
    rfl
  unfold ofText EStateM.run
  rw [show readWhole (.ofText characterNamed? chars) = .ok ⟨characters chars, []⟩ done from whole]

/-! ## Matching -/

/-- Case regarded, a character is met by itself alone. -/
theorem accepts_point (c d : Char) : CharTest.accepts [] (.point false c.toNat) d = (c == d) := by
  have codes : (d.toNat == c.toNat) = (c == d) := by
    rw [Bool.beq_eq_decide_eq, Bool.beq_eq_decide_eq, decide_eq_decide, Char.toNat_inj, eq_comm]
  rw [← codes]
  exact Bool.bne_false _

/-- Characters match from a place on when the text goes on with them. -/
theorem matchesAt_characters (chars : List Char) (cursor : Cursor) :
    matchesAt ⟨characters chars, []⟩ cursor = chars.isPrefixOf cursor.ahead := by
  unfold matchesAt
  induction chars generalizing cursor with
  | nil => rfl
  | cons c chars ih =>
      have step : sequenceMatcher [] (characters (c :: chars)) cursor some =
          (cursor.step? (CharTest.accepts [] (.point false c.toNat))).bind fun reached =>
            sequenceMatcher [] (characters chars) reached some := rfl
      simp only at ih ⊢
      rw [step, Cursor.step?]
      cases ahead : cursor.ahead with
      | nil => rfl
      | cons d rest =>
          simp only [accepts_point, List.isPrefixOf_cons_cons]
          by_cases same : c == d
          · simp only [same, ↓reduceIte, Option.bind_some, ih, Bool.true_and]
          · simp only [same, Bool.false_eq_true, ↓reduceIte, Option.bind_none, Option.isSome_none,
              Bool.false_and]

/-- Characters are no class, so they are tried everywhere. -/
theorem isTriedAt_characters (chars : List Char) (cursor : Cursor) :
    isTriedAt ⟨characters chars, []⟩ cursor = true := by
  cases chars with
  | nil => rfl
  | cons c chars => rfl

/-- **Characters are found where they occur as a text.** -/
theorem foundFrom_characters (chars behind : List Char) (offset : ℕ) (text : List Char) :
    foundFrom ⟨characters chars, []⟩ behind offset text = occursIn chars text := by
  induction text generalizing behind offset with
  | nil =>
      rw [foundFrom, isTriedAt_characters, matchesAt_characters, Bool.true_and, occursIn]
      cases chars with
      | nil => rfl
      | cons c chars => rfl
  | cons c text ih =>
      rw [foundFrom, isTriedAt_characters, matchesAt_characters, ih, Bool.true_and, occursIn]

/-- Characters are found in a text where they occur in it. -/
theorem foundIn_characters (chars : List Char) (text : String) :
    foundIn ⟨characters chars, []⟩ text = occursIn chars text.toList :=
  foundFrom_characters chars [] 0 text.toList

end Pattern

namespace Builtin

open Pattern

variable {H : Extension}

/-- **A search for ordinary characters is the relation `~=`.** It never fails and leaves the state
alone, and it finds what is a part of the rendering of the value. -/
theorem search_plain (value text : Value) (state : State H)
    (plain : ∀ c ∈ text.render.toList, isOrdinary c = true) : ∃ found,
    (Builtin.search.call [value, text] : Eval H Value) state = .ok (.boolean found) state ∧
      value.relate (some text) "~=" = .ok found ∧
      (found = true ↔ text.render.toList <:+: value.render.toList) := by
  refine ⟨occursIn text.render.toList value.render.toList, ?_, ?_, occursIn_iff⟩
  · rw [search_call, compute_of_pattern (ofText_plain plain), foundIn_characters, Eval.ofExcept_ok]
  · have named : Operator.ofSymbol? "~=" = some (.texts .contains) := rfl
    exact Value.relate_of_textRelation value text named

/-- A text of two lines is found where a shorter beginning of it fails, across the items of a
list. -/
theorem search_plain_list :
    let list := Value.array [.string "aa\nab", .boolean true]
    let text := Value.string "a\nab, t"
    let state := sampleState [] 0 5
    (∀ c ∈ text.render.toList, isOrdinary c = true) ∧
      (Builtin.search.call [list, text] : Eval sampleExtension Value) state =
        .ok (.boolean true) state ∧
      list.relate (some text) "~=" = .ok true := by
  have plain : ∀ c ∈ (Value.string "a\nab, t").render.toList, isOrdinary c = true :=
    List.all_eq_true.mp rfl
  have inside : (Value.string "a\nab, t").render.toList <:+:
      (Value.array [.string "aa\nab", .boolean true]).render.toList := by decide
  obtain ⟨found, called, related, found_iff⟩ := search_plain
    (.array [.string "aa\nab", .boolean true]) (.string "a\nab, t") (sampleState [] 0 5) plain
  rw [found_iff.mpr inside] at called related
  exact ⟨plain, called, related⟩

end Builtin

end FilterScript
