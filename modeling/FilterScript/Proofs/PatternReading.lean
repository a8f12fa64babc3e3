import FilterScript.Pattern.Reader
import Mathlib.Algebra.Group.Nat.Defs
import Mathlib.Data.List.Infix

/-! # How the reading of a pattern fails

The reading takes a pattern text from the left to the right and never goes back before a character
that it has taken, except to a brace that has turned out to stand for itself. So what it has in hand
stands in the text, right before what is still to be read. This is carried through the reading step
by step, and says what stands in a text when the reading fails in another way than by a fault: the
text counts rounds beyond the limit or with too many digits, it sets flags for two alphabets, or it
gives a code beyond the limit (`ofText_error_explained`).
-/

namespace FilterScript.Pattern

/-! ## What a text may contain -/

/-- The bounds of a loop with the numbers in them: one number, or two of which either may be
missing. -/
inductive Bounds : List Char → List (List Char) → Prop
  | exact (count : List Char) : Bounds count [count]
  | between (low high : List Char) : Bounds (low ++ ',' :: high) [low, high]

/-- Somewhere in the text there are bounds in braces with a number of the sort. -/
def Counts (text : List Char) (sort : List Char → Prop) : Prop :=
  ∃ before bounds counts after, text = before ++ '\x7b' :: bounds ++ '\x7d' :: after ∧
    Bounds bounds counts ∧ (∀ count ∈ counts, ∀ c ∈ count, c.isDigit = true) ∧
      ∃ count ∈ counts, sort count

/-- Somewhere in the text a parenthesis with nothing but flags in it sets the flag. -/
def SetsFlag (text : List Char) (flag : Flag) : Prop :=
  ∃ (before letters : List Char) (on : List Flag) (after : List Char),
    text = before ++ '(' :: '?' :: letters ++ ')' :: after ∧
      letters.map Flag.ofChar? = on.map some ∧ flag ∈ on

/-- Somewhere in the text the eight digits behind a backslash and a `U` give a number beyond the
limit of codes. -/
def Overcodes (text : List Char) : Prop :=
  ∃ before digits after, text = before ++ '\\' :: 'U' :: digits ++ after ∧
    digits.length = 8 ∧ (∀ c ∈ digits, isHexDigit c = true) ∧ codeLimit ≤ numberOf 16 digits

/-- What a text contains when its reading fails in this way. -/
def ReadError.Explained (text : List Char) : ReadError → Prop
  | .malformed _ _ => True
  | .countTooLarge => Counts text (countLimit ≤ numberOf 10 ·)
  | .tooManyDigits count => digitLimit < count ∧ Counts text (·.length = count)
  | .twoAlphabets => SetsFlag text .ascii ∧ SetsFlag text .unicode
  | .codeTooLarge => Overcodes text

/-! ## Where the reading stands in a text -/

/-- The characters still to be read. -/
def Progress.ahead (progress : Progress) : List Char :=
  progress.rest.flatMap Token.text ++ if progress.lone then ['\\'] else []

/-- The given characters stand in the text right before those still to be read, of which a lone
backslash at the end is one, and the flags for the whole pattern are set in it. -/
structure Behind (text front : List Char) (progress : Progress) : Prop where
  place : front ++ progress.ahead <:+ text
  lone : progress.lone = (tokensFrom 0 text).2
  flags : ∀ flag ∈ progress.flags, SetsFlag text flag

namespace Behind

variable {text front : List Char} {progress : Progress}

/-- Of the characters that have been taken some may be forgotten. -/
theorem latter {back : List Char} (behind : Behind text (front ++ back) progress) :
    Behind text back progress where
  place := by
    have place := behind.place
    rw [List.append_assoc] at place
    exact (List.suffix_append front _).trans place
  lone := behind.lone
  flags := behind.flags

theorem forget (behind : Behind text front progress) : Behind text [] progress :=
  latter (by rwa [List.append_nil])

/-- What has been learnt about groups does not matter to where the reading stands. -/
theorem congr (behind : Behind text front progress) {other : Progress}
    (rest : other.rest = progress.rest) (lone : other.lone = progress.lone)
    (flags : other.flags = progress.flags) : Behind text [] other where
  place := by
    rw [Progress.ahead, rest, lone]
    exact behind.forget.place
  lone := lone.trans behind.lone
  flags := flags ▸ behind.flags

/-- The reading can go back to a place where it has been. -/
theorem back (behind : Behind text front progress) {front' : List Char} {earlier : Progress}
    (before : Behind text front' earlier) :
    Behind text [] { progress with rest := earlier.rest } where
  place := by
    have same : progress.lone = earlier.lone := behind.lone.trans before.lone.symm
    rw [Progress.ahead, same]
    exact before.forget.place
  lone := behind.lone
  flags := behind.flags

/-- Tokens that are taken stand behind the place that is then reached. -/
theorem take (behind : Behind text front progress) {taken rest : List Token}
    (split : progress.rest = taken ++ rest) :
    Behind text (front ++ taken.flatMap Token.text) { progress with rest } where
  place := by
    have ahead : progress.ahead =
        taken.flatMap Token.text ++ Progress.ahead { progress with rest } := by
      rw [Progress.ahead, split, List.flatMap_append, List.append_assoc]
      rfl
    rw [List.append_assoc, ← ahead]
    exact behind.place
  lone := behind.lone
  flags := behind.flags

/-- A token that is taken stands behind the place that is then reached. -/
theorem take_one (behind : Behind text front progress) {token : Token} {rest : List Token}
    (split : progress.rest = token :: rest) :
    Behind text (front ++ token.text) { progress with rest } := by
  have taken := behind.take (split.trans List.singleton_append.symm)
  rwa [List.flatMap_singleton] at taken

theorem skip (behind : Behind text front progress) {rest : List Token}
    (suffix : rest <:+ progress.rest) : Behind text [] { progress with rest } := by
  obtain ⟨taken, split⟩ := suffix
  exact (behind.take split.symm).forget

end Behind

/-- From progress of the first kind the step leads to progress of the second kind, or it fails in a
way that the text explains. -/
def Reads {α : Type} (text : List Char) (before : Progress → Prop) (step : Read α)
    (after : α → Progress → Prop) : Prop :=
  ∀ progress, before progress →
    match step progress with
    | .ok value next => after value next
    | .error error _ => error.Explained text

namespace Reads

variable {α β : Type} {text front : List Char} {before : Progress → Prop} {step : Read α}
  {after : α → Progress → Prop}

/-- Less may be known before a step and more than needed after it. -/
theorem weaken {before' : Progress → Prop} {after' : α → Progress → Prop}
    (reads : Reads text before step after) (first : ∀ progress, before' progress → before progress)
    (last : ∀ value progress, after value progress → after' value progress) :
    Reads text before' step after' := by
  intro progress start
  have ends := reads progress (first progress start)
  cases result : step progress with
  | ok value next =>
      rw [result] at ends
      exact last value next ends
  | error error next =>
      rw [result] at ends
      exact ends

/-- A step that reads from one kind of progress reads from every kind that is stronger. -/
theorem of_before {before' : Progress → Prop} (before : Progress → Prop)
    (reads : Reads text before step after)
    (first : ∀ progress, before' progress → before progress) : Reads text before' step after :=
  reads.weaken first fun _ _ => id

theorem assuming {fact : Prop} (reads : fact → Reads text before step after) :
    Reads text (fun progress => before progress ∧ fact) step after :=
  fun progress start => reads start.2 progress start.1

/-- A step reads from some progress of a family if it reads from each of them. -/
theorem of_exists {ι : Type} {before : ι → Progress → Prop}
    (reads : ∀ index, Reads text (before index) step after) :
    Reads text (fun progress => ∃ index, before index progress) step after :=
  fun progress ⟨index, start⟩ => reads index progress start

/-- A sequence of steps reads if each does from where the one before it has led. -/
theorem bind {next : α → Read β} {last : β → Progress → Prop} (reads : Reads text before step after)
    (onward : ∀ value, Reads text (after value) (next value) last) :
    Reads text before (step >>= next) last := by
  intro progress start
  have between := reads progress start
  cases result : step progress with
  | ok value reached =>
      rw [result] at between
      have ends := onward value reached between
      simp only [Bind.bind, EStateM.bind, result]
      exact ends
  | error error reached =>
      rw [result] at between
      simp only [Bind.bind, EStateM.bind, result]
      exact between

theorem give {value : α} (reached : ∀ progress, before progress → after value progress) :
    Reads text before (pure value) after := fun progress start => reached progress start

theorem stay {value : α} : Reads text before (pure value) fun _ => before :=
  give fun _ start => start

/-- A value is at hand, and nothing is taken. -/
theorem value {value : α} : Reads text (Behind text front) (pure value) fun _ => Behind text [] :=
  give fun _ => Behind.forget

theorem refuse {error : ReadError}
    (explained : ∀ progress, before progress → error.Explained text) :
    Reads text before (throw error : Read α) after := fun progress start => explained progress start

/-- A fault is explained by any text. -/
theorem malformed {fault : Fault} {position : Option Nat} :
    Reads text before (throw (.malformed fault position) : Read α) after :=
  refuse fun _ _ => trivial

/-- After a step that gives no value nothing is done. -/
theorem never_bind {next : α → Read β} {last : β → Progress → Prop}
    (never : Reads text before step fun _ _ => False) : Reads text before (step >>= next) last :=
  never.bind fun _ _ => False.elim

/-- The progress that a step asks for is the one that it starts from. -/
theorem get_bind {next : Progress → Read β} {last : β → Progress → Prop}
    (onward : ∀ progress, before progress → Reads text (· = progress) (next progress) last) :
    Reads text before (get >>= next) last :=
  fun progress start => onward progress start progress rfl

theorem change {update : Progress → Progress} (after : Progress → Prop)
    (reached : ∀ progress, before progress → after (update progress)) :
    Reads text before (modify update) fun _ => after := fun progress start => reached progress start

theorem put {progress : Progress} (after : Progress → Prop) (reached : after progress) :
    Reads text before (set progress) fun _ => after := fun _ _ => reached

/-- A choice reads if both of its branches do. -/
theorem ite {condition : Prop} [Decidable condition] {other : Read α}
    (yes : condition → Reads text before step after)
    (no : ¬ condition → Reads text before other after) :
    Reads text before (if condition then step else other) after := by
  by_cases holds : condition
  · rw [if_pos holds]
    exact yes holds
  · rw [if_neg holds]
    exact no holds

end Reads

section

variable {α β : Type} {text front : List Char} {before : Progress → Prop}
  {after : α → Progress → Prop}

theorem here_reads : Reads text before here fun _ => before :=
  .get_bind fun _ start => .give fun _ same => same ▸ start

theorem fail_reads {fault : Fault} {back : Nat} : Reads text before (fail fault back) after :=
  .bind here_reads fun _ => .malformed

theorem failAt_reads {fault : Fault} {position : Nat} :
    Reads text before (failAt fault position) after := .malformed

/-- After a fault before the next token nothing is done. -/
theorem Reads.fail_bind {fault : Fault} {back : Nat} {next : α → Read β}
    {last : β → Progress → Prop} :
    Reads text before ((fail fault back : Read α) >>= next) last :=
  .never_bind fail_reads

/-- After a fault at a given place nothing is done. -/
theorem Reads.failAt_bind {fault : Fault} {position : Nat} {next : α → Read β}
    {last : β → Progress → Prop} :
    Reads text before ((failAt fault position : Read α) >>= next) last :=
  .never_bind failAt_reads

/-! ## Taking tokens -/

/-- Going on leads to what is left, unless a lone backslash is found there. -/
theorem goOn_reads {rest : List Token} (after : Progress → Prop)
    (reached : ∀ progress, before progress → after { progress with rest }) :
    Reads text before (goOn rest) fun _ => after := by
  refine .get_bind fun progress start => ?_
  refine .bind (.put after (reached progress start)) fun _ => ?_
  exact .ite (fun _ => .malformed) fun _ => .give fun _ reached => reached

/-- The next token is seen and not taken. -/
theorem peek?_reads : Reads text before peek? fun next progress =>
    next = progress.rest.head? ∧ before progress := by
  refine .get_bind fun progress start => .give ?_
  rintro _ rfl
  exact ⟨rfl, start⟩

/-- A token that is taken stands behind the characters before it. -/
theorem take?_reads : Reads text (Behind text front) take? fun token =>
    Behind text (front ++ (token.map Token.text).getD []) := by
  refine .get_bind fun progress behind => ?_
  cases split : progress.rest with
  | nil =>
      refine .give ?_
      rintro _ rfl
      rw [Option.map_none, Option.getD_none, List.append_nil]
      exact behind
  | cons token rest =>
      refine .bind (goOn_reads (Behind text (front ++ token.text)) ?_)
        fun _ => .give fun _ reached => reached
      rintro _ rfl
      exact behind.take_one split

/-- A plain token has the character and no backslash. -/
theorem Token.eq_of_isPlain {token : Token} {c : Char} (plain : token.isPlain c = true) :
    token.escaped = false ∧ token.char = c := by
  simpa only [isPlain, Bool.and_eq_true, Bool.not_eq_true', beq_iff_eq] using plain

theorem Token.text_of_isPlain {token : Token} {c : Char} (plain : token.isPlain c = true) :
    token.text = [c] := by
  obtain ⟨unescaped, same⟩ := eq_of_isPlain plain
  simp only [text, unescaped, Bool.false_eq_true, ↓reduceIte, same]

/-- A character that is accepted stands behind those before it, and otherwise nothing is taken. -/
theorem accept_reads {c : Char} : Reads text (Behind text front) (accept c) fun accepted =>
    Behind text (front ++ if accepted then [c] else []) := by
  have nothing : ∀ {progress : Progress}, Behind text front progress →
      Reads text (· = progress) (pure false) fun accepted =>
        Behind text (front ++ if accepted then [c] else []) := by
    intro progress behind
    refine .give ?_
    rintro _ rfl
    simpa only [Bool.false_eq_true, ↓reduceIte, List.append_nil] using behind
  refine .get_bind fun progress behind => ?_
  cases split : progress.rest with
  | nil => exact nothing behind
  | cons token rest =>
      refine .ite (fun plain => ?_) fun _ => nothing behind
      refine .bind (goOn_reads (Behind text (front ++ [c])) ?_)
        fun _ => .give fun _ reached => reached
      rintro _ rfl
      rw [← Token.text_of_isPlain plain]
      exact behind.take_one split

/-- Characters that are taken are of the kind, and stand behind the characters before them. -/
theorem takeChars_reads {kind : Char → Bool} (limit : Nat) :
    Reads text (Behind text front) (takeChars kind limit) fun chars progress =>
      Behind text (front ++ chars) progress ∧ ∀ c ∈ chars, kind c = true := by
  have nothing : ∀ {front : List Char} {progress : Progress}, Behind text front progress →
      Reads text (· = progress) (pure []) fun chars progress =>
        Behind text (front ++ chars) progress ∧ ∀ c ∈ chars, kind c = true := by
    intro front progress behind
    refine .give ?_
    rintro _ rfl
    exact ⟨by rwa [List.append_nil], List.forall_mem_nil _⟩
  induction limit generalizing front with
  | zero =>
      refine .give fun progress behind => ?_
      exact ⟨by rwa [List.append_nil], List.forall_mem_nil _⟩
  | succ limit ih =>
      refine .get_bind fun progress behind => ?_
      cases split : progress.rest with
      | nil => exact nothing behind
      | cons token rest =>
          refine .ite (fun taken => ?_) fun _ => nothing behind
          obtain ⟨unescaped, fits⟩ := Bool.and_eq_true_iff.mp taken
          have char : token.text = [token.char] :=
            Token.text_of_isPlain (by rw [Token.isPlain, unescaped, BEq.rfl, Bool.and_self])
          refine .bind (goOn_reads (Behind text (front ++ [token.char])) ?_)
            fun _ => .bind ih fun chars => .give ?_
          · rintro _ rfl
            rw [← char]
            exact behind.take_one split
          · rintro last ⟨reached, others⟩
            rw [List.append_assoc] at reached
            exact ⟨reached, List.forall_mem_cons.mpr ⟨fits, others⟩⟩

/-- The digits that are taken stand behind the characters before them. -/
theorem takeDigits_reads : Reads text (Behind text front) takeDigits fun chars progress =>
    Behind text (front ++ chars) progress ∧ ∀ c ∈ chars, c.isDigit = true := by
  refine .get_bind fun progress behind => .of_before _ (takeChars_reads _) ?_
  rintro _ rfl
  exact behind

/-- Reading a name goes on in the text. -/
theorem takeName_reads {terminator : Char} {kind : NameKind} :
    Reads text (Behind text front) (takeName terminator kind) fun _ => Behind text [] := by
  refine .get_bind fun progress behind => ?_
  have split : (progress.rest.span (!·.isPlain terminator)).1 ++
      (progress.rest.span (!·.isPlain terminator)).2 = progress.rest := by
    rw [List.span_eq_takeWhile_dropWhile, List.takeWhile_append_dropWhile]
  generalize progress.rest.span (!·.isPlain terminator) = parts at split ⊢
  obtain ⟨body, rest⟩ := parts
  cases rest with
  | nil =>
      refine .bind (goOn_reads (fun _ => True) fun _ _ => trivial) fun _ => ?_
      exact .ite (fun _ => fail_reads) fun _ => fail_reads
  | cons _ rest =>
      refine .bind (goOn_reads (Behind text []) ?_) fun _ => ?_
      · rintro _ rfl
        exact behind.skip ((List.suffix_cons _ rest).trans ⟨body, split⟩)
      · exact .ite (fun _ => .fail_bind) fun _ => .value

/-! ## Flags -/

/-- A token that is a flag is its letter. -/
theorem Token.text_of_flag? {token : Token} {flag : Flag} (isFlag : token.flag? = some flag) :
    token.text = [token.char] ∧ Flag.ofChar? token.char = some flag := by
  unfold flag? at isFlag
  split at isFlag
  · cases isFlag
  · rename_i unescaped
    exact ⟨by rw [text, if_neg unescaped], isFlag⟩

/-- Flags have been turned on, up to a character. If it is the parenthesis that closes, the letters
of the flags stand right before it, behind the one that opens. -/
def FlagsRead (text : List Char) (result : List Flag × Char) (progress : Progress) : Prop :=
  Behind text [] progress ∧ (result.2 = ')' →
    ∃ letters : List Char, letters.map Flag.ofChar? = result.1.map some ∧
      Behind text ('(' :: '?' :: letters ++ [')']) progress)

/-- Flags that are turned on are spelled by the letters between the parenthesis and what ends them.
-/
theorem readFlagsOn_reads (fuel : Nat) {flag : Flag} {earlier : List Flag} (letters : List Char)
    (spelled : letters.map Flag.ofChar? = (earlier ++ [flag]).map some) :
    Reads text (Behind text ('(' :: '?' :: letters)) (readFlagsOn fuel flag earlier)
      (FlagsRead text) := by
  induction fuel generalizing flag earlier letters with
  | zero => exact fail_reads
  | succ fuel ih =>
      refine .ite (fun _ => .fail_bind) fun _ => ?_
      refine .ite (fun _ => .fail_bind) fun _ => ?_
      refine .bind take?_reads fun taken => ?_
      cases taken with
      | none => exact fail_reads
      | some token =>
          refine .ite (fun ends => .give fun progress behind => ⟨behind.forget, ?_⟩) fun _ => ?_
          · intro closes
            have plain : token.escaped = false := by
              simp only [Bool.or_eq_true] at ends
              rcases ends with (plain | plain) | plain <;> exact (Token.eq_of_isPlain plain).1
            have char : token.text = [')'] :=
              Token.text_of_isPlain (by
                rw [Token.isPlain, plain, show token.char = ')' from closes]
                rfl)
            refine ⟨letters, spelled, ?_⟩
            rw [← char]
            exact behind
          · cases isFlag : token.flag? with
            | none => exact fail_reads
            | some next =>
                obtain ⟨char, isNext⟩ := Token.text_of_flag? isFlag
                refine .of_before _ (ih (letters ++ [token.char]) ?_) fun progress behind => ?_
                · simp only [List.map_append, spelled, List.map_cons, List.map_nil, isNext]
                · rw [← char]
                  exact behind

/-- Reading flags that are turned off goes on in the text. -/
theorem readFlagsOff_reads (fuel : Nat) {flag : Flag} {earlier : List Flag} {front : List Char} :
    Reads text (Behind text front) (readFlagsOff fuel flag earlier) fun _ => Behind text [] := by
  induction fuel generalizing flag earlier front with
  | zero => exact fail_reads
  | succ fuel ih =>
      refine .ite (fun _ => .fail_bind) fun _ => .bind take?_reads fun taken => ?_
      cases taken with
      | none => exact fail_reads
      | some token =>
          refine .ite (fun _ => .value) fun _ => ?_
          cases token.flag? with
          | none => exact fail_reads
          | some next => exact ih

/-- Reading the first flag that is turned off goes on in the text. -/
theorem readFirstOff_reads :
    Reads text (Behind text front) readFirstOff fun _ => Behind text [] := by
  refine .bind take?_reads fun taken => ?_
  cases taken with
  | none => exact fail_reads
  | some token =>
      dsimp only
      cases token.flag? with
      | none => exact fail_reads
      | some flag => exact .value

/-- Flags that a parenthesis sets for the whole pattern are set in the text. -/
theorem Behind.setFlags {progress : Progress} {letters : List Char} {on : List Flag}
    (behind : Behind text ('(' :: '?' :: letters ++ [')']) progress)
    (spelled : letters.map Flag.ofChar? = on.map some) :
    Behind text [] { progress with flags := progress.flags ++ on } where
  place := behind.forget.place
  lone := behind.lone
  flags := by
    intro flag member
    rcases List.mem_append.mp member with known | here
    · exact behind.flags flag known
    · obtain ⟨start, split⟩ := behind.place
      refine ⟨start, letters, on, progress.ahead, ?_, spelled, here⟩
      rw [← split]
      simp only [List.cons_append, List.append_assoc, List.nil_append]

/-- Reading a scope goes on in the text, and the flags that it sets for the whole pattern are set
there. -/
theorem readScope_reads {token : Token} :
    Reads text (Behind text ('(' :: '?' :: token.text)) (readScope token) fun _ =>
      Behind text [] := by
  refine .get_bind fun progress behind => ?_
  cases isFlag : token.flag?
  all_goals refine .bind (?_ : Reads text _ _ (FlagsRead text)) fun result => ?_
  on_goal 1 =>
    refine .give ?_
    rintro _ rfl
    exact ⟨behind.forget, fun closes => absurd closes (by decide)⟩
  on_goal 2 =>
    rename_i flag
    obtain ⟨char, isNext⟩ := Token.text_of_flag? isFlag
    refine .of_before _ (readFlagsOn_reads _ [token.char] ?_) ?_
    · rw [List.map_singleton, isNext]
      rfl
    · rintro _ rfl
      rwa [char] at behind
  -- What follows is the same whether there are flags to be turned on or not.
  all_goals
    obtain ⟨on, ending⟩ := result
    refine .ite (fun closes => ?_) fun _ => ?_
    · refine .bind (.change (Behind text []) ?_) fun _ => .value
      rintro reached ⟨_, flags⟩
      obtain ⟨letters, spelled, set⟩ := flags closes
      exact set.setFlags spelled
    · refine .of_before (Behind text []) ?_ fun _ read => read.1
      refine .ite (fun _ => .fail_bind) fun _ => ?_
      refine .ite (fun _ => ?_) fun _ => .bind .value fun off => ?_
      on_goal 1 =>
        refine .bind readFirstOff_reads fun first => .bind (readFlagsOff_reads _) fun off => ?_
      all_goals exact .ite (fun _ => .fail_bind) fun _ => .ite (fun _ => .fail_bind) fun _ => .value

/-! ## Groups -/

/-- To ask whether a group is closed leads nowhere. -/
theorem isClosed_reads {number : Nat} :
    Reads text (Behind text front) (isClosed number) fun _ => Behind text [] := by
  refine .get_bind fun progress behind => .give ?_
  rintro _ rfl
  exact behind.forget

/-- To ask whether a look-behind may recall a group leads nowhere. -/
theorem checkLookBehind_reads {number : Nat} :
    Reads text (Behind text front) (checkLookBehind number) fun _ => Behind text [] := by
  refine .get_bind fun progress behind => .of_before (Behind text front) ?_ ?_
  · cases progress.lookStart with
    | none => exact .value
    | some start =>
        refine .bind isClosed_reads fun closed => .ite (fun _ => .fail_bind) fun _ => ?_
        exact .ite (fun _ => fail_reads) fun _ => .value
  · rintro _ rfl
    exact behind

/-- What is asked of the progress without taking anything. -/
theorem Reads.ask {next : Progress → Read β} {last : β → Progress → Prop}
    (onward : ∀ progress, Reads text before (next progress) last) :
    Reads text before (get >>= next) last := by
  refine .get_bind fun progress start => .of_before _ (onward progress) ?_
  rintro _ rfl
  exact start

/-- Reading what recalls a group goes on in the text. -/
theorem readRecall_reads {chars : List Char} :
    Reads text (Behind text front) (readRecall chars) fun _ => Behind text [] := by
  refine .ask fun _ => .ite (fun _ => .fail_bind) fun _ => ?_
  refine .bind isClosed_reads fun closed => .ite (fun _ => .fail_bind) fun _ => ?_
  exact .bind checkLookBehind_reads fun _ => .ask fun _ => .value

/-- Opening a group goes on in the text. -/
theorem openGroup_reads {name : Option (List Char)} :
    Reads text (Behind text front) (openGroup name) fun _ => Behind text [] := by
  refine .get_bind fun progress behind => ?_
  have opened (groups : List (Option Width)) (names : List (List Char × Nat)) :
      Behind text [] { progress with groups, names } := behind.congr rfl rfl rfl
  cases name with
  | none => exact .bind (.put _ (opened _ _)) fun _ => .value
  | some name =>
      dsimp only
      split
      · exact .fail_bind
      · exact .bind (.put _ (opened _ _)) fun _ => .value

/-- Closing a group goes on in the text. -/
theorem closeGroup_reads {number : Nat} {body : List Node} :
    Reads text (Behind text front) (closeGroup number body) fun _ => Behind text [] :=
  .change _ fun _ behind => behind.congr rfl rfl rfl

theorem checkName_reads {name : List Char} :
    Reads text (Behind text front) (checkName name) fun _ => Behind text [] :=
  .ite (fun _ => fail_reads) fun _ => .value

/-- To ask for the number of a name leads nowhere. -/
theorem numberOfName_reads {name : List Char} :
    Reads text (Behind text front) (numberOfName name) fun _ => Behind text [] := by
  refine .ask fun progress => ?_
  cases progress.names.lookup name with
  | none => exact fail_reads
  | some number => exact .value

/-- Reading the condition of a group goes on in the text. -/
theorem readCondition_reads :
    Reads text (Behind text front) readCondition fun _ => Behind text [] := by
  refine .bind takeName_reads fun name => .ite (fun _ => ?_) fun _ => ?_
  · exact .bind numberOfName_reads fun _ => .bind checkLookBehind_reads fun _ => .value
  · split
    · exact .fail_bind
    · exact .fail_bind
    · refine .ite (fun _ => .fail_bind) fun _ => ?_
      refine .bind here_reads fun place => ?_
      refine .bind (.change (Behind text []) fun progress behind => ?_) fun _ => ?_
      · split
        · exact behind
        · exact behind.congr rfl rfl rfl
      · exact .bind .value fun _ => .bind checkLookBehind_reads fun _ => .value

/-! ## Escaped characters and classes -/

/-- A digit of base sixteen stands for a number below sixteen. -/
theorem digitOf_lt_of_isHexDigit {c : Char} (hex : isHexDigit c = true) : digitOf c < 16 := by
  have lower : c.isLower = (decide ('a'.val ≤ c.val) && decide (c.val ≤ 'z'.val)) := rfl
  simp only [isHexDigit, Char.isDigit, Bool.or_eq_true, Bool.and_eq_true, decide_eq_true_eq,
    ge_iff_le, Char.le_def, UInt32.le_iff_toNat_le] at hex
  simp only [digitOf, Char.isDigit, lower, Bool.and_eq_true, decide_eq_true_eq, ge_iff_le,
    UInt32.le_iff_toNat_le, Char.toNat]
  simp only [Char.reduceVal, UInt32.reduceToNat] at hex ⊢
  split
  · omega
  · split
    · omega
    · omega

/-- Digits of base sixteen behind a number leave it in the next higher power's reach. -/
theorem foldl_digitOf_lt {digits : List Char} (hex : ∀ c ∈ digits, isHexDigit c = true)
    (total : Nat) :
    digits.foldl (fun total c => 16 * total + digitOf c) total <
      (total + 1) * 16 ^ digits.length := by
  induction digits generalizing total with
  | nil => simp
  | cons c digits ih =>
      obtain ⟨here, others⟩ := List.forall_mem_cons.mp hex
      have first := digitOf_lt_of_isHexDigit here
      calc digits.foldl (fun total c => 16 * total + digitOf c) (16 * total + digitOf c)
          < (16 * total + digitOf c + 1) * 16 ^ digits.length := ih others _
        _ ≤ (16 * (total + 1)) * 16 ^ digits.length := Nat.mul_le_mul_right _ (by omega)
        _ = (total + 1) * 16 ^ (digits.length + 1) := by
          rw [Nat.pow_succ', Nat.mul_comm 16 (total + 1), Nat.mul_assoc]

/-- Fewer than eight digits of base sixteen give no code beyond the limit. -/
theorem numberOf_lt_codeLimit {digits : List Char} (hex : ∀ c ∈ digits, isHexDigit c = true)
    (short : digits.length < 8) : numberOf 16 digits < codeLimit := by
  calc numberOf 16 digits < (0 + 1) * 16 ^ digits.length := foldl_digitOf_lt hex 0
    _ ≤ (0 + 1) * 16 ^ 7 :=
      Nat.mul_le_mul_left _ (Nat.pow_le_pow_right (by decide) (Nat.le_of_lt_succ short))
    _ ≤ codeLimit := by decide

/-- A code beyond the limit can only be given by eight digits, and then it stands in the text. -/
theorem readCode_reads {token : Token} {width : Nat} (escaped : token.escaped = true)
    (letter : width < 8 ∨ width = 8 ∧ token.char = 'U') :
    Reads text (Behind text token.text) (readCode token width) fun _ => Behind text [] := by
  refine .bind (takeChars_reads width) fun digits => .ite (fun _ => .fail_bind) fun whole => ?_
  refine .ite (fun tooLarge => .never_bind (.refuse ?_)) fun _ => ?_
  · rintro progress ⟨behind, hex⟩
    have length : digits.length = width := not_not.mp whole
    rcases letter with short | ⟨eight, isU⟩
    · exact absurd tooLarge (not_le.mpr (numberOf_lt_codeLimit hex (length ▸ short)))
    · have shown : token.text = ['\\', 'U'] := by rw [Token.text, if_pos escaped, isU]
      obtain ⟨start, split⟩ := behind.place
      refine ⟨start, digits, progress.ahead, ?_, length.trans eight, hex, tooLarge⟩
      rw [← split, shown]
      simp only [List.cons_append, List.append_assoc, List.nil_append]
  · refine .of_before (Behind text []) ?_ fun _ taken => taken.1.forget
    exact .ite (fun _ => .fail_bind) fun _ => .value

/-- Reading the name of a character goes on in the text. -/
theorem readNamed_reads :
    Reads text (Behind text front) readNamed fun _ => Behind text [] := by
  refine .bind accept_reads fun _ => .ite (fun _ => .fail_bind) fun _ => ?_
  refine .bind takeName_reads fun name => .ask fun progress => ?_
  cases progress.characterNamed? (String.ofList name) with
  | none => exact fail_reads
  | some c => exact .value

theorem octalCode_reads {chars : List Char} :
    Reads text (Behind text front) (octalCode chars) fun _ => Behind text [] :=
  .ite (fun _ => .fail_bind) fun _ => .value

/-- Reading a point goes on in the text, or it is a code beyond the limit that stands there. -/
theorem readPoint_reads {token : Token} (escaped : token.escaped = true) :
    Reads text (Behind text token.text) (readPoint token) fun _ => Behind text [] := by
  unfold readPoint
  split
  · exact readCode_reads escaped (.inl (by decide))
  · exact readCode_reads escaped (.inl (by decide))
  · rename_i isU
    exact readCode_reads escaped (.inr ⟨rfl, isU⟩)
  · exact readNamed_reads
  · exact .ite (fun _ => .fail_bind) fun _ => .value

/-- Reading an escape in a class goes on in the text, or it is a code beyond the limit that stands
there. -/
theorem readClassEscape_reads {token : Token} (escaped : token.escaped = true) :
    Reads text (Behind text token.text) (readClassEscape token) fun _ => Behind text [] := by
  unfold readClassEscape
  split
  · exact .value
  · exact .value
  · refine .ite (fun _ => .bind (takeChars_reads 2) fun _ => ?_) fun _ =>
      .bind (readPoint_reads escaped) fun _ => .value
    exact .bind (.of_before _ octalCode_reads fun _ taken => taken.1) fun _ => .value

/-- Reading a backslash with digits goes on in the text. -/
theorem readNumbered_reads {token : Token} :
    Reads text (Behind text front) (readNumbered token) fun _ => Behind text [] := by
  refine .bind (takeChars_reads 1) fun second => .of_before (Behind text []) ?_
    fun _ taken => taken.1.forget
  refine .ite (fun _ => ?_) fun _ => readRecall_reads
  refine .bind (takeChars_reads 1) fun third => .of_before (Behind text []) ?_
    fun _ taken => taken.1.forget
  exact .ite (fun _ => readRecall_reads) fun _ => .bind octalCode_reads fun _ => .value

/-- Reading an escape goes on in the text, or it is a code beyond the limit that stands there. -/
theorem readEscape_reads {token : Token} (escaped : token.escaped = true) :
    Reads text (Behind text token.text) (readEscape token) fun _ => Behind text [] := by
  unfold readEscape
  split
  · exact .value
  · exact .value
  · exact .value
  · refine .ite (fun _ => ?_) fun _ => ?_
    · exact .bind (takeChars_reads 2) fun _ => .give fun _ taken => taken.1.forget
    · exact .ite (fun _ => readNumbered_reads) fun _ =>
        .bind (readPoint_reads escaped) fun _ => .value

/-- Reading an item of a class goes on in the text. -/
theorem readItem_reads {start : Nat} {token : Token} :
    Reads text (Behind text token.text) (readItem start token) fun _ => Behind text [] := by
  refine .ite (fun escaped => .bind (readClassEscape_reads escaped) fun first => ?_)
    fun _ => .bind .value fun first => ?_
  all_goals
    refine .bind accept_reads fun _ => .ite (fun _ => .bind take?_reads fun taken => ?_)
      fun _ => .value
    cases taken with
    | none => exact failAt_reads
    | some last =>
        refine .ite (fun _ => .value) fun _ => ?_
        refine .of_before (Behind text last.text) ?_ fun _ reached => reached.latter
        refine .ite (fun escaped => .bind (readClassEscape_reads escaped) fun second => ?_)
          fun _ => .bind .value fun second => ?_
        all_goals
          dsimp only
          split
          · exact .ite (fun _ => .fail_bind) fun _ => .value
          · exact fail_reads

/-- Reading the items of a class goes on in the text. -/
theorem readItems_reads {start : Nat} (fuel : Nat) {items : List ClassItem} :
    Reads text (Behind text front) (readItems start fuel items) fun _ => Behind text [] := by
  induction fuel generalizing front items with
  | zero => exact .value
  | succ fuel ih =>
      refine .bind take?_reads fun taken => ?_
      cases taken with
      | none => exact failAt_reads
      | some token =>
          refine .ite (fun _ => .value) fun _ => ?_
          refine .of_before (Behind text token.text) ?_ fun _ reached => reached.latter
          refine .bind readItem_reads fun item => ?_
          exact .ite (fun _ => .value) fun _ => ih

/-- Reading a class goes on in the text. -/
theorem readClass_reads {start : Nat} :
    Reads text (Behind text front) (readClass start) fun _ => Behind text [] := by
  refine .bind accept_reads fun _ => .ask fun _ => .bind (readItems_reads _) fun items => ?_
  split
  · exact .value
  · exact .value

/-! ## Loops -/

/-- A number of rounds that is refused stands where its digits have been read. -/
theorem readCount_reads {digits : List Char}
    (there : ∀ progress, before progress → ∀ sort : List Char → Prop, sort digits →
      Counts text sort) :
    Reads text before (readCount digits) fun _ => before := by
  refine .ite (fun long => .never_bind (.refuse fun progress start => ?_)) fun _ => ?_
  · exact ⟨long, there progress start _ rfl⟩
  refine .ite (fun tooLarge => .never_bind (.refuse fun progress start => ?_)) fun _ => .stay
  exact there progress start _ tooLarge

/-- Bounds stand behind an opening brace, and the given numbers are among those in them. -/
def BoundsRead (text low high : List Char) (progress : Progress) : Prop :=
  ∃ bounds counts, Behind text ('\x7b' :: bounds) progress ∧
    Bounds bounds counts ∧ (∀ count ∈ counts, ∀ c ∈ count, c.isDigit = true) ∧
      low ∈ counts ∧ high ∈ counts

/-- A count in bounds that have been read to the closing brace stands in the text. -/
theorem Behind.counts {progress : Progress} {bounds count : List Char}
    {counts : List (List Char)} (behind : Behind text ('\x7b' :: bounds ++ ['\x7d']) progress)
    (read : Bounds bounds counts) (digits : ∀ count ∈ counts, ∀ c ∈ count, c.isDigit = true)
    (member : count ∈ counts) (sort : List Char → Prop) (holds : sort count) :
    Counts text sort := by
  obtain ⟨start, split⟩ := behind.place
  refine ⟨start, bounds, counts, progress.ahead, ?_, read, digits, count, member, holds⟩
  rw [← split]
  simp only [List.cons_append, List.append_assoc, List.nil_append]

/-- A count that is too large stands in the text in the bounds that are read. -/
theorem readBounds_reads :
    Reads text (Behind text ['\x7b']) readBounds fun _ => Behind text [] := by
  refine .get_bind fun progress behind => .of_before (Behind text ['\x7b']) ?_ ?_
  swap
  · rintro _ rfl
    exact behind
  refine .bind here_reads fun start => .bind peek?_reads fun next => ?_
  refine .of_before (Behind text ['\x7b']) ?_ fun _ found => found.2
  refine .ite (fun _ => .value) fun _ => .bind takeDigits_reads fun low => .assuming fun lows => ?_
  refine .bind accept_reads fun comma => ?_
  refine .ite (fun isComma => .bind (?_ : Reads text _ _ (BoundsRead text low)) fun high => ?_)
    fun noComma => .bind (?_ : Reads text _ _ (BoundsRead text low)) fun high => ?_
  on_goal 1 =>
    rw [isComma]
    refine takeDigits_reads.weaken (fun _ => id) ?_
    rintro high reached ⟨here, highs⟩
    refine ⟨low ++ ',' :: high, [low, high], ?_, .between low high, ?_, ?_, ?_⟩
    · simpa using here
    · simp only [List.mem_cons, List.not_mem_nil, or_false, forall_eq_or_imp, forall_eq]
      exact ⟨lows, highs⟩
    · simp
    · simp
  on_goal 2 =>
    refine .give fun reached here => ?_
    refine ⟨low, [low], ?_, .exact low, ?_, ?_, ?_⟩
    · simpa [noComma] using here
    · simpa using lows
    · simp
    · simp
  all_goals
    refine .of_exists fun bounds => .of_exists fun counts => .assuming fun read => ?_
    obtain ⟨bounded, digits, isLow, isHigh⟩ := read
    refine .bind accept_reads fun closed => .ite (fun _ => ?_) fun closes => ?_
    · refine .bind (.change (Behind text []) fun reached here => ?_) fun _ => .value
      exact here.back behind
    · have closed : closed = true := by simpa using closes
      rw [closed]
      refine .ite (fun _ => .bind .stay fun least => ?_)
        fun _ => .bind (readCount_reads fun _ here => here.counts bounded digits isLow)
          fun least => ?_
      all_goals
        refine .ite (fun _ => .value) fun _ => ?_
        refine .bind (readCount_reads fun _ here => here.counts bounded digits isHigh)
          fun most => ?_
        exact .ite (fun _ => .failAt_bind) fun _ => .value

/-- Reading what a mark of repetition asks for goes on in the text. -/
theorem readRounds_reads {token : Token} (mark : token.char = '*' ∨ token.char = '+' ∨
    token.char = '?' ∨ token.char = '\x7b') :
    Reads text (Behind text [token.char]) (readRounds token) fun _ => Behind text [] := by
  unfold readRounds
  split
  · exact .value
  · exact .value
  · exact .value
  · rename_i notStar notPlus notQuestion
    have brace : token.char = '\x7b' :=
      ((mark.resolve_left notStar).resolve_left notPlus).resolve_left notQuestion
    rw [brace]
    exact readBounds_reads

/-- Making a loop of the last part goes on in the text. -/
theorem repeatLast_reads {token : Token} {least : Nat} {most : Option Nat} {parts : List Node} :
    Reads text (Behind text front) (repeatLast token least most parts) fun _ =>
      Behind text [] := by
  unfold repeatLast
  split
  · exact failAt_reads
  · exact failAt_reads
  · exact failAt_reads
  · refine .bind accept_reads fun _ => .ite (fun _ => .bind .value fun _ => .value) fun _ => ?_
    refine .bind accept_reads fun _ => .ite (fun _ => .bind .value fun _ => .value) fun _ => ?_
    exact .bind .value fun _ => .value

/-! ## Sequences and groups -/

/-- Skipping a comment goes on in the text. -/
theorem skipComment_reads {start : Nat} :
    Reads text (Behind text front) (skipComment start) fun _ => Behind text [] := by
  refine .get_bind fun progress behind => ?_
  split
  · exact .bind (goOn_reads (fun _ => True) fun _ _ => trivial) fun _ => failAt_reads
  · rename_i closing rest split
    refine goOn_reads _ ?_
    rintro _ rfl
    refine behind.skip ((List.suffix_cons closing rest).trans ?_)
    rw [← split]
    exact List.dropWhile_suffix _

theorem skipLine_reads : Reads text (Behind text front) skipLine fun _ => Behind text [] := by
  refine .get_bind fun progress behind => goOn_reads _ ?_
  rintro _ rfl
  exact behind.skip ((List.tail_suffix _).trans (List.dropWhile_suffix _))

theorem closeParenthesis_reads {start : Nat} :
    Reads text (Behind text front) (closeParenthesis start) fun _ => Behind text [] :=
  .bind accept_reads fun _ => .ite (fun _ => failAt_reads) fun _ => .value

mutual

/-- Reading alternatives goes on in the text. -/
theorem readAlternation_reads : (fuel : Nat) → {verbose top : Bool} → {front : List Char} →
    Reads text (Behind text front) (readAlternation fuel verbose top) fun _ => Behind text []
  | 0, _, _, _ => .value
  | fuel + 1, _, _, _ =>
    .bind (readSequence_reads fuel) fun _ => readAlternatives_reads fuel

/-- Reading further alternatives goes on in the text. -/
theorem readAlternatives_reads : (fuel : Nat) → {verbose top : Bool} →
    {read : List (List Node)} → {front : List Char} →
      Reads text (Behind text front) (readAlternatives fuel verbose top read) fun _ =>
        Behind text []
  | 0, _, _, _, _ => .value
  | fuel + 1, _, _, _, _ => by
      refine .bind accept_reads fun _ => .ite (fun _ => .ask fun _ => ?_) fun _ => .value
      exact .bind (readSequence_reads fuel) fun _ => readAlternatives_reads fuel

/-- Reading a sequence goes on in the text. -/
theorem readSequence_reads : (fuel : Nat) → {verbose atStart : Bool} → {parts : List Node} →
    {front : List Char} →
      Reads text (Behind text front) (readSequence fuel verbose atStart parts) fun _ =>
        Behind text []
  | 0, _, _, _, _ => .value
  | fuel + 1, verbose, atStart, parts, front => by
      refine .bind peek?_reads fun next => ?_
      cases next with
      | none => exact .give fun _ found => found.2.forget
      | some token =>
          refine .ite (fun _ => .give fun _ found => found.2.forget) fun _ => ?_
          refine .get_bind fun progress found => ?_
          refine .bind (goOn_reads (Behind text token.text) ?_) fun _ => ?_
          · rintro _ rfl
            exact found.2.forget.take_one (List.eq_cons_of_mem_head? found.1.symm)
          refine .ite (fun escaped => .bind (readEscape_reads escaped) fun _ =>
            readSequence_reads fuel) fun unescaped => ?_
          have char : token.text = [token.char] := if_neg unescaped
          refine .ite (fun _ => readSequence_reads fuel) fun _ => ?_
          refine .ite (fun _ => .bind skipLine_reads fun _ => readSequence_reads fuel) fun _ => ?_
          rw [char]
          split
          · exact .bind readClass_reads fun _ => readSequence_reads fuel
          · exact readSequence_reads fuel
          · exact readSequence_reads fuel
          · exact readSequence_reads fuel
          · rename_i parenthesis
            rw [parenthesis]
            refine .bind (readGroup_reads fuel) fun opened => ?_
            cases opened with
            | part node => exact readSequence_reads fuel
            | nothing verbose => exact readSequence_reads fuel
          · refine .ite (fun mark => ?_) fun _ => readSequence_reads fuel
            simp only [Bool.or_eq_true, decide_eq_true_eq, or_assoc] at mark
            refine .bind (readRounds_reads mark) fun rounds => ?_
            cases rounds with
            | none => exact readSequence_reads fuel
            | some bounds => exact .bind repeatLast_reads fun _ => readSequence_reads fuel

/-- Reading a group goes on in the text, behind the parenthesis that opens it. -/
theorem readGroup_reads : (fuel : Nat) → {verbose atStart : Bool} → {start : Nat} →
    Reads text (Behind text ['(']) (readGroup fuel verbose atStart start) fun _ => Behind text []
  | 0, _, _, _ => .value
  | fuel + 1, verbose, atStart, start => by
      refine .bind accept_reads fun extended => ?_
      refine .ite (fun _ => .bind (readCaptured_reads fuel) fun _ => .value) fun isExtension => ?_
      have extended : extended = true := by simpa using isExtension
      rw [extended]
      refine .bind take?_reads fun taken => ?_
      cases taken with
      | none => exact fail_reads
      | some token =>
          refine .ite (fun _ => ?_) fun _ => ?_
          · refine .bind accept_reads fun _ => .ite (fun _ => ?_) fun _ => ?_
            · refine .bind takeName_reads fun _ => .bind checkName_reads fun _ => ?_
              exact .bind (readCaptured_reads fuel) fun _ => .value
            · refine .bind accept_reads fun _ => .ite (fun _ => ?_) fun _ => ?_
              · refine .bind takeName_reads fun _ => .bind checkName_reads fun _ => ?_
                refine .bind numberOfName_reads fun _ => .bind isClosed_reads fun _ => ?_
                refine .ite (fun _ => .fail_bind) fun _ => ?_
                exact .bind checkLookBehind_reads fun _ => .ask fun _ => .value
              · refine .bind take?_reads fun next => ?_
                cases next with
                | none => exact fail_reads
                | some next => exact fail_reads
          refine .ite (fun _ => .bind (readBody_reads fuel) fun _ => .value) fun _ => ?_
          refine .ite (fun _ => .bind skipComment_reads fun _ => .value) fun _ => ?_
          refine .ite (fun _ => .bind (readBody_reads fuel) fun _ => .value) fun _ => ?_
          refine .ite (fun _ => readLookBehind_reads fuel) fun _ => ?_
          refine .ite (fun _ => ?_) fun _ => ?_
          · refine .bind readCondition_reads fun _ => .bind (readSequence_reads fuel) fun _ => ?_
            refine .bind accept_reads fun _ => .ite (fun _ => ?_) fun _ => ?_
            · refine .bind (readSequence_reads fuel) fun _ => .bind peek?_reads fun _ => ?_
              refine .ite (fun _ => .fail_bind) fun _ => .of_before (Behind text []) ?_
                fun _ found => found.2
              exact .bind .value fun _ => .bind closeParenthesis_reads fun _ => .value
            · exact .bind .value fun _ => .bind closeParenthesis_reads fun _ => .value
          refine .ite (fun _ => .bind (readBody_reads fuel) fun _ => .value) fun _ => ?_
          refine .ite (fun _ => .bind readScope_reads fun scope => ?_) fun _ => fail_reads
          cases scope with
          | none => exact .ite (fun _ => .failAt_bind) fun _ => .ask fun _ => .value
          | some scope => exact .bind (readBody_reads fuel) fun _ => .value

/-- Reading the inside of a group goes on in the text. -/
theorem readBody_reads : (fuel : Nat) → {verbose : Bool} → {start : Nat} → {front : List Char} →
    Reads text (Behind text front) (readBody fuel verbose start) fun _ => Behind text []
  | 0, _, _, _ => .value
  | fuel + 1, _, _, _ =>
    .bind (readAlternation_reads fuel) fun _ => .bind closeParenthesis_reads fun _ => .value

/-- Reading a captured group goes on in the text. -/
theorem readCaptured_reads : (fuel : Nat) → {verbose : Bool} → {start : Nat} →
    {name : Option (List Char)} → {front : List Char} →
      Reads text (Behind text front) (readCaptured fuel verbose start name) fun _ => Behind text []
  | 0, _, _, _, _ => .value
  | fuel + 1, _, _, _, _ =>
    .bind openGroup_reads fun _ => .bind (readBody_reads fuel) fun _ =>
      .bind closeGroup_reads fun _ => .value

/-- Reading a look-behind goes on in the text. -/
theorem readLookBehind_reads : (fuel : Nat) → {verbose : Bool} → {start : Nat} →
    {front : List Char} →
      Reads text (Behind text front) (readLookBehind fuel verbose start) fun _ => Behind text []
  | 0, _, _, _ => .value
  | fuel + 1, verbose, start, front => by
      refine .bind take?_reads fun taken => ?_
      cases taken with
      | none => exact fail_reads
      | some token =>
          refine .ite (fun _ => .fail_bind) fun _ => .ask fun _ => ?_
          refine .bind (.change (Behind text []) fun _ here => here.congr rfl rfl rfl) fun _ => ?_
          refine .bind (readAlternation_reads fuel) fun body => ?_
          refine .bind (.change (Behind text []) fun _ here => here.congr rfl rfl rfl) fun _ => ?_
          exact .bind closeParenthesis_reads fun _ => .value

end

/-! ## The whole text -/

/-- The tokens of a text are its characters, except for a lone backslash at the end. -/
theorem ahead_tokensFrom (text : List Char) (position : Nat) :
    (tokensFrom position text).1.flatMap Token.text ++
      (if (tokensFrom position text).2 then ['\\'] else []) = text := by
  fun_induction tokensFrom position text with
  | case1 => rfl
  | case2 => rfl
  | case3 position c rest tokens lone split ih =>
      rw [split] at ih
      simp only [List.flatMap_cons, List.append_assoc, ih]
      rfl
  | case4 position c rest _ _ tokens lone split ih =>
      rw [split] at ih
      simp only [List.flatMap_cons, List.append_assoc, ih]
      rfl

/-- Reading a whole pattern ends at the end of the text or in a way that the text explains. -/
theorem readWhole_reads : Reads text (Behind text []) readWhole fun _ => Behind text [] := by
  refine .get_bind fun progress here => .bind (goOn_reads (Behind text []) ?_) fun _ => ?_
  · rintro _ rfl
    exact here
  refine .ask fun _ => .bind (readAlternation_reads _) fun body => .get_bind fun last reached => ?_
  refine .of_before (Behind text []) ?_ (by rintro _ rfl; exact reached)
  refine .ite (fun both => ?_) fun _ => ?_
  · obtain ⟨ascii, unicode⟩ := Bool.and_eq_true_iff.mp both
    refine .never_bind (.refuse fun _ _ => ?_)
    exact ⟨reached.flags _ (List.contains_iff_mem.mp ascii),
      reached.flags _ (List.contains_iff_mem.mp unicode)⟩
  refine .ite (fun _ => .fail_bind) fun _ => ?_
  split
  · exact failAt_reads
  · split
    · exact .malformed
    · exact .value

end

/-- **What a text contains that is refused.** A text that is no pattern has a fault, or it counts
rounds beyond the limit or with too many digits, or it sets flags for two alphabets, or it gives a
code beyond the limit. -/
theorem ofText_error_explained {characterNamed? : String → Option Char} {text : List Char}
    {error : ReadError} (refused : ofText characterNamed? text = .error error) :
    error.Explained text := by
  have start : Behind text [] (.ofText characterNamed? text) :=
    { place := (ahead_tokensFrom text 0).symm ▸ List.suffix_rfl
      lone := rfl
      flags := List.forall_mem_nil _ }
  have ends := readWhole_reads _ start
  unfold ofText EStateM.run at refused
  cases result : readWhole (.ofText characterNamed? text) with
  | ok pattern last =>
      simp only [result] at refused
      cases refused
  | error other last =>
      simp only [result] at refused ends
      cases refused
      exact ends

end FilterScript.Pattern
