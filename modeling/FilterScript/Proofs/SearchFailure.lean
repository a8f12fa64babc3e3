import FilterScript.Proofs.PatternReading
import FilterScript.Proofs.SampleHost

/-! # How a search fails

A search gives a truth value, or the script fails because the pattern text has a fault. But not
every text without a fault is a pattern: one that counts rounds beyond the limit or with too many
digits, one that sets flags for two alphabets and one that gives a code beyond the limit are refused
in ways of their own, which are no errors of a script (`Builtin.search_ends`).
-/

namespace FilterScript

namespace Pattern

variable {α β : Type}

/-! ## Reading what is beyond a limit -/

theorem bind_of_ok {step : Read α} {next : α → Read β} {progress reached : Progress} {value : α}
    (leads : step progress = .ok value reached) :
    (step >>= next) progress = next value reached := by
  simp only [bind, EStateM.bind, leads]

theorem bind_of_error {step : Read α} {next : α → Read β} {progress reached : Progress}
    {error : ReadError} (fails : step progress = .error error reached) :
    (step >>= next) progress = .error error reached := by
  simp only [bind, EStateM.bind, fails]

/-- The characters that do not stand for themselves in a pattern text. -/
def marks : List Char := ['.', '^', '$', '*', '+', '?', '\x7b', '[', '\\', '|', '(', ')']

/-- The character stands for itself in a pattern text. -/
def isOrdinary (c : Char) : Bool := !marks.contains c

/-- The tokens of characters of which each is a token. -/
def plainTokens (position : Nat) : List Char → List Token
  | [] => []
  | c :: rest => ⟨position, false, c⟩ :: plainTokens (position + 1) rest

/-- An ordinary character is a token by itself. -/
theorem tokensFrom_cons {c : Char} (plain : c ≠ '\\') (position : Nat) (rest : List Char) :
    tokensFrom position (c :: rest) =
      (⟨position, false, c⟩ :: (tokensFrom (position + 1) rest).1,
        (tokensFrom (position + 1) rest).2) := by
  rw [tokensFrom]
  · exact fun backslash _ => plain backslash
  · exact fun _ _ backslash _ => plain backslash

/-- Ordinary characters are a token each, whatever text follows them. -/
theorem tokensFrom_plain {chars : List Char} (plain : ∀ c ∈ chars, c ≠ '\\') (position : Nat)
    (rest : List Char) :
    tokensFrom position (chars ++ rest) =
      (plainTokens position chars ++ (tokensFrom (position + chars.length) rest).1,
        (tokensFrom (position + chars.length) rest).2) := by
  induction chars generalizing position with
  | nil => rfl
  | cons c chars ih =>
      obtain ⟨here, others⟩ := List.forall_mem_cons.mp plain
      have shift : position + 1 + chars.length = position + (c :: chars).length := by
        rw [List.length_cons]
        omega
      rw [List.cons_append, tokensFrom_cons here, ih others, shift]
      rfl

theorem get_apply (progress : Progress) :
    (get : Read Progress) progress = .ok progress progress := rfl

theorem pure_apply (value : α) (progress : Progress) :
    (pure value : Read α) progress = .ok value progress := rfl

/-- Going on to tokens at which no lone backslash ends the pattern succeeds. -/
theorem goOn_apply {rest : List Token} {progress : Progress}
    (ends : rest = [] → progress.lone = false) :
    goOn rest progress = .ok () { progress with rest } := by
  have whole : (rest.isEmpty && progress.lone) = false := by
    cases rest with
    | nil => exact ends rfl
    | cons token rest => rfl
  have gone : (set { progress with rest } : Read PUnit) progress =
      .ok ⟨⟩ { progress with rest } := rfl
  rw [goOn, bind_of_ok (get_apply progress), bind_of_ok gone]
  simp only [whole, Bool.false_eq_true, ↓reduceIte, pure_apply]

/-- A character that is not the next one is not taken. -/
theorem accept_of_not_isPlain {token : Token} {rest : List Token} {progress : Progress}
    (ahead : progress.rest = token :: rest) {c : Char} (other : token.isPlain c = false) :
    accept c progress = .ok false progress := by
  rw [accept, bind_of_ok (get_apply progress), ahead]
  simp only [other, Bool.false_eq_true, ↓reduceIte, pure_apply]

/-- The next character is taken, unless a lone backslash follows. -/
theorem accept_of_isPlain {token : Token} {rest : List Token} {progress : Progress}
    (ahead : progress.rest = token :: rest) {c : Char} (plain : token.isPlain c = true)
    (ends : rest = [] → progress.lone = false) :
    accept c progress = .ok true { progress with rest } := by
  rw [accept, bind_of_ok (get_apply progress), ahead]
  simp only [plain, ↓reduceIte]
  rw [bind_of_ok (goOn_apply ends), pure_apply]

/-- Characters of a kind are taken, up to the number asked for or to a token that is none. -/
theorem takeChars_plain {kind : Char → Bool} {chars : List Char}
    (fits : ∀ c ∈ chars, kind c = true) {limit : Nat} (enough : chars.length ≤ limit)
    {position : Nat} {more : List Token}
    (stops : chars.length = limit ∨
      ∀ stop ∈ more.head?, (!stop.escaped && kind stop.char) = false)
    {progress : Progress} (ends : more = [] → progress.lone = false)
    (ahead : progress.rest = plainTokens position chars ++ more) :
    takeChars kind limit progress = .ok chars { progress with rest := more } := by
  induction chars generalizing limit position progress with
  | nil =>
      have stands : progress.rest = more := ahead
      have same : progress = { progress with rest := more } :=
        congrArg (fun rest => { progress with rest := rest }) ahead
      cases limit with
      | zero => exact congrArg _ same
      | succ limit =>
          rw [takeChars, bind_of_ok (get_apply progress), stands]
          cases more with
          | nil => exact congrArg _ same
          | cons stop more =>
              have other : (!stop.escaped && kind stop.char) = false :=
                stops.resolve_left (Nat.succ_ne_zero limit).symm stop rfl
              simp only [other, Bool.false_eq_true, ↓reduceIte, pure_apply]
              exact congrArg _ same
  | cons c chars ih =>
      obtain ⟨here, others⟩ := List.forall_mem_cons.mp fits
      cases limit with
      | zero => cases enough
      | succ limit =>
          let next : Progress := { progress with rest := plainTokens (position + 1) chars ++ more }
          have stands : progress.rest = ⟨position, false, c⟩ :: next.rest := ahead
          have whole : next.rest = [] → progress.lone = false :=
            fun none => ends (List.append_eq_nil_iff.mp none).2
          have onward : takeChars kind limit next = .ok chars { next with rest := more } :=
            ih others (Nat.le_of_succ_le_succ enough) (stops.imp_left Nat.succ.inj) ends rfl
          rw [takeChars, bind_of_ok (get_apply progress), stands]
          simp only [here, Bool.not_false, Bool.and_self, ↓reduceIte]
          rw [bind_of_ok (goOn_apply whole), bind_of_ok onward, pure_apply]

/-- The next token is seen without being taken. -/
theorem peek?_of_cons {token : Token} {rest : List Token} {progress : Progress}
    (ahead : progress.rest = token :: rest) : peek? progress = .ok (some token) progress := by
  rw [peek?, bind_of_ok (get_apply progress), ahead, pure_apply]
  rfl

/-- An ordinary character is read as itself. -/
theorem readSequence_ordinary {token : Token} {rest : List Token} {progress : Progress}
    (ahead : progress.rest = token :: rest) (unescaped : token.escaped = false)
    (ordinary : isOrdinary token.char = true) (ends : rest = [] → progress.lone = false)
    (fuel : Nat) (atStart : Bool) (parts : List Node) :
    readSequence (fuel + 1) false atStart parts progress =
      readSequence fuel false atStart (.one (.point false token.char.toNat) :: parts)
        { progress with rest } := by
  have apart : ∀ c ∈ marks, token.char ≠ c := by
    rintro c member rfl
    rw [isOrdinary, List.contains_iff_mem.mpr member] at ordinary
    cases ordinary
  have inside : (token.isPlain '|' || token.isPlain ')') = false := by
    rw [Token.isPlain, Token.isPlain, beq_false_of_ne (apart '|' (by decide)),
      beq_false_of_ne (apart ')' (by decide)), Bool.and_false, Bool.or_false]
  have goes : goOn progress.rest.tail progress = .ok () { progress with rest } := by
    rw [ahead]
    exact goOn_apply ends
  rw [readSequence, bind_of_ok (peek?_of_cons ahead)]
  simp only [inside, unescaped, Bool.false_and, Bool.false_eq_true, ↓reduceIte]
  rw [bind_of_ok (get_apply progress), bind_of_ok goes]
  refine congrFun (?_ : _ = readSequence fuel false atStart
    (.one (.point false token.char.toNat) :: parts)) _
  split
  · exact absurd ‹_› (apart '[' (by decide))
  · exact absurd ‹_› (apart '.' (by decide))
  · exact absurd ‹_› (apart '^' (by decide))
  · exact absurd ‹_› (apart '$' (by decide))
  · exact absurd ‹_› (apart '(' (by decide))
  · simp only [apart '*' (by decide), apart '+' (by decide), apart '?' (by decide),
      apart '\x7b' (by decide), decide_false, Bool.or_self, Bool.false_eq_true, ↓reduceIte]

/-- Ordinary characters make as many tokens as they are. -/
theorem length_plainTokens (position : Nat) (chars : List Char) :
    (plainTokens position chars).length = chars.length := by
  induction chars generalizing position with
  | nil => rfl
  | cons c chars ih => exact congrArg (· + 1) (ih _)

theorem here_apply (progress : Progress) : ∃ place, here progress = .ok place progress :=
  ⟨_, rfl⟩

/-- How a number of rounds that is beyond a limit is refused. -/
def countError (digits : List Char) : ReadError :=
  if digitLimit < digits.length then .tooManyDigits digits.length else .countTooLarge

/-- A count above the limit stops the reading, with the error its length asks for. -/
theorem readCount_tooLarge {digits : List Char} (tooLarge : countLimit ≤ numberOf 10 digits)
    (progress : Progress) : readCount digits progress = .error (countError digits) progress := by
  by_cases long : digitLimit < digits.length
  · simp only [readCount, countError, long, ↓reduceIte]
    rfl
  · simp only [readCount, countError, long, tooLarge, ↓reduceIte]
    rfl

/-- A number of rounds beyond the limit is refused as soon as its braces have been read. -/
theorem readBounds_overcount {digits : List Char} (decimal : ∀ c ∈ digits, c.isDigit = true)
    (tooLarge : countLimit ≤ numberOf 10 digits) {position close : Nat} {more : List Token}
    {progress : Progress} (ends : more = [] → progress.lone = false)
    (ahead : progress.rest = plainTokens position digits ++ ⟨close, false, '\x7d'⟩ :: more) :
    ∃ last, readBounds progress = .error (countError digits) last := by
  cases digits with
  | nil => exact absurd tooLarge (by decide)
  | cons c digits =>
      let closing : Progress := { progress with rest := ⟨close, false, '\x7d'⟩ :: more }
      obtain ⟨place, found⟩ := here_apply progress
      have noBrace : c ≠ '\x7d' := by
        rintro rfl
        exact absurd (decimal _ List.mem_cons_self) (by decide)
      have begins : (some (⟨position, false, c⟩ : Token)).any (·.isPlain '\x7d') = false := by
        rw [Option.any_some, Token.isPlain, beq_false_of_ne noBrace, Bool.and_false]
      have length : (c :: digits).length ≤ progress.rest.length := by
        rw [ahead, List.length_append, length_plainTokens]
        omega
      have stops : ∀ stop ∈ closing.rest.head?, (!stop.escaped && stop.char.isDigit) = false := by
        rintro _ ⟨⟩
        rfl
      have notLast : closing.rest = [] → progress.lone = false :=
        (absurd · (List.cons_ne_nil _ _))
      have taken : takeDigits progress = .ok (c :: digits) closing := by
        rw [takeDigits, bind_of_ok (get_apply progress)]
        exact takeChars_plain decimal length (.inr stops) notLast ahead
      have noComma : accept ',' closing = .ok false closing := accept_of_not_isPlain rfl rfl
      have closed : accept '\x7d' closing = .ok true { closing with rest := more } :=
        accept_of_isPlain rfl rfl ends
      rw [readBounds, bind_of_ok (get_apply progress), bind_of_ok found,
        bind_of_ok (peek?_of_cons ahead)]
      simp only [begins, Bool.false_eq_true, ↓reduceIte]
      rw [bind_of_ok taken, bind_of_ok noComma]
      simp only [Bool.false_eq_true, ↓reduceIte]
      rw [bind_of_ok (pure_apply _ _), bind_of_ok closed]
      simp only [Bool.not_true, Bool.false_eq_true, ↓reduceIte, List.isEmpty_cons]
      exact ⟨_, bind_of_error (readCount_tooLarge tooLarge _)⟩

/-- The reading of the tokens fails with the error, whatever it has read before. -/
def Stops (tokens : List Token) (lone : Bool) (error : ReadError) : Prop :=
  ∀ progress : Progress, progress.rest = tokens → progress.lone = lone →
    ∀ fuel atStart parts, ∃ last,
      readSequence (fuel + 1) false atStart parts progress = .error error last

/-- Bounds beyond the limit are what the reading ends at. -/
theorem stops_overcount {digits : List Char} (decimal : ∀ c ∈ digits, c.isDigit = true)
    (tooLarge : countLimit ≤ numberOf 10 digits) {position close : Nat} {more : List Token}
    {lone : Bool} (ends : more = [] → lone = false) :
    Stops (plainTokens position ('\x7b' :: digits) ++ ⟨close, false, '\x7d'⟩ :: more) lone
      (countError digits) := by
  rintro progress stands rfl fuel atStart parts
  let opened : Progress := { progress with
    rest := plainTokens (position + 1) digits ++ ⟨close, false, '\x7d'⟩ :: more }
  have stands : progress.rest = ⟨position, false, '\x7b'⟩ :: opened.rest := stands
  have goes : goOn progress.rest.tail progress = .ok () opened := by
    rw [stands]
    exact goOn_apply fun none => absurd none (by simp [opened])
  obtain ⟨last, refused⟩ : ∃ last, readBounds opened = .error (countError digits) last :=
    readBounds_overcount decimal tooLarge ends rfl
  have rounds : readRounds ⟨position, false, '\x7b'⟩ opened = .error (countError digits) last :=
    refused
  have inside : ((⟨position, false, '\x7b'⟩ : Token).isPlain '|' ||
      (⟨position, false, '\x7b'⟩ : Token).isPlain ')') = false := rfl
  refine ⟨last, ?_⟩
  rw [readSequence, bind_of_ok (peek?_of_cons stands)]
  simp only [inside, Bool.false_and, Bool.false_eq_true, ↓reduceIte]
  rw [bind_of_ok (get_apply progress), bind_of_ok goes]
  exact bind_of_error rounds

/-- A code beyond the limit is what the reading ends at. -/
theorem stops_overcode {digits : List Char} (eight : digits.length = 8)
    (hex : ∀ c ∈ digits, isHexDigit c = true) (tooLarge : codeLimit ≤ numberOf 16 digits)
    {position : Nat} {more : List Token} {lone : Bool} (ends : more = [] → lone = false) :
    Stops (⟨position, true, 'U'⟩ :: plainTokens (position + 2) digits ++ more) lone
      .codeTooLarge := by
  rintro progress stands rfl fuel atStart parts
  let behind : Progress := { progress with rest := plainTokens (position + 2) digits ++ more }
  have stands : progress.rest = ⟨position, true, 'U'⟩ :: behind.rest := stands
  have whole : behind.rest = [] → progress.lone = false :=
    fun none => ends (List.append_eq_nil_iff.mp none).2
  have goes : goOn progress.rest.tail progress = .ok () behind := by
    rw [stands]
    exact goOn_apply whole
  have taken : takeChars isHexDigit 8 behind = .ok digits { behind with rest := more } :=
    takeChars_plain hex (Nat.le_of_eq eight) (.inl eight) ends rfl
  have code : readCode ⟨position, true, 'U'⟩ 8 behind =
      .error .codeTooLarge { behind with rest := more } := by
    rw [readCode, bind_of_ok taken]
    simp only [eight, ne_eq, not_true_eq_false, tooLarge, ↓reduceIte]
    rfl
  have escape : readEscape ⟨position, true, 'U'⟩ behind =
      .error .codeTooLarge { behind with rest := more } := bind_of_error code
  have inside : ((⟨position, true, 'U'⟩ : Token).isPlain '|' ||
      (⟨position, true, 'U'⟩ : Token).isPlain ')') = false := rfl
  refine ⟨{ behind with rest := more }, ?_⟩
  rw [readSequence, bind_of_ok (peek?_of_cons stands)]
  simp only [inside, Bool.false_eq_true, ↓reduceIte]
  rw [bind_of_ok (get_apply progress), bind_of_ok goes]
  exact bind_of_error escape

/-- Ordinary characters in front do not change what the reading ends at. -/
theorem Stops.behind_ordinary {tokens : List Token} {lone : Bool} {error : ReadError}
    (stops : Stops tokens lone error) (ends : tokens ≠ []) {plain : List Char}
    (ordinary : ∀ c ∈ plain, isOrdinary c = true) {fuel : Nat} (enough : plain.length < fuel)
    {position : Nat} {progress : Progress}
    (ahead : progress.rest = plainTokens position plain ++ tokens) (same : progress.lone = lone)
    (atStart : Bool) (parts : List Node) :
    ∃ last, readSequence fuel false atStart parts progress = .error error last := by
  induction plain generalizing fuel position progress parts with
  | nil =>
      obtain ⟨fuel, rfl⟩ := Nat.exists_eq_succ_of_ne_zero (Nat.ne_of_gt enough)
      exact stops progress ahead same fuel atStart parts
  | cons c plain ih =>
      obtain ⟨here, others⟩ := List.forall_mem_cons.mp ordinary
      cases fuel with
      | zero => cases enough
      | succ fuel =>
          let next : Progress :=
            { progress with rest := plainTokens (position + 1) plain ++ tokens }
          have stands : progress.rest = ⟨position, false, c⟩ :: next.rest := ahead
          have more : next.rest ≠ [] := fun none => ends (List.append_eq_nil_iff.mp none).2
          rw [readSequence_ordinary stands rfl here fun none => absurd none more]
          exact ih others (Nat.lt_of_succ_lt_succ enough) (rfl : next.rest = _) same _

/-- A text that gives no token, other than a backslash alone, ends in no lone backslash. -/
theorem lone_tokensFrom {position : Nat} {text : List Char} (backslash : text ≠ ['\\'])
    (none : (tokensFrom position text).1 = []) : (tokensFrom position text).2 = false := by
  unfold tokensFrom at none ⊢
  split at none
  · rfl
  · exact absurd rfl backslash
  · cases none
  · cases none

/-- Among ordinary characters there is no backslash. -/
theorem ne_backslash_of_isOrdinary {chars : List Char}
    (ordinary : ∀ c ∈ chars, isOrdinary c = true) : ∀ c ∈ chars, c ≠ '\\' := by
  rintro c member rfl
  exact absurd (ordinary _ member) (by decide)

/-- A text is refused for what stands behind ordinary characters if the reading ends there. -/
theorem ofText_of_stops {characterNamed? : String → Option Char} {plain after : List Char}
    {error : ReadError} (ordinary : ∀ c ∈ plain, isOrdinary c = true)
    (some : (tokensFrom plain.length after).1 ≠ [])
    (stops : Stops (tokensFrom plain.length after).1 (tokensFrom plain.length after).2 error) :
    ofText characterNamed? (plain ++ after) = .error error := by
  let start : Progress := .ofText characterNamed? (plain ++ after)
  have tokens : tokensFrom 0 (plain ++ after) = (plainTokens 0 plain ++
      (tokensFrom plain.length after).1, (tokensFrom plain.length after).2) := by
    rw [tokensFrom_plain (ne_backslash_of_isOrdinary ordinary), Nat.zero_add]
  have ahead : start.rest = plainTokens 0 plain ++ (tokensFrom plain.length after).1 :=
    congrArg Prod.fst tokens
  have lone : start.lone = (tokensFrom plain.length after).2 :=
    (congrArg Prod.snd tokens :)
  have more : start.rest ≠ [] :=
    fun none => some (List.append_eq_nil_iff.mp (ahead.symm.trans none)).2
  have length : plain.length < 6 * start.rest.length + 5 := by
    rw [ahead, List.length_append, length_plainTokens]
    omega
  obtain ⟨last, refused⟩ := stops.behind_ordinary some ordinary length ahead lone true []
  have alternation : readAlternation (6 * start.rest.length + 6) false true start =
      .error error last := bind_of_error refused
  have whole : readWhole start = .error error last := by
    rw [readWhole, bind_of_ok (get_apply start),
      bind_of_ok (goOn_apply fun none => absurd none more), bind_of_ok (get_apply start),
      bind_of_error alternation]
  unfold ofText EStateM.run
  rw [show readWhole (.ofText characterNamed? (plain ++ after)) = .error error last from whole]

/-- **A text counts too many rounds.** Behind ordinary characters, a single number beyond the limit
in braces is refused, whatever follows, unless that is a lone backslash. -/
theorem ofText_overcount {characterNamed? : String → Option Char} {plain digits after : List Char}
    (ordinary : ∀ c ∈ plain, isOrdinary c = true) (decimal : ∀ c ∈ digits, c.isDigit = true)
    (tooLarge : countLimit ≤ numberOf 10 digits) (backslash : after ≠ ['\\']) :
    ofText characterNamed? (plain ++ '\x7b' :: digits ++ '\x7d' :: after) =
      .error (countError digits) := by
  have plainBackslash : ∀ c ∈ '\x7b' :: digits, c ≠ '\\' := by
    intro c member
    rcases List.mem_cons.mp member with rfl | digit
    · decide
    · rintro rfl
      exact absurd (decimal _ digit) (by decide)
  rw [List.append_assoc]
  have tokens := tokensFrom_plain plainBackslash plain.length ('\x7d' :: after)
  rw [tokensFrom_cons (by decide)] at tokens
  refine ofText_of_stops ordinary ?_ ?_
  · rw [tokens]
    exact nofun
  · rw [tokens]
    exact stops_overcount decimal tooLarge (lone_tokensFrom backslash)

/-- **A text gives too large a code.** Behind ordinary characters, eight digits of a code beyond the
limit are refused, whatever follows, unless that is a lone backslash. -/
theorem ofText_overcode {characterNamed? : String → Option Char} {plain digits after : List Char}
    (ordinary : ∀ c ∈ plain, isOrdinary c = true) (eight : digits.length = 8)
    (hex : ∀ c ∈ digits, isHexDigit c = true) (tooLarge : codeLimit ≤ numberOf 16 digits)
    (backslash : after ≠ ['\\']) :
    ofText characterNamed? (plain ++ '\\' :: 'U' :: digits ++ after) = .error .codeTooLarge := by
  have plainBackslash : ∀ c ∈ digits, c ≠ '\\' := by
    rintro c member rfl
    exact absurd (hex _ member) (by decide)
  rw [List.append_assoc]
  have tokens : tokensFrom plain.length ('\\' :: 'U' :: digits ++ after) =
      (⟨plain.length, true, 'U'⟩ :: plainTokens (plain.length + 2) digits ++
          (tokensFrom (plain.length + 2 + digits.length) after).1,
        (tokensFrom (plain.length + 2 + digits.length) after).2) := by
    rw [List.cons_append, List.cons_append, tokensFrom, tokensFrom_plain plainBackslash]
    rfl
  refine ofText_of_stops ordinary ?_ ?_
  · rw [tokens]
    exact nofun
  · rw [tokens]
    exact stops_overcode eight hex tooLarge (lone_tokensFrom backslash)

end Pattern

namespace Builtin

open Pattern

variable {H : Extension}

/-- A search leaves the state alone. -/
theorem search_call (value pattern : Value) (state : State H) :
    (Builtin.search.call [value, pattern] : Eval H Value) state =
      (Eval.ofExcept (search.compute H.characterNamed? [value, pattern]) : Eval H Value) state :=
  rfl

/-- The search function says whether the pattern of its second argument is found in the first. -/
theorem compute_of_pattern {characterNamed? : String → Option Char} {value text : Value}
    {pattern : Pattern}
    (read : Pattern.ofText characterNamed? text.render.toList = .ok pattern) :
    search.compute characterNamed? [value, text] =
      .ok (.boolean (pattern.foundIn value.render)) := by
  have compiled : patternOf characterNamed? text.render = .ok pattern := by
    rw [patternOf, read]
  simp only [compute, compiled]
  rfl

/-- The search function fails as the reading of its pattern does. -/
theorem compute_of_error {characterNamed? : String → Option Char} {value text : Value}
    {failure : Failure} (refused : patternOf characterNamed? text.render = .error failure) :
    search.compute characterNamed? [value, text] = .error failure := by
  simp only [compute, refused]
  rfl

/-- **How a search ends.** A search gives a truth value if the text is a pattern, and is an error of
the script if the text has a fault. Otherwise it fails in a way of its own, and then the text counts
rounds beyond the limit or with too many digits, or sets flags for two alphabets, or gives a code
beyond the limit. Behind ordinary characters, a number of rounds or a code beyond its limit is
enough for this, if no lone backslash follows it. -/
theorem search_ends (value text : Value) (state : State H) :
    let chars := text.render.toList
    let read := Pattern.ofText H.characterNamed? chars
    let called := (Builtin.search.call [value, text] : Eval H Value) state
    (∀ pattern, read = .ok pattern →
      called = .ok (.boolean (pattern.foundIn value.render)) state) ∧
    (∀ fault position, read = .error (.malformed fault position) →
      called = .error (.ofCause (.general ("invalid regular expression " ++
        Text.quoted text.render ++ ": " ++ fault.messageIn chars position))) state) ∧
    ((∃ truth, called = .ok (.boolean truth) state) ∨
      (∃ message, called = .error (.ofCause (.general message)) state) ∨
      (called = .error .loopCountTooLarge state ∧ Counts chars (countLimit ≤ numberOf 10 ·)) ∨
      (∃ count, called = .error (.tooManyDigits count) state ∧ digitLimit < count ∧
        Counts chars (·.length = count)) ∨
      (called = .error .twoAlphabets state ∧ SetsFlag chars .ascii ∧ SetsFlag chars .unicode) ∨
      (called = .error .codeTooLarge state ∧ Overcodes chars)) ∧
    (∀ plain digits after, chars = plain ++ '\x7b' :: digits ++ '\x7d' :: after →
      (∀ c ∈ plain, isOrdinary c = true) → (∀ c ∈ digits, c.isDigit = true) →
      countLimit ≤ numberOf 10 digits → after ≠ ['\\'] →
        called = .error (if digitLimit < digits.length then .tooManyDigits digits.length
          else .loopCountTooLarge) state) ∧
    ∀ plain digits after, chars = plain ++ '\\' :: 'U' :: digits ++ after →
      (∀ c ∈ plain, isOrdinary c = true) → digits.length = 8 →
      (∀ c ∈ digits, isHexDigit c = true) → codeLimit ≤ numberOf 16 digits → after ≠ ['\\'] →
        called = .error .codeTooLarge state := by
  intro chars read called
  have reads : Pattern.ofText H.characterNamed? text.render.toList = read := rfl
  have gives : ∀ pattern, read = .ok pattern →
      called = .ok (.boolean (pattern.foundIn value.render)) state := by
    intro pattern isPattern
    simp only [called, search_call, compute_of_pattern isPattern, Eval.ofExcept_ok]
  have fails : ∀ failure, patternOf H.characterNamed? text.render = .error failure →
      called = .error failure state := by
    intro failure refused
    simp only [called, search_call, compute_of_error refused, Eval.ofExcept_error]
  have malformed : ∀ fault position, read = .error (.malformed fault position) →
      called = .error (.ofCause (.general ("invalid regular expression " ++
        Text.quoted text.render ++ ": " ++ fault.messageIn chars position))) state :=
    fun fault position refused => fails _ (by rw [patternOf, reads, refused])
  have overcounts : read = .error .countTooLarge → called = .error .loopCountTooLarge state :=
    fun refused => fails _ (by rw [patternOf, reads, refused])
  have overlong : ∀ count, read = .error (.tooManyDigits count) →
      called = .error (.tooManyDigits count) state :=
    fun count refused => fails _ (by rw [patternOf, reads, refused])
  have alphabets : read = .error .twoAlphabets → called = .error .twoAlphabets state :=
    fun refused => fails _ (by rw [patternOf, reads, refused])
  have overcodes : read = .error .codeTooLarge → called = .error .codeTooLarge state :=
    fun refused => fails _ (by rw [patternOf, reads, refused])
  refine ⟨gives, malformed, ?_, ?_, ?_⟩
  · cases ends : read with
    | ok pattern => exact .inl ⟨_, gives pattern ends⟩
    | error error =>
        have explained := ofText_error_explained ends
        cases error with
        | malformed fault position => exact .inr (.inl ⟨_, malformed fault position ends⟩)
        | countTooLarge => exact .inr (.inr (.inl ⟨overcounts ends, explained⟩))
        | tooManyDigits count =>
            exact .inr (.inr (.inr (.inl ⟨count, overlong count ends, explained⟩)))
        | twoAlphabets => exact .inr (.inr (.inr (.inr (.inl ⟨alphabets ends, explained⟩))))
        | codeTooLarge => exact .inr (.inr (.inr (.inr (.inr ⟨overcodes ends, explained⟩))))
  · intro plain digits after split ordinary decimal tooLarge backslash
    have refused : read = .error (countError digits) := by
      rw [← reads, show text.render.toList = _ from split]
      exact ofText_overcount ordinary decimal tooLarge backslash
    by_cases long : digitLimit < digits.length
    · rw [countError, if_pos long] at refused
      rw [if_pos long, overlong _ refused]
    · rw [countError, if_neg long] at refused
      rw [if_neg long, overcounts refused]
  · intro plain digits after split ordinary eight hex tooLarge backslash
    refine overcodes ?_
    rw [← reads, show text.render.toList = _ from split]
    exact ofText_overcode ordinary eight hex tooLarge backslash

/-- The digits of the least number of rounds that is beyond the limit. -/
def limitDigits : List Char := ['4', '2', '9', '4', '9', '6', '7', '2', '9', '5']

theorem isDigit_limitDigits : ∀ c ∈ limitDigits, c.isDigit = true := List.all_eq_true.mp rfl

theorem countLimit_le_limitDigits : countLimit ≤ numberOf 10 limitDigits := Nat.le_of_eq rfl

/-- The limit itself is too many rounds, and the first code beyond the limit is too large. -/
theorem search_ends_overcount :
    (Builtin.search.call [.string "abc", .string "a\x7b4294967295\x7d"] :
        Eval sampleExtension Value) (sampleState [] 0 5) =
      .error .loopCountTooLarge (sampleState [] 0 5) ∧
    (Builtin.search.call [.string "abc", .string "a\\U80000000"] :
        Eval sampleExtension Value) (sampleState [] 0 5) =
      .error .codeTooLarge (sampleState [] 0 5) := by
  obtain ⟨_, _, _, counted, _⟩ :=
    search_ends (.string "abc") (.string "a\x7b4294967295\x7d") (sampleState [] 0 5)
  obtain ⟨_, _, _, _, coded⟩ :=
    search_ends (.string "abc") (.string "a\\U80000000") (sampleState [] 0 5)
  constructor
  · exact counted ['a'] limitDigits [] rfl (List.all_eq_true.mp rfl) isDigit_limitDigits
      countLimit_le_limitDigits nofun
  · exact coded ['a'] ['8', '0', '0', '0', '0', '0', '0', '0'] [] rfl (List.all_eq_true.mp rfl) rfl
      (List.all_eq_true.mp rfl) (Nat.le_of_eq rfl) nofun

/-- **A search does not fail as a script alone.** Too many rounds are neither a truth value nor an
error of the script. -/
theorem not_search_contract : ¬ ∀ (value text : Value) (state : State sampleExtension),
    (∃ truth, (Builtin.search.call [value, text] : Eval sampleExtension Value) state =
      .ok (.boolean truth) state) ∨
    ∃ error last, (Builtin.search.call [value, text] : Eval sampleExtension Value) state =
      .error (.script error) last := by
  intro contract
  have shown : (Value.string "a\x7b4294967295\x7d").render.toList =
      ['a'] ++ '\x7b' :: limitDigits ++ '\x7d' :: [] := rfl
  have ordinary : ∀ c ∈ ['a'], isOrdinary c = true := List.all_eq_true.mp rfl
  have read : Pattern.ofText sampleExtension.characterNamed?
      (Value.string "a\x7b4294967295\x7d").render.toList = .error .countTooLarge := by
    rw [shown]
    exact ofText_overcount ordinary isDigit_limitDigits countLimit_le_limitDigits nofun
  have refused : patternOf sampleExtension.characterNamed?
      (Value.string "a\x7b4294967295\x7d").render = .error .loopCountTooLarge := by
    rw [patternOf, read]
  rcases contract (.string "abc") (.string "a\x7b4294967295\x7d") (sampleState [] 0 5) with
    ⟨truth, ends⟩ | ⟨error, last, ends⟩
  · rw [search_call, compute_of_error refused] at ends
    cases ends
  · rw [search_call, compute_of_error refused] at ends
    cases ends

end Builtin

end FilterScript
