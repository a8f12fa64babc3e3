import FilterScript.Proofs.NumericText
import FilterScript.Text.Blank
import Mathlib

/-! # The grammar of numeric texts

A text is numeric when the whole of it is a numeral, or the name of a special value behind an
optional sign (`IsNumeric`). Reading accepts exactly these texts, each with what it spells
(`Literal.ofText?_eq_some_iff`): what a text is split into are the parts of a numeral, and put
together they are the text again. So the number of a text is known for every text there is, and it
is zero for a text that has a blank or an underscore anywhere (`Value.number_string`). A host whose
own reader passes over these meets the same grammar behind two tests: a text that has blanks at its
ends or an underscore is not read at all (`isNumeric_iff_guarded`).
-/

namespace FilterScript

/-! ## Texts taken apart -/

namespace Literal

/-- The digits that are split off and what follows them make up the text. -/
theorem exists_digits_of_splitDigits {text rest : List Char} {values : List ℕ}
    (split : splitDigits text = (values, rest)) :
    ∃ digits, text = digits ++ rest ∧ AllDigits digits ∧
      digits.filterMap Text.digitValue? = values := by
  induction text generalizing values rest with
  | nil =>
      cases split
      exact ⟨[], rfl, UsualDigits.nil.allDigits, rfl⟩
  | cons c text ih =>
      unfold splitDigits at split
      cases digit : Text.digitValue? c with
      | none =>
          rw [digit] at split
          cases split
          exact ⟨[], rfl, UsualDigits.nil.allDigits, rfl⟩
      | some value =>
          cases others : splitDigits text with
          | mk later after =>
              rw [digit, others] at split
              cases split
              obtain ⟨digits, rfl, allDigits, rfl⟩ := ih others
              refine ⟨c :: digits, rfl, ?_, ?_⟩
              · intro other member
                rcases List.mem_cons.mp member with rfl | member
                · rw [digit]
                  rfl
                · exact allDigits other member
              · rw [List.filterMap_cons, digit]

/-- The sign that is split off, if there is one, and what follows it make up the text. -/
theorem exists_sign_of_splitSign {text rest : List Char} {negative : Bool}
    (split : splitSign text = (negative, rest)) :
    ∃ sign, text = signText sign ++ rest ∧ sign.getD false = negative := by
  unfold splitSign at split
  split at split
  · cases split
    exact ⟨some true, rfl, rfl⟩
  · cases split
    exact ⟨some false, rfl, rfl⟩
  · cases split
    exact ⟨none, rfl, rfl⟩

/-- What is split off as a fraction is one, if there is a point. -/
theorem exists_fraction_of_splitFraction {text rest : List Char} {values : List ℕ}
    (split : splitFraction text = (values, rest)) :
    ∃ fraction : Option (List Char), text = fraction.elim [] ('.' :: ·) ++ rest ∧
      AllDigits (fraction.getD []) ∧ (fraction.getD []).filterMap Text.digitValue? = values := by
  unfold splitFraction at split
  split at split
  · obtain ⟨digits, rfl, allDigits, values⟩ := exists_digits_of_splitDigits split
    exact ⟨some digits, rfl, allDigits, values⟩
  · cases split
    exact ⟨none, rfl, UsualDigits.nil.allDigits, rfl⟩

/-- What is read as an exponent behind its mark is a sign and digits to the end. -/
theorem splits_of_exponent? {mark : Char} {rest : List Char} {value : ℤ}
    (read : exponent? (mark :: rest) = some value) : (mark = 'e' ∨ mark = 'E') ∧
      ∃ negative unsigned values, splitSign rest = (negative, unsigned) ∧
        splitDigits unsigned = (values, []) ∧ values ≠ [] ∧
        Binary.signed negative (ofDigits values) = value := by
  unfold exponent? at read
  dsimp only at read
  split at read
  · next marked =>
      split at read
      · cases read
      · next some_digit split =>
          cases read
          exact ⟨marked, _, _, _, rfl, split, some_digit, rfl⟩
      · cases read
  · cases read

/-- A text that is read as an exponent is one as it is written. -/
theorem exists_exponent_of_exponent? {text : List Char} {value : ℤ}
    (read : exponent? text = some value) : ∃ exponent : Option WrittenExponent,
      text = exponent.elim [] WrittenExponent.text ∧
        exponent.elim 0 WrittenExponent.value = value := by
  cases text with
  | nil =>
      cases read
      exact ⟨none, rfl, rfl⟩
  | cons mark rest =>
      obtain ⟨marked, negative, unsigned, values, signSplit, split, some_digit, rfl⟩ :=
        splits_of_exponent? read
      obtain ⟨sign, rfl, rfl⟩ := exists_sign_of_splitSign signSplit
      obtain ⟨digits, rfl, allDigits, rfl⟩ := exists_digits_of_splitDigits split
      rw [List.append_nil]
      have written : digits ≠ [] := by
        rintro rfl
        exact some_digit rfl
      refine ⟨some ⟨decide (mark = 'E'), sign, digits, allDigits, written⟩, ?_, ?_⟩
      · rcases marked with rfl | rfl
        · rfl
        · rfl
      · match sign with
        | none | some false | some true => rfl

/-- A text that is read as a decimal is a numeral as it is written, apart from a sign. -/
theorem exists_numeral_of_decimal? (sign : Option Bool) {text : List Char} {d : Decimal}
    (read : decimal? text = some d) :
    ∃ n : Numeral, n.sign = sign ∧ n.unsignedText = text ∧ n.decimal = d := by
  cases front : splitDigits text with
  | mk values afterWhole =>
      cases back : splitFraction afterWhole with
      | mk values' afterFraction =>
          rw [decimal?_eq, front] at read
          dsimp only at read
          rw [back] at read
          dsimp only at read
          split at read
          · cases read
          · next some_digit =>
              obtain ⟨whole, rfl, wholeDigits, rfl⟩ := exists_digits_of_splitDigits front
              obtain ⟨fraction, rfl, fractionDigits, rfl⟩ := exists_fraction_of_splitFraction back
              obtain ⟨value, exponentRead, same⟩ := Option.map_eq_some_iff.mp read
              obtain ⟨exponent, rfl, rfl⟩ := exists_exponent_of_exponent? exponentRead
              have written : whole ++ fraction.getD [] ≠ [] := by
                intro none
                obtain ⟨rfl, noFraction⟩ := List.append_eq_nil_iff.mp none
                exact some_digit ⟨rfl, by rw [noFraction]; rfl⟩
              refine ⟨⟨sign, whole, fraction, exponent, wholeDigits, fractionDigits, written⟩,
                rfl, rfl, ?_⟩
              rw [← same, Numeral.decimal, digitsValue, List.filterMap_append,
                length_values fractionDigits]

end Literal

/-! ## The grammar -/

/-- The text is one of some names behind an optional sign; its letters may be small or capital. -/
def IsNamed (names : List (List Char)) (sign : Option Bool) (text : String) : Prop :=
  ∃ letters, text = String.ofList (signText sign ++ letters) ∧ letters.map Char.toLower ∈ names

/-- The names of what lies behind all numbers. -/
def infinityNames : List (List Char) :=
  [['i', 'n', 'f'], ['i', 'n', 'f', 'i', 'n', 'i', 't', 'y']]

/-- The name of what is no number. -/
def nanNames : List (List Char) := [['n', 'a', 'n']]

/-- The whole text is a numeral or a special value. -/
def IsNumeric (text : String) : Prop :=
  (∃ n : Numeral, text = n.text) ∨ (∃ sign, IsNamed infinityNames sign text) ∨
    ∃ sign, IsNamed nanNames sign text

/-- A name starts with a letter, so the sign before it is told apart. -/
theorem IsNamed.exists_splitSign {names : List (List Char)} {sign : Option Bool} {text : String}
    (named : IsNamed names sign text)
    (letter : ∀ name ∈ names, name.head? ∈ [some 'i', some 'n']) :
    ∃ letters, Literal.splitSign text.toList = (sign.getD false, letters) ∧
      letters.map Char.toLower ∈ names := by
  obtain ⟨letters, rfl, name⟩ := named
  refine ⟨letters, ?_, name⟩
  rw [String.toList_ofList]
  apply Literal.splitSign_append
  intro c first
  have lower := letter _ name
  rw [List.head?_map, Option.mem_def.mp first, Option.map_some] at lower
  constructor
  · rintro rfl
    exact absurd lower (by decide)
  · rintro rfl
    exact absurd lower (by decide)

theorem mem_infinityNames {letters : List Char} : letters ∈ infinityNames ↔
    letters = ['i', 'n', 'f'] ∨ letters = ['i', 'n', 'f', 'i', 'n', 'i', 't', 'y'] := by
  rw [infinityNames, List.mem_cons, List.mem_singleton]

theorem mem_nanNames {letters : List Char} : letters ∈ nanNames ↔ letters = ['n', 'a', 'n'] :=
  List.mem_singleton

namespace Literal

/-- A text as a whole is a literal, by the grammar. -/
inductive Spells : String → Literal → Prop
  | numeral (n : Numeral) : Spells n.text (.decimal n.negative n.decimal)
  | infinity {text sign} (named : IsNamed infinityNames sign text) :
      Spells text (.infinity (sign.getD false))
  | nan {text sign} (named : IsNamed nanNames sign text) : Spells text .nan

/-- **A text is read as a literal exactly when the whole of it spells that.** -/
theorem ofText?_eq_some_iff {text : String} {literal : Literal} :
    ofText? text.toList = some literal ↔ Spells text literal := by
  constructor
  · intro read
    cases split : splitSign text.toList with
    | mk negative unsigned =>
        obtain ⟨sign, whole, rfl⟩ := exists_sign_of_splitSign split
        have same : text = String.ofList (signText sign ++ unsigned) := by
          rw [← whole, String.ofList_toList]
        unfold ofText? at read
        rw [split] at read
        dsimp only at read
        split at read
        · next name =>
            cases read
            exact .infinity ⟨unsigned, same, mem_infinityNames.mpr name⟩
        · split at read
          · next name =>
              cases read
              exact .nan ⟨unsigned, same, mem_nanNames.mpr name⟩
          · obtain ⟨d, decimal, rfl⟩ := Option.map_eq_some_iff.mp read
            obtain ⟨n, rfl, rfl, rfl⟩ := exists_numeral_of_decimal? sign decimal
            rw [same]
            exact .numeral n
  · intro spelled
    cases spelled with
    | numeral n => exact ofText?_text n
    | infinity named =>
        obtain ⟨letters, split, name⟩ := named.exists_splitSign (by decide)
        unfold ofText?
        rw [split]
        exact if_pos (mem_infinityNames.mp name)
    | nan named =>
        obtain ⟨letters, split, name⟩ := named.exists_splitSign (by decide)
        have name := mem_nanNames.mp name
        unfold ofText?
        rw [split]
        dsimp only
        rw [name, if_neg (by decide), if_pos rfl]

end Literal

/-- A text is numeric exactly if it spells a literal. -/
theorem isNumeric_iff {text : String} :
    IsNumeric text ↔ ∃ literal, Literal.Spells text literal := by
  constructor
  · rintro (⟨n, rfl⟩ | ⟨sign, named⟩ | ⟨sign, named⟩)
    · exact ⟨_, .numeral n⟩
    · exact ⟨_, .infinity named⟩
    · exact ⟨_, .nan named⟩
  · rintro ⟨literal, spelled⟩
    cases spelled with
    | numeral n => exact .inl ⟨n, rfl⟩
    | infinity named => exact .inr (.inl ⟨_, named⟩)
    | nan named => exact .inr (.inr ⟨_, named⟩)

/-! ## The characters of a numeric text -/

/-- A sign is written as one of two marks. -/
theorem mem_of_mem_signText {sign : Option Bool} {c : Char} (member : c ∈ signText sign) :
    c ∈ ['+', '-'] := by
  match sign with
  | none => cases member
  | some false | some true =>
      obtain rfl := List.mem_singleton.mp member
      decide

/-- A numeral has digits, signs, a point and the mark of an exponent. -/
theorem Numeral.mem_text {n : Numeral} {c : Char} (member : c ∈ n.text.toList) :
    (Text.digitValue? c).isSome = true ∨ c ∈ ['+', '-', '.', 'e', 'E'] := by
  have signs : ['+', '-'] ⊆ ['+', '-', '.', 'e', 'E'] := by decide
  rw [text, String.toList_ofList, unsignedText] at member
  rcases List.mem_append.mp member with sign | member
  · exact .inr (signs (mem_of_mem_signText sign))
  rcases List.mem_append.mp member with whole | member
  · exact .inl (n.whole_digits c whole)
  rcases List.mem_append.mp member with fraction | exponent
  · have digits := n.fraction_digits
    cases behind : n.fraction with
    | none =>
        rw [behind] at fraction
        cases fraction
    | some written =>
        rw [behind] at fraction digits
        rcases List.mem_cons.mp fraction with rfl | digit
        · exact .inr (by decide)
        · exact .inl (digits c digit)
  · cases behind : n.exponent with
    | none =>
        rw [behind] at exponent
        cases exponent
    | some written =>
        rw [behind, Option.elim_some, WrittenExponent.text] at exponent
        rcases List.mem_cons.mp exponent with rfl | member
        · right
          split <;> decide
        rcases List.mem_append.mp member with sign | digit
        · exact .inr (signs (mem_of_mem_signText sign))
        · exact .inl (written.allDigits c digit)

/-- A special value has signs and the usual letters. -/
theorem IsNamed.mem_text {names : List (List Char)} {sign : Option Bool} {text : String} {c : Char}
    (named : IsNamed names sign text)
    (small : ∀ name ∈ names, name.all Char.isLower = true)
    (member : c ∈ text.toList) : c ∈ ['+', '-'] ∨ c.isAlpha = true := by
  obtain ⟨letters, rfl, name⟩ := named
  rw [String.toList_ofList] at member
  rcases List.mem_append.mp member with sign | letter
  · exact .inl (mem_of_mem_signText sign)
  · right
    rw [← Char.isLower_toLower_eq_isAlpha]
    exact List.all_eq_true.mp (small _ name) _ (List.mem_map_of_mem letter)

/-- A numeric text has digits, signs, points and the usual letters. -/
theorem IsNumeric.mem_text {text : String} (numeric : IsNumeric text) {c : Char}
    (member : c ∈ text.toList) :
    (Text.digitValue? c).isSome = true ∨ c ∈ ['+', '-', '.', 'e', 'E'] ∨ c.isAlpha = true := by
  have signs : ['+', '-'] ⊆ ['+', '-', '.', 'e', 'E'] := by decide
  rcases numeric with ⟨n, rfl⟩ | ⟨sign, named⟩ | ⟨sign, named⟩
  · exact (Numeral.mem_text member).imp_right .inl
  · exact .inr ((named.mem_text (by decide) member).imp_left fun sign => signs sign)
  · exact .inr ((named.mem_text (by decide) member).imp_left fun sign => signs sign)

/-- No decimal digit is blank. -/
theorem Text.digitValue?_of_isBlank {c : Char} (blank : isBlank c = true) :
    digitValue? c = none := by
  have apart : ∀ blanks ∈ blankPoints.ranges, ∀ digits ∈ digitPoints.ranges,
      blanks.2 < digits.1 ∨ digits.2 < blanks.1 := by
    decide
  obtain ⟨blanks, member, low, high⟩ := CodePoints.contains_iff.mp blank
  rw [digitValue?, Option.map_eq_none_iff, CodePoints.rangeOf?, List.find?_eq_none]
  intro digits member' inside
  simp only [Bool.and_eq_true, decide_eq_true_eq] at inside
  have := apart blanks member digits member'
  omega

/-- Blanks lie before the usual letters and marks, or beyond the first 128 code points. -/
theorem Text.blank_code {c : Char} (blank : isBlank c = true) : c.toNat ≤ 32 ∨ 128 ≤ c.toNat := by
  have apart : ∀ range ∈ blankPoints.ranges, range.2 ≤ 32 ∨ 128 ≤ range.1 := by decide
  obtain ⟨range, member, low, high⟩ := CodePoints.contains_iff.mp blank
  have := apart range member
  omega

/-- Neither blanks nor underscores stand in a numeric text, at its ends or anywhere else. -/
theorem not_isNumeric_of_mem {text : String} {c : Char} (member : c ∈ text.toList)
    (foreign : Text.isBlank c = true ∨ c = '_') : ¬ IsNumeric text := by
  intro numeric
  rcases foreign with blank | rfl
  · have code := Text.blank_code blank
    rcases numeric.mem_text member with digit | mark | letter
    · rw [Text.digitValue?_of_isBlank blank] at digit
      cases digit
    · simp only [List.mem_cons, List.not_mem_nil, or_false] at mark
      rcases mark with rfl | rfl | rfl | rfl | rfl <;> exact absurd code (by decide)
    · rw [Char.isAlpha, Char.isUpper, Char.isLower] at letter
      simp only [Bool.or_eq_true, Bool.and_eq_true, decide_eq_true_eq] at letter
      have letterCode : 65 ≤ c.toNat ∧ c.toNat ≤ 90 ∨ 97 ≤ c.toNat ∧ c.toNat ≤ 122 := letter
      omega
  · exact absurd (numeric.mem_text member) (by decide)

/-! ## The reader of the host -/

/-- Every underscore stands between two digits; a digit or none stands before the text. -/
def underscoresJoin (afterDigit : Bool) : List Char → Bool
  | [] => true
  | '_' :: rest => afterDigit && rest.head?.any Text.isDigit && underscoresJoin false rest
  | c :: rest => underscoresJoin (Text.isDigit c) rest

/-- What the host reads as a float. It accepts more than the grammar: blanks at both ends, and
underscores that join digits. -/
def hostLiteral? (text : String) : Option Literal :=
  let core := (Text.trim text).toList
  if underscoresJoin false core then Literal.ofText? (core.filter (· ≠ '_')) else none

/-- The text passes the two tests that are made before it is given to the host's reader. -/
def IsGuarded (text : String) : Prop := Text.trim text = text ∧ '_' ∉ text.toList

/-- Underscores are where they may be if there are none. -/
theorem underscoresJoin_of_not_mem {text : List Char} (absent : '_' ∉ text) (afterDigit : Bool) :
    underscoresJoin afterDigit text = true := by
  induction text generalizing afterDigit with
  | nil => rfl
  | cons c rest ih =>
      obtain ⟨other, absent⟩ := not_or.mp (mt List.mem_cons.mpr absent)
      rw [underscoresJoin]
      · exact ih absent _
      · exact Ne.symm other

/-- A text without blanks is trimmed already. -/
theorem Text.trim_eq_self {text : String} (noBlank : ∀ c ∈ text.toList, isBlank c = false) :
    trim text = text := by
  have kept {cs : List Char} (noBlank : ∀ c ∈ cs, isBlank c = false) : dropBlanks cs = cs := by
    cases cs with
    | nil => rfl
    | cons c rest => exact List.dropWhile_cons_of_neg (by rw [noBlank c List.mem_cons_self]; decide)
  rw [trim, kept noBlank, kept fun c member => noBlank c (List.mem_reverse.mp member),
    List.reverse_reverse, String.ofList_toList]

/-- Behind the tests the host accepts the grammar alone. -/
theorem IsGuarded.hostLiteral?_eq {text : String} (guarded : IsGuarded text) :
    hostLiteral? text = Literal.ofText? text.toList := by
  obtain ⟨trimmed, absent⟩ := guarded
  have kept : text.toList.filter (· ≠ '_') = text.toList := by
    rw [List.filter_eq_self]
    exact fun c member => decide_eq_true fun same => absent (same ▸ member)
  unfold hostLiteral?
  dsimp only
  rw [trimmed, if_pos (underscoresJoin_of_not_mem absent false), kept]

/-- **The tests cut what the host accepts down to the grammar.** -/
theorem isNumeric_iff_guarded {text : String} :
    IsNumeric text ↔ IsGuarded text ∧ (hostLiteral? text).isSome = true := by
  constructor
  · intro numeric
    have absent (c : Char) (member : c ∈ text.toList) : ¬ (Text.isBlank c = true ∨ c = '_') :=
      fun foreign => not_isNumeric_of_mem member foreign numeric
    have guarded : IsGuarded text := by
      constructor
      · apply Text.trim_eq_self
        exact fun c member => Bool.eq_false_iff.mpr fun blank => absent c member (.inl blank)
      · exact fun member => absent '_' member (.inr rfl)
    obtain ⟨literal, spelled⟩ := isNumeric_iff.mp numeric
    rw [guarded.hostLiteral?_eq, Literal.ofText?_eq_some_iff.mpr spelled]
    exact ⟨guarded, rfl⟩
  · rintro ⟨guarded, accepted⟩
    rw [guarded.hostLiteral?_eq] at accepted
    obtain ⟨literal, read⟩ := Option.isSome_iff_exists.mp accepted
    exact isNumeric_iff.mpr ⟨literal, Literal.ofText?_eq_some_iff.mp read⟩

-- Without the tests, this would be ten.
example : hostLiteral? " 1_0\t" = some (.decimal false ⟨10, 0⟩) := by
  decide

/-! ## The number of a text -/

namespace Single

/-- A text that spells a literal is read as the single that this stands for. -/
theorem ofText_of_spells {text : String} {literal : Literal}
    (spelled : Literal.Spells text literal) : ofText text = literal.toSingle := by
  rw [ofText, Literal.ofText?_eq_some_iff.mpr spelled, Option.map_some, Option.getD_some]

/-- A text that is no literal stands for zero. -/
theorem ofText_of_not_isNumeric {text : String} (malformed : ¬ IsNumeric text) :
    ofText text = .ofRank false 0 := by
  have unread : Literal.ofText? text.toList = none := by
    by_contra read
    obtain ⟨literal, read⟩ := Option.ne_none_iff_exists'.mp read
    exact malformed (isNumeric_iff.mpr ⟨literal, Literal.ofText?_eq_some_iff.mp read⟩)
  rw [ofText, unread, Option.map_none, Option.getD_none]

end Single

/-- **A text has the number that the grammar gives it, and zero if it gives none.** -/
theorem Value.number_string (text : String) : ∃ x, (Value.string text).number = .ok x ∧
    (∀ n : Numeral, text = n.text → x.isNegative = n.negative ∧ ∃ rank narrow,
      Format.double.IsNearest n.magnitude rank ∧
      Format.single.IsNearest (Format.double.point rank) narrow ∧
      x = (Binary.ofRank n.negative narrow : Single).convert .double) ∧
    (∀ sign, IsNamed infinityNames sign text → x = .infinity (sign.getD false)) ∧
    (∀ sign, IsNamed nanNames sign text → x = .nan) ∧
    (¬ IsNumeric text → x = .ofRank false 0) ∧
    (∀ c ∈ text.toList, Text.isBlank c = true ∨ c = '_' → ¬ IsNumeric text) ∧
    (IsNumeric text ↔ IsGuarded text ∧ (hostLiteral? text).isSome = true) := by
  refine ⟨(Single.ofText text).convert .double, rfl, ?_, ?_, ?_, ?_, ?_, isNumeric_iff_guarded⟩
  · rintro n rfl
    have nearest := n.decimal.isNearest_rank Format.regular_double
    rw [n.value_decimal] at nearest
    rw [Single.ofText_of_spells (.numeral n), Literal.toSingle, Decimal.readSingle_eq]
    constructor
    · rw [Binary.isNegative_convert, Binary.isNegative_ofRank]
    · exact ⟨_, _, nearest, Format.isNearest_narrowRank _, rfl⟩
  · intro sign named
    rw [Single.ofText_of_spells (.infinity named)]
    rfl
  · intro sign named
    rw [Single.ofText_of_spells (.nan named)]
    rfl
  · intro malformed
    rw [Single.ofText_of_not_isNumeric malformed, Binary.convert_double_zero]
  · intro c member foreign
    exact not_isNumeric_of_mem member foreign

/-- Minus thirty-five, with digits of two scripts. -/
def minusThirtyFive : Numeral where
  sign := some true
  whole := ['٣']
  fraction := some ['5']
  exponent := some ⟨true, some false, ['0', '1'], UsualDigits.allDigits (by decide), by decide⟩
  whole_digits := by
    intro c member
    obtain rfl := List.mem_singleton.mp member
    decide
  fraction_digits := UsualDigits.allDigits (by decide)
  some_digit := by decide

/-- The text of a number is read with its sign in the middle of digits of another script, and so is
a name. -/
theorem Value.number_string_minusThirtyFive :
    "-٣.5E+01" = minusThirtyFive.text ∧
    (∃ x rank narrow, (Value.string "-٣.5E+01").number = .ok x ∧ x.isNegative = true ∧
      Format.double.IsNearest minusThirtyFive.magnitude rank ∧
      Format.single.IsNearest (Format.double.point rank) narrow ∧
      x = (Binary.ofRank true narrow : Single).convert .double) ∧
    IsNamed infinityNames (some true) "-InFinity" ∧
    (Value.string "-InFinity").number = .ok (.infinity true) ∧
    IsNamed nanNames none "NaN" ∧ (Value.string "NaN").number = .ok .nan ∧
    ¬ IsNumeric "1_0" ∧ (Value.string "1_0").number = .ok (.ofRank false 0) := by
  have written : "-٣.5E+01" = minusThirtyFive.text := rfl
  have infinite : IsNamed infinityNames (some true) "-InFinity" :=
    ⟨['I', 'n', 'F', 'i', 'n', 'i', 't', 'y'], rfl, by decide⟩
  have noNumber : IsNamed nanNames none "NaN" := ⟨['N', 'a', 'N'], rfl, by decide⟩
  obtain ⟨x, number, numeral, -⟩ := number_string "-٣.5E+01"
  obtain ⟨negative, rank, narrow, nearest, narrowed, same⟩ := numeral minusThirtyFive written
  obtain ⟨y, infinity, -, named, -⟩ := number_string "-InFinity"
  obtain ⟨z, nan, -, -, named', -⟩ := number_string "NaN"
  obtain ⟨w, zero, -, -, -, malformed, foreign, -⟩ := number_string "1_0"
  have underscored : ¬ IsNumeric "1_0" := foreign '_' (by decide) (.inr rfl)
  refine ⟨written, ⟨x, rank, narrow, number, negative, nearest, narrowed, same⟩, infinite, ?_,
    noNumber, ?_, underscored, ?_⟩
  · rw [infinity, named _ infinite]
    rfl
  · rw [nan, named' _ noNumber]
  · rw [zero, malformed underscored]

end FilterScript
