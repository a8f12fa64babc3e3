import FilterScript.Proofs.ShownForm

/-! # Floats read back from what a script shows

The text of a float, read again, gives the float: a single as the numbers of texts are read
(`Single.ofText_render`), and a double as its numeral is read into its own format
(`Double.read_render`). So floats of one format are told apart by their texts, and two of them are
equal for a script exactly when they have the same bits or are both no number
(`Value.relate_equal_floats`).
-/

namespace FilterScript

/-! ## Reading a text back -/

variable {f : Format}

/-- A reading of literals takes the numerals of magnitudes back to these, whatever decimal the
numeral is written as. -/
structure Recovers (numeral : ℕ → Decimal) (read : Literal → Binary f) : Prop where
  nan : read .nan = .nan
  infinity (negative : Bool) : read (.infinity negative) = .infinity negative
  zero (negative : Bool) : read (.decimal negative ⟨0, 0⟩) = .ofRank negative 0
  digits (rank : Fin f.finiteCount) : rank.val ≠ 0 → (numeral rank).coefficient ≠ 0
  finite (negative : Bool) (rank : Fin f.finiteCount) (d : Decimal) : rank.val ≠ 0 →
    d.value = (numeral rank).value → read (.decimal negative d) = .finite negative rank

namespace NumberStyle

variable (numeral : ℕ → Decimal)

/-- The text of no number is read as no number. -/
theorem ofText?_text_nan :
    Literal.ofText? (script.text numeral (.nan : Binary f)).toList = some .nan := by
  have shown : Literal.ofText? "NaN".toList = some .nan := by decide
  exact shown

/-- The text of an infinity is read as that infinity. -/
theorem ofText?_text_infinity (negative : Bool) : Literal.ofText?
    (script.text numeral (.infinity negative : Binary f)).toList = some (.infinity negative) := by
  cases negative with
  | false => exact (by decide : Literal.ofText? "+Inf".toList = some (.infinity false))
  | true => exact (by decide : Literal.ofText? "-Inf".toList = some (.infinity true))

/-- The text of a zero is read as a zero of its sign. -/
theorem ofText?_text_zero (negative : Bool) {rank : Fin f.finiteCount} (zero : rank.val = 0) :
    Literal.ofText? (script.text numeral (.finite negative rank)).toList =
      some (.decimal negative ⟨0, 0⟩) := by
  rw [text, if_pos zero, String.toList_ofList]
  cases negative with
  | false => rfl
  | true => rfl

end NumberStyle

/-- **What a script shows is read back.** -/
theorem Recovers.read_text {numeral : ℕ → Decimal} {read : Literal → Binary f}
    (recovers : Recovers numeral read) (x : Binary f) :
    (Literal.ofText? (NumberStyle.script.text numeral x).toList).map read = some x := by
  cases x with
  | nan => rw [NumberStyle.ofText?_text_nan, Option.map_some, recovers.nan]
  | infinity negative =>
      rw [NumberStyle.ofText?_text_infinity, Option.map_some, recovers.infinity]
  | finite negative rank =>
      by_cases zero : rank.val = 0
      · rw [NumberStyle.ofText?_text_zero numeral negative zero, Option.map_some, recovers.zero,
          Binary.finite_eq_ofRank, zero]
      · obtain ⟨n, text, shows⟩ :=
          NumberStyle.exists_shows_text zero (recovers.digits rank zero) negative
        have value := n.value_decimal.trans shows.magnitude
        rw [← text, Literal.ofText?_text, Option.map_some, shows.negative_eq,
          recovers.finite negative rank n.decimal zero value]

/-! ## Singles -/

namespace Single

/-- Reading the numerals of singles as the numbers of texts takes them back. -/
theorem recovers : Recovers fewestRounded Literal.toSingle where
  nan := rfl
  infinity _ := rfl
  zero negative := by
    have bounded : 0 < Format.single.finiteCount := by decide
    apply (Decimal.readSingle_eq_ofRank_iff bounded).mpr
    rw [Decimal.value_eq_zero _ rfl, ← Format.single.point_zero]
    exact Format.readsAs_point 0
  digits rank nonzero := Format.coefficient_fewestRounded_ne_zero nonzero rank.isLt
  finite negative rank d nonzero value := by
    rw [Binary.finite_eq_ofRank]
    apply (Decimal.readSingle_eq_ofRank_iff rank.isLt).mpr
    rw [value]
    exact Format.readsAs_fewestRounded nonzero rank.isLt

/-- **A single is read back from its text.** -/
theorem ofText_render (x : Single) : Single.ofText x.render = x := by
  rw [ofText, render, recovers.read_text, Option.getD_some]

/-- Different singles are shown by different texts. -/
theorem render_injective : Function.Injective Single.render :=
  Function.LeftInverse.injective ofText_render

end Single

/-! ## Doubles -/

namespace Double

/-- A literal read as double precision. -/
def ofLiteral : Literal → Double
  | .decimal negative magnitude => magnitude.read .double negative
  | .infinity negative => .infinity negative
  | .nan => .nan

/-- Reading the numerals of doubles into their own format takes them back. -/
theorem recovers : Recovers Format.double.shortest ofLiteral where
  nan := rfl
  infinity _ := rfl
  zero negative := by
    have bounded : 0 < Format.double.finiteCount := by decide
    apply (Decimal.read_eq_ofRank_iff Format.regular_double bounded).mpr
    rw [Decimal.value_eq_zero _ rfl, ← Format.double.point_zero]
    exact Format.double.isNearest_point 0
  digits rank nonzero := Format.coefficient_shortest_ne_zero nonzero rank.isLt
  finite negative rank d nonzero value := by
    rw [Binary.finite_eq_ofRank]
    apply (Decimal.read_eq_ofRank_iff Format.regular_double rank.isLt).mpr
    rw [value]
    exact Format.isNearest_shortest nonzero rank.isLt

/-- **A double is read back from its text.** -/
theorem read_render (x : Double) : (Literal.ofText? x.render.toList).map ofLiteral = some x :=
  recovers.read_text x

/-- Different doubles are shown by different texts. -/
theorem render_injective : Function.Injective Double.render := by
  intro x y same
  have read := x.read_render
  rw [same, y.read_render] at read
  exact (Option.some.inj read).symm

end Double

/-! ## Encodings -/

namespace Binary

/-- The sign bit stands right above the ranks of the infinities. -/
theorem signWeight_eq (f : Format) : signWeight f = f.finiteCount + f.leading := by
  unfold signWeight Format.finiteCount
  ring

/-- An encoding is read as its sign and its place behind the sign. -/
theorem ofBits_signed (negative : Bool) {rank : ℕ} (small : rank < signWeight f) :
    (ofBits ((if negative then signWeight f else 0) + rank) : Binary f) =
      if rank ≤ f.finiteCount then ofRank negative rank else .nan := by
  unfold ofBits
  cases negative with
  | false =>
      have positive : ¬ signWeight f ≤ rank := Nat.not_le_of_lt small
      simp only [Bool.false_eq_true, ↓reduceIte, Nat.zero_add, positive, decide_false,
        Nat.mod_eq_of_lt small]
  | true =>
      simp only [↓reduceIte, Nat.le_add_right, decide_true, Nat.add_mod_left,
        Nat.mod_eq_of_lt small]

/-- **A number is read back from its encoding.** -/
theorem ofBits_toBits (wide : 2 ≤ f.precision) (x : Binary f) : ofBits x.toBits = x := by
  have weight := signWeight_eq f
  have leading : 2 ≤ f.leading := Nat.le_self_pow (by omega : f.precision - 1 ≠ 0) 2
  cases x with
  | nan =>
      have quiet : f.finiteCount + f.leading / 2 < signWeight f := by omega
      have read := ofBits_signed false quiet
      rw [if_neg Bool.false_ne_true, Nat.zero_add, if_neg (by omega)] at read
      exact read
  | infinity negative =>
      have read := ofBits_signed negative (show f.finiteCount < signWeight f by omega)
      rw [if_pos le_rfl, ofRank, dif_neg (lt_irrefl _)] at read
      exact read
  | finite negative rank =>
      have bounded := rank.isLt
      have read := ofBits_signed negative (show rank.val < signWeight f by omega)
      rw [if_pos bounded.le, ← finite_eq_ofRank] at read
      exact read

/-- Two floats have the same bits only if they are the same. -/
theorem toBits_inj (wide : 2 ≤ f.precision) {x y : Binary f} : x.toBits = y.toBits ↔ x = y :=
  (Function.LeftInverse.injective (ofBits_toBits wide)).eq_iff

/-- Not-a-number has one encoding here, so equal bits are all that equality asks for. -/
theorem sameBits_iff (wide : 2 ≤ f.precision) {x y : Binary f} :
    x.toBits = y.toBits ∨ x = .nan ∧ y = .nan ↔ x = y := by
  rw [toBits_inj wide, or_iff_left_iff_imp]
  rintro ⟨rfl, rfl⟩
  rfl

end Binary

/-! ## Values -/

namespace Value

/-- **The text of a single has the single for its number.** -/
theorem number_render_single (x : Single) :
    (Value.string (Value.float32 x).render).number = .ok (x.convert .double) ∧
      Single.ofText (Value.float32 x).render = x := by
  have back : Single.ofText (Value.float32 x).render = x := x.ofText_render
  refine ⟨?_, back⟩
  rw [number, back]

/-- Texts that tell numbers apart are equal when the numbers have the same bits, or are both no
number. -/
theorem beq_text {text : Binary f → String} (injective : Function.Injective text)
    (wide : 2 ≤ f.precision) (x y : Binary f) :
    (text x == text y) = decide (x.toBits = y.toBits ∨ x = .nan ∧ y = .nan) := by
  rw [beq_eq_decide]
  apply decide_eq_decide.mpr
  rw [Binary.sameBits_iff wide]
  exact injective.eq_iff

/-- **Floats of one kind are equal when they have the same bits, or are both no number.** -/
theorem relate_equal_floats :
    (∀ x y : Double, relate (.float64 x) (some (.float64 y)) "==" =
      .ok (decide (x.toBits = y.toBits ∨ x = .nan ∧ y = .nan))) ∧
    (∀ x y : Single, relate (.float32 x) (some (.float32 y)) "==" =
      .ok (decide (x.toBits = y.toBits ∨ x = .nan ∧ y = .nan))) := by
  constructor
  · intro x y
    exact congrArg Except.ok (beq_text Double.render_injective (by decide) x y)
  · intro x y
    exact congrArg Except.ok (beq_text Single.render_injective (by decide) x y)

/-- The zeros are told apart. -/
example : Double.render (.ofRank true 0) = "-0" ∧ Double.render (.ofRank false 0) = "0" := by decide

end Value

end FilterScript
