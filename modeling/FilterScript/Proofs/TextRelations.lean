import FilterScript.Value.Relation
import Mathlib.Data.List.Infix

/-! # Relations between texts

Four relations compare two values by their renderings, whatever the kinds of the values are: any two
values are in them or not, and none of them ever fails. Each has a negation among them. Renderings
that are equal belong to values that these relations cannot tell apart, and the values that contain
one another in turn are those with equal renderings, so that `~=` orders the values as `==` takes
them together (`Value.relate_texts_laws`).
-/

namespace FilterScript

/-! ## Relations and their negations -/

namespace TextRelation

/-- The relation that holds where this one does not. -/
def negate : TextRelation → TextRelation
  | .equal => .unequal
  | .unequal => .equal
  | .contains => .lacks
  | .lacks => .contains

/-- A negated relation holds where the relation does not. -/
theorem holds_negate (left right : String) (relation : TextRelation) :
    relation.negate.holds left right = !relation.holds left right := by
  cases relation with
  | equal => rfl
  | unequal => exact (Bool.not_not _).symm
  | contains => rfl
  | lacks => exact (Bool.not_not _).symm

end TextRelation

/-- A part occurs in a text if and only if it is what is left of the text without some characters
in front and some behind. -/
theorem occursIn_iff {part text : List Char} : occursIn part text = true ↔ part <:+: text := by
  induction text with
  | nil => rw [occursIn, List.isEmpty_iff, List.infix_nil]
  | cons c rest ih =>
      rw [occursIn, Bool.or_eq_true, List.isPrefixOf_iff_prefix, ih, List.infix_cons_iff]

namespace Value

/-- The symbols of the relations between texts. -/
def textSymbols : List String := ["==", "!=", "~=", "!~"]

variable {left right : Value} {symbol : String} {relation : TextRelation}

/-- Every symbol of a relation of texts names one. -/
theorem exists_textRelation_of_mem (member : symbol ∈ textSymbols) :
    ∃ relation, Operator.ofSymbol? symbol = some (.texts relation) := by
  simp only [textSymbols, List.mem_cons, List.not_mem_nil, or_false] at member
  rcases member with rfl | rfl | rfl | rfl
  · exact ⟨.equal, rfl⟩
  · exact ⟨.unequal, rfl⟩
  · exact ⟨.contains, rfl⟩
  · exact ⟨.lacks, rfl⟩

/-- A relation of texts asks for the renderings of both values and for nothing else. -/
theorem relate_of_textRelation (left right : Value)
    (named : Operator.ofSymbol? symbol = some (.texts relation)) :
    left.relate (some right) symbol = .ok (relation.holds left.render right.render) := by
  simp only [relate, Operator.ne_empty_of_ofSymbol? named, ↓reduceIte, named, renderOption]

/-- Any two values can be compared by their texts. -/
theorem relate_texts (left right : Value) (member : symbol ∈ textSymbols) :
    ∃ truth, left.relate (some right) symbol = .ok truth := by
  obtain ⟨relation, named⟩ := exists_textRelation_of_mem member
  exact ⟨_, relate_of_textRelation left right named⟩

/-- The relations of two symbols that negate each other give opposite answers. -/
theorem relate_negated {negation : String} (relation : TextRelation) (left right : Value)
    (named : Operator.ofSymbol? symbol = some (.texts relation))
    (negated : Operator.ofSymbol? negation = some (.texts relation.negate)) :
    ∃ truth, left.relate (some right) symbol = .ok truth ∧
      left.relate (some right) negation = .ok (!truth) := by
  refine ⟨_, relate_of_textRelation left right named, ?_⟩
  rw [relate_of_textRelation left right negated, TextRelation.holds_negate]

/-! ## Equal and contained -/

/-- The values are equal by `==`. -/
def SameText (left right : Value) : Prop := left.relate (some right) "==" = .ok true

/-- The right value is found in the left one by `~=`. -/
def Contains (left right : Value) : Prop := left.relate (some right) "~=" = .ok true

/-- Values have the same text if they render alike. -/
theorem sameText_iff : left.SameText right ↔ left.render = right.render := by
  rw [SameText, relate_of_textRelation left right rfl, Except.ok.injEq]
  exact beq_iff_eq

/-- A value contains another if its characters have the other's among them, in a row. -/
theorem contains_iff : left.Contains right ↔ right.render.toList <:+: left.render.toList := by
  rw [Contains, relate_of_textRelation left right rfl, Except.ok.injEq]
  exact occursIn_iff

/-- To have the same text is an equivalence. -/
theorem sameText_equivalence : Equivalence SameText where
  refl _ := sameText_iff.mpr rfl
  symm same := sameText_iff.mpr (sameText_iff.mp same).symm
  trans same other := sameText_iff.mpr ((sameText_iff.mp same).trans (sameText_iff.mp other))

theorem Contains.refl (value : Value) : value.Contains value :=
  contains_iff.mpr (List.infix_refl _)

/-- What a part contains, the whole contains. -/
theorem Contains.trans {inner : Value} (outside : left.Contains right)
    (inside : right.Contains inner) : left.Contains inner :=
  contains_iff.mpr ((contains_iff.mp inside).trans (contains_iff.mp outside))

/-- Values that contain each other have renderings of one length, so neither has a character that
the other has not. -/
theorem contains_and_contains_iff : left.Contains right ∧ right.Contains left ↔
    left.SameText right := by
  rw [contains_iff, contains_iff, sameText_iff]
  constructor
  · rintro ⟨inside, outside⟩
    exact String.toList_injective (outside.eq_of_length_le inside.length_le)
  · intro same
    rw [same]
    exact ⟨List.infix_refl _, List.infix_refl _⟩

/-- **Laws of the relations between texts.** They hold of all values of all kinds. -/
theorem relate_texts_laws :
    Equivalence SameText ∧
    (∀ a b : Value, ∃ same, a.relate (some b) "==" = .ok same ∧
      a.relate (some b) "!=" = .ok (!same)) ∧
    (∀ a : Value, a.Contains a) ∧
    (∀ a b c : Value, a.Contains b → b.Contains c → a.Contains c) ∧
    (∀ a b : Value, a.Contains b ∧ b.Contains a ↔ a.SameText b) ∧
    (∀ a b : Value, ∃ found, a.relate (some b) "~=" = .ok found ∧
      a.relate (some b) "!~" = .ok (!found)) ∧
    (∀ a a' b b' : Value, a.SameText a' → b.SameText b' → ∀ symbol ∈ textSymbols,
      a.relate (some b) symbol = a'.relate (some b') symbol) := by
  refine ⟨sameText_equivalence, fun a b => relate_negated .equal a b rfl rfl, .refl,
    fun a b c => .trans, fun a b => contains_and_contains_iff,
    fun a b => relate_negated .contains a b rfl rfl, ?_⟩
  intro a a' b b' same same' symbol member
  obtain ⟨relation, named⟩ := exists_textRelation_of_mem member
  rw [relate_of_textRelation a b named, relate_of_textRelation a' b' named, sameText_iff.mp same,
    sameText_iff.mp same']

/-- A list and its rendering are told apart by none of these relations, whatever they are compared
with. -/
theorem relate_texts_laws_list :
    let list := Value.array [.integer .int 1, .boolean true]
    let text := Value.string "[1, true]"
    list.SameText text ∧ SameText (.integer .uint8 1) (.string "1") ∧
      (∀ symbol ∈ textSymbols, list.relate (some (.integer .uint8 1)) symbol =
        text.relate (some (.string "1")) symbol) ∧
      list.Contains (.string "1, true") ∧ Contains (.string "1, true") (.boolean true) ∧
      list.Contains (.boolean true) ∧ text.SameText list := by
  intro list text
  have same : list.SameText text := rfl
  have one : SameText (.integer .uint8 1) (.string "1") := rfl
  have outside : list.Contains (.string "1, true") := contains_iff.mpr (by decide)
  have inside : Contains (.string "1, true") (.boolean true) := contains_iff.mpr (by decide)
  obtain ⟨equivalence, -, -, transitive, -, -, congruence⟩ := relate_texts_laws
  exact ⟨same, one, congruence _ _ _ _ same one, outside, inside, transitive _ _ _ outside inside,
    equivalence.symm same⟩

end Value

end FilterScript
