import FilterScript.Proofs.Closeness
import FilterScript.Proofs.DecimalGrid

/-! # The shortest numeral of a double

The shortest numeral of a magnitude is sought among the two neighbours on ever finer grids. A number
of few digits that is rounded to the magnitude has one of the neighbours between itself and the
magnitude, so some numeral of as few digits is found (`Format.hasDigits_shortest`). Seventeen digits
are enough for every double (`Format.isNearest_shortest`).
-/

namespace FilterScript

/-! ## Neighbours -/

namespace Ratio

variable {r : Ratio} {accepted : Decimal → Bool} {digits : ℕ}

/-- What is taken is one of the neighbours and accepted. -/
theorem neighbour?_eq_some {d : Decimal} (found : r.neighbour? accepted digits = some d) :
    accepted d = true ∧
      (d = r.below (r.lastExponent digits) ∨ d = r.above (r.lastExponent digits)) := by
  unfold neighbour? at found
  dsimp only at found
  split at found
  · next below above =>
      obtain rfl := Option.some.inj found
      rcases roundDiv_eq_or (r.inSteps (r.lastExponent digits)).1
        (r.inSteps (r.lastExponent digits)).2 with low | high
      · rw [low]
        exact ⟨below, .inl rfl⟩
      · rw [high]
        exact ⟨above, .inr rfl⟩
  · next below _ =>
      obtain rfl := Option.some.inj found
      exact ⟨below, .inl rfl⟩
  · next _ above =>
      obtain rfl := Option.some.inj found
      exact ⟨above, .inr rfl⟩
  · cases found

/-- If one of the neighbours is accepted, one is taken. -/
theorem neighbour?_ne_none (accepts : accepted (r.below (r.lastExponent digits)) = true ∨
    accepted (r.above (r.lastExponent digits)) = true) : r.neighbour? accepted digits ≠ none := by
  unfold below above at accepts
  unfold neighbour?
  dsimp only
  split
  · exact Option.some_ne_none _
  · exact Option.some_ne_none _
  · exact Option.some_ne_none _
  · next notBelow notAbove =>
      rw [notBelow, notAbove] at accepts
      exact absurd accepts (by decide)

end Ratio

/-! ## The search -/

/-- What is found first among the first whole numbers. -/
theorem findSome?_range_eq_some {α : Type} {search : ℕ → Option α} {count : ℕ} {found : α}
    (result : (List.range count).findSome? search = some found) :
    ∃ first < count, search first = some found ∧ ∀ earlier < first, search earlier = none := by
  induction count with
  | zero => cases result
  | succ count ih =>
      rw [List.range_succ, List.findSome?_append, Option.or_eq_some_iff] at result
      rcases result with before | ⟨none, last⟩
      · obtain ⟨first, less, rest⟩ := ih before
        exact ⟨first, less.trans (Nat.lt_add_one count), rest⟩
      · rw [List.findSome?_singleton] at last
        rw [List.findSome?_eq_none_iff] at none
        exact ⟨count, Nat.lt_add_one count, last, fun earlier less =>
          none earlier (List.mem_range.mpr less)⟩

namespace Format

variable {f : Format} {rank : ℕ}

/-- A decimal is read back as the magnitude. -/
def accepts (f : Format) (rank : ℕ) (d : Decimal) : Bool :=
  decide (d.read f false = .ofRank false rank)

/-- The neighbour with so many digits, one more than the given number, that is read back. -/
def candidate? (f : Format) (rank digits : ℕ) : Option Decimal :=
  (f.ratio rank).neighbour? (f.accepts rank) (digits + 1)

/-- The shortest numeral is the first candidate that is accepted, or one of seventeen digits. -/
theorem shortest_eq (f : Format) (rank : ℕ) : f.shortest rank =
    ((List.range 17).findSome? (f.candidate? rank)).getD ((f.ratio rank).rounded 17) := rfl

/-- A decimal is accepted for a magnitude if it is rounded to that magnitude. -/
theorem accepts_iff (regular : f.Regular) (bounded : rank < f.finiteCount) {d : Decimal} :
    f.accepts rank d = true ↔ f.IsNearest d.value rank := by
  rw [accepts, decide_eq_true_eq, Decimal.read_eq_ofRank_iff regular bounded]

/-- A candidate is read back and has so many digits. -/
theorem candidate?_spec (regular : f.Regular) (nonzero : rank ≠ 0)
    (bounded : rank < f.finiteCount) {digits : ℕ} {d : Decimal}
    (found : f.candidate? rank digits = some d) :
    f.IsNearest d.value rank ∧ HasDigits d.value (digits + 1) := by
  obtain ⟨accepted, place⟩ := Ratio.neighbour?_eq_some found
  obtain ⟨below, above⟩ := Ratio.hasDigits_below_above (f.ratio_proper nonzero) digits
  refine ⟨(accepts_iff regular bounded).mp accepted, ?_⟩
  rcases place with rfl | rfl
  · exact below
  · exact above

/-- There is a candidate if any number of so many digits is rounded to the magnitude: a neighbour
lies between them. -/
theorem candidate?_ne_none (regular : f.Regular) (nonzero : rank ≠ 0)
    (bounded : rank < f.finiteCount) {digits : ℕ} {x : ℚ} (short : HasDigits x (digits + 1))
    (nearest : f.IsNearest x rank) : f.candidate? rank digits ≠ none := by
  have proper := f.ratio_proper nonzero
  have center := f.isNearest_point rank
  have between {d : Decimal} {low high : ℚ} (lower : f.IsNearest low rank)
      (upper : f.IsNearest high rank) (above : low ≤ d.value) (below : d.value ≤ high) :
      f.accepts rank d = true := by
    have inside := d.isNearest_rank regular
    have same : d.rank f = rank := le_antisymm (inside.mono upper below) (lower.mono inside above)
    exact (accepts_iff regular bounded).mpr (same ▸ inside)
  apply Ratio.neighbour?_ne_none
  rcases Ratio.not_between_neighbours proper short with low | high
  · left
    exact between nearest center low (f.ratio_value rank ▸ Ratio.below_le_value proper _)
  · right
    exact between center nearest (f.ratio_value rank ▸ Ratio.value_lt_above proper _).le high

/-- **The shortest numeral has as few digits as any number that is rounded to the magnitude.** -/
theorem hasDigits_shortest (regular : f.Regular) (nonzero : rank ≠ 0)
    (bounded : rank < f.finiteCount) {digits : ℕ} (few : digits < 17) {x : ℚ}
    (short : HasDigits x (digits + 1)) (nearest : f.IsNearest x rank) :
    HasDigits (f.shortest rank).value (digits + 1) := by
  have some' := candidate?_ne_none regular nonzero bounded short nearest
  cases result : (List.range 17).findSome? (f.candidate? rank) with
  | none =>
      rw [List.findSome?_eq_none_iff] at result
      exact absurd (result digits (List.mem_range.mpr few)) some'
  | some d =>
      obtain ⟨first, _, found, earlier⟩ := findSome?_range_eq_some result
      have least : first ≤ digits := Nat.le_of_not_lt fun less => some' (earlier digits less)
      rw [shortest_eq, result, Option.getD_some]
      exact (candidate?_spec regular nonzero bounded found).2.mono (Nat.succ_le_succ least)

/-- **The shortest numeral of a double is read back.** -/
theorem isNearest_shortest (nonzero : rank ≠ 0) (bounded : rank < double.finiteCount) :
    double.IsNearest (double.shortest rank).value rank := by
  cases result : (List.range 17).findSome? (double.candidate? rank) with
  | none =>
      have near := Ratio.rounded_close (double.ratio_proper nonzero) 16
      have positive := Ratio.value_pos (double.ratio_proper nonzero)
      rw [ratio_value] at near positive
      rw [shortest_eq, result, Option.getD_none]
      apply IsNearest.of_close (by decide)
      rw [abs_sub_comm]
      refine near.trans_lt ?_
      rw [div_div]
      exact div_lt_div_of_pos_left positive (by positivity) (by norm_num [double])
  | some d =>
      obtain ⟨_, _, found, _⟩ := findSome?_range_eq_some result
      rw [shortest_eq, result, Option.getD_some]
      exact (candidate?_spec regular_double nonzero bounded found).1

/-- The shortest numeral of a magnitude other than zero is not zero. -/
theorem coefficient_shortest_ne_zero (nonzero : rank ≠ 0) (bounded : rank < double.finiteCount) :
    (double.shortest rank).coefficient ≠ 0 :=
  (isNearest_shortest nonzero bounded).coefficient_ne_zero nonzero

end Format

end FilterScript
