import FilterScript.Proofs.ShownForm

/-! # How short the rendering of a single is

The rendering of a finite single is a numeral. No numeral of fewer significant digits is read as the
single, unless the single is one of three powers of two; those have a numeral of eight digits, but
are rendered with nine (`Single.render_fewest_iff`).
-/

namespace FilterScript

/-! ## Numerals that are read as a single -/

/-- Every decimal but zero is the number of some numeral, with either sign. -/
theorem Decimal.exists_numeral {d : Decimal} (nonzero : d.coefficient ≠ 0) (negative : Bool) :
    ∃ n : Numeral, n.negative = negative ∧ n.magnitude = d.value := by
  obtain ⟨n, _, shows⟩ := NumberStyle.exists_shows_layout nonzero negative
  exact ⟨n, shows.negative_eq, shows.magnitude⟩

namespace Single

/-- A numeral is read as a finite single when it has its sign and its digits are read as it. -/
theorem ofText_eq_finite_iff {n : Numeral} {negative : Bool}
    {rank : Fin Format.single.finiteCount} :
    Single.ofText n.text = .finite negative rank ↔
      n.negative = negative ∧ Format.ReadsAs n.magnitude rank := by
  rw [Single.ofText_text, ← n.value_decimal]
  constructor
  · intro reads
    have sign : n.negative = negative := by
      rw [Decimal.readSingle_eq] at reads
      unfold Binary.ofRank at reads
      split at reads
      · exact (Binary.finite.inj reads).1
      · cases reads
    rw [Binary.finite_eq_ofRank, sign, Decimal.readSingle_eq_ofRank_iff rank.isLt] at reads
    exact ⟨sign, reads⟩
  · rintro ⟨rfl, reads⟩
    rw [Binary.finite_eq_ofRank]
    exact (Decimal.readSingle_eq_ofRank_iff rank.isLt).mpr reads

end Single

/-! ## Three powers of two -/

namespace Format

/-- The powers of two with a shorter numeral: the block, the decimal that is rendered, and the
shorter one. -/
def shortenable : List (ℕ × Decimal × Decimal) :=
  [(30, ⟨126217745, -37⟩, ⟨12621775, -36⟩), (213, ⟨154742505, 18⟩, ⟨15474251, 19⟩),
    (216, ⟨123794004, 19⟩, ⟨12379401, 20⟩)]

/-- Each power of two in the list is rendered with nine digits, and the shorter decimal beside it
has fewer and is read as the same single. -/
theorem shortenable_spec : ∀ entry ∈ shortenable,
    fewestRounded ((entry.1 + 1) * 2 ^ 23) = entry.2.1 ∧ entry.2.1.coefficient % 10 ≠ 0 ∧
      10 ^ 8 ≤ entry.2.1.coefficient ∧ Reaches ((entry.1 + 1) * 2 ^ 23 - 1) entry.2.2 ∧
      0 < entry.2.2.coefficient ∧ entry.2.2.coefficient < 10 ^ 8 := by
  decide +kernel

/-- The first rank of a block stands for a power of two. -/
theorem point_first (block : ℕ) :
    single.point ((block + 1) * single.leading) = 2 ^ ((block : ℤ) - 126) := by
  have place : single.point (block * single.leading + single.leading) =
      single.leading * single.step block := point_block (.inr le_rfl) (by omega)
  have exponent : (block : ℤ) - 126 = (23 + block : ℕ) - (149 : ℕ) := by
    push_cast
    ring
  have leading : (single.leading : ℚ) = 2 ^ 23 := by norm_num [single, Format.leading]
  rw [Nat.succ_mul, place, step, exponent, zpow_sub₀ (by norm_num), zpow_natCast, zpow_natCast,
    leading, pow_add]
  exact (mul_div_assoc _ _ _).symm

/-- The three powers of two are the first ranks of the listed blocks. -/
theorem point_ne_powers_iff (rank : ℕ) :
    (single.point rank ≠ 2 ^ (-96 : ℤ) ∧ single.point rank ≠ 2 ^ (87 : ℤ) ∧
      single.point rank ≠ 2 ^ (90 : ℤ)) ↔
      ∀ block ∈ [30, 213, 216], rank ≠ (block + 1) * single.leading := by
  have ne_iff (block : ℕ) : single.point rank ≠ 2 ^ ((block : ℤ) - 126) ↔
      rank ≠ (block + 1) * single.leading := by
    rw [← point_first]
    exact single.point_strictMono.injective.ne_iff
  rw [List.forall_mem_cons, List.forall_mem_cons, List.forall_mem_singleton, ← ne_iff, ← ne_iff,
    ← ne_iff]
  norm_num

/-- The list has an entry for each of the three blocks. -/
theorem exists_listed {block : ℕ} (listed : block ∈ [30, 213, 216]) :
    ∃ written shorter, (block, written, shorter) ∈ shortenable := by
  have blocks : block ∈ shortenable.map Prod.fst := listed
  obtain ⟨⟨_, written, shorter⟩, entry, rfl⟩ := List.mem_map.mp blocks
  exact ⟨written, shorter, entry⟩

/-- A power of two of the list is read from fewer digits than it is rendered with. -/
theorem exists_shorter {block : ℕ} {written shorter : Decimal}
    (listed : (block, written, shorter) ∈ shortenable) {shown : Numeral}
    (value : shown.magnitude = (fewestRounded ((block + 1) * 2 ^ 23)).value) (negative : Bool) :
    ∃ n : Numeral, n.negative = negative ∧ ReadsAs n.magnitude ((block + 1) * 2 ^ 23) ∧
      n.significant < shown.significant := by
  obtain ⟨rendered, last, long, reads, positive, short⟩ := shortenable_spec _ listed
  dsimp only at rendered last long reads positive short
  obtain ⟨n, sign, same⟩ := Decimal.exists_numeral positive.ne' negative
  have some' : 1 ≤ (block + 1) * 2 ^ 23 := Nat.mul_pos (Nat.succ_pos _) (by decide)
  rw [reaches_iff, Nat.sub_add_cancel some', ← same] at reads
  have few : n.significant ≤ 8 := (n.significant_le_iff 8).mpr ⟨shorter, same, short⟩
  have many : ¬ shown.significant ≤ 8 := by
    rw [shown.significant_le_iff, value, rendered]
    exact fun short => absurd (short.coefficient_lt last) (Nat.not_lt_of_le long)
  exact ⟨n, sign, reads, by omega⟩

end Format

namespace Single

variable {rank : Fin Format.single.finiteCount}

/-- Away from the three powers of two the rendering has the fewest digits. -/
theorem exists_fewest (negative : Bool) (nonzero : rank.val ≠ 0)
    (apart : ∀ block ∈ [30, 213, 216], rank.val ≠ (block + 1) * Format.single.leading) :
    ∃ shown : Numeral, shown.text = Single.render (.finite negative rank) ∧
      ∀ n : Numeral, Single.ofText n.text = .finite negative rank →
        shown.significant ≤ n.significant := by
  obtain ⟨digits, written⟩ := Format.exists_writtenWith nonzero rank.isLt apart
  obtain ⟨shown, text, shows⟩ := NumberStyle.exists_shows_text nonzero
    (Format.coefficient_fewestRounded_ne_zero nonzero rank.isLt) negative
  have most : shown.significant ≤ digits + 1 := by
    rw [shown.significant_le_iff, shows.magnitude, written.numeral]
    exact Format.hasDigits_rounded nonzero digits
  refine ⟨shown, text, ?_⟩
  intro n reads
  by_contra fewer
  have short : n.significant ≤ digits := by omega
  exact written.fewest _ ((n.significant_le_iff digits).mp short) (ofText_eq_finite_iff.mp reads).2

/-- The three powers of two are read from fewer digits than they are rendered with. -/
theorem exists_not_fewest (negative : Bool) (nonzero : rank.val ≠ 0) {block : ℕ}
    (listed : block ∈ [30, 213, 216]) (same : rank.val = (block + 1) * Format.single.leading) :
    ∃ shown n : Numeral, shown.text = Single.render (.finite negative rank) ∧
      Single.ofText n.text = .finite negative rank ∧ n.significant < shown.significant := by
  obtain ⟨written, shorter, entry⟩ := Format.exists_listed listed
  obtain ⟨shown, text, shows⟩ := NumberStyle.exists_shows_text nonzero
    (Format.coefficient_fewestRounded_ne_zero nonzero rank.isLt) negative
  have value := shows.magnitude
  rw [same] at value
  obtain ⟨n, sign, reads, fewer⟩ := Format.exists_shorter entry value negative
  exact ⟨shown, n, text, ofText_eq_finite_iff.mpr ⟨sign, same ▸ reads⟩, fewer⟩

/-- **No numeral of fewer significant digits than the rendering is read as a single, except for
three powers of two.** -/
theorem render_fewest_iff (negative : Bool) (rank : Fin Format.single.finiteCount)
    (nonzero : rank.val ≠ 0) : ∃ shown : Numeral,
    shown.text = Single.render (.finite negative rank) ∧
    ((∀ n : Numeral, Single.ofText n.text = .finite negative rank →
        shown.significant ≤ n.significant) ↔
      Format.single.point rank ≠ 2 ^ (-96 : ℤ) ∧ Format.single.point rank ≠ 2 ^ (87 : ℤ) ∧
        Format.single.point rank ≠ 2 ^ (90 : ℤ)) := by
  have apart_iff := Format.point_ne_powers_iff rank
  rw [apart_iff]
  by_cases apart : ∀ block ∈ [30, 213, 216], rank.val ≠ (block + 1) * Format.single.leading
  · obtain ⟨shown, text, fewest⟩ := exists_fewest negative nonzero apart
    exact ⟨shown, text, iff_of_true fewest apart⟩
  · have listed := apart
    push Not at listed
    obtain ⟨block, listed, same⟩ := listed
    obtain ⟨shown, n, text, reads, fewer⟩ := exists_not_fewest negative nonzero listed same
    exact ⟨shown, text, iff_of_false (fun fewest => Nat.not_lt_of_le (fewest n reads) fewer) apart⟩

/-- The single nearest to a third is read from no numeral of fewer digits than its rendering. -/
theorem render_fewest_third : (125 * 2 ^ 23 + 2796203 : ℕ) ≠ 0 ∧ ∃ shown : Numeral,
    shown.text = Single.render (.finite false ⟨125 * 2 ^ 23 + 2796203, by decide⟩) ∧
    ∀ n : Numeral, Single.ofText n.text = .finite false ⟨125 * 2 ^ 23 + 2796203, by decide⟩ →
      shown.significant ≤ n.significant := by
  have nonzero : (125 * 2 ^ 23 + 2796203 : ℕ) ≠ 0 := by decide
  obtain ⟨shown, text, fewest⟩ := render_fewest_iff false
    ⟨125 * 2 ^ 23 + 2796203, by decide⟩ nonzero
  refine ⟨nonzero, shown, text, fewest.mpr ((Format.point_ne_powers_iff _).mpr ?_)⟩
  decide

/-- **The rendering is not always the shortest numeral.** The single of a power of two is rendered
with nine significant digits, and read from a numeral of eight. -/
theorem not_render_fewest : ¬ ∀ (negative : Bool) (rank : Fin Format.single.finiteCount),
    rank.val ≠ 0 → ∀ shown n : Numeral, shown.text = Single.render (.finite negative rank) →
      Single.ofText n.text = .finite negative rank → shown.significant ≤ n.significant := by
  intro fewest
  have nonzero : (30 + 1) * 2 ^ 23 ≠ 0 := by decide
  obtain ⟨shown, n, text, reads, fewer⟩ :=
    @exists_not_fewest ⟨(30 + 1) * 2 ^ 23, by decide⟩ false nonzero 30 List.mem_cons_self rfl
  exact Nat.not_lt_of_le (fewest false _ nonzero shown n text reads) fewer

end Single

end FilterScript
