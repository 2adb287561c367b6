import PrivacyMapping.Binary64.Rounding
import PrivacyMapping.Proofs.Binary64

/-!
# Exact results

A quotient that is itself a magnitude is not changed by rounding, and rounding looks at the quotient
alone, not at how it is written. So a product or quotient of two exact magnitudes is rounded once, as
the exact product or quotient is. Whole numbers below `2 ^ 53` and powers of ten up to `10 ^ 22` are
exact.
-/

namespace PrivacyMapping.Binary64

theorem two_pow_pos (exponent : Nat) : 0 < Nat.pow 2 exponent :=
  Nat.pow_pos (by decide)

/-! ## Magnitudes as significands -/

/-- A significand of at most 53 bits, which is full unless the step is a single unit. -/
structure IsSignificand (significand step : Nat) : Prop where
  lt : significand < 2 * Nat.pow 2 52
  full : step = 0 ∨ Nat.pow 2 52 ≤ significand

theorem units_of_significand {significand step : Nat} (h : IsSignificand significand step) :
    units (significand + step * Nat.pow 2 52) = significand * Nat.pow 2 step := by
  obtain ⟨lt, full⟩ := h
  unfold units
  have positive : 0 < Nat.pow 2 52 := by decide
  generalize Nat.pow 2 52 = width at positive lt full ⊢
  by_cases small : significand < width
  · obtain rfl := full.resolve_right (Nat.not_le.2 small)
    have first : (significand + 0 * width) / width = 0 := by
      rw [Nat.zero_mul, Nat.add_zero, Nat.div_eq_of_lt small]
    rw [first, if_pos rfl, Nat.zero_mul]
    exact (Nat.mul_one significand).symm
  · have rank : significand + step * width = (significand - width) + (step + 1) * width := by
      rw [Nat.succ_mul]
      omega
    have offset : significand - width < width := by omega
    have block : (significand + step * width) / width = step + 1 := by
      rw [rank, Nat.add_mul_div_right _ _ positive, Nat.div_eq_of_lt offset, Nat.zero_add]
    have place : (significand + step * width) % width = significand - width := by
      rw [rank, Nat.add_mul_mod_self_right, Nat.mod_eq_of_lt offset]
    simp only [block, place, Nat.succ_ne_zero, if_false, Nat.add_sub_cancel]
    rw [Nat.add_sub_cancel' (Nat.not_lt.1 small)]

theorem isSignificand_leading (u : Nat) :
    IsSignificand (u / Nat.pow 2 (u.log2 - 52)) (u.log2 - 52) := by
  have positive := two_pow_pos (u.log2 - 52)
  constructor
  · rw [Nat.div_lt_iff_lt_mul positive]
    have next : 2 * Nat.pow 2 52 * Nat.pow 2 (u.log2 - 52) = 2 ^ (53 + (u.log2 - 52)) := by
      rw [Nat.pow_eq, Nat.pow_eq]
      ring
    rw [next]
    calc u
      _ < 2 ^ (u.log2 + 1) := Nat.lt_log2_self
      _ ≤ 2 ^ (53 + (u.log2 - 52)) := Nat.pow_le_pow_right (by decide) (by omega)
  · by_cases small : u.log2 ≤ 52
    · exact .inl (Nat.sub_eq_zero_of_le small)
    · refine .inr ((Nat.le_div_iff_mul_le positive).2 ?_)
      have nonzero : u ≠ 0 := by
        rintro rfl
        exact small (by decide)
      calc Nat.pow 2 52 * Nat.pow 2 (u.log2 - 52)
        _ = 2 ^ (52 + (u.log2 - 52)) := (Nat.pow_add 2 52 _).symm
        _ = 2 ^ u.log2 := by rw [Nat.add_sub_cancel' (by omega)]
        _ ≤ u := Nat.log2_self_le nonzero

theorem units_succ_of_significand {significand step : Nat} (h : IsSignificand significand step) :
    units (significand + step * Nat.pow 2 52 + 1) = (significand + 1) * Nat.pow 2 step := by
  by_cases last : significand + 1 < 2 * Nat.pow 2 52
  · have next : IsSignificand (significand + 1) step :=
      ⟨last, h.full.imp_right fun full => Nat.le_succ_of_le full⟩
    rw [← units_of_significand next, Nat.add_right_comm]
  · -- the next rank is the first one of the next block
    have full : significand + 1 = 2 * Nat.pow 2 52 := Nat.le_antisymm h.lt (Nat.not_lt.1 last)
    have next : IsSignificand (Nat.pow 2 52) (step + 1) := ⟨by decide, .inr (Nat.le_refl _)⟩
    have rank : significand + step * Nat.pow 2 52 + 1 = Nat.pow 2 52 + (step + 1) * Nat.pow 2 52 := by
      rw [Nat.succ_mul]
      omega
    have double : Nat.pow 2 (step + 1) = 2 * Nat.pow 2 step := by
      rw [Nat.pow_eq, Nat.pow_eq, Nat.pow_succ, Nat.mul_comm]
    rw [rank, units_of_significand next, full, double]
    ring

/-- The magnitude of the last rank below a number is the greatest one that is at most the number. -/
theorem units_floorRank (u : Nat) :
    units (floorRank u) ≤ u ∧ u < units (floorRank u + 1) := by
  have leading := isSignificand_leading u
  have positive := two_pow_pos (u.log2 - 52)
  rw [floorRank, units_of_significand leading, units_succ_of_significand leading]
  exact ⟨Nat.div_mul_le_self _ _, (Nat.div_lt_iff_lt_mul positive).1 (Nat.lt_succ_self _)⟩

theorem floorRank_eq_iff {u rank : Nat} :
    floorRank u = rank ↔ units rank ≤ u ∧ u < units (rank + 1) := by
  obtain ⟨low, high⟩ := units_floorRank u
  constructor
  · rintro rfl
    exact ⟨low, high⟩
  · rintro ⟨low', high'⟩
    have := units_strictMono.lt_iff_lt.1 (low.trans_lt high')
    have := units_strictMono.lt_iff_lt.1 (low'.trans_lt high)
    omega

/-! ## Rounding -/

/-- A quotient lies nearer to a magnitude than to its neighbours, or in the middle to one of them and
the magnitude has an even rank. -/
structure IsNearest (rank numerator denominator : Nat) : Prop where
  low : (units (rank - 1) + units rank) * denominator ≤ 2 * numerator
  high : 2 * numerator ≤ (units rank + units (rank + 1)) * denominator
  middle : rank % 2 = 1 → (units (rank - 1) + units rank) * denominator ≠ 2 * numerator ∧
    2 * numerator ≠ (units rank + units (rank + 1)) * denominator

/-- **Rounding goes to the nearest magnitude.** -/
theorem IsNearest.nearestRank_eq {rank numerator denominator : Nat}
    (h : IsNearest rank numerator denominator) (positive : 0 < denominator) (nonzero : rank ≠ 0) :
    nearestRank numerator denominator = rank := by
  obtain ⟨low, high, middle⟩ := h
  obtain ⟨before, rfl⟩ := Nat.exists_eq_add_one_of_ne_zero nonzero
  rw [Nat.add_sub_cancel] at low middle
  unfold nearestRank
  dsimp only
  have above : numerator / denominator < units (before + 1 + 1) := by
    rw [Nat.div_lt_iff_lt_mul positive]
    have step := Nat.mul_lt_mul_of_pos_right (units_lt_units_succ (before + 1)) positive
    rw [Nat.add_mul] at high
    omega
  by_cases reached : units (before + 1) ≤ numerator / denominator
  · rw [floorRank_eq_iff.2 ⟨reached, above⟩, Nat.mul_comm denominator]
    rcases high.lt_or_eq with less | same
    · rw [Nat.compare_eq_lt.2 less]
      rfl
    · have even : (before + 1) % 2 = 0 := by
        by_contra odd
        exact (middle (by omega)).2 same
      rw [Nat.compare_eq_eq.2 same, roundsUp, even]
      rfl
  · have under : units before ≤ numerator / denominator := by
      rw [Nat.le_div_iff_mul_le positive]
      have step := Nat.mul_lt_mul_of_pos_right (units_lt_units_succ before) positive
      rw [Nat.add_mul] at low
      omega
    rw [floorRank_eq_iff.2 ⟨under, Nat.not_le.1 reached⟩, Nat.mul_comm denominator]
    rcases low.lt_or_eq with less | same
    · rw [Nat.compare_eq_gt.2 less]
      rfl
    · have odd : before % 2 = 1 := by
        by_contra even
        exact (middle (by omega)).1 same
      rw [Nat.compare_eq_eq.2 same.symm, roundsUp, odd]
      rfl

theorem nearestRank_units {denominator : Nat} (h : 0 < denominator) (rank : Nat) :
    nearestRank (units rank * denominator) denominator = rank := by
  have low : 2 * (units rank * denominator) < denominator * (units rank + units (rank + 1)) := by
    have next := Nat.mul_lt_mul_of_pos_left (units_lt_units_succ rank) h
    rw [Nat.mul_add, Nat.mul_comm (units rank)]
    omega
  have own : floorRank (units rank) = rank :=
    floorRank_eq_iff.2 ⟨Nat.le_refl _, units_lt_units_succ rank⟩
  unfold nearestRank
  rw [Nat.mul_div_cancel _ h, own]
  dsimp only
  rw [Nat.compare_eq_lt.2 low]
  rfl

theorem nearestRank_mul_left {factor : Nat} (h : 0 < factor) (numerator denominator : Nat) :
    nearestRank (factor * numerator) (factor * denominator) = nearestRank numerator denominator := by
  have scaled : ∀ middle, compare (2 * (factor * numerator)) (factor * denominator * middle) =
      compare (2 * numerator) (denominator * middle) := by
    intro middle
    rw [Nat.mul_left_comm, Nat.mul_assoc]
    simp only [Nat.compare_eq_ite_lt, Nat.mul_lt_mul_left h]
  unfold nearestRank
  simp only [Nat.mul_div_mul_left _ _ h, scaled]

/-! ## Exact magnitudes -/

/-- The number that a magnitude is, in units. -/
def IsNat (x : Binary64) (n : Nat) : Prop :=
  units x.rank = n * Nat.pow 2 unitExponent

theorem ofRank?_eq_some {negative : Bool} {rank : Nat} (h : rank < finiteRanks) :
    ofRank? negative rank = some ⟨negative, rank, h⟩ :=
  dif_pos h

theorem ofNat?_eq_some_of_units {rank n : Nat} (h : rank < finiteRanks)
    (exact : units rank = n * Nat.pow 2 unitExponent) (negative : Bool) :
    ofNat? negative n = some ⟨negative, rank, h⟩ := by
  have self := nearestRank_units Nat.one_pos rank
  rw [Nat.mul_one, exact] at self
  rw [ofNat?, ofRatio?, self, ofRank?_eq_some h]

theorem mul?_eq_ofNat? {x y : Binary64} {m n : Nat} (hx : x.IsNat m) (hy : y.IsNat n) :
    x.mul? y = ofNat? (x.negative != y.negative) (m * n) := by
  have product : ∀ unit, m * unit * (n * unit) = unit * (m * n * unit) := by
    intro unit
    ring
  have once := nearestRank_mul_left (two_pow_pos unitExponent) (m * n * Nat.pow 2 unitExponent) 1
  rw [Nat.mul_one] at once
  rw [mul?, ofNat?, ofRatio?, hx, hy, product, once]

theorem IsNat.isZero {x : Binary64} {n : Nat} (h : x.IsNat n) : x.isZero = true ↔ n = 0 := by
  rw [Binary64.isZero, beq_iff_eq, ← units_eq_zero_iff, h, Nat.mul_eq_zero]
  exact or_iff_left (two_pow_pos unitExponent).ne'

theorem div?_eq_ofRatio? {x y : Binary64} {m n : Nat} (hx : x.IsNat m) (hy : y.IsNat n)
    (nonzero : n ≠ 0) : x.div? y = ofRatio? (x.negative != y.negative) m n := by
  have divisor : ¬ y.isZero = true := mt hy.isZero.1 nonzero
  have once := nearestRank_mul_left (two_pow_pos unitExponent) (m * Nat.pow 2 unitExponent) n
  rw [div?, if_neg divisor, ofRatio?, hx, hy, Nat.mul_comm _ (Nat.pow 2 unitExponent),
    Nat.mul_comm n, once]

/-- The greatest power of ten that is exact. -/
def greatestExactPower : Nat := 22

theorem exists_units_eq {n shift : Nat} (h : n < 2 * Nat.pow 2 52) (small : shift ≤ greatestExactPower) :
    ∃ rank < finiteRanks, units rank = n * Nat.pow 2 shift * Nat.pow 2 unitExponent := by
  by_cases zero : n = 0
  · subst zero
    exact ⟨0, by decide, by rw [units_zero, Nat.zero_mul, Nat.zero_mul]⟩
  · -- the significand is shifted until it is full
    have bits : n.log2 ≤ 52 := Nat.le_of_lt_succ ((Nat.log2_lt zero).2 h)
    have most : shift ≤ 22 := small
    obtain ⟨low, high⟩ := (Nat.log2_eq_iff zero).1 (Eq.refl n.log2)
    have positive := two_pow_pos (52 - n.log2)
    have full : Nat.pow 2 n.log2 * Nat.pow 2 (52 - n.log2) = Nat.pow 2 52 := by
      rw [Nat.pow_eq, Nat.pow_eq, ← Nat.pow_add, Nat.add_sub_cancel' bits]
    have significand : IsSignificand (n * Nat.pow 2 (52 - n.log2)) (n.log2 + 1022 + shift) := by
      refine ⟨?_, .inr ?_⟩
      · rw [← full, ← Nat.mul_assoc]
        rw [Nat.pow_succ, Nat.mul_comm _ 2] at high
        exact Nat.mul_lt_mul_of_pos_right high positive
      · rw [← full]
        exact Nat.mul_le_mul_right _ low
    refine ⟨_, ?_, (units_of_significand significand).trans ?_⟩
    · have lt := significand.lt
      have ranks : finiteRanks = 2047 * Nat.pow 2 52 := rfl
      have steps : (n.log2 + 1022 + shift) * Nat.pow 2 52 ≤ 1096 * Nat.pow 2 52 :=
        Nat.mul_le_mul_right _ (by omega)
      rw [ranks]
      omega
    · have exponent : 52 - n.log2 + (n.log2 + 1022 + shift) = shift + unitExponent := by
        have unit : unitExponent = 1074 := rfl
        omega
      rw [Nat.mul_assoc, Nat.mul_assoc, Nat.pow_eq, Nat.pow_eq, Nat.pow_eq, Nat.pow_eq,
        ← Nat.pow_add, ← Nat.pow_add, exponent]

theorem exists_ofNat? {n : Nat} (h : n < 2 * Nat.pow 2 52) (negative : Bool) :
    ∃ x, ofNat? negative n = some x ∧ x.negative = negative ∧ x.IsNat n := by
  obtain ⟨rank, finite, exact⟩ := exists_units_eq h (Nat.zero_le _)
  have single : n * Nat.pow 2 0 = n := Nat.mul_one n
  rw [single] at exact
  exact ⟨⟨negative, rank, finite⟩, ofNat?_eq_some_of_units finite exact negative, rfl, exact⟩

theorem exists_powerOfTen? {exponent : Nat} (h : exponent ≤ greatestExactPower) :
    ∃ x, powerOfTen? exponent = some x ∧ x.negative = false ∧ x.IsNat (Nat.pow 10 exponent) := by
  have odd : Nat.pow 5 exponent < 2 * Nat.pow 2 52 := by
    calc Nat.pow 5 exponent
      _ ≤ Nat.pow 5 greatestExactPower := Nat.pow_le_pow_right (by decide) h
      _ < 2 * Nat.pow 2 52 := by decide
  obtain ⟨rank, finite, exact⟩ := exists_units_eq odd h
  have ten : Nat.pow 5 exponent * Nat.pow 2 exponent = Nat.pow 10 exponent := by
    rw [Nat.pow_eq, Nat.pow_eq, ← Nat.mul_pow]
    rfl
  rw [ten] at exact
  have inRange : exponent ≤ 308 := Nat.le_trans h (by decide)
  refine ⟨⟨false, rank, finite⟩, ?_, rfl, exact⟩
  rw [powerOfTen?, if_pos inRange, ofNat?_eq_some_of_units finite exact]

end PrivacyMapping.Binary64
