import PrivacyMapping.Binary64.Basic
import Mathlib.Algebra.Order.Field.Rat
import Mathlib.Order.Monotone.Basic
import Mathlib.Tactic.Ring

/-!
# Ranks and values

The rank of a magnitude grows with the magnitude, so two finite numbers have the same value exactly
if they have the same sign and rank, or are both zero. The value itself is a rational number, and a
number is taken for whole exactly if its value is.
-/

namespace PrivacyMapping.Binary64

theorem units_lt_units_succ (rank : Nat) : units rank < units (rank + 1) := by
  unfold units
  have positive : 0 < Nat.pow 2 52 := by decide
  generalize Nat.pow 2 52 = width at positive ⊢
  have place : width * (rank / width) + rank % width = rank := Nat.div_add_mod rank width
  have inside : rank % width < width := Nat.mod_lt rank positive
  by_cases last : rank % width + 1 = width
  · -- the first rank of the next block
    have next : rank + 1 = width * (rank / width + 1) := by rw [Nat.mul_succ]; omega
    have block : (rank + 1) / width = rank / width + 1 := by
      rw [next, Nat.mul_div_cancel_left _ positive]
    have start : (rank + 1) % width = 0 := by rw [next, Nat.mul_mod_right]
    simp only [block, start]
    cases hblock : rank / width with
    | zero =>
      rw [hblock, Nat.mul_zero, Nat.zero_add] at place
      simp only [if_true, Nat.succ_ne_zero, if_false, Nat.add_zero, Nat.zero_add, Nat.sub_self,
        Nat.pow_eq, Nat.pow_zero, Nat.mul_one]
      omega
    | succ k =>
      have shift : Nat.pow 2 (k + 1) = 2 * Nat.pow 2 k := by rw [Nat.pow_eq, Nat.pow_eq]; ring
      have step : 0 < Nat.pow 2 k := Nat.pow_pos (by decide)
      simp only [Nat.succ_ne_zero, if_false, Nat.add_zero, Nat.add_sub_cancel, shift]
      have double : (width + width) * Nat.pow 2 k = width * (2 * Nat.pow 2 k) := by ring
      rw [← double]
      exact Nat.mul_lt_mul_of_pos_right (by omega) step
  · -- the next rank of the same block
    have next : rank + 1 = width * (rank / width) + (rank % width + 1) := by omega
    have small : rank % width + 1 < width := by omega
    have block : (rank + 1) / width = rank / width := by
      rw [next, Nat.mul_add_div positive, Nat.div_eq_of_lt small, Nat.add_zero]
    have offset : (rank + 1) % width = rank % width + 1 := by
      rw [next, Nat.mul_add_mod, Nat.mod_eq_of_lt small]
    simp only [block, offset]
    split_ifs
    · omega
    · have step : 0 < Nat.pow 2 (rank / width - 1) := Nat.pow_pos (by decide)
      exact Nat.mul_lt_mul_of_pos_right (by omega) step

theorem units_strictMono : StrictMono units :=
  strictMono_nat_of_lt_succ units_lt_units_succ

theorem units_zero : units 0 = 0 := by decide

theorem units_eq_zero_iff {rank : Nat} : units rank = 0 ↔ rank = 0 := by
  rw [← units_zero]
  exact units_strictMono.injective.eq_iff

theorem sameValue_iff {x y : Binary64} : x.sameValue y = true ↔ x.signedUnits = y.signedUnits := by
  have inj : units x.rank = units y.rank ↔ x.rank = y.rank := units_strictMono.injective.eq_iff
  have zeroX : units x.rank = 0 ↔ x.rank = 0 := units_eq_zero_iff
  have zeroY : units y.rank = 0 ↔ y.rank = 0 := units_eq_zero_iff
  simp only [sameValue, isZero, signedUnits, Bool.or_eq_true, Bool.and_eq_true, beq_iff_eq]
  cases x.negative <;> cases y.negative <;> simp <;> omega

theorem isZero_iff {x : Binary64} : x.isZero = true ↔ x.signedUnits = 0 := by
  rw [isZero, beq_iff_eq, ← units_eq_zero_iff, signedUnits]
  split_ifs <;> omega

theorem signedUnits_of_toInt? {x : Binary64} {n : Int} (h : x.toInt? = some n) :
    x.signedUnits = n * (Nat.pow 2 unitExponent : Nat) := by
  unfold toInt? at h
  dsimp only at h
  generalize Nat.pow 2 unitExponent = one at h ⊢
  split_ifs at h with whole negative
  · obtain rfl := Option.some.inj h
    rw [signedUnits, if_pos negative, Int.neg_mul, ← Int.natCast_mul,
      Nat.div_mul_cancel (Nat.dvd_of_mod_eq_zero whole)]
  · obtain rfl := Option.some.inj h
    rw [signedUnits, if_neg negative, ← Int.natCast_mul,
      Nat.div_mul_cancel (Nat.dvd_of_mod_eq_zero whole)]

theorem exists_toInt?_of_signedUnits {x : Binary64} {n : Int}
    (h : x.signedUnits = n * (Nat.pow 2 unitExponent : Nat)) : ∃ m, x.toInt? = some m := by
  unfold toInt?
  dsimp only
  have whole : Nat.pow 2 unitExponent ∣ units x.rank := by
    have multiple : ((Nat.pow 2 unitExponent : Nat) : Int) ∣ x.signedUnits :=
      ⟨n, by rw [h, Int.mul_comm]⟩
    unfold signedUnits at multiple
    split_ifs at multiple
    · exact Int.natCast_dvd_natCast.1 (Int.dvd_neg.1 multiple)
    · exact Int.natCast_dvd_natCast.1 multiple
  rw [if_pos (Nat.mod_eq_zero_of_dvd whole)]
  exact ⟨_, rfl⟩

/-! ## Values -/

/-- The exact value of a number. -/
def value (x : Binary64) : ℚ :=
  x.signedUnits / (Nat.pow 2 unitExponent : Nat)

theorem value_eq_intCast_iff {x : Binary64} {n : Int} :
    x.value = n ↔ x.signedUnits = n * (Nat.pow 2 unitExponent : Nat) := by
  have nonzero : ∀ exponent, ((Nat.pow 2 exponent : Nat) : ℚ) ≠ 0 := fun _ =>
    Nat.cast_ne_zero.2 (Nat.pow_pos (by decide)).ne'
  rw [value, div_eq_iff (nonzero unitExponent)]
  norm_cast

theorem value_eq_zero_iff {x : Binary64} : x.value = 0 ↔ x.signedUnits = 0 := by
  rw [← Int.cast_zero, value_eq_intCast_iff, Int.zero_mul]

theorem toInt?_eq_some_iff {x : Binary64} {n : Int} : x.toInt? = some n ↔ x.value = n := by
  constructor
  · intro h
    exact value_eq_intCast_iff.2 (signedUnits_of_toInt? h)
  · intro h
    obtain ⟨m, hm⟩ := exists_toInt?_of_signedUnits (value_eq_intCast_iff.1 h)
    have same : (m : ℚ) = n := by rw [← h, value_eq_intCast_iff.2 (signedUnits_of_toInt? hm)]
    rw [hm, Int.cast_injective same]

end PrivacyMapping.Binary64
