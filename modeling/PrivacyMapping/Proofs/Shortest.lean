import PrivacyMapping.Binary64.Shortest
import PrivacyMapping.Proofs.Rounding

/-!
# The shortest decimal is read back

The shortest decimal of a magnitude lies nearest to it among all magnitudes, so rounding leads back to
it (`ofDecimal?_shortest`). This holds of the value of the decimal, in whatever digits and exponent it
is written.
-/

namespace PrivacyMapping

theorem ten_pow_pos (exponent : Nat) : 0 < Nat.pow 10 exponent :=
  Nat.pow_pos (by decide)

theorem ten_pow_le {m n : Nat} (h : m ≤ n) : Nat.pow 10 m ≤ Nat.pow 10 n :=
  Nat.pow_le_pow_right (by decide) h

theorem not_ten_pow_le {bound m n : Nat} (less : bound < Nat.pow 10 m) (h : m ≤ n) :
    ¬ Nat.pow 10 n ≤ bound :=
  Nat.not_le.2 (less.trans_le (ten_pow_le h))

theorem ten_pow_add (m n : Nat) : Nat.pow 10 m * Nat.pow 10 n = Nat.pow 10 (m + n) :=
  (Nat.pow_add 10 m n).symm

/-! ## Decimals as quotients -/

namespace Decimal

def numerator (decimal : Decimal) : Nat :=
  decimal.digits * Nat.pow 10 decimal.exponent.toNat

def denominator (decimal : Decimal) : Nat :=
  Nat.pow 10 (-decimal.exponent).toNat

theorem denominator_pos (decimal : Decimal) : 0 < decimal.denominator :=
  ten_pow_pos _

/-- The two decimals are the same number. -/
def SameValue (a b : Decimal) : Prop :=
  a.numerator * b.denominator = b.numerator * a.denominator

theorem numerator_of_neg {decimal : Decimal} (h : decimal.exponent < 0) :
    decimal.numerator = decimal.digits ∧
      decimal.denominator = Nat.pow 10 decimal.exponent.natAbs := by
  have none : decimal.exponent.toNat = 0 := by omega
  have all : (-decimal.exponent).toNat = decimal.exponent.natAbs := by omega
  exact ⟨by rw [numerator, none]; exact Nat.mul_one _, by rw [denominator, all]⟩

theorem numerator_of_nonneg {decimal : Decimal} (h : 0 ≤ decimal.exponent) :
    decimal.numerator = decimal.digits * Nat.pow 10 decimal.exponent.natAbs ∧
      decimal.denominator = 1 := by
  have all : decimal.exponent.toNat = decimal.exponent.natAbs := by omega
  have none : (-decimal.exponent).toNat = 0 := by omega
  exact ⟨by rw [numerator, all], by rw [denominator, none, Nat.pow_eq, Nat.pow_zero]⟩

theorem sameValue_shift (digits shift : Nat) (exponent : Int) :
    SameValue ⟨digits, exponent + shift⟩ ⟨digits * Nat.pow 10 shift, exponent⟩ := by
  have powers : (exponent + shift).toNat + (-exponent).toNat =
      shift + exponent.toNat + (-(exponent + shift)).toNat := by omega
  simp only [SameValue, numerator, denominator]
  rw [Nat.mul_assoc, Nat.mul_assoc, Nat.mul_assoc, ten_pow_add, ten_pow_add, ten_pow_add,
    ← Nat.add_assoc, powers]

theorem sameValue_dropZero (decimal : Decimal) : SameValue decimal.dropZero decimal := by
  unfold dropZero
  split_ifs with ten
  · have shifted := sameValue_shift 1 1 decimal.exponent
    have digits : 1 * Nat.pow 10 1 = decimal.digits := ten.symm
    rw [digits] at shifted
    exact shifted
  · rfl

end Decimal

namespace Binary64

/-! ## Decimals near a magnitude -/

/-- The decimal lies nearest to the magnitude. -/
def Represents (decimal : Decimal) (rank : Nat) : Prop :=
  IsNearest rank (decimal.numerator * Nat.pow 2 unitExponent) decimal.denominator

theorem IsNearest.congr {rank numerator denominator numerator' denominator' : Nat}
    (h : IsNearest rank numerator denominator) (positive : 0 < denominator)
    (positive' : 0 < denominator') (same : numerator' * denominator = numerator * denominator') :
    IsNearest rank numerator' denominator' := by
  have left : ∀ bound, bound * denominator' * denominator = bound * denominator * denominator' :=
    fun bound => Nat.mul_right_comm _ _ _
  have right : 2 * numerator' * denominator = 2 * numerator * denominator' := by
    rw [Nat.mul_assoc, same, Nat.mul_assoc]
  refine ⟨?_, ?_, fun odd => ⟨fun eq => ?_, fun eq => ?_⟩⟩
  · refine Nat.le_of_mul_le_mul_right ?_ positive
    rw [left, right]
    exact Nat.mul_le_mul_right _ h.low
  · refine Nat.le_of_mul_le_mul_right ?_ positive
    rw [left, right]
    exact Nat.mul_le_mul_right _ h.high
  · refine (h.middle odd).1 (Nat.eq_of_mul_eq_mul_right positive' ?_)
    rw [← left, ← right, eq]
  · refine (h.middle odd).2 (Nat.eq_of_mul_eq_mul_right positive' ?_)
    rw [← left, ← right, eq]

theorem Represents.congr {a b : Decimal} {rank : Nat} (h : Represents a rank)
    (same : b.SameValue a) : Represents b rank := by
  refine IsNearest.congr h a.denominator_pos b.denominator_pos ?_
  rw [Nat.mul_right_comm, same, Nat.mul_right_comm]

theorem isNearest_of_test {rank numerator denominator : Nat} {low point high : Nat}
    (hlow : low = (units (rank - 1) + units rank) * denominator) (hpoint : point = 2 * numerator)
    (hhigh : high = (units rank + units (rank + 1)) * denominator)
    (h : (if rank % 2 = 0 then decide (low ≤ point ∧ point ≤ high)
      else decide (low < point ∧ point < high)) = true) :
    IsNearest rank numerator denominator := by
  subst hlow hpoint hhigh
  split_ifs at h with even
  · obtain ⟨low, high⟩ := of_decide_eq_true h
    exact ⟨low, high, fun odd => absurd odd (by omega)⟩
  · obtain ⟨low, high⟩ := of_decide_eq_true h
    exact ⟨low.le, high.le, fun _ => ⟨low.ne, high.ne⟩⟩

theorem represents_of_readsBack {rank : Nat} {decimal : Decimal} (h : readsBack rank decimal = true) :
    Represents decimal rank := by
  have double : Nat.pow 2 (unitExponent + 1) = 2 * Nat.pow 2 unitExponent := by
    rw [Nat.pow_eq, Nat.pow_eq, Nat.pow_succ, Nat.mul_comm]
  unfold readsBack at h
  dsimp only at h
  rw [double] at h
  rw [Represents]
  generalize Nat.pow 2 unitExponent = unit at h ⊢
  by_cases negative : decimal.exponent < 0
  · obtain ⟨numerator, denominator⟩ := Decimal.numerator_of_neg negative
    rw [numerator, denominator]
    rw [if_pos negative] at h
    exact isNearest_of_test rfl (Nat.mul_left_comm _ _ _) rfl h
  · obtain ⟨numerator, denominator⟩ := Decimal.numerator_of_nonneg (Int.not_lt.1 negative)
    rw [numerator, denominator]
    rw [if_neg negative] at h
    refine isNearest_of_test (Nat.mul_one _).symm ?_ (Nat.mul_one _).symm h
    ring

theorem represents_of_onGrid? {rank : Nat} {exponent : Int} {decimal : Decimal}
    (h : onGrid? rank exponent = some decimal) : Represents decimal rank := by
  apply represents_of_readsBack
  unfold onGrid? at h
  dsimp only at h
  generalize (if exponent < 0 then _ else _ : Nat × Nat) = quotient at h
  split at h
  · cases h
  · next below _ => exact Option.some.inj h ▸ below
  · next _ above => exact Option.some.inj h ▸ above
  · next below above =>
    rw [← Option.some.inj h]
    split_ifs
    · exact above
    · exact below

theorem isNearest_self {rank : Nat} (nonzero : rank ≠ 0) : IsNearest rank (units rank) 1 := by
  have below := units_strictMono (Nat.sub_one_lt nonzero)
  have above := units_lt_units_succ rank
  refine ⟨?_, ?_, fun _ => ⟨?_, ?_⟩⟩ <;> omega

theorem represents_all {rank : Nat} (nonzero : rank ≠ 0) :
    Represents ⟨units rank * Nat.pow 5 unitExponent, -unitExponent⟩ rank := by
  have exponent : (-(unitExponent : Int)).toNat = 0 ∧ (-(-(unitExponent : Int))).toNat = unitExponent := by
    omega
  unfold Represents
  refine (isNearest_self nonzero).congr Nat.one_pos (Decimal.denominator_pos _) ?_
  rw [Decimal.numerator, Decimal.denominator, exponent.1, exponent.2]
  generalize unitExponent = unit
  have ten : Nat.pow 5 unit * Nat.pow 2 unit = Nat.pow 10 unit := (Nat.mul_pow 5 2 unit).symm
  have none : Nat.pow 10 0 = 1 := rfl
  dsimp only
  rw [← ten, none]
  ring

/-- The shortest decimal lies nearest to its magnitude. -/
theorem represents_shortest {rank : Nat} (nonzero : rank ≠ 0) :
    Represents (shortest rank) rank := by
  unfold shortest
  dsimp only
  generalize decimalExponent rank = top
  cases found : (List.range 17).findSome? fun n => onGrid? rank (top - (n + 1 : Nat)) with
  | none => exact represents_all nonzero
  | some decimal =>
    obtain ⟨n, -, grid⟩ := List.exists_of_findSome?_eq_some found
    exact (represents_of_onGrid? grid).congr decimal.sameValue_dropZero

/-! ## Reading back -/

theorem units_le_of_finite {rank : Nat} (finite : rank < finiteRanks) :
    units (rank + 1) ≤ Nat.pow 2 1024 * Nat.pow 2 unitExponent := by
  calc units (rank + 1)
    _ ≤ units finiteRanks := units_strictMono.monotone finite
    _ ≤ Nat.pow 2 1024 * Nat.pow 2 unitExponent := by decide +kernel

section bounds

variable {decimal : Decimal} {rank : Nat} (h : Represents decimal rank) (nonzero : rank ≠ 0)
include h

include nonzero in
theorem Represents.low : decimal.denominator ≤ decimal.numerator * (2 * Nat.pow 2 unitExponent) := by
  have positive : 0 < units (rank - 1) + units rank :=
    Nat.add_pos_right _ (Nat.pos_of_ne_zero (mt units_eq_zero_iff.1 nonzero))
  calc decimal.denominator
    _ ≤ (units (rank - 1) + units rank) * decimal.denominator := Nat.le_mul_of_pos_left _ positive
    _ ≤ 2 * (decimal.numerator * Nat.pow 2 unitExponent) := IsNearest.low h
    _ = decimal.numerator * (2 * Nat.pow 2 unitExponent) := Nat.mul_left_comm _ _ _

include nonzero in
theorem Represents.digits_ne_zero : decimal.digits ≠ 0 := by
  intro zero
  have low := h.low nonzero
  rw [Decimal.numerator, zero, Nat.zero_mul, Nat.zero_mul] at low
  exact absurd decimal.denominator_pos (Nat.not_lt.2 low)

theorem Represents.high (finite : rank < finiteRanks) :
    decimal.numerator ≤ Nat.pow 2 1024 * decimal.denominator := by
  have most := units_le_of_finite finite
  have below := units_lt_units_succ rank
  have high := IsNearest.high h
  refine Nat.le_of_mul_le_mul_right ?_ (two_pow_pos unitExponent)
  generalize Nat.pow 2 unitExponent = unit at most high ⊢
  generalize Nat.pow 2 1024 = bound at most ⊢
  have sum : (units rank + units (rank + 1)) * decimal.denominator ≤
      2 * (bound * unit) * decimal.denominator := Nat.mul_le_mul_right _ (by omega)
  have sides : 2 * (bound * unit) * decimal.denominator = 2 * (bound * decimal.denominator * unit) := by
    ring
  omega

include nonzero in
theorem Represents.not_large (finite : rank < finiteRanks) : ¬ decimal.exponent > 400 := by
  intro large
  have positive : 0 ≤ decimal.exponent := by omega
  obtain ⟨numerator, denominator⟩ := Decimal.numerator_of_nonneg positive
  have high := h.high finite
  have less : Nat.pow 2 1024 < Nat.pow 10 401 := by decide +kernel
  rw [numerator, denominator] at high
  generalize Nat.pow 2 1024 = bound at high less
  have power : Nat.pow 10 decimal.exponent.natAbs ≤ bound := by
    calc Nat.pow 10 decimal.exponent.natAbs
      _ ≤ decimal.digits * Nat.pow 10 decimal.exponent.natAbs :=
        Nat.le_mul_of_pos_left _ (Nat.pos_of_ne_zero (h.digits_ne_zero nonzero))
      _ ≤ bound * 1 := high
      _ = bound := Nat.mul_one _
  have least : 401 ≤ decimal.exponent.natAbs := by omega
  exact not_ten_pow_le less least power

include nonzero in
theorem Represents.not_small {length : Nat} (hlength : decimal.digits < Nat.pow 10 length) :
    ¬ decimal.exponent + length < -400 := by
  intro small
  have negative : decimal.exponent < 0 := by omega
  obtain ⟨numerator, denominator⟩ := Decimal.numerator_of_neg negative
  have low := h.low nonzero
  rw [numerator, denominator] at low
  obtain ⟨more, digits⟩ : ∃ more, decimal.exponent.natAbs = 401 + more + length :=
    ⟨decimal.exponent.natAbs - length - 401, by omega⟩
  have power : Nat.pow 10 (401 + more) ≤ 2 * Nat.pow 2 unitExponent := by
    refine Nat.le_of_mul_le_mul_right ?_ (ten_pow_pos length)
    calc Nat.pow 10 (401 + more) * Nat.pow 10 length
      _ = Nat.pow 10 decimal.exponent.natAbs := by rw [ten_pow_add, digits]
      _ ≤ decimal.digits * (2 * Nat.pow 2 unitExponent) := low
      _ ≤ Nat.pow 10 length * (2 * Nat.pow 2 unitExponent) := Nat.mul_le_mul_right _ hlength.le
      _ = 2 * Nat.pow 2 unitExponent * Nat.pow 10 length := Nat.mul_comm _ _
  have less : 2 * Nat.pow 2 unitExponent < Nat.pow 10 401 := by decide +kernel
  exact not_ten_pow_le less (Nat.le_add_right 401 more) power

end bounds

/-- **A decimal near a magnitude is read as that magnitude**, however many digits it has. -/
theorem ofDecimal?_of_represents {decimal : Decimal} {rank length : Nat}
    (h : Represents decimal rank) (nonzero : rank ≠ 0) (finite : rank < finiteRanks)
    (hlength : decimal.digits < Nat.pow 10 length) (negative : Bool) :
    ofDecimal? negative decimal.digits length decimal.exponent = some ⟨negative, rank, finite⟩ := by
  have nearest : nearestRank (decimal.numerator * Nat.pow 2 unitExponent) decimal.denominator = rank :=
    IsNearest.nearestRank_eq h decimal.denominator_pos nonzero
  rw [ofDecimal?, if_neg (h.digits_ne_zero nonzero), if_neg (h.not_large nonzero finite),
    if_neg (h.not_small nonzero hlength)]
  split_ifs with below
  · obtain ⟨numerator, denominator⟩ := Decimal.numerator_of_neg below
    rw [numerator, denominator] at nearest
    rw [ofRatio?, nearest, ofRank?_eq_some finite]
  · obtain ⟨numerator, denominator⟩ := Decimal.numerator_of_nonneg (Int.not_lt.1 below)
    rw [numerator, denominator] at nearest
    rw [ofNat?, ofRatio?, nearest, ofRank?_eq_some finite]

end Binary64

end PrivacyMapping
