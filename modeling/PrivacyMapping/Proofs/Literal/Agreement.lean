import PrivacyMapping.Proofs.Literal.Json
import PrivacyMapping.Proofs.Literal.Yaml
import PrivacyMapping.Proofs.Rounding

/-!
# Where the two readers agree on a literal

A whole number that fits 64 bits is the same number for both readers, except for negative zero, which
is a float in JSON. Any other literal is a float for both. The one is rounded once and the other twice,
which makes no difference for short literals, whose significand and power of ten are exact.
-/

namespace PrivacyMapping

namespace Binary64

/-! ## Exact significands and powers of ten -/

theorem map_ofRatio? (negative other : Bool) (numerator denominator : Nat) :
    (ofRatio? other numerator denominator).map (fun x => { x with negative }) =
      ofRatio? negative numerator denominator := by
  unfold ofRatio? ofRank?
  split_ifs <;> rfl

theorem map_ofNat? (negative other : Bool) (n : Nat) :
    (ofNat? other n).map (fun x => { x with negative }) = ofNat? negative n :=
  map_ofRatio? negative other n 1

theorem zero_eq_of_rank {x : Binary64} {negative : Bool} (h : x.rank = 0) :
    { x with negative } = zero negative := by
  cases x
  subst h
  rfl

/-- Rounding an exact significand again with an exact power of ten is rounding once. -/
theorem scale?_eq_ofDecimal? {significand length : Nat} {power : Int}
    (exact : significand < 2 * Nat.pow 2 52) (low : -greatestExactPower ≤ power)
    (high : power ≤ greatestExactPower) (negative : Bool) :
    ((ofNat? false significand).bind (Json.Reading.scale? · power)).map
        (fun x => { x with negative }) =
      ofDecimal? negative significand length power := by
  have greatest : (greatestExactPower : Int) = 22 := rfl
  obtain ⟨x, hx, sign, value⟩ := exists_ofNat? exact false
  rw [hx, Option.bind_some, Json.Reading.scale?, ofDecimal?]
  by_cases zero : significand = 0
  · have rank : x.rank = 0 := beq_iff_eq.1 (value.isZero.2 zero)
    rw [if_pos zero, if_pos (value.isZero.2 zero), Option.map_some, zero_eq_of_rank rank]
  · have nonzero : ¬ x.isZero = true := mt value.isZero.1 zero
    have notLarge : ¬ power > 400 := by omega
    have notSmall : ¬ power + length < -400 := by omega
    have small : power.natAbs ≤ greatestExactPower := by omega
    obtain ⟨y, hy, plain, ten⟩ := exists_powerOfTen? small
    have positive : Nat.pow 10 power.natAbs ≠ 0 := (Nat.pow_pos (by decide)).ne'
    rw [if_neg zero, if_neg nonzero, if_neg notLarge, if_neg notSmall]
    by_cases below : power < 0
    · have inRange : power.natAbs ≤ 308 := by omega
      have quotient := div?_eq_ofRatio? value ten positive
      rw [if_neg (Int.not_le.2 below), if_pos inRange, if_pos below, hy]
      rw [Option.bind_eq_bind, Option.bind_some]
      rw [quotient, map_ofRatio?]
    · have power' : power.toNat = power.natAbs := by omega
      have product := mul?_eq_ofNat? value ten
      rw [if_pos (Int.not_lt.1 below), if_neg below, power', hy]
      rw [Option.bind_eq_bind, Option.bind_some]
      rw [product, map_ofNat?]

end Binary64

namespace Literal

open Json (Number)
open Json.Reading

/-! ## Taken digits -/

theorem takeDigits_cases (digits : List Char) (n : Nat) :
    takeDigits n digits = (Nat.ofDigitChars 10 digits n, 0) ∨ (takeDigits n digits).2 ≠ 0 := by
  induction digits generalizing n with
  | nil => exact .inl rfl
  | cons digit digits ih =>
    rw [takeDigits]
    split
    · rw [Text.ofDigitChars_cons]
      exact ih _
    · exact .inr (Nat.succ_ne_zero _)

theorem exponentValue_eq {digits : List Char} {n : Nat}
    (h : Nat.ofDigitChars 10 digits n ≤ exponentLimit) :
    exponentValue n digits = .ok (Nat.ofDigitChars 10 digits n) := by
  induction digits generalizing n with
  | nil => rfl
  | cons digit digits ih =>
    rw [Text.ofDigitChars_cons] at h ⊢
    rw [exponentValue, if_pos (Nat.le_trans (le_ofDigitChars digits _) h), ih h]

variable (l : Literal)

/-! ## Whole numbers -/

/-- Negative zero, written as a whole number. -/
def IsNegativeZero : Prop :=
  l.negative = true ∧ l.wholeValue = 0

instance : Decidable l.IsNegativeZero :=
  inferInstanceAs (Decidable (_ ∧ _))

theorem wholeNumber?_eq_some_iff {i : Int} (integral : l.Integral)
    (small : Nat.ofDigitChars 10 l.whole 0 ≤ significandLimit) :
    wholeNumber? l.negative (Nat.ofDigitChars 10 l.whole 0) = some i ↔
      l.IsWhole ∧ ¬ l.IsNegativeZero ∧ i = l.wholeValue := by
  have limit : significandLimit = 18446744073709551615 := rfl
  have bits : Nat.pow 2 63 = 9223372036854775808 := rfl
  rw [l.isWhole_iff, IsNegativeZero, wholeNumber?, wholeValue]
  generalize Nat.ofDigitChars 10 l.whole 0 = magnitude at small ⊢
  cases l.negative with
  | false =>
    simp only [Bool.not_false, if_true, Option.some.injEq, Bool.false_eq_true, if_false, integral,
      true_and, false_and, not_false_eq_true]
    omega
  | true =>
    simp only [Bool.not_true, Bool.false_eq_true, if_false, if_true, integral, true_and]
    split_ifs with positive
    · rw [Option.some.injEq]
      omega
    · rw [iff_false_left nofun]
      omega

theorem number?_of_isWhole (h : l.IsWhole) (nonzero : ¬ l.IsNegativeZero) :
    l.number? = some (.int l.wholeValue) := by
  obtain ⟨integral, low, high⟩ := l.isWhole_iff.1 h
  have limit : significandLimit = 18446744073709551615 := rfl
  have small : Nat.ofDigitChars 10 l.whole 0 ≤ significandLimit := by
    rw [wholeValue] at low high
    split_ifs at low high <;> omega
  have whole := (l.wholeNumber?_eq_some_iff integral small).2 ⟨h, nonzero, rfl⟩
  rw [number?, takeDigits_eq small]
  dsimp only
  rw [if_pos integral, if_pos rfl, whole]

/-! ## Floats -/

theorem exists_float_of_scaled? {negative : Bool} {significand : Nat} {power : Int} {n : Number}
    (h : scaled? negative significand power = some n) : ∃ x, n = .float x := by
  obtain ⟨magnitude, -, rfl⟩ := Option.map_eq_some_iff.1 h
  exact ⟨_, rfl⟩

theorem exists_float_of_withExponent? {negative : Bool} {significand : Nat} {power : Int}
    {exponent : Option Exponent} {n : Number}
    (h : withExponent? negative significand power exponent = some n) : ∃ x, n = .float x := by
  cases exponent with
  | none => exact exists_float_of_scaled? h
  | some exponent =>
    unfold withExponent? at h
    dsimp only at h
    split at h
    · exact exists_float_of_scaled? h
    · split_ifs at h
      exact ⟨_, (Option.some.inj h).symm⟩

theorem exists_float_of_number? {n : Number} (h : l.number? = some n)
    (other : l.IsWhole → l.IsNegativeZero) : ∃ x, n = .float x := by
  unfold number? at h
  dsimp only at h
  by_cases integral : l.Integral
  · rw [if_pos integral] at h
    split at h
    · next i whole =>
      split_ifs at whole with all
      have kept := (takeDigits_cases l.whole 0).resolve_right (not_not.2 all)
      have small := takeDigits_le (Nat.zero_le significandLimit) l.whole
      rw [kept] at small whole
      obtain ⟨fits, nonzero, -⟩ := (l.wholeNumber?_eq_some_iff integral small).1 whole
      exact absurd (other fits) nonzero
    · exact exists_float_of_scaled? h
  · rw [if_neg integral] at h
    exact exists_float_of_withExponent? h

/-- The number of digits that a short literal has at most. -/
def shortLength : Nat := 15

/-- A literal whose significand and power of ten are exact. -/
structure IsShort : Prop where
  length : l.digits.length ≤ shortLength
  low : -Binary64.greatestExactPower ≤ l.power
  high : l.power ≤ Binary64.greatestExactPower

theorem IsShort.significand_lt {l : Literal} (short : l.IsShort) : l.significand < 10 ^ shortLength :=
  (Text.ofDigitChars_lt l.digits_areDigits).trans_le (Nat.pow_le_pow_right (by decide) short.length)

theorem IsShort.isWhole {l : Literal} (short : l.IsShort) (integral : l.Integral) : l.IsWhole := by
  have most : 10 ^ shortLength = 1000000000000000 := rfl
  have small := short.significand_lt
  rw [significand, digits, integral.1, List.append_nil] at small
  refine l.isWhole_iff.2 ⟨integral, ?_⟩
  rw [wholeValue]
  split_ifs <;> omega

theorem IsShort.taken {l : Literal} (short : l.IsShort) :
    takeDigits 0 l.whole = (Nat.ofDigitChars 10 l.whole 0, 0) ∧
      takeDigits (Nat.ofDigitChars 10 l.whole 0) l.fraction = (l.significand, 0) := by
  have all : l.significand =
      Nat.ofDigitChars 10 l.fraction (Nat.ofDigitChars 10 l.whole 0) := Nat.ofDigitChars_append ..
  have small : l.significand ≤ significandLimit := short.significand_lt.le.trans (by decide)
  constructor
  · refine takeDigits_eq (le_trans ?_ small)
    rw [all]
    exact le_ofDigitChars _ _
  · rw [takeDigits_eq (all ▸ small), all]

theorem IsShort.withExponent?_eq {l : Literal} (short : l.IsShort) :
    withExponent? l.negative l.significand (-l.fraction.length) l.exponent =
      scaled? l.negative l.significand l.power := by
  have greatest : (Binary64.greatestExactPower : Int) = 22 := rfl
  have most : shortLength = 15 := rfl
  have limit : exponentLimit = 2147483647 := rfl
  have low := short.low
  have high := short.high
  have length := short.length
  rw [digits, List.length_append] at length
  rw [power, scale] at low high ⊢
  cases hexponent : l.exponent with
  | none => rw [Option.map_none, Option.getD_none, Int.zero_sub]; rfl
  | some exponent =>
    rw [hexponent, Option.map_some, Option.getD_some] at low high
    rw [Option.map_some, Option.getD_some]
    have value : exponent.magnitude ≤ exponentLimit := by
      rw [Exponent.value] at low high
      cases hsign : exponent.sign <;> rw [hsign] at low high <;>
        simp only [Sign.factor] at low high <;> omega
    unfold withExponent?
    dsimp only
    rw [exponentValue_eq value]
    dsimp only
    rw [Exponent.value, Int.sub_eq_add_neg, Int.add_comm]
    rfl

/-- **Both readers make the same float of a short literal.** -/
theorem number?_of_isShort (short : l.IsShort) (other : ¬ l.Integral) :
    l.number? = l.nearest?.map .float := by
  obtain ⟨whole, fraction⟩ := short.taken
  have exact : l.significand < 2 * Nat.pow 2 52 := short.significand_lt.trans (by decide)
  have rounded : _ = l.nearest? :=
    Binary64.scale?_eq_ofDecimal? exact short.low short.high l.negative
  have shift : ((0 : Nat) : Int) - (l.fraction.length - 0 : Nat) = -l.fraction.length := Int.zero_sub _
  rw [number?, whole]
  dsimp only
  rw [if_neg other, fraction]
  dsimp only
  rw [shift, short.withExponent?_eq, ← rounded, scaled?, Option.map_map]
  rfl

end Literal

end PrivacyMapping
