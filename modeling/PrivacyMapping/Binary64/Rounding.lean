import PrivacyMapping.Binary64.Basic

/-!
# Rounding to the nearest number

A positive quotient is rounded to the nearest finite magnitude; a tie goes to the magnitude of even
rank, which is the one whose significand is even. Products, quotients and decimal numerals are exact
quotients that are then rounded once. A magnitude past the last rank has no finite number.
-/

namespace PrivacyMapping.Binary64

/-- The last rank whose magnitude is at most the given number of units. -/
def floorRank (u : Nat) : Nat :=
  let step := u.log2 - 52
  u / Nat.pow 2 step + step * Nat.pow 2 52

/-- The rank nearest to `numerator / denominator` units. -/
def nearestRank (numerator denominator : Nat) : Nat :=
  let below := floorRank (numerator / denominator)
  let middle := denominator * (units below + units (below + 1))
  if roundsUp below (compare (2 * numerator) middle) then below + 1 else below

/-- The number of the given rank, if the rank is finite. -/
def ofRank? (negative : Bool) (rank : Nat) : Option Binary64 :=
  if h : rank < finiteRanks then some ⟨negative, rank, h⟩ else none

/-- The number nearest to `numerator / denominator`. -/
def ofRatio? (negative : Bool) (numerator denominator : Nat) : Option Binary64 :=
  ofRank? negative (nearestRank (numerator * Nat.pow 2 unitExponent) denominator)

/-- The number nearest to a natural number. -/
def ofNat? (negative : Bool) (n : Nat) : Option Binary64 :=
  ofRatio? negative n 1

/-- The rounded product of two numbers. -/
def mul? (x y : Binary64) : Option Binary64 :=
  ofRank? (x.negative != y.negative)
    (nearestRank (units x.rank * units y.rank) (Nat.pow 2 unitExponent))

/-- The rounded quotient of two numbers; there is none by zero. -/
def div? (x y : Binary64) : Option Binary64 :=
  if y.isZero then none
  else ofRank? (x.negative != y.negative)
    (nearestRank (units x.rank * Nat.pow 2 unitExponent) (units y.rank))

/-- The number nearest to `10 ^ exponent`. -/
def powerOfTen? (exponent : Nat) : Option Binary64 :=
  if exponent ≤ 308 then ofNat? false (Nat.pow 10 exponent) else none

/-- The number nearest to `significand * 10 ^ exponent`, where `significand` is written with
`digits` digits. Exponents that can only give a number past the last one, or one below half a unit,
are answered without being raised. -/
def ofDecimal? (negative : Bool) (significand digits : Nat) (exponent : Int) : Option Binary64 :=
  if significand = 0 then some (zero negative)
  else if exponent > 400 then none
  else if exponent + digits < -400 then some (zero negative)
  else if exponent < 0 then ofRatio? negative significand (Nat.pow 10 exponent.natAbs)
  else ofNat? negative (significand * Nat.pow 10 exponent.natAbs)

end PrivacyMapping.Binary64
