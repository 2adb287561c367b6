import PrivacyMapping.Binary64.Basic

/-!
# The shortest decimal of a number

The decimal with the fewest digits among those that are read back as the same number, and of those
with the fewest digits the one nearest to it. A decimal is read back as a number exactly when it
lies between the midpoints to the two neighbouring magnitudes; the midpoints themselves count when
the rank is even.
-/

namespace PrivacyMapping

/-- The number `digits * 10 ^ exponent`. -/
structure Decimal where
  digits : Nat
  exponent : Int
  deriving DecidableEq

/-- The same number with a last digit other than zero, where one step of carrying has made the
digits a ten. -/
def Decimal.dropZero (decimal : Decimal) : Decimal :=
  if decimal.digits = 10 then ⟨1, decimal.exponent + 1⟩ else decimal

namespace Binary64

/-- The exponent `e` for which a positive magnitude lies in `10 ^ (e - 1) ≤ x < 10 ^ e`. -/
def decimalExponent (rank : Nat) : Int :=
  ((Nat.toDigits 10 (units rank * Nat.pow 10 324 / Nat.pow 2 unitExponent)).length : Int) - 324

/-- Whether `digits * 10 ^ exponent` is read back as the magnitude of the given rank. All sides are
taken times `2 ^ (unitExponent + 1)`, which makes the midpoints whole numbers. -/
def readsBack (rank : Nat) (decimal : Decimal) : Bool :=
  let low := units (rank - 1) + units rank
  let high := units rank + units (rank + 1)
  let scale := Nat.pow 10 decimal.exponent.natAbs
  let point := decimal.digits * Nat.pow 2 (unitExponent + 1)
  let (low, point, high) :=
    if decimal.exponent < 0 then (low * scale, point, high * scale)
    else (low, point * scale, high)
  if rank % 2 = 0 then decide (low ≤ point ∧ point ≤ high)
  else decide (low < point ∧ point < high)

/-- The decimal on the grid `10 ^ exponent` that lies nearest to the magnitude among those that are
read back as it: one of the two grid points around the magnitude, a tie going to the even one. -/
def onGrid? (rank : Nat) (exponent : Int) : Option Decimal :=
  let scale := Nat.pow 10 exponent.natAbs
  let (numerator, denominator) :=
    if exponent < 0 then (units rank * scale, Nat.pow 2 unitExponent)
    else (units rank, Nat.pow 2 unitExponent * scale)
  let below : Decimal := ⟨numerator / denominator, exponent⟩
  let above : Decimal := ⟨numerator / denominator + 1, exponent⟩
  match readsBack rank below, readsBack rank above with
  | false, false => none
  | true, false => some below
  | false, true => some above
  | true, true =>
    let order := compare (2 * (numerator % denominator)) denominator
    some (if roundsUp below.digits order then above else below)

/-- The shortest decimal of a positive magnitude; seventeen digits are always enough. -/
def shortest (rank : Nat) : Decimal :=
  let top := decimalExponent rank
  let found := (List.range 17).findSome? fun n => onGrid? rank (top - (n + 1 : Nat))
  (found.map (·.dropZero)).getD ⟨units rank * Nat.pow 5 unitExponent, -unitExponent⟩

end Binary64

end PrivacyMapping
