/-!
# Finite binary floating-point numbers of 64 bits

A finite number is a sign and the rank of its magnitude among all finite magnitudes, which are
counted from zero upwards. Every magnitude is a whole number of units of `2 ^ -1074`, and `units`
gives that number, so that all questions about values are questions about natural numbers.
-/

namespace PrivacyMapping

/-- The number of finite magnitudes. -/
def finiteRanks : Nat := 2047 * Nat.pow 2 52

structure Binary64 where
  negative : Bool
  rank : Nat
  rank_lt : rank < finiteRanks
  deriving DecidableEq

namespace Binary64

/-- The exponent of the unit in which every magnitude is a whole number. -/
def unitExponent : Nat := 1074

/-- The magnitude of a rank in units. Ranks grow by one unit up to `2 ^ 53`, and from there on each
block of `2 ^ 52` ranks takes steps twice as long as the block before it. -/
def units (rank : Nat) : Nat :=
  let block := rank / Nat.pow 2 52
  if block = 0 then rank else (Nat.pow 2 52 + rank % Nat.pow 2 52) * Nat.pow 2 (block - 1)

def zero (negative : Bool) : Binary64 :=
  ⟨negative, 0, by decide⟩

instance : Inhabited Binary64 := ⟨zero false⟩

/-- Whether the number is zero, of either sign. -/
def isZero (x : Binary64) : Bool :=
  x.rank == 0

/-- Equality of values: zero equals zero whatever the signs. -/
def sameValue (x y : Binary64) : Bool :=
  (x.isZero && y.isZero) || (x.negative == y.negative && x.rank == y.rank)

/-- Whether a number between a natural number and the next one is rounded up, given how it compares
with the middle between them. From the middle it goes to the even one. -/
def roundsUp (below : Nat) : Ordering → Bool
  | .lt => false
  | .gt => true
  | .eq => below % 2 == 1

/-- The value in units, with its sign. -/
def signedUnits (x : Binary64) : Int :=
  if x.negative then -(units x.rank : Int) else (units x.rank : Int)

/-- The value as a whole number, if it is one. -/
def toInt? (x : Binary64) : Option Int :=
  let one := Nat.pow 2 unitExponent
  if units x.rank % one = 0 then
    let n : Int := (units x.rank / one : Nat)
    some (if x.negative then -n else n)
  else none

end Binary64

end PrivacyMapping
