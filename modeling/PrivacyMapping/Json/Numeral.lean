import PrivacyMapping.Json.Basic
import PrivacyMapping.Binary64.Shortest

/-!
# Written numbers

How a number is written in JSON text. A whole number is written in decimal. A floating-point number
is written with its shortest digits, and always in a way that shows that it is one: with a point
where its leading digit stands for a power of ten between `10 ^ -5` and `10 ^ 15`, and with an
exponent and its sign elsewhere.
-/

namespace PrivacyMapping.Json

def natText (n : Nat) : List Char :=
  Nat.toDigits 10 n

/-- A whole number in decimal, with a minus sign when it is negative. -/
def intText : Int → List Char
  | .ofNat n => natText n
  | .negSucc n => '-' :: natText (n + 1)

/-- Where a floating-point number is written with a point alone: the powers of ten that its leading
digit may stand for. -/
structure FloatLayout where
  leastPower : Int
  greatestPower : Int

/-- Floating-point numbers are written without an exponent from `0.00001` up to, and without,
`10 ^ 16`. -/
def floatLayout : FloatLayout := ⟨-5, 15⟩

/-- The digits of `digits * 10 ^ exponent` with a point, and at least one digit on each side of it.
-/
def pointText (digits : List Char) (exponent : Int) : List Char :=
  let whole : Int := digits.length + exponent
  if 0 ≤ exponent then digits ++ List.replicate exponent.toNat '0' ++ ['.', '0']
  else if 0 < whole then digits.take whole.toNat ++ '.' :: digits.drop whole.toNat
  else ['0', '.'] ++ List.replicate whole.natAbs '0' ++ digits

/-- The digits with a point after the first of several, and the power of ten of the first as an
exponent that always shows its sign. -/
def exponentText (digits : List Char) (power : Int) : List Char :=
  let sign := if power < 0 then '-' else '+'
  let tail := 'e' :: sign :: natText power.natAbs
  match digits with
  | [] => tail
  | [digit] => digit :: tail
  | digit :: more => digit :: '.' :: more ++ tail

/-- A decimal other than zero, laid out by the power of ten of its leading digit. -/
def decimalText (decimal : Decimal) : List Char :=
  let digits := natText decimal.digits
  let power := digits.length + decimal.exponent - 1
  if floatLayout.leastPower ≤ power ∧ power ≤ floatLayout.greatestPower then
    pointText digits decimal.exponent
  else exponentText digits power

/-- A magnitude other than zero. -/
def magnitudeText (rank : Nat) : List Char :=
  decimalText (Binary64.shortest rank)

/-- A floating-point number; zero keeps its sign. -/
def floatText (x : Binary64) : List Char :=
  let magnitude := if x.isZero then ['0', '.', '0'] else magnitudeText x.rank
  if x.negative then '-' :: magnitude else magnitude

def Number.text : Number → List Char
  | .int n => intText n
  | .float x => floatText x

end PrivacyMapping.Json
