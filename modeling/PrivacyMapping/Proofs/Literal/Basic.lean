import PrivacyMapping.Proofs.Digits

/-!
# Numeric literals

The written form of a number: a sign, a whole part without leading zeros, a fraction and an exponent.
It is a JSON number as well as a plain YAML scalar, and each of the two readers takes it apart into the
same parts. The number that it stands for is `significand * 10 ^ power`, with its sign.
-/

namespace PrivacyMapping

namespace Literal

/-- The sign of an exponent, which may be left out. -/
inductive Sign where
  | none
  | plus
  | minus
  deriving DecidableEq

def Sign.chars : Sign → List Char
  | .none => []
  | .plus => ['+']
  | .minus => ['-']

def Sign.factor : Sign → Int
  | .minus => -1
  | _ => 1

structure Exponent where
  mark : Char
  sign : Sign
  digits : List Char
  isMark : mark = 'e' ∨ mark = 'E'
  areDigits : Text.AreDigits digits
  nonempty : digits ≠ []
  deriving DecidableEq

theorem Exponent.exists_digits_eq_cons (exponent : Exponent) :
    ∃ digit more, exponent.digits = digit :: more ∧ digit.isDigit = true := by
  obtain ⟨digit, more, digits⟩ := List.exists_cons_of_ne_nil exponent.nonempty
  exact ⟨digit, more, digits, exponent.areDigits digit (digits ▸ List.mem_cons_self)⟩

def Exponent.chars (exponent : Exponent) : List Char :=
  exponent.mark :: (exponent.sign.chars ++ exponent.digits)

def Exponent.magnitude (exponent : Exponent) : Nat :=
  Nat.ofDigitChars 10 exponent.digits 0

def Exponent.value (exponent : Exponent) : Int :=
  exponent.sign.factor * exponent.magnitude

end Literal

/-- A numeric literal. Without digits in the fraction there is no point either. -/
structure Literal where
  negative : Bool
  whole : List Char
  fraction : List Char
  exponent : Option Literal.Exponent
  whole_digits : Text.AreDigits whole
  whole_nonempty : whole ≠ []
  no_leading_zero : whole.head? = some '0' → whole = ['0']
  fraction_digits : Text.AreDigits fraction
  deriving DecidableEq

namespace Literal

open Text (AreDigits EndsDigits)

/-- The literal with the given parts. -/
def ofParts (negative : Bool) (whole fraction : List Char) (exponent : Option Exponent)
    (h : AreDigits whole ∧ whole ≠ [] ∧ (whole.head? = some '0' → whole = ['0']) ∧
      AreDigits fraction) : Literal :=
  ⟨negative, whole, fraction, exponent, h.1, h.2.1, h.2.2.1, h.2.2.2⟩

/-- The point and the digits after it. -/
def pointed : List Char → List Char
  | [] => []
  | digit :: digits => '.' :: digit :: digits

def exponentChars : Option Exponent → List Char
  | none => []
  | some exponent => exponent.chars

/-- What follows the whole part. -/
def tail (l : Literal) : List Char :=
  pointed l.fraction ++ exponentChars l.exponent

def unsigned (l : Literal) : List Char :=
  l.whole ++ l.tail

def chars (l : Literal) : List Char :=
  if l.negative then '-' :: l.unsigned else l.unsigned

def text (l : Literal) : String :=
  String.ofList l.chars

/-- The literal is a whole number without an exponent. -/
def Integral (l : Literal) : Prop :=
  l.fraction = [] ∧ l.exponent = none

instance (l : Literal) : Decidable l.Integral :=
  inferInstanceAs (Decidable (_ ∧ _))

/-! ## The number that is written -/

def digits (l : Literal) : List Char :=
  l.whole ++ l.fraction

def significand (l : Literal) : Nat :=
  Nat.ofDigitChars 10 l.digits 0

/-- The whole number that the whole part is. -/
def wholeValue (l : Literal) : Int :=
  if l.negative then -(Nat.ofDigitChars 10 l.whole 0 : Int) else (Nat.ofDigitChars 10 l.whole 0 : Int)

/-- The literal is written as a whole number that fits 64 bits, with a sign or without one. -/
def IsWhole (l : Literal) : Prop :=
  l.Integral ∧ -Int.pow 2 63 ≤ l.wholeValue ∧ l.wholeValue < Int.pow 2 64

instance (l : Literal) : Decidable l.IsWhole :=
  inferInstanceAs (Decidable (_ ∧ _ ∧ _))

/-- The power of ten of the exponent. -/
def scale (l : Literal) : Int :=
  (l.exponent.map (·.value)).getD 0

/-- The power of ten of the last digit. -/
def power (l : Literal) : Int :=
  l.scale - l.fraction.length

/-! ## Parts -/

section parts

variable (l : Literal)

theorem isWhole_iff :
    l.IsWhole ↔ l.Integral ∧ -9223372036854775808 ≤ l.wholeValue ∧
      l.wholeValue < 18446744073709551616 :=
  Iff.rfl

theorem digits_areDigits : AreDigits l.digits :=
  l.whole_digits.append l.fraction_digits

theorem digits_ne_nil : l.digits ≠ [] := by
  simp [digits, l.whole_nonempty]

theorem exists_whole_eq_cons :
    ∃ digit more, l.whole = digit :: more ∧ digit.isDigit = true ∧ (digit = '0' → more = []) := by
  obtain ⟨digit, more, whole⟩ := List.exists_cons_of_ne_nil l.whole_nonempty
  refine ⟨digit, more, whole, l.whole_digits digit (whole ▸ List.mem_cons_self), ?_⟩
  rintro rfl
  have only := l.no_leading_zero (by rw [whole, List.head?_cons])
  rw [whole] at only
  exact (List.cons.inj only).2

theorem exists_unsigned_eq_cons :
    ∃ digit more, l.unsigned = digit :: more ∧ digit.isDigit = true := by
  obtain ⟨digit, more, whole, isDigit, -⟩ := l.exists_whole_eq_cons
  exact ⟨digit, more ++ l.tail, by rw [unsigned, whole, List.cons_append], isDigit⟩

theorem tail_of_integral (h : l.Integral) : l.tail = [] := by
  rw [tail, h.1, h.2]
  rfl

theorem tail_cases :
    (l.Integral ∧ l.tail = []) ∨
      ∃ c more, l.tail = c :: more ∧ (c = '.' ∨ c = 'e' ∨ c = 'E') := by
  cases hfraction : l.fraction with
  | cons digit digits =>
    exact .inr ⟨'.', _, by rw [tail, hfraction, pointed, List.cons_append], .inl rfl⟩
  | nil =>
    cases hexponent : l.exponent with
    | none => exact .inl ⟨⟨hfraction, hexponent⟩, l.tail_of_integral ⟨hfraction, hexponent⟩⟩
    | some exponent =>
      exact .inr ⟨exponent.mark, _, by rw [tail, hfraction, hexponent]; rfl, .inr exponent.isMark⟩

theorem endsDigits_exponentChars (exponent : Option Exponent) {rest : List Char}
    (ends : EndsDigits rest) : EndsDigits (exponentChars exponent ++ rest) := by
  cases exponent with
  | none => exact ends
  | some exponent =>
    refine Text.endsDigits_cons ?_
    rcases exponent.isMark with mark | mark <;> rw [mark] <;> rfl

theorem endsDigits_tail {rest : List Char} (ends : EndsDigits rest) :
    EndsDigits (l.tail ++ rest) := by
  rcases l.tail_cases with ⟨-, tail⟩ | ⟨c, more, tail, mark⟩
  · rw [tail]
    exact ends
  · rw [tail]
    refine Text.endsDigits_cons ?_
    rcases mark with rfl | rfl | rfl <;> rfl

theorem takeWhile_unsigned {rest : List Char} (ends : EndsDigits rest) :
    (l.unsigned ++ rest).takeWhile Char.isDigit = l.whole := by
  rw [unsigned, List.append_assoc]
  exact Text.takeWhile_isDigit l.whole_digits (l.endsDigits_tail ends)

theorem dropWhile_unsigned {rest : List Char} (ends : EndsDigits rest) :
    (l.unsigned ++ rest).dropWhile Char.isDigit = l.tail ++ rest := by
  rw [unsigned, List.append_assoc]
  exact Text.dropWhile_isDigit l.whole_digits (l.endsDigits_tail ends)

end parts

end Literal

end PrivacyMapping
