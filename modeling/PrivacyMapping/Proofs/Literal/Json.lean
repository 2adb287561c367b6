import PrivacyMapping.Proofs.Json.RoundTrip
import PrivacyMapping.Proofs.Literal.Basic

/-!
# Literals as JSON numbers

A literal is read as a number that depends on the literal alone, wherever it stands in a text, as long
as what follows it cannot belong to a number. Digits are taken into a significand of 64 bits, and what
is a float is rounded twice, as the significand and as its product with the power of ten.
-/

namespace PrivacyMapping.Literal

open Json (Number)
open Json.Reading

/-! ## The number that is read -/

/-- The float of a significand and a power of ten, rounded twice; there is none if it is too large. -/
def scaled? (negative : Bool) (significand : Nat) (power : Int) : Option Number :=
  ((Binary64.ofNat? false significand).bind (scale? · power)).map fun magnitude =>
    .float { magnitude with negative }

/-- The float after its exponent. An exponent past the limit makes it zero or too large. -/
def withExponent? (negative : Bool) (significand : Nat) (power : Int) :
    Option Exponent → Option Number
  | none => scaled? negative significand power
  | some exponent =>
    match exponentValue 0 exponent.digits with
    | .ok value => scaled? negative significand (power + exponent.sign.factor * value)
    | .error _ =>
      if significand ≠ 0 ∧ exponent.sign.factor = 1 then none
      else some (.float (Binary64.zero negative))

/-- The number that a literal is read as, unless it is too large. -/
def number? (l : Literal) : Option Number :=
  let (whole, left) := takeDigits 0 l.whole
  if l.Integral then
    match (if left = 0 then wholeNumber? l.negative whole else none) with
    | some n => some (.int n)
    | none => scaled? l.negative whole left
  else
    let (significand, dropped) := takeDigits whole l.fraction
    withExponent? l.negative significand (left - (l.fraction.length - dropped : Nat)) l.exponent

/-! ## Reading -/

/-- The reader gives the number and leaves the rest, or refuses the text if there is no number. -/
def Gives (outcome : Outcome (Number × List Char)) (rest : List Char) : Option Number → Prop
  | some n => outcome = .ok (n, rest)
  | none => ∃ failure, outcome = .error failure

theorem exponentSign_chars (exponent : Exponent) (rest : List Char) :
    exponentSign (exponent.sign.chars ++ exponent.digits ++ rest) =
      (exponent.sign.factor, exponent.digits ++ rest) := by
  cases exponent.sign with
  | plus => rfl
  | minus => rfl
  | none =>
    obtain ⟨digit, more, digits, isDigit⟩ := exponent.exists_digits_eq_cons
    have plus : digit ≠ '+' := Text.ne_of_isDigit isDigit rfl
    have minus : digit ≠ '-' := Text.ne_of_isDigit isDigit rfl
    rw [Sign.chars, List.nil_append, digits]
    unfold exponentSign
    split
    · next eq => exact absurd (List.cons.inj eq).1 plus
    · next eq => exact absurd (List.cons.inj eq).1 minus
    · rfl

section reading

variable {rest : List Char} (ends : Ends rest) (negative : Bool) (significand : Nat) (power : Int)

theorem gives_float :
    Gives (float negative significand power rest) rest (scaled? negative significand power) := by
  rw [float, scaled?]
  cases (Binary64.ofNat? false significand).bind (scale? · power) with
  | none => exact ⟨_, rfl⟩
  | some magnitude => rfl

include ends

theorem gives_readExponent (exponent : Exponent) :
    Gives (readExponent negative significand power (exponent.sign.chars ++ exponent.digits ++ rest))
      rest (withExponent? negative significand power (some exponent)) := by
  obtain ⟨digit, more, digits, -⟩ := exponent.exists_digits_eq_cons
  have front := Text.takeWhile_isDigit exponent.areDigits ends.endsDigits
  have back := Text.dropWhile_isDigit exponent.areDigits ends.endsDigits
  unfold readExponent withExponent?
  rw [exponentSign_chars exponent rest]
  dsimp only
  rw [front, back, digits]
  dsimp only
  cases exponentValue 0 (digit :: more) with
  | ok value => exact gives_float ..
  | error unread =>
    dsimp only
    split_ifs
    · exact ⟨_, rfl⟩
    · rfl

theorem gives_readAfterFraction (exponent : Option Exponent) :
    Gives (readAfterFraction negative significand power (exponentChars exponent ++ rest)) rest
      (withExponent? negative significand power exponent) := by
  cases exponent with
  | none =>
    rw [exponentChars, List.nil_append]
    unfold readAfterFraction
    split
    · exact absurd rfl (ends _ rfl).2.2.1
    · exact absurd rfl (ends _ rfl).2.2.2
    · exact gives_float ..
  | some exponent =>
    have read := gives_readExponent ends negative significand power exponent
    rw [exponentChars, Exponent.chars]
    rcases exponent.isMark with mark | mark <;> rw [mark] <;> exact read

theorem gives_readFraction {digits : List Char} (areDigits : Text.AreDigits digits)
    (nonempty : digits ≠ []) (exponent : Option Exponent) :
    Gives (readFraction negative significand power (digits ++ (exponentChars exponent ++ rest))) rest
      (withExponent? negative (takeDigits significand digits).1
        (power - (digits.length - (takeDigits significand digits).2 : Nat)) exponent) := by
  have after := endsDigits_exponentChars exponent ends.endsDigits
  unfold readFraction
  dsimp only
  rw [Text.takeWhile_isDigit areDigits after, Text.dropWhile_isDigit areDigits after]
  split
  · exact absurd rfl nonempty
  · exact absurd rfl nonempty
  · exact gives_readAfterFraction ends ..

end reading

/-- **A literal is read as its number**, once its sign has been read. -/
theorem gives_readNumber (l : Literal) {rest : List Char} (ends : Ends rest) :
    Gives (readNumber l.negative (l.unsigned ++ rest)) rest l.number? := by
  obtain ⟨digit, more, whole, -, zero⟩ := l.exists_whole_eq_cons
  unfold readNumber
  dsimp only
  rw [l.takeWhile_unsigned ends.endsDigits, l.dropWhile_unsigned ends.endsDigits]
  split
  · next empty _ => exact absurd empty l.whole_nonempty
  · next empty _ => exact absurd empty l.whole_nonempty
  · next next others _ leading =>
    -- a leading zero is the only digit
    rw [whole] at leading
    obtain ⟨rfl, rfl⟩ := List.cons.inj leading
    cases zero rfl
  · unfold number?
    dsimp only
    generalize takeDigits 0 l.whole = taken
    obtain ⟨significand, left⟩ := taken
    dsimp only
    by_cases integral : l.Integral
    · rw [if_pos integral, l.tail_of_integral integral, List.nil_append]
      split
      · exact absurd rfl (ends _ rfl).2.1
      · exact absurd rfl (ends _ rfl).2.2.1
      · exact absurd rfl (ends _ rfl).2.2.2
      · cases (if left = 0 then wholeNumber? l.negative significand else none) with
        | some n => rfl
        | none => exact gives_float ..
    · rw [if_neg integral, tail]
      have areDigits := l.fraction_digits
      cases hfraction : l.fraction with
      | cons digit digits =>
        rw [hfraction] at areDigits
        rw [pointed, List.append_assoc]
        exact gives_readFraction ends _ _ _ areDigits (List.cons_ne_nil digit digits) _
      | nil =>
        rw [pointed, List.nil_append]
        cases hexponent : l.exponent with
        | none => exact absurd ⟨hfraction, hexponent⟩ integral
        | some exponent =>
          have read := gives_readExponent ends l.negative significand left exponent
          have single : (left : Int) - (([] : List Char).length - 0 : Nat) = left := Int.sub_zero _
          rw [takeDigits, single, exponentChars, Exponent.chars]
          rcases exponent.isMark with mark | mark <;> rw [mark] <;> exact read

/-! ## Values -/

theorem readValueWith_chars (l : Literal) (inner : Option ItemReader) (rest : List Char) :
    readValueWith inner (l.chars ++ rest) =
      readNumber l.negative (l.unsigned ++ rest) >>= fun (n, rest) => .ok (.num n, rest) := by
  obtain ⟨digit, more, front, isDigit⟩ := l.exists_unsigned_eq_cons
  rw [chars]
  cases l.negative with
  | true => rfl
  | false =>
    rw [if_neg Bool.false_ne_true, front, List.cons_append]
    exact readValueWith_of_isDigit inner isDigit _

theorem starts_chars (l : Literal) : Starts l.chars := by
  obtain ⟨digit, more, front, isDigit⟩ := l.exists_unsigned_eq_cons
  rw [chars]
  cases l.negative with
  | true => exact ⟨'-', _, rfl, by decide⟩
  | false => exact ⟨digit, more, front, starts_of_isDigit isDigit⟩

/-- **A literal is read as its number wherever it stands.** -/
theorem readsAs (l : Literal) {n : Number} (h : l.number? = some n) (inner : Option ItemReader) :
    ReadsAs (readValueWith inner) l.chars (.num n) := by
  refine ⟨l.starts_chars, fun rest ends => ?_⟩
  have read := l.gives_readNumber ends
  rw [h] at read
  rw [l.readValueWith_chars, read]
  rfl

theorem exists_number?_of_parse (l : Literal) {value : Json} (h : Json.parse l.text = .ok value) :
    ∃ n, l.number? = some n ∧ value = .num n := by
  unfold Json.parse at h
  split at h
  · next hread =>
    obtain rfl := Except.ok.inj h
    have chars : l.text.toList = l.chars ++ [] := by
      rw [text, String.toList_ofList, List.append_nil]
    obtain ⟨⟨first, rest⟩, hfirst, last⟩ := Json.bind_eq_ok_iff.1 hread
    obtain ⟨inner, room⟩ := readValue_eq levels
    rw [room, chars, l.readValueWith_chars] at hfirst
    obtain ⟨⟨n, left⟩, hn, same⟩ := Json.bind_eq_ok_iff.1 hfirst
    have read := l.gives_readNumber ends_nil
    cases number : l.number? with
    | none =>
      rw [number] at read
      obtain ⟨failure, read⟩ := read
      rw [read] at hn
      cases hn
    | some m =>
      rw [number] at read
      rw [read] at hn
      cases hn
      cases same
      exact ⟨n, rfl, (Except.ok.inj last).symm⟩
  · cases h

end PrivacyMapping.Literal
