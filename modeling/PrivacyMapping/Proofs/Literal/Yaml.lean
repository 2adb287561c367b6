import PrivacyMapping.Yaml.Scalar
import PrivacyMapping.Proofs.Literal.Basic

/-!
# Literals as YAML scalars

A plain scalar that is a numeric literal is a whole number if it is written as one and fits 64 bits,
and the float nearest to its value otherwise. A whole number that only fits 128 bits is refused, and a
float that is not finite leaves the literal a text.
-/

namespace PrivacyMapping.Literal

open Text (ne_of_isDigit)
open Yaml.Scalar

variable (l : Literal)

/-- The float nearest to the value of the literal. -/
def nearest? : Option Binary64 :=
  Binary64.ofDecimal? l.negative l.significand l.digits.length l.power

/-! ## Parts -/

theorem splitMinus_chars : splitMinus l.chars = (l.negative, l.unsigned) := by
  obtain ⟨digit, more, front, isDigit⟩ := l.exists_unsigned_eq_cons
  have minus : digit ≠ '-' := ne_of_isDigit isDigit rfl
  rw [chars]
  cases l.negative with
  | true => rfl
  | false =>
    rw [if_neg Bool.false_ne_true, front]
    unfold splitMinus
    split
    · next eq => exact absurd (List.cons.inj eq).1 minus
    · rfl

theorem splitFraction_tail : splitFraction l.tail = (l.fraction, exponentChars l.exponent) := by
  cases hfraction : l.fraction with
  | cons digit digits =>
    have areDigits := hfraction ▸ l.fraction_digits
    have ends := endsDigits_exponentChars l.exponent Text.endsDigits_nil
    rw [List.append_nil] at ends
    have text : l.tail = '.' :: (digit :: digits ++ exponentChars l.exponent) := by
      rw [tail, hfraction]
      rfl
    rw [text, splitFraction, Text.takeWhile_isDigit areDigits ends,
      Text.dropWhile_isDigit areDigits ends]
  | nil =>
    rw [tail, hfraction]
    cases l.exponent with
    | none => rfl
    | some exponent =>
      have point : exponent.mark ≠ '.' := by
        rcases exponent.isMark with mark | mark <;> rw [mark] <;> decide
      change splitFraction (exponent.mark :: _) = ([], exponent.mark :: _)
      unfold splitFraction
      split
      · next eq => exact absurd (List.cons.inj eq).1 point
      · rfl

theorem signed?_chars (exponent : Exponent) :
    signed? (exponent.sign.chars ++ exponent.digits) = some exponent.value := by
  have magnitude := Text.number?_of_areDigits exponent.areDigits exponent.nonempty
  rw [Exponent.value, Exponent.magnitude]
  cases exponent.sign with
  | plus =>
    rw [Sign.chars, List.singleton_append, signed?, magnitude]
    simp [Sign.factor]
  | minus =>
    rw [Sign.chars, List.singleton_append, signed?, magnitude]
    simp [Sign.factor]
  | none =>
    obtain ⟨digit, more, digits, isDigit⟩ := exponent.exists_digits_eq_cons
    have plus : digit ≠ '+' := ne_of_isDigit isDigit rfl
    have minus : digit ≠ '-' := ne_of_isDigit isDigit rfl
    rw [Sign.chars, List.nil_append]
    unfold signed?
    rw [digits] at magnitude ⊢
    split
    · next eq => exact absurd (List.cons.inj eq).1 plus
    · next eq => exact absurd (List.cons.inj eq).1 minus
    · rw [magnitude]
      simp [Sign.factor]

theorem exponent?_chars : exponent? (exponentChars l.exponent) = some l.scale := by
  rw [scale]
  cases l.exponent with
  | none => rfl
  | some exponent =>
    have mark : (exponent.mark == 'e' || exponent.mark == 'E') = true := by
      simpa using exponent.isMark
    rw [exponentChars, Exponent.chars, exponent?, if_pos mark, signed?_chars]
    rfl

/-! ## Floating-point numbers -/

/-- **A literal is read as the float nearest to its value.** -/
theorem decimal?_chars : decimal? l.chars = l.nearest? := by
  have whole := l.takeWhile_unsigned Text.endsDigits_nil
  have rest := l.dropWhile_unsigned Text.endsDigits_nil
  simp only [List.append_nil] at whole rest
  have significand := Text.number?_of_areDigits l.digits_areDigits l.digits_ne_nil
  unfold decimal?
  rw [l.splitMinus_chars]
  dsimp only
  rw [whole, rest, l.splitFraction_tail]
  dsimp only
  rw [← digits, significand, l.exponent?_chars]
  rfl

/-- Whether a text begins as a literal does: with a digit, or with a minus sign and a digit. -/
def begins : List Char → Bool
  | '-' :: c :: _ => c.isDigit
  | c :: _ => c.isDigit
  | [] => false

theorem begins_chars : begins l.chars = true := by
  obtain ⟨digit, more, front, isDigit⟩ := l.exists_unsigned_eq_cons
  rw [chars, front]
  cases l.negative with
  | true => exact isDigit
  | false =>
    have minus : digit ≠ '-' := ne_of_isDigit isDigit rfl
    rw [if_neg Bool.false_ne_true]
    unfold begins
    split
    · next eq => exact absurd (List.cons.inj eq).1 minus
    · next eq => exact (List.cons.inj eq).1 ▸ isDigit
    · next eq => cases eq

theorem contains_text {words : List String} (h : ∀ word ∈ words, begins word.toList = false) :
    words.contains l.text = false := by
  rw [Bool.eq_false_iff]
  intro hit
  have other := h _ (List.contains_iff_mem.1 hit)
  rw [text, String.toList_ofList, l.begins_chars] at other
  cases other

theorem float?_text : float? l.text = l.nearest?.map .float := by
  unfold float?
  rw [l.contains_text (by decide), l.contains_text (by decide), l.contains_text (by decide),
    text, String.toList_ofList]
  simp only [Bool.false_eq_true, if_false]
  rw [← l.decimal?_chars]
  have first := l.begins_chars
  split
  · next eq =>
    rw [eq] at first
    cases first
  · next eq =>
    rw [eq] at first
    cases first
  · rfl

/-! ## Whole numbers -/

theorem splitSign_chars : splitSign l.chars = (l.negative, l.unsigned) := by
  obtain ⟨digit, more, front, isDigit⟩ := l.exists_unsigned_eq_cons
  have plus : digit ≠ '+' := ne_of_isDigit isDigit rfl
  have minus : digit ≠ '-' := ne_of_isDigit isDigit rfl
  rw [chars]
  cases l.negative with
  | true => rfl
  | false =>
    rw [if_neg Bool.false_ne_true, front]
    unfold splitSign
    split
    · next eq => exact absurd (List.cons.inj eq).1 plus
    · next eq => exact absurd (List.cons.inj eq).1 minus
    · rfl

theorem second_of_leading_zero {c : Char} {rest : List Char} (h : l.unsigned = '0' :: c :: rest) :
    c = '.' ∨ c = 'e' ∨ c = 'E' := by
  obtain ⟨digit, more, whole, -, zero⟩ := l.exists_whole_eq_cons
  rw [unsigned, whole, List.cons_append] at h
  obtain ⟨rfl, after⟩ := List.cons.inj h
  rw [zero rfl, List.nil_append] at after
  rcases l.tail_cases with ⟨-, tail⟩ | ⟨mark, others, tail, isMark⟩
  · rw [tail] at after
    cases after
  · rw [tail] at after
    exact (List.cons.inj after).1 ▸ isMark

theorem basedNumber?_unsigned : basedNumber? l.unsigned = none := by
  unfold basedNumber?
  split
  · next eq => exact absurd (l.second_of_leading_zero eq) (by decide)
  · next eq => exact absurd (l.second_of_leading_zero eq) (by decide)
  · next eq => exact absurd (l.second_of_leading_zero eq) (by decide)
  · rfl

theorem hasLeadingZero_chars : hasLeadingZero l.chars = false := by
  rw [hasLeadingZero, l.splitSign_chars]
  dsimp only
  rw [Bool.eq_false_iff]
  intro h
  simp only [Bool.and_eq_true, decide_eq_true_eq, beq_iff_eq, List.all_eq_true] at h
  obtain ⟨⟨several, first⟩, areDigits⟩ := h
  match chars : l.unsigned with
  | [] | [_] => simp [chars] at several
  | zero :: c :: rest =>
    rw [chars, List.head?_cons, Option.some.injEq] at first
    subst first
    have isDigit := areDigits c (by simp [chars])
    rcases l.second_of_leading_zero chars with rfl | rfl | rfl <;> cases isDigit

theorem whole?_eq :
    whole? l.chars =
      (Text.number? 10 l.unsigned).map fun n => if l.negative then -(n : Int) else n := by
  rw [whole?, l.splitSign_chars]
  dsimp only
  rw [l.basedNumber?_unsigned, l.hasLeadingZero_chars]
  rfl

theorem whole?_of_integral (h : l.Integral) : whole? l.chars = some l.wholeValue := by
  have unsigned : l.unsigned = l.whole := by
    rw [unsigned, l.tail_of_integral h, List.append_nil]
  rw [l.whole?_eq, unsigned, Text.number?_of_areDigits l.whole_digits l.whole_nonempty]
  rfl

theorem whole?_of_not_integral (h : ¬ l.Integral) : whole? l.chars = none := by
  rcases l.tail_cases with ⟨integral, -⟩ | ⟨c, more, tail, isMark⟩
  · exact absurd integral h
  · have mem : c ∈ l.unsigned := by simp [unsigned, tail]
    have spoiled : Text.number? 10 l.unsigned = none := by
      refine Text.number?_eq_none mem fun digit value => ?_
      rcases isMark with rfl | rfl | rfl
      · cases value
      · obtain rfl := Option.some.inj value
        decide
      · obtain rfl := Option.some.inj value
        decide
    rw [l.whole?_eq, spoiled]
    rfl

/-! ## Scalars -/

theorem text_ne_empty : l.text ≠ "" := by
  intro empty
  have first := l.begins_chars
  rw [← String.toList_ofList (l := l.chars), ← text, empty] at first
  cases first

theorem plainValue?_eq :
    plainValue? l.text =
      match (whole? l.chars).map fit with
      | some (.fits n) => some (.num (.int n))
      | some .refused => none
      | _ =>
        match l.nearest? with
        | some x => some (.num (.float x))
        | none => some (.str l.text) := by
  have null : isNull l.text = false := l.contains_text (by decide)
  have bool : bool? l.text = none := by
    rw [bool?, l.contains_text (by decide), l.contains_text (by decide)]
    rfl
  have empty : l.text.isEmpty = false := by
    rw [Bool.eq_false_iff, ne_eq, String.isEmpty_iff]
    exact l.text_ne_empty
  have chars : l.text.toList = l.chars := String.toList_ofList
  rw [plainValue?, empty, null, bool, chars, l.hasLeadingZero_chars, l.float?_text]
  cases l.nearest? <;> rfl

theorem eq_float_of_nearest {nearest : Option Binary64} {s : String} {n : Yaml.Number}
    (h : (match nearest with
      | some x => some (Yaml.Value.num (.float x))
      | none => some (.str s)) = some (.num n)) : ∃ x, nearest = some x ∧ n = .float x := by
  cases nearest with
  | none => cases h
  | some x =>
    cases h
    exact ⟨x, rfl, rfl⟩

theorem plainValue?_of_isWhole (h : l.IsWhole) :
    plainValue? l.text = some (.num (.int l.wholeValue)) := by
  rw [l.plainValue?_eq, l.whole?_of_integral h.1, Option.map_some, fit, if_pos h.2]

theorem plainValue?_of_not_integral (h : ¬ l.Integral) :
    plainValue? l.text =
      match l.nearest? with
      | some x => some (.num (.float x))
      | none => some (.str l.text) := by
  rw [l.plainValue?_eq, l.whole?_of_not_integral h]
  rfl

theorem value?_of_nearest? {x : Binary64} (h : ¬ l.Integral) (nearest : l.nearest? = some x) :
    value? none l.text true = some (.num (.float x)) := by
  have read := l.plainValue?_of_not_integral h
  rw [nearest] at read
  exact read

/-- **What a plain literal stands for**, if it is a number: a whole number that is written as one and
fits 64 bits, or the nearest float. -/
theorem plainValue?_text {n : Yaml.Number} (h : plainValue? l.text = some (.num n)) :
    (l.IsWhole ∧ n = .int l.wholeValue) ∨
      (¬ l.IsWhole ∧ ∃ x, l.nearest? = some x ∧ n = .float x) := by
  by_cases integral : l.Integral
  · by_cases fits : l.IsWhole
    · rw [l.plainValue?_of_isWhole fits] at h
      cases h
      exact .inl ⟨fits, rfl⟩
    · rw [l.plainValue?_eq, l.whole?_of_integral integral, Option.map_some, fit,
        if_neg fun range => fits ⟨integral, range⟩] at h
      split_ifs at h
      exact .inr ⟨fits, eq_float_of_nearest h⟩
  · rw [l.plainValue?_of_not_integral integral] at h
    exact .inr ⟨fun whole => integral whole.1, eq_float_of_nearest h⟩

end PrivacyMapping.Literal
