import PrivacyMapping.Proofs.Literal.Json
import PrivacyMapping.Proofs.Literal.Yaml
import PrivacyMapping.Proofs.Shortest

/-!
# Printed numbers are literals

A number is printed as a literal that has its value, a whole number without a fraction and an exponent
and a float with one of them. A float is printed with its shortest digits, which a reader that rounds
once reads as the same float again. So different numbers have different texts.
-/

namespace PrivacyMapping.Literal

open Json (natText pointText exponentText decimalText magnitudeText floatText intText)
open Text (AreDigits)
open Yaml.Scalar (decimal? whole?)

/-! ## Digits -/

/-- Digits without a leading zero, and the number that they are. -/
structure IsNumeral (digits : List Char) (n : Nat) : Prop where
  areDigits : AreDigits digits
  nonempty : digits ≠ []
  leading : digits.head? ≠ some '0'
  value : Nat.ofDigitChars 10 digits 0 = n

theorem isNumeral_natText {n : Nat} (h : n ≠ 0) : IsNumeral (natText n) n := by
  obtain ⟨digit, digits, text, nonzero⟩ :=
    Json.Reading.natText_eq_cons_of_pos n (Nat.pos_of_ne_zero h)
  refine ⟨Json.Reading.areDigits_natText _, ?_, ?_, Nat.ofDigitChars_ten_toDigits⟩
  · rw [text]
    exact List.cons_ne_nil _ _
  · rw [text, List.head?_cons]
    exact fun zero => nonzero (Option.some.inj zero)

theorem areDigits_zeros (n : Nat) : AreDigits (List.replicate n '0') := by
  intro c hc
  rw [List.eq_of_mem_replicate hc]
  rfl

theorem ofDigitChars_zeros (n start : Nat) :
    Nat.ofDigitChars 10 (List.replicate n '0') start = start * 10 ^ n := by
  induction n generalizing start with
  | zero => exact (Nat.mul_one start).symm
  | succ n ih =>
    rw [List.replicate_succ, Text.ofDigitChars_cons, ih, Nat.pow_succ', ← Nat.mul_assoc]
    rfl

/-! ## Layouts of a decimal -/

/-- A text is that of a literal that has the value of the decimal, and is no whole number. -/
def Spells (cs : List Char) (decimal : Decimal) : Prop :=
  ∃ l : Literal, l.unsigned = cs ∧ ¬ l.Integral ∧
    Decimal.SameValue ⟨l.significand, l.power⟩ decimal

variable {digits : List Char} {n : Nat}

theorem spells_of_point {whole fraction : List Char} (whole_digits : AreDigits whole)
    (whole_nonempty : whole ≠ []) (leading : whole.head? = some '0' → whole = ['0'])
    (fraction_digits : AreDigits fraction) (fraction_nonempty : fraction ≠ []) {decimal : Decimal}
    (same : Decimal.SameValue
      ⟨Nat.ofDigitChars 10 (whole ++ fraction) 0, -(fraction.length : Int)⟩ decimal) :
    Spells (whole ++ '.' :: fraction) decimal := by
  let l : Literal :=
    ⟨false, whole, fraction, none, whole_digits, whole_nonempty, leading, fraction_digits⟩
  have power : l.power = -fraction.length := Int.zero_sub _
  refine ⟨l, ?_, fun integral => fraction_nonempty integral.1, ?_⟩
  · obtain ⟨digit, digits, rfl⟩ := List.exists_cons_of_ne_nil fraction_nonempty
    exact congrArg (whole ++ ·) (List.append_nil _)
  · rw [power]
    exact same

theorem spells_trailingZeros (h : IsNumeral digits n) {exponent : Int} (large : 0 ≤ exponent) :
    Spells (digits ++ List.replicate exponent.toNat '0' ++ ['.', '0']) ⟨n, exponent⟩ := by
  have shifted := Decimal.sameValue_shift n (exponent.toNat + 1) (-1)
  have power : (-1 : Int) + (exponent.toNat + 1 : Nat) = exponent := by omega
  have all : Nat.ofDigitChars 10 (digits ++ List.replicate exponent.toNat '0' ++ ['0']) 0 =
      n * Nat.pow 10 (exponent.toNat + 1) := by
    rw [List.append_assoc, Nat.ofDigitChars_append, h.value, ← List.replicate_succ',
      ofDigitChars_zeros]
    rfl
  refine spells_of_point (h.areDigits.append (areDigits_zeros _)) ?_ ?_ (by decide) (by decide) ?_
  · exact List.append_ne_nil_of_left_ne_nil h.nonempty _
  · intro zero
    rw [List.head?_append_of_ne_nil _ h.nonempty] at zero
    exact absurd zero h.leading
  · rw [all]
    rw [power] at shifted
    exact shifted.symm

theorem spells_pointWithin (h : IsNumeral digits n) {exponent : Int} {place : Nat}
    (hplace : (digits.length : Int) + exponent = place) (positive : 0 < place)
    (small : exponent < 0) : Spells (digits.take place ++ '.' :: digits.drop place) ⟨n, exponent⟩ := by
  have back : -((digits.drop place).length : Int) = exponent := by
    rw [List.length_drop]
    omega
  have first : (digits.take place).head? = digits.head? := by
    rw [List.head?_take, if_neg positive.ne']
  refine spells_of_point (fun c hc => h.areDigits c (List.mem_of_mem_take hc)) ?_ ?_
    (fun c hc => h.areDigits c (List.mem_of_mem_drop hc)) ?_ ?_
  · rw [ne_eq, List.take_eq_nil_iff, or_iff_left h.nonempty]
    exact positive.ne'
  · rw [first]
    exact fun zero => absurd zero h.leading
  · rw [ne_eq, List.drop_eq_nil_iff]
    omega
  · rw [List.take_append_drop, h.value, back]
    rfl

theorem spells_leadingZeros (h : IsNumeral digits n) {exponent : Int} {zeros : Nat}
    (power : -((zeros + digits.length : Nat) : Int) = exponent) :
    Spells (['0', '.'] ++ List.replicate zeros '0' ++ digits) ⟨n, exponent⟩ := by
  have zero : Nat.ofDigitChars 10 ['0'] 0 = 0 := by decide
  have all : Nat.ofDigitChars 10 (['0'] ++ (List.replicate zeros '0' ++ digits)) 0 = n := by
    rw [Nat.ofDigitChars_append, Nat.ofDigitChars_append, ofDigitChars_zeros, zero, Nat.zero_mul,
      h.value]
  refine spells_of_point (by decide) (by decide) (fun _ => rfl)
    ((areDigits_zeros _).append h.areDigits) ?_ ?_
  · exact List.append_ne_nil_of_right_ne_nil _ h.nonempty
  · rw [all, List.length_append, List.length_replicate, power]
    rfl

theorem spells_pointText (h : IsNumeral digits n) (exponent : Int) :
    Spells (pointText digits exponent) ⟨n, exponent⟩ := by
  unfold pointText
  dsimp only
  split_ifs with large middle
  · exact spells_trailingZeros h large
  · exact spells_pointWithin h (Int.toNat_of_nonneg middle.le).symm (by omega) (by omega)
  · exact spells_leadingZeros h (by omega)

/-- The sign that is always written in front of an exponent. -/
def shownSign (power : Int) : Sign :=
  if power < 0 then .minus else .plus

theorem shownSign_factor (power : Int) : (shownSign power).factor * power.natAbs = power := by
  unfold shownSign
  split_ifs <;> simp only [Sign.factor] <;> omega

theorem spells_exponentText (h : IsNumeral digits n) (exponent : Int) :
    Spells (exponentText digits (digits.length + exponent - 1)) ⟨n, exponent⟩ := by
  obtain ⟨areDigits, nonempty, leading, value⟩ := h
  obtain ⟨digit, more, rfl⟩ := List.exists_cons_of_ne_nil nonempty
  generalize hpower : ((digit :: more).length : Int) + exponent - 1 = power
  rw [List.length_cons] at hpower
  let shown : Exponent :=
    ⟨'e', shownSign power, natText power.natAbs, .inl rfl,
      Json.Reading.areDigits_natText _, Nat.toDigits_ne_nil⟩
  have front : AreDigits [digit] := fun c hc => areDigits c (List.mem_singleton.1 hc ▸ List.mem_cons_self)
  have zero : [digit].head? = some '0' → [digit] = ['0'] := fun zero => absurd zero leading
  have back : AreDigits more := fun c hc => areDigits c (List.mem_cons_of_mem _ hc)
  let l : Literal :=
    ⟨false, [digit], more, some shown, front, List.cons_ne_nil _ _, zero, back⟩
  have scale : l.scale = power := by
    have magnitude : shown.magnitude = power.natAbs := Nat.ofDigitChars_ten_toDigits
    change shown.value = power
    rw [Exponent.value, magnitude, shownSign_factor]
  refine ⟨l, ?_, fun integral => Option.some_ne_none _ integral.2, ?_⟩
  · have sign : (shownSign power).chars = [if power < 0 then '-' else '+'] := by
      unfold shownSign
      split_ifs <;> rfl
    have tail : shown.chars = 'e' :: (if power < 0 then '-' else '+') :: natText power.natAbs := by
      rw [Exponent.chars, sign]
      rfl
    cases more with
    | nil => exact congrArg (digit :: ·) tail
    | cons second others => exact congrArg (fun tail => digit :: '.' :: second :: others ++ tail) tail
  · have last : l.power = exponent := by
      change l.scale - (more.length : Int) = exponent
      rw [scale]
      omega
    have same : l.significand = n := value
    rw [last, same]
    rfl

/-! ## Numbers -/

theorem spells_decimalText {decimal : Decimal} (nonzero : decimal.digits ≠ 0) :
    Spells (decimalText decimal) decimal := by
  have numeral := isNumeral_natText nonzero
  unfold decimalText
  dsimp only
  split_ifs
  · exact spells_pointText numeral _
  · exact spells_exponentText numeral _

/-- The literal with a sign. -/
def withSign (l : Literal) (negative : Bool) : Literal :=
  { l with negative }

theorem chars_withSign (l : Literal) (negative : Bool) :
    (l.withSign negative).chars = if negative then '-' :: l.unsigned else l.unsigned := rfl

theorem nearest?_withSign {l : Literal} {decimal : Decimal} {rank : Nat}
    (same : Decimal.SameValue ⟨l.significand, l.power⟩ decimal)
    (near : Binary64.Represents decimal rank) (nonzero : rank ≠ 0) (finite : rank < finiteRanks)
    (negative : Bool) : (l.withSign negative).nearest? = some ⟨negative, rank, finite⟩ :=
  Binary64.ofDecimal?_of_represents (near.congr same) nonzero finite
    (Text.ofDigitChars_lt l.digits_areDigits) negative

/-- Zero as a float. -/
def zeroPointZero : Literal where
  negative := false
  whole := ['0']
  fraction := ['0']
  exponent := none
  whole_digits := by decide
  whole_nonempty := by decide
  no_leading_zero := fun _ => rfl
  fraction_digits := by decide

/-- **A printed float is a literal that is nearest to it.** -/
theorem exists_eq_floatText (x : Binary64) :
    ∃ l : Literal, l.chars = floatText x ∧ ¬ l.Integral ∧ l.nearest? = some x := by
  unfold floatText
  dsimp only
  by_cases zero : x.isZero = true
  · rw [if_pos zero]
    refine ⟨zeroPointZero.withSign x.negative, zeroPointZero.chars_withSign _,
      fun integral => List.cons_ne_nil _ _ integral.1, ?_⟩
    have rank : x.rank = 0 := beq_iff_eq.1 zero
    obtain ⟨negative, rank', finite⟩ := x
    subst rank
    rfl
  · rw [if_neg zero]
    have nonzero : x.rank ≠ 0 := fun rank => zero (beq_iff_eq.2 rank)
    have near := Binary64.represents_shortest nonzero
    obtain ⟨l, text, other, same⟩ := spells_decimalText (near.digits_ne_zero nonzero)
    refine ⟨l.withSign x.negative, ?_, other, nearest?_withSign same near nonzero x.rank_lt _⟩
    rw [chars_withSign, text, magnitudeText]

theorem exists_eq_natText (n : Nat) :
    ∃ l : Literal, l.unsigned = natText n ∧ l.Integral ∧ Nat.ofDigitChars 10 l.whole 0 = n := by
  have value : Nat.ofDigitChars 10 (natText n) 0 = n := Nat.ofDigitChars_ten_toDigits
  have areDigits : AreDigits (natText n) := Json.Reading.areDigits_natText n
  obtain ⟨digit, digits, text, only⟩ := Json.Reading.natText_eq_cons n
  have nonempty : natText n ≠ [] := by
    rw [text]
    exact List.cons_ne_nil _ _
  have leading : (natText n).head? = some '0' → natText n = ['0'] := by
    rw [text, List.head?_cons]
    intro zero
    obtain rfl := Option.some.inj zero
    rw [only rfl]
  exact ⟨⟨false, natText n, [], none, areDigits, nonempty, leading, nofun⟩, List.append_nil _,
    ⟨rfl, rfl⟩, value⟩

theorem exists_eq_intText (n : Int) :
    ∃ l : Literal, l.chars = intText n ∧ l.Integral ∧ l.wholeValue = n := by
  cases n with
  | ofNat n =>
    obtain ⟨l, text, integral, value⟩ := exists_eq_natText n
    refine ⟨l.withSign false, text, integral, ?_⟩
    exact congrArg Int.ofNat value
  | negSucc n =>
    obtain ⟨l, text, integral, value⟩ := exists_eq_natText (n + 1)
    refine ⟨l.withSign true, congrArg ('-' :: ·) text, integral, ?_⟩
    exact congrArg (fun n : Nat => -(n : Int)) value

/-- **A printed float is read back**, by a reader that rounds once. -/
theorem decimal?_floatText (x : Binary64) : decimal? (floatText x) = some x := by
  obtain ⟨l, text, -, nearest⟩ := exists_eq_floatText x
  rw [← text, l.decimal?_chars, nearest]

theorem whole?_floatText (x : Binary64) : whole? (floatText x) = none := by
  obtain ⟨l, text, other, -⟩ := exists_eq_floatText x
  rw [← text, l.whole?_of_not_integral other]

theorem whole?_intText (n : Int) : whole? (intText n) = some n := by
  obtain ⟨l, text, integral, value⟩ := exists_eq_intText n
  rw [← text, l.whole?_of_integral integral, value]

/-- **Different numbers are printed differently.** -/
theorem text_injective {m n : Json.Number} (h : m.text = n.text) : m = n := by
  cases m with
  | int m =>
    cases n with
    | int n =>
      have read : whole? (intText m) = whole? (intText n) := congrArg _ h
      rw [whole?_intText, whole?_intText] at read
      rw [Option.some.inj read]
    | float y =>
      have read : whole? (intText m) = whole? (floatText y) := congrArg _ h
      rw [whole?_intText, whole?_floatText] at read
      cases read
  | float x =>
    cases n with
    | int n =>
      have read : whole? (floatText x) = whole? (intText n) := congrArg _ h
      rw [whole?_intText, whole?_floatText] at read
      cases read
    | float y =>
      have read : decimal? (floatText x) = decimal? (floatText y) := congrArg _ h
      rw [decimal?_floatText, decimal?_floatText] at read
      rw [Option.some.inj read]

end PrivacyMapping.Literal
