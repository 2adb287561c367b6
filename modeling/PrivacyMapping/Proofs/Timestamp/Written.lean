import PrivacyMapping.Timestamp
import PrivacyMapping.Proofs.Calendar
import PrivacyMapping.Proofs.Digits

/-!
# The written form of an instant

Every part of the written form has a fixed width, so parts are found by counting characters, and
texts of the same width compare as the numbers that they show. A number in `width` digits is read
off by `Nat.ofDigitChars`, and digits are the number that they are read off as.
-/

namespace PrivacyMapping.Timestamp

open Text (AreDigits digitChar_of_isDigit ofDigitChars_concat)

/-! ## Numbers of a fixed width -/

@[simp]
theorem length_paddedDigits (width n : Nat) : (paddedDigits width n).length = width := by
  induction width generalizing n with
  | zero => rfl
  | succ width ih => rw [paddedDigits, List.length_append, ih, List.length_singleton]

theorem areDigits_paddedDigits (width n : Nat) : AreDigits (paddedDigits width n) := by
  induction width generalizing n with
  | zero => exact nofun
  | succ width ih =>
    refine (ih (n / 10)).append fun c hc => ?_
    rw [List.mem_singleton.1 hc, Nat.isDigit_digitChar, decide_eq_true_iff]
    exact Nat.mod_lt n (by decide)

theorem ofDigitChars_paddedDigits {width n : Nat} (h : n < 10 ^ width) :
    Nat.ofDigitChars 10 (paddedDigits width n) 0 = n := by
  induction width generalizing n with
  | zero =>
    have zero : n = 0 := by omega
    rw [zero]
    rfl
  | succ width ih =>
    have front : n / 10 < 10 ^ width := by omega
    have last : (Nat.digitChar (n % 10)).toNat = '0'.toNat + n % 10 :=
      Nat.toNat_digitChar_of_lt_ten (Nat.mod_lt n (by decide))
    rw [paddedDigits, ofDigitChars_concat, ih front, last]
    omega

theorem paddedDigits_ofDigitChars {digits : List Char} (h : AreDigits digits) :
    paddedDigits digits.length (Nat.ofDigitChars 10 digits 0) = digits := by
  induction digits using List.reverseRecOn with
  | nil => rfl
  | append_singleton front c ih =>
    have same := ih fun c hc => h c (List.mem_append_left _ hc)
    obtain ⟨char, small⟩ := digitChar_of_isDigit (h c (by simp))
    have tens : (10 * Nat.ofDigitChars 10 front 0 + (c.toNat - '0'.toNat)) / 10 =
        Nat.ofDigitChars 10 front 0 := by omega
    have ones : (10 * Nat.ofDigitChars 10 front 0 + (c.toNat - '0'.toNat)) % 10 =
        c.toNat - '0'.toNat := by omega
    rw [ofDigitChars_concat, List.length_append, List.length_singleton, paddedDigits, tens, ones,
      same, char]

/-! ## Order of numbers of a fixed width -/

theorem append_lt_append {α : Type} [LT α] {xs ys : List α} (length : xs.length = ys.length)
    (h : xs < ys) (zs ws : List α) : xs ++ zs < ys ++ ws := by
  induction xs generalizing ys with
  | nil =>
    cases ys with
    | nil => exact absurd h (List.not_lt_nil [])
    | cons y ys => cases length
  | cons x xs ih =>
    cases ys with
    | nil => cases length
    | cons y ys =>
      rw [List.cons_append, List.cons_append, List.cons_lt_cons_iff]
      rcases List.cons_lt_cons_iff.1 h with first | ⟨same, rest⟩
      · exact .inl first
      · exact .inr ⟨same, ih (Nat.succ.inj length) rest⟩

theorem digitChar_lt : ∀ n < 10, ∀ m < n, Nat.digitChar m < Nat.digitChar n := by
  decide

theorem paddedDigits_lt {width m n : Nat} (h : m < n) (bound : n < 10 ^ width) :
    paddedDigits width m < paddedDigits width n := by
  induction width generalizing m n with
  | zero => omega
  | succ width ih =>
    rw [paddedDigits, paddedDigits]
    by_cases tens : m / 10 < n / 10
    · exact append_lt_append (by simp) (ih tens (by omega)) _ _
    · have same : m / 10 = n / 10 := by omega
      have ones : Nat.digitChar (m % 10) < Nat.digitChar (n % 10) :=
        digitChar_lt _ (Nat.mod_lt n (by decide)) _ (by omega)
      rw [same]
      exact List.append_left_lt (List.cons_lt_cons_iff.2 (.inl ones))

theorem paddedDigits_append_lt {width m n : Nat} {xs ys : List Char} (bound : n < 10 ^ width)
    (h : m < n ∨ m = n ∧ xs < ys) : paddedDigits width m ++ xs < paddedDigits width n ++ ys := by
  rcases h with smaller | ⟨rfl, rest⟩
  · exact append_lt_append (by simp) (paddedDigits_lt smaller bound) xs ys
  · exact List.append_left_lt rest

theorem mark_paddedDigits_append_lt {width m n : Nat} {xs ys : List Char} (mark : Char)
    (bound : n < 10 ^ width) (h : m < n ∨ m = n ∧ xs < ys) :
    mark :: (paddedDigits width m ++ xs) < mark :: (paddedDigits width n ++ ys) :=
  List.cons_lt_cons_iff.2 (.inr ⟨rfl, paddedDigits_append_lt bound h⟩)

/-! ## Parts of the written form -/

/-- The text of a date. -/
def dateText (year day : Nat) : List Char :=
  let (month, day) := Calendar.monthAndDay year day
  paddedDigits 4 year ++ '-' :: paddedDigits 2 month ++ '-' :: paddedDigits 2 day

/-- The text of a second of a day, which may be the leap second after it. -/
def timeText (second : Nat) (leap : Bool) : List Char :=
  paddedDigits 2 (second / 3600) ++ ':' :: paddedDigits 2 (second / 60 % 60) ++
    ':' :: paddedDigits 2 (second % 60 + leap.toNat)

theorem chars_eq (t : Timestamp) :
    t.chars = dateText t.year t.day ++ 'T' :: timeText t.second t.leap ++ ['Z'] := by
  simp [chars, dateText, timeText]

theorem length_dateText (year day : Nat) : (dateText year day).length = 10 := by
  simp [dateText]

theorem length_timeText (second : Nat) (leap : Bool) : (timeText second leap).length = 8 := by
  simp [timeText]

end PrivacyMapping.Timestamp
