import PrivacyMapping.Text.Digits
import Mathlib.Algebra.Order.Ring.Nat
import Mathlib.Data.List.Induction
import Mathlib.Data.List.TakeWhile

/-!
# Runs of digits

A reader takes all digits at the front of a text, so a run of digits is read as a whole where no digit
follows it. Its value lies below the power of ten of its length, and grows digit by digit.
-/

namespace PrivacyMapping.Text

def AreDigits (cs : List Char) : Prop :=
  ∀ c ∈ cs, c.isDigit = true

instance (cs : List Char) : Decidable (AreDigits cs) :=
  List.decidableBAll _ cs

/-- The text does not go on with a digit. -/
def EndsDigits (rest : List Char) : Prop :=
  ∀ c ∈ rest.head?, c.isDigit = false

theorem endsDigits_nil : EndsDigits [] := nofun

theorem endsDigits_cons {c : Char} {rest : List Char} (h : c.isDigit = false) :
    EndsDigits (c :: rest) := by
  rintro _ ⟨⟩
  exact h

theorem ne_of_isDigit {c other : Char} (h : c.isDigit = true) (hother : other.isDigit = false) :
    c ≠ other := by
  rintro rfl
  rw [h] at hother
  cases hother

variable {digits rest : List Char}

theorem AreDigits.append {more : List Char} (h : AreDigits digits) (hmore : AreDigits more) :
    AreDigits (digits ++ more) :=
  fun c hc => (List.mem_append.1 hc).elim (h c) (hmore c)

theorem areDigits_takeWhile (cs : List Char) : AreDigits (cs.takeWhile Char.isDigit) :=
  fun _ => List.mem_takeWhile_imp

theorem takeWhile_isDigit (h : AreDigits digits) (ends : EndsDigits rest) :
    (digits ++ rest).takeWhile Char.isDigit = digits := by
  rw [List.takeWhile_append_of_pos h]
  cases rest with
  | nil => exact List.append_nil digits
  | cons c rest => simp [ends c rfl]

theorem dropWhile_isDigit (h : AreDigits digits) (ends : EndsDigits rest) :
    (digits ++ rest).dropWhile Char.isDigit = rest := by
  rw [List.dropWhile_append_of_pos h]
  cases rest with
  | nil => rfl
  | cons c rest => simp [ends c rfl]

/-! ## The number that is written -/

theorem digitChar_of_isDigit {c : Char} (h : c.isDigit = true) :
    Nat.digitChar (c.toNat - '0'.toNat) = c ∧ c.toNat - '0'.toNat < 10 := by
  have range : 48 ≤ c.toNat ∧ c.toNat ≤ 57 := by
    simpa [Char.isDigit, UInt32.le_iff_toNat_le] using h
  have zero : '0'.toNat = 48 := rfl
  have small : c.toNat - '0'.toNat < 10 := by omega
  refine ⟨Char.toNat_inj.1 ?_, small⟩
  rw [Nat.toNat_digitChar_of_lt_ten small]
  omega

theorem ofDigitChars_cons (c : Char) (digits : List Char) (n : Nat) :
    Nat.ofDigitChars 10 (c :: digits) n = Nat.ofDigitChars 10 digits (n * 10 + digitValue c) := by
  rw [Nat.ofDigitChars_cons, Nat.mul_comm 10]
  rfl

theorem ofDigitChars_concat (digits : List Char) (c : Char) :
    Nat.ofDigitChars 10 (digits ++ [c]) 0 =
      10 * Nat.ofDigitChars 10 digits 0 + (c.toNat - '0'.toNat) := by
  rw [Nat.ofDigitChars_append, Nat.ofDigitChars_cons, Nat.ofDigitChars_nil]

theorem ofDigitChars_lt (h : AreDigits digits) :
    Nat.ofDigitChars 10 digits 0 < 10 ^ digits.length := by
  induction digits using List.reverseRecOn with
  | nil => decide
  | append_singleton front c ih =>
    have shorter := ih fun c hc => h c (List.mem_append_left _ hc)
    have digit := (digitChar_of_isDigit (h c (by simp))).2
    rw [ofDigitChars_concat, List.length_append, List.length_singleton, Nat.pow_succ]
    omega

/-! ## Numbers of digits alone -/

theorem hexValue?_of_isDigit {c : Char} (h : c.isDigit = true) :
    hexValue? c = some (digitValue c) :=
  if_pos h

theorem foldlM_of_areDigits (h : AreDigits digits) (n : Nat) :
    digits.foldlM (fun n c => do
      let digit ← hexValue? c
      if digit < 10 then some (n * 10 + digit) else none) n = some (Nat.ofDigitChars 10 digits n) := by
  induction digits generalizing n with
  | nil => rfl
  | cons c rest ih =>
    have digit := h c List.mem_cons_self
    have small := (digitChar_of_isDigit digit).2
    have more : AreDigits rest := fun c hc => h c (List.mem_cons_of_mem _ hc)
    have step : (hexValue? c >>= fun digit => if digit < 10 then some (n * 10 + digit) else none) =
        some (n * 10 + digitValue c) := by
      rw [hexValue?_of_isDigit digit]
      exact if_pos small
    rw [List.foldlM_cons, step, ofDigitChars_cons]
    exact ih more _

theorem number?_of_areDigits (h : AreDigits digits) (nonempty : digits ≠ []) :
    number? 10 digits = some (Nat.ofDigitChars 10 digits 0) := by
  rw [number?, if_neg (mt List.isEmpty_iff.1 nonempty), foldlM_of_areDigits h]

theorem number?_eq_none {base : Nat} {cs : List Char} {c : Char} (hc : c ∈ cs)
    (h : ∀ digit, hexValue? c = some digit → ¬ digit < base) : number? base cs = none := by
  have nonempty : ¬ cs.isEmpty = true := mt List.isEmpty_iff.1 (List.ne_nil_of_mem hc)
  rw [number?, if_neg nonempty]
  generalize 0 = start
  clear nonempty
  induction cs generalizing start with
  | nil => cases hc
  | cons first rest ih =>
    rw [List.foldlM_cons]
    cases value : hexValue? first with
    | none => rfl
    | some digit =>
      rw [Option.bind_eq_bind, Option.bind_some]
      split_ifs with small
      · have later : c ∈ rest := by
          rcases List.mem_cons.1 hc with rfl | later
          · exact absurd small (h digit value)
          · exact later
        exact ih later _
      · rfl

end PrivacyMapping.Text
