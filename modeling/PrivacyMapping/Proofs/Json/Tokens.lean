import PrivacyMapping.Json.Printer
import PrivacyMapping.Proofs.Digits
import PrivacyMapping.Proofs.Json.Reading

/-!
# Strings and numbers that are read back

A written string is read back as it is, whatever its characters are and whatever follows its closing
quote. A number has no closing mark: it is read back if what follows it cannot belong to a number
(`Ends`), and if it is a whole number that fits 64 bits (`Number.InRange.readsBack`). Whether another
number is read back depends on its digits, so this is a property of numbers (`Number.ReadsBack`).
-/

namespace PrivacyMapping.Json

namespace Reading

open Text (ne_of_isDigit)

/-! ## Parts of a text -/

/-- The text starts with neither a gap nor a closing bracket. -/
def Starts (text : List Char) : Prop :=
  ∃ c more, text = c :: more ∧ isGap c = false ∧ c ≠ ']' ∧ c ≠ '}'

/-- The text does not go on with what could belong to a number. -/
def Ends (rest : List Char) : Prop :=
  ∀ c ∈ rest.head?, c.isDigit = false ∧ c ≠ '.' ∧ c ≠ 'e' ∧ c ≠ 'E'

theorem Ends.endsDigits {rest : List Char} (h : Ends rest) : Text.EndsDigits rest :=
  fun c hc => (h c hc).1

theorem ends_nil : Ends [] := nofun

theorem ends_cons {c : Char} {rest : List Char}
    (h : c.isDigit = false ∧ c ≠ '.' ∧ c ≠ 'e' ∧ c ≠ 'E') : Ends (c :: rest) := by
  rintro _ ⟨⟩
  exact h

/-- The reader takes a part of a written value from the front of a text, unless the text goes on with
what could belong to the part. -/
structure ReadsAs {α : Type} (read : List Char → Outcome (α × List Char)) (part : List Char)
    (a : α) : Prop where
  starts : Starts part
  read_eq : ∀ rest, Ends rest → read (part ++ rest) = .ok (a, rest)

/-! ## Strings -/

theorem number?_control : ∀ n < 0x20,
    Text.number? 16 ['0', '0', Nat.digitChar (n / 16), Nat.digitChar (n % 16)] = some n := by
  decide

theorem readHex_of_number? {digits : List Char} {n : Nat} (length : digits.length = 4)
    (h : Text.number? 16 digits = some n) (rest : List Char) :
    readHex (digits ++ rest) = .ok (n, rest) := by
  have enough : decide (4 ≤ (digits ++ rest).length) = true := by
    rw [decide_eq_true_iff, List.length_append]
    omega
  rw [readHex, List.take_left' length, List.drop_left' length, h, enough]

theorem readUnicode_control {c : Char} (h : c.toNat < 0x20) (rest : List Char) :
    readUnicode
        (['0', '0', Nat.digitChar (c.toNat / 16), Nat.digitChar (c.toNat % 16)] ++ rest) =
      .ok (c, rest) := by
  have low : ¬ (0xDC00 ≤ c.toNat ∧ c.toNat ≤ 0xDFFF) := by omega
  have plain : c.toNat < 0xD800 ∨ 0xDBFF < c.toNat := by omega
  rw [readUnicode, readHex_of_number? rfl (number?_control _ h)]
  dsimp only [bind, Except.bind]
  rw [if_neg low, if_pos plain, Char.ofNat_toNat]
  rfl

theorem escapedChar_cases (c : Char) :
    (escapedChar c = [c] ∧ c ≠ '"' ∧ c ≠ '\\' ∧ ¬ c.toNat < 0x20) ∨
      ∃ escape, escapedChar c = '\\' :: escape ∧
        ∀ rest, readEscape (escape ++ rest) = .ok (c, rest) := by
  unfold escapedChar
  split_ifs with quote backslash backspace tab newline feed carriage control
  · subst quote
    exact .inr ⟨_, rfl, fun _ => rfl⟩
  · subst backslash
    exact .inr ⟨_, rfl, fun _ => rfl⟩
  · subst backspace
    exact .inr ⟨_, rfl, fun _ => rfl⟩
  · subst tab
    exact .inr ⟨_, rfl, fun _ => rfl⟩
  · subst newline
    exact .inr ⟨_, rfl, fun _ => rfl⟩
  · subst feed
    exact .inr ⟨_, rfl, fun _ => rfl⟩
  · subst carriage
    exact .inr ⟨_, rfl, fun _ => rfl⟩
  · exact .inr ⟨_, rfl, fun rest => readUnicode_control control rest⟩
  · exact .inl ⟨rfl, quote, backslash, control⟩

theorem readChars_escapedChar (c : Char) (n : Nat) (rest : List Char) :
    readChars (n + 1) (escapedChar c ++ rest) =
      readChars n rest >>= fun (cs, rest) => .ok (c :: cs, rest) := by
  rcases escapedChar_cases c with ⟨h, quote, backslash, control⟩ | ⟨escape, h, read⟩
  · rw [h, List.singleton_append, readChars, if_neg quote, if_neg backslash, if_neg control]
    rfl
  · rw [h, List.cons_append, readChars, if_neg (by decide), if_pos rfl, read rest]
    rfl

theorem readChars_written (s rest : List Char) {n : Nat} (h : s.length < n) :
    readChars n (s.flatMap escapedChar ++ '"' :: rest) = .ok (s, rest) := by
  induction s generalizing n with
  | nil =>
    obtain ⟨n, rfl⟩ := Nat.exists_eq_succ_of_ne_zero (Nat.ne_zero_of_lt h)
    rfl
  | cons c s ih =>
    obtain ⟨n, rfl⟩ := Nat.exists_eq_succ_of_ne_zero (Nat.ne_zero_of_lt h)
    rw [List.flatMap_cons, List.append_assoc, readChars_escapedChar, ih (Nat.lt_of_succ_lt_succ h)]
    rfl

theorem length_le_flatMap_escapedChar (s : List Char) :
    s.length ≤ (s.flatMap escapedChar).length := by
  induction s with
  | nil => exact Nat.le_refl 0
  | cons c s ih =>
    have pos : 0 < (escapedChar c).length := by
      rcases escapedChar_cases c with ⟨h, -⟩ | ⟨escape, h, -⟩ <;> exact h ▸ Nat.succ_pos _
    rw [List.flatMap_cons, List.length_cons, List.length_append]
    omega

/-- **A written string is read back**, once its opening quote has been read. -/
theorem readString_written (s : String) (rest : List Char) :
    readString (s.toList.flatMap escapedChar ++ '"' :: rest) = .ok (s, rest) := by
  have enough : s.toList.length < (s.toList.flatMap escapedChar ++ '"' :: rest).length := by
    have := length_le_flatMap_escapedChar s.toList
    rw [List.length_append, List.length_cons]
    omega
  rw [readString, readChars_written s.toList rest enough]
  exact congrArg (fun s => Except.ok (s, rest)) String.ofList_toList

/-! ## Digits -/

theorem areDigits_natText (n : Nat) : Text.AreDigits (natText n) :=
  fun _ => Nat.isDigit_of_mem_toDigits (by decide) (by decide)

theorem natText_eq_cons_of_pos (n : Nat) (h : 0 < n) :
    ∃ digit digits, natText n = digit :: digits ∧ digit ≠ '0' := by
  induction n using Nat.strongRecOn with
  | ind n ih =>
    unfold natText at ih ⊢
    by_cases small : n < 10
    · refine ⟨_, _, Nat.toDigits_of_lt_base small, ?_⟩
      rw [ne_eq, Nat.digitChar_eq_zero]
      omega
    · obtain ⟨digit, digits, front, nonzero⟩ := ih (n / 10) (by omega) (by omega)
      exact ⟨digit, _, by rw [Nat.toDigits_of_base_le (by decide) (by omega), front]; rfl, nonzero⟩

theorem natText_eq_cons (n : Nat) :
    ∃ digit digits, natText n = digit :: digits ∧ (digit = '0' → digits = []) := by
  cases n with
  | zero => exact ⟨'0', [], rfl, fun _ => rfl⟩
  | succ n =>
    obtain ⟨digit, digits, h, nonzero⟩ := natText_eq_cons_of_pos (n + 1) n.succ_pos
    exact ⟨digit, digits, h, fun zero => absurd zero nonzero⟩

theorem le_ofDigitChars (digits : List Char) (n : Nat) : n ≤ Nat.ofDigitChars 10 digits n := by
  induction digits generalizing n with
  | nil => exact Nat.le_refl n
  | cons digit digits ih =>
    rw [Nat.ofDigitChars_cons]
    exact Nat.le_trans (by omega) (ih _)

theorem takeDigits_eq {digits : List Char} {n : Nat}
    (h : Nat.ofDigitChars 10 digits n ≤ significandLimit) :
    takeDigits n digits = (Nat.ofDigitChars 10 digits n, 0) := by
  induction digits generalizing n with
  | nil => rfl
  | cons digit digits ih =>
    rw [Text.ofDigitChars_cons] at h ⊢
    rw [takeDigits, if_pos (Nat.le_trans (le_ofDigitChars digits _) h), ih h]

theorem takeDigits_natText {n : Nat} (h : n ≤ significandLimit) :
    takeDigits 0 (natText n) = (n, 0) := by
  have value : Nat.ofDigitChars 10 (natText n) 0 = n := Nat.ofDigitChars_ten_toDigits
  rw [takeDigits_eq (value.symm ▸ h), value]

/-! ## Numbers -/

theorem readNumber_natText {negative : Bool} {n : Nat} {i : Int} {rest : List Char}
    (h : wholeNumber? negative n = some i) (small : n ≤ significandLimit) (ends : Ends rest) :
    readNumber negative (natText n ++ rest) = .ok (.int i, rest) := by
  obtain ⟨digit, digits, text, zero⟩ := natText_eq_cons n
  have taken := takeDigits_natText small
  unfold readNumber
  rw [Text.takeWhile_isDigit (areDigits_natText n) ends.endsDigits,
    Text.dropWhile_isDigit (areDigits_natText n) ends.endsDigits]
  rw [text] at taken ⊢
  dsimp only
  rw [taken]
  split
  · next empty _ => cases empty
  · next empty _ => cases empty
  · next next more _ leading =>
    -- a leading zero is the only digit
    obtain ⟨rfl, rfl⟩ := List.cons.inj leading
    cases zero rfl
  · -- neither a point nor an exponent follows
    split
    · exact absurd rfl (ends _ rfl).2.1
    · exact absurd rfl (ends _ rfl).2.2.1
    · exact absurd rfl (ends _ rfl).2.2.2
    · rw [if_pos rfl, h]

theorem starts_of_isDigit {c : Char} (h : c.isDigit) : isGap c = false ∧ c ≠ ']' ∧ c ≠ '}' := by
  have solid : isGap c = false := by
    simp only [isGap, Bool.or_eq_false_iff, beq_eq_false_iff_ne]
    exact ⟨⟨⟨ne_of_isDigit h rfl, ne_of_isDigit h rfl⟩, ne_of_isDigit h rfl⟩, ne_of_isDigit h rfl⟩
  exact ⟨solid, ne_of_isDigit h rfl, ne_of_isDigit h rfl⟩

theorem readValueWith_of_isDigit (inner : Option ItemReader) {c : Char} (h : c.isDigit)
    (rest : List Char) :
    readValueWith inner (c :: rest) =
      readNumber false (c :: rest) >>= fun (n, rest) => .ok (.num n, rest) := by
  have solid : skipGaps (c :: rest) = c :: rest := by
    simp [skipGaps, (starts_of_isDigit h).1]
  unfold readValueWith
  rw [solid]
  split
  case h_1 eq => cases eq
  case h_9 eq =>
    obtain ⟨rfl, rfl⟩ := List.cons.inj eq
    rw [if_pos h]
    rfl
  -- the other marks that a value starts with are no digits
  all_goals
    next eq => exact absurd (List.cons.inj eq).1 (ne_of_isDigit h rfl)

end Reading

open Reading

/-- The number is read back from its text. -/
def Number.ReadsBack (n : Number) : Prop :=
  ∀ inner, ReadsAs (readValueWith inner) n.text (.num n)

/-- **Whole numbers are read back**, if they can be read as whole numbers at all. -/
theorem Number.InRange.readsBack {i : Int} (h : Number.InRange (.int i)) :
    (Number.int i).ReadsBack := by
  obtain ⟨least, greatest⟩ := Number.inRange_int_iff.1 h
  have limit : significandLimit = 18446744073709551615 := rfl
  intro inner
  cases i with
  | ofNat n =>
    rw [Int.ofNat_eq_natCast] at greatest
    obtain ⟨digit, digits, text, -⟩ := natText_eq_cons n
    have isDigit : digit.isDigit := areDigits_natText _ _ (text ▸ List.mem_cons_self)
    refine ⟨⟨digit, digits, text, starts_of_isDigit isDigit⟩, fun rest ends => ?_⟩
    have read : readNumber false (natText n ++ rest) = .ok (.int n, rest) :=
      readNumber_natText rfl (by omega) ends
    change readValueWith inner (natText n ++ rest) = _
    rw [text, List.cons_append] at read ⊢
    rw [readValueWith_of_isDigit inner isDigit, read]
    rfl
  | negSucc n =>
    rw [Int.negSucc_eq] at least
    have bound : 0 < n + 1 ∧ n + 1 ≤ 9223372036854775808 := by omega
    refine ⟨⟨'-', natText (n + 1), rfl, by decide⟩, fun rest ends => ?_⟩
    have read : readNumber true (natText (n + 1) ++ rest) = .ok (.int (.negSucc n), rest) :=
      readNumber_natText (if_pos bound) (by omega) ends
    change (readNumber true (natText (n + 1) ++ rest) >>= fun (n, rest) =>
      Except.ok (Json.num n, rest)) = _
    rw [read]
    rfl

end PrivacyMapping.Json
