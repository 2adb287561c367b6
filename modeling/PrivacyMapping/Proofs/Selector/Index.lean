import PrivacyMapping.Proofs.Digits
import PrivacyMapping.Proofs.Projection
import Mathlib.Data.Nat.Digits.Defs

/-!
# Indexes of any length

A key of digits numbers an item of an array, after an optional plus sign and with any number of leading
zeros. Its number (`Numbers`) is the full value of the digits, however many there are: a key whose value is
too large for an index leads nowhere, and never to the item at a remainder of it. Every key has one number
at most, so that the decimal texts of different indexes lead to different places.
-/

namespace PrivacyMapping

/-! ## The number of a key -/

/-- The number that decimal digits stand for, of which the last one counts the ones. -/
def decimalValue (digits : List Char) : Nat :=
  Nat.ofDigits 10 (digits.reverse.map Text.digitValue)

theorem ofDigitChars_eq_decimalValue (digits : List Char) :
    Nat.ofDigitChars 10 digits 0 = decimalValue digits := by
  induction digits using List.reverseRecOn with
  | nil => rfl
  | append_singleton front c ih =>
    have value : decimalValue (front ++ [c]) = Text.digitValue c + 10 * decimalValue front := by
      rw [decimalValue, List.reverse_append, List.reverse_singleton, List.singleton_append,
        List.map_cons, Nat.ofDigits_cons]
      rfl
    rw [Text.ofDigitChars_concat, ih, value, Nat.add_comm]
    rfl

/-- The key is a number in decimal digits, which a plus sign may precede. -/
def Numbers (key : String) (i : Nat) : Prop :=
  ∃ digits, (key.toList = digits ∨ key.toList = '+' :: digits) ∧ IsNumeral digits ∧
    decimalValue digits = i

theorem index?_eq_some_iff_numbers {key : String} {i : Nat} :
    index? key = some i ↔ Numbers key i ∧ i < indexBound := by
  rw [index?_eq_some_iff]
  constructor
  · rintro ⟨digits, written, numeral, rfl, small⟩
    exact ⟨⟨digits, written, numeral, (ofDigitChars_eq_decimalValue digits).symm⟩, small⟩
  · rintro ⟨⟨digits, written, numeral, rfl⟩, small⟩
    exact ⟨digits, written, numeral, ofDigitChars_eq_decimalValue digits, small⟩

theorem numbers_toString (i : Nat) : Numbers (toString i) i := by
  refine ⟨_, .inl (toList_toString i), isNumeral_toDigits i, ?_⟩
  rw [← ofDigitChars_eq_decimalValue, Nat.ofDigitChars_ten_toDigits]

/-- A text without the plus sign in front of it, if it has one. -/
def unsigned : List Char → List Char
  | '+' :: rest => rest
  | cs => cs

theorem unsigned_cons {c : Char} (h : c ≠ '+') (rest : List Char) : unsigned (c :: rest) = c :: rest := by
  unfold unsigned
  split
  · next same => exact absurd (List.cons.inj same).1 h
  · rfl

theorem unsigned_of_isNumeral {digits : List Char} (numeral : IsNumeral digits) :
    unsigned digits = digits := by
  cases digits with
  | nil => rfl
  | cons c rest =>
    have digit : c.isDigit = true := numeral.2 c List.mem_cons_self
    exact unsigned_cons (Text.ne_of_isDigit digit (by decide)) rest

theorem eq_unsigned_or (cs : List Char) : cs = unsigned cs ∨ cs = '+' :: unsigned cs := by
  unfold unsigned
  split
  · exact .inr rfl
  · exact .inl rfl

theorem numbers_iff {key : String} {i : Nat} :
    Numbers key i ↔ IsNumeral (unsigned key.toList) ∧ decimalValue (unsigned key.toList) = i := by
  constructor
  · rintro ⟨digits, written | written, numeral, rfl⟩
    · rw [written, unsigned_of_isNumeral numeral]
      exact ⟨numeral, rfl⟩
    · rw [written]
      exact ⟨numeral, rfl⟩
  · rintro ⟨numeral, rfl⟩
    exact ⟨_, eq_unsigned_or key.toList, numeral, rfl⟩

theorem Numbers.unique {key : String} {i j : Nat} (h : Numbers key i) (h' : Numbers key j) : i = j :=
  (numbers_iff.1 h).2.symm.trans (numbers_iff.1 h').2

/-! ## Keys without a number -/

theorem not_isNumeral_iff {cs : List Char} :
    ¬ IsNumeral cs ↔ cs = [] ∨ ∃ c ∈ cs, c.isDigit = false := by
  rw [IsNumeral, not_and_or, not_not, not_forall]
  simp only [Classical.not_imp, Bool.not_eq_true]

theorem not_isNumeral_unsigned_iff {cs : List Char} :
    ¬ IsNumeral (unsigned cs) ↔
      cs = [] ∨ cs = ['+'] ∨ '+' ∈ cs.tail ∨ ∃ c ∈ cs, c ≠ '+' ∧ c.isDigit = false := by
  have sign : '+'.isDigit = false := by decide
  rw [not_isNumeral_iff]
  cases cs with
  | nil => simp [unsigned]
  | cons c rest =>
    by_cases signed : c = '+'
    · subst signed
      have behind : unsigned ('+' :: rest) = rest := rfl
      grind
    · rw [unsigned_cons signed]
      grind

/-- A key has no number if it has no digits, a sign behind its first character, or a character that is
neither a sign nor an ASCII digit. -/
theorem not_numbers_iff {key : String} :
    (∀ i, ¬ Numbers key i) ↔
      key = "" ∨ key = "+" ∨ '+' ∈ key.toList.tail ∨ ∃ c ∈ key.toList, c ≠ '+' ∧ c.isDigit = false := by
  have without : (∀ i, ¬ Numbers key i) ↔ ¬ IsNumeral (unsigned key.toList) := by
    simp [numbers_iff]
  have empty : key = "" ↔ key.toList = [] := String.toList_inj.symm
  have alone : key = "+" ↔ key.toList = ['+'] := String.toList_inj.symm
  rw [without, not_isNumeral_unsigned_iff, empty, alone]

/-! ## Steps into an array -/

variable {items : List Json} {key : String} {i : Nat}

theorem Json.step?_arr_eq_some_iff {item : Json} :
    (Json.arr items).step? key = some item ↔
      ∃ i, Numbers key i ∧ i < indexBound ∧ items[i]? = some item := by
  have step : (Json.arr items).step? key = (index? key).bind (items[·]?) := rfl
  rw [step, Option.bind_eq_some_iff]
  simp only [index?_eq_some_iff_numbers, and_assoc]

theorem Json.step?_arr_of_not_numbers (h : ∀ i, Numbers key i → indexBound ≤ i) :
    (Json.arr items).step? key = none := by
  rw [Option.eq_none_iff_forall_ne_some]
  intro item found
  obtain ⟨i, number, small, -⟩ := step?_arr_eq_some_iff.1 found
  exact absurd small (h i number).not_gt

theorem Json.step?_arr_of_numbers (fits : items.length ≤ indexBound) (h : Numbers key i) :
    (Json.arr items).step? key = items[i]? := by
  by_cases small : i < indexBound
  · have step : (Json.arr items).step? key = (index? key).bind (items[·]?) := rfl
    rw [step, index?_eq_some_iff_numbers.2 ⟨h, small⟩]
    rfl
  · have behind : items.length ≤ i := fits.trans (not_lt.1 small)
    rw [List.getElem?_eq_none behind]
    exact step?_arr_of_not_numbers fun j hj => h.unique hj ▸ not_lt.1 small

/-- **A key leads to the item whose number it is, and numbers never wrap.** A step into an array finds an
item exactly if the key is the number of its place, in decimal digits of any length behind an optional plus
sign, and an index can have this value. A key has one number at most; the empty key, a sign alone, a second
sign and any other character leave it without one, and such a key leads nowhere, as does one whose number
is `2 ^ 64` or more. In an array with no more items than that, every number leads to the item at this index
or nowhere, and in particular the decimal text of each index to its own item. -/
theorem index_never_wraps (items : List Json) :
    (∀ key item, (Json.arr items).step? key = some item ↔
      ∃ i, Numbers key i ∧ i < indexBound ∧ items[i]? = some item) ∧
    (∀ key i j, Numbers key i → Numbers key j → i = j) ∧
    (∀ key, (∀ i, ¬ Numbers key i) ↔ key = "" ∨ key = "+" ∨ '+' ∈ key.toList.tail ∨
      ∃ c ∈ key.toList, c ≠ '+' ∧ c.isDigit = false) ∧
    (∀ key, (∀ i, Numbers key i → indexBound ≤ i) → (Json.arr items).step? key = none) ∧
    (∀ i j, Numbers (toString i) j ↔ i = j) ∧
    (items.length ≤ indexBound →
      (∀ key i, Numbers key i → (Json.arr items).step? key = items[i]?) ∧
      ∀ i : Nat, (Json.arr items).step? (toString i) = items[i]?) := by
  refine ⟨fun _ _ => Json.step?_arr_eq_some_iff, fun _ _ _ => Numbers.unique, fun _ => not_numbers_iff,
    fun _ => Json.step?_arr_of_not_numbers, fun i j => ⟨(numbers_toString i).unique, ?_⟩,
    fun fits => ⟨fun _ _ => Json.step?_arr_of_numbers fits, fun i =>
      Json.step?_arr_of_numbers fits (numbers_toString i)⟩⟩
  rintro rfl
  exact numbers_toString i

/-- An array whose items are the texts of their indexes. -/
def elevenItems : List Json :=
  (List.range 11).map fun i => .str (toString i)

theorem index_never_wraps_eleven_items :
    Numbers "+0007" 7 ∧ elevenItems.length ≤ indexBound ∧
    (Json.arr elevenItems).step? "+0007" = some (.str "7") ∧
    (Json.arr elevenItems).step? (toString 10) = some (.str "10") ∧
    (Json.arr elevenItems).step? (toString indexBound) = none ∧
    (Json.arr elevenItems).step? "-1" = none := by
  have digits : Text.AreDigits ['0', '0', '0', '7'] := by decide
  have padded : Numbers "+0007" 7 := ⟨_, .inr rfl, ⟨List.cons_ne_nil _ _, digits⟩, rfl⟩
  have fits : elevenItems.length ≤ indexBound := by decide
  obtain ⟨-, -, numberless, misses, texts, leads⟩ := index_never_wraps elevenItems
  obtain ⟨byNumber, byIndex⟩ := leads fits
  refine ⟨padded, fits, byNumber _ _ padded, byIndex 10, misses _ ?tooLarge, misses _ ?negative⟩
  case tooLarge => exact fun i number => ((texts _ _).1 number).le
  case negative =>
    have foreign : ∃ c ∈ "-1".toList, c ≠ '+' ∧ c.isDigit = false := ⟨'-', by decide⟩
    have minus : ∀ i, ¬ Numbers "-1" i := (numberless "-1").2 (.inr (.inr (.inr foreign)))
    exact fun i number => absurd number (minus i)

end PrivacyMapping
