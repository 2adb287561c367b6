import PrivacyMapping.Proofs.Timestamp.Reading
import Mathlib.Data.List.Forall2

/-!
# One written form for each instant

The written form of an instant has one form and is read back as the instant, and of the texts that an
instant is read from it is the only one of that form. What tells texts of different instants apart
lies in their first nineteen characters, so the digits of a fraction make no difference.
-/

namespace PrivacyMapping.Timestamp

/-! ## The form of a text -/

/-- The text follows a pattern, in which `0` stands for any digit and every other character for
itself. -/
def HasForm (pattern cs : List Char) : Prop :=
  List.Forall₂ (fun p c => if p = '0' then c.isDigit = true else c = p) pattern cs

instance (pattern cs : List Char) : Decidable (HasForm pattern cs) :=
  inferInstanceAs (Decidable (List.Forall₂ _ pattern cs))

/-- The form `YYYY-MM-DDTHH:MM:SSZ`. -/
def stampForm : List Char :=
  "0000-00-00T00:00:00Z".toList

theorem HasForm.append {front rest cs ds : List Char} (h : HasForm front cs) (hrest : HasForm rest ds) :
    HasForm (front ++ rest) (cs ++ ds) :=
  List.rel_append h hrest

theorem HasForm.mark {c : Char} {rest cs : List Char} (hc : c ≠ '0') (h : HasForm rest cs) :
    HasForm (c :: rest) (c :: cs) :=
  .cons (by rw [if_neg hc]) h

theorem hasForm_of_areDigits {digits : List Char} (h : Text.AreDigits digits) :
    HasForm (List.replicate digits.length '0') digits := by
  induction digits with
  | nil => exact .nil
  | cons c rest ih =>
    obtain ⟨digit, more⟩ := List.forall_mem_cons.1 h
    exact .cons (by rw [if_pos rfl]; exact digit) (ih more)

theorem hasForm_paddedDigits (width n : Nat) :
    HasForm (List.replicate width '0') (paddedDigits width n) := by
  have form := hasForm_of_areDigits (areDigits_paddedDigits width n)
  rwa [length_paddedDigits] at form

theorem hasForm_chars (t : Timestamp) : HasForm stampForm t.chars := by
  have number := hasForm_paddedDigits
  have dash : '-' ≠ '0' := by decide
  have colon : ':' ≠ '0' := by decide
  unfold chars
  exact (((((((number 4 _).append (.mark dash (number 2 _))).append (.mark dash (number 2 _))).append
    (.mark (by decide) (number 2 _))).append (.mark colon (number 2 _))).append
    (.mark colon (number 2 _))).append (.mark (by decide) .nil))

/-! ## Reading the written form -/

theorem toList_text (t : Timestamp) : t.text.toList = t.chars :=
  String.toList_ofList

theorem spells_text (t : Timestamp) : t.Spells t.text.toList := by
  refine ⟨'T', [], .inl rfl, .inl rfl, ?_⟩
  rw [toList_text, chars_eq, List.append_nil]

theorem parse_text (t : Timestamp) : parse t.text = .ok t :=
  parse_eq_ok_iff.2 t.spells_text

theorem Spells.unique {t u : Timestamp} {cs : List Char} (ht : t.Spells cs) (hu : u.Spells cs) :
    t = u := by
  have spelled : ∀ {v : Timestamp}, v.Spells cs → parse (String.ofList cs) = .ok v := by
    intro v hv
    rw [parse_eq_ok_iff, String.toList_ofList]
    exact hv
  exact Except.ok.inj ((spelled ht).symm.trans (spelled hu))

theorem Spells.eq_chars {t : Timestamp} {cs : List Char} (h : t.Spells cs)
    (form : HasForm stampForm cs) : cs = t.chars := by
  obtain ⟨mark, fraction, -, -, rfl⟩ := h
  have length := form.length_eq
  have width : stampForm.length = 20 := by decide
  simp only [List.length_append, List.length_cons, List.length_nil, length_dateText,
    length_timeText, width] at length
  obtain rfl : fraction = [] := List.eq_nil_of_length_eq_zero (by omega)
  have place : (dateText t.year t.day ++ mark :: timeText t.second t.leap ++ [] ++ ['Z'])[10]? =
      some mark := by
    rw [List.append_assoc, List.append_assoc, List.getElem?_append_right (by simp [length_dateText]),
      length_dateText]
    rfl
  have isT : mark = 'T' := by
    obtain ⟨bound, here⟩ := List.getElem?_eq_some_iff.1 place
    rw [← here]
    exact form.get (by decide : 10 < stampForm.length) bound
  rw [isT, chars_eq, List.append_nil]

/-! ## The characters that tell instants apart -/

/-- The length of the date, the mark and the time of day in front of the fraction. -/
def frontLength : Nat := 19

theorem length_front (t : Timestamp) (mark : Char) :
    (dateText t.year t.day ++ mark :: timeText t.second t.leap).length = frontLength := by
  simp [length_dateText, length_timeText, frontLength]

theorem Spells.take_eq {t : Timestamp} {cs : List Char} (h : t.Spells cs) :
    ∃ mark, cs.take frontLength = dateText t.year t.day ++ mark :: timeText t.second t.leap := by
  obtain ⟨mark, fraction, -, -, rfl⟩ := h
  refine ⟨mark, ?_⟩
  rw [List.append_assoc]
  exact List.take_left' (length_front t mark)

theorem Spells.eq_of_take_eq {t u : Timestamp} {cs ds : List Char} (ht : t.Spells cs)
    (hu : u.Spells ds) (same : cs.take frontLength = ds.take frontLength) : t = u := by
  obtain ⟨mark, front⟩ := ht.take_eq
  obtain ⟨other, back⟩ := hu.take_eq
  rw [front, back] at same
  have dates := List.append_inj same (by rw [length_dateText, length_dateText])
  have times := (List.cons.inj dates.2).2
  refine Spells.unique t.spells_text ?_
  refine ⟨'T', [], .inl rfl, .inl rfl, ?_⟩
  rw [toList_text, chars_eq, dates.1, times, List.append_nil]

theorem point_not_mem_paddedDigits (width n : Nat) : '.' ∉ paddedDigits width n := by
  intro point
  have digit := areDigits_paddedDigits width n _ point
  revert digit
  decide

theorem Spells.eq_of_point {t : Timestamp} {cs : List Char} {i : Nat} (h : t.Spells cs)
    (point : cs[i]? = some '.') : i = frontLength := by
  obtain ⟨mark, fraction, isMark, isFraction, rfl⟩ := h
  have marks : '.' ≠ mark := by rcases isMark with rfl | rfl | rfl <;> decide
  have front : '.' ∉ dateText t.year t.day ++ mark :: timeText t.second t.leap := by
    simp [dateText, timeText, point_not_mem_paddedDigits, marks]
  have length := length_front t mark
  rw [List.append_assoc] at point
  rcases Nat.lt_trichotomy i frontLength with before | same | after
  · rw [List.getElem?_append_left (by omega)] at point
    exact absurd (List.mem_of_getElem? point) front
  · exact same
  · rw [List.getElem?_append_right (by omega), length] at point
    obtain ⟨k, behind⟩ : ∃ k, i - frontLength = k + 1 := ⟨i - frontLength - 1, by omega⟩
    rw [behind] at point
    rcases isFraction with rfl | ⟨digits, -, digit, rfl⟩
    · cases point
    · rw [List.cons_append, List.getElem?_cons_succ] at point
      rcases List.mem_append.1 (List.mem_of_getElem? point) with inside | last
      · exact absurd (digit _ inside) (by decide)
      · exact absurd (List.mem_singleton.1 last) (by decide)

theorem Spells.eq_of_fractions {t u : Timestamp} {front fraction other rest : List Char}
    (hfraction : IsFraction fraction) (hother : IsFraction other)
    (ht : t.Spells (front ++ fraction ++ rest)) (hu : u.Spells (front ++ other ++ rest)) : t = u := by
  have place : ∀ {v : Timestamp} {digits : List Char}, v.Spells (front ++ '.' :: digits ++ rest) →
      front.length = frontLength := by
    intro v digits hv
    refine hv.eq_of_point ?_
    rw [List.append_assoc, List.getElem?_append_right (Nat.le_refl _), Nat.sub_self]
    rfl
  have same : ∀ cs : List Char, front.length = frontLength →
      (front ++ cs ++ rest).take frontLength = front := by
    intro cs length
    rw [List.append_assoc]
    exact List.take_left' length
  rcases hfraction with rfl | ⟨digits, -, -, rfl⟩
  · rcases hother with rfl | ⟨digits, -, -, rfl⟩
    · exact ht.unique hu
    · have length := place hu
      exact ht.eq_of_take_eq hu ((same _ length).trans (same _ length).symm)
  · have length := place ht
    exact ht.eq_of_take_eq hu ((same _ length).trans (same _ length).symm)

/-- **The written form is canonical.** A text that is read ends in `Z`. The written form of what is
read has twenty characters of one form, is read back as the same instant, and is the text itself if
that has the form. Texts that differ in their fractions alone are read as the same instant. -/
theorem parse_canonical {text : String} {t : Timestamp} (h : parse text = .ok t) :
    text.toList.getLast? = some 'Z' ∧
    HasForm stampForm t.text.toList ∧ t.text.length = 20 ∧
    parse t.text = .ok t ∧
    (HasForm stampForm text.toList → t.text = text) ∧
    ∀ front fraction other rest u, text.toList = front ++ fraction ++ rest →
      IsFraction fraction → IsFraction other →
      parse (String.ofList (front ++ other ++ rest)) = .ok u → u = t := by
  have spelled := parse_eq_ok_iff.1 h
  refine ⟨spelled.getLast?_eq, ?_, ?_, parse_text t, ?_, ?_⟩
  · rw [toList_text]
    exact t.hasForm_chars
  · have length := t.hasForm_chars.length_eq
    rw [← String.length_toList, toList_text, ← length]
    rfl
  · intro form
    rw [Timestamp.text, ← spelled.eq_chars form, String.ofList_toList]
  · intro front fraction other rest u split hfraction hother read
    have others := parse_eq_ok_iff.1 read
    rw [String.toList_ofList] at others
    rw [split] at spelled
    exact others.eq_of_fractions hother hfraction spelled

/-- The leap second at the end of 2016. -/
def leapSecond : Timestamp where
  year := 2016
  day := 365
  second := 86399
  leap := true
  year_lt := by decide
  day_lt := by decide
  second_lt := by decide
  leap_only := by decide

theorem parse_canonical_leap_second :
    parse "2016-12-31T23:59:60.25Z" = .ok leapSecond ∧
    leapSecond.text = "2016-12-31T23:59:60Z" ∧ parse leapSecond.text = .ok leapSecond ∧
    ∀ u, parse "2016-12-31T23:59:60Z" = .ok u → u = leapSecond := by
  have read : parse "2016-12-31T23:59:60.25Z" = .ok leapSecond := by decide +kernel
  obtain ⟨-, -, -, again, -, same⟩ := parse_canonical read
  refine ⟨read, by decide +kernel, again, fun u other => ?_⟩
  exact same "2016-12-31T23:59:60".toList ".25".toList [] ['Z'] u (by decide +kernel)
    (.inr ⟨['2', '5'], by decide, by decide, by decide +kernel⟩) (.inl rfl) other

end PrivacyMapping.Timestamp
