import PrivacyMapping.Proofs.Timestamp.Canonical
import Mathlib.Data.String.Basic

/-!
# The order of instants and of their texts

Instants are ordered as their written forms are. An instant is compared by the numbers of its `key`,
and its text by the numbers that it shows (`shown`); a smaller key shows smaller numbers, and those
are written as a text that comes first. A leap second lies between the second before it and the next
minute.
-/

namespace PrivacyMapping.Timestamp

/-! ## Keys -/

theorem lt_iff_key_lt {a b : Timestamp} : a < b ↔ a.key < b.key :=
  Iff.rfl

theorem nanosecond_le (t : Timestamp) : t.nanosecond ≤ nanosInSecond := by
  unfold nanosecond
  split_ifs <;> omega

theorem leap_iff_nanosecond {t : Timestamp} : t.leap = true ↔ t.nanosecond = nanosInSecond := by
  have some : nanosInSecond ≠ 0 := by decide
  unfold nanosecond
  split_ifs with leap <;> simp [leap, some.symm]

theorem key_injective {a b : Timestamp} (h : a.key = b.key) : a = b := by
  simp only [key, List.cons.injEq, and_true] at h
  obtain ⟨year, day, second, nanos⟩ := h
  have leap : a.leap = b.leap := by
    rw [Bool.eq_iff_iff, leap_iff_nanosecond, leap_iff_nanosecond, nanos]
  cases a
  cases b
  simp_all

theorem trichotomy (a b : Timestamp) : a < b ∨ a = b ∨ b < a := by
  rcases lt_trichotomy a.key b.key with smaller | same | greater
  · exact .inl smaller
  · exact .inr (.inl (key_injective same))
  · exact .inr (.inr greater)

/-! ## Numbers that are shown -/

/-- The numbers of the time of day in the written form. -/
def shownTime (t : Timestamp) : List Nat :=
  [t.second / 3600, t.second / 60 % 60, t.second % 60 + t.leap.toNat]

/-- The numbers of the written form in their order. -/
def shown (t : Timestamp) : List Nat :=
  t.year :: ([(Calendar.monthAndDay t.year t.day).1, (Calendar.monthAndDay t.year t.day).2] ++
    t.shownTime)

theorem shownTime_lt_of_second_lt {a b : Timestamp} (h : a.second < b.second) :
    a.shownTime < b.shownTime := by
  simp only [shownTime, List.cons_lt_cons_iff, List.not_lt_nil, and_false, or_false]
  have last := a.leap_only
  cases hleap : a.leap with
  | false =>
    rw [Bool.toNat_false]
    omega
  | true =>
    -- behind a leap second only a later minute follows
    have ends := last hleap
    rw [Bool.toNat_true]
    omega

theorem shownTime_lt_of_nanosecond_lt {a b : Timestamp} (same : a.second = b.second)
    (h : a.nanosecond < b.nanosecond) : a.shownTime < b.shownTime := by
  have first : a.leap = false := by
    rw [Bool.eq_false_iff]
    intro leap
    have most := b.nanosecond_le
    have all := leap_iff_nanosecond.1 leap
    omega
  have second : b.leap = true := by
    by_contra plain
    have none : b.nanosecond = 0 := if_neg plain
    omega
  simp only [shownTime, same, first, second, List.cons_lt_cons_iff]
  simp

theorem shown_lt {a b : Timestamp} (h : a.key < b.key) : a.shown < b.shown := by
  simp only [key, List.cons_lt_cons_iff, List.not_lt_nil, and_false, or_false] at h
  rcases h with year | ⟨year, day | ⟨day, time⟩⟩
  · exact List.cons_lt_cons_iff.2 (.inl year)
  · refine List.cons_lt_cons_iff.2 (.inr ⟨year, append_lt_append (by simp) ?_ _ _⟩)
    rw [year]
    exact Calendar.monthAndDay_lt day
  · refine List.cons_lt_cons_iff.2 (.inr ⟨year, ?_⟩)
    rw [year, day]
    refine List.append_left_lt ?_
    rcases time with second | ⟨second, nanos⟩
    · exact shownTime_lt_of_second_lt second
    · exact shownTime_lt_of_nanosecond_lt second nanos

theorem chars_lt {a b : Timestamp} (h : a.shown < b.shown) : a.chars < b.chars := by
  simp only [shown, shownTime, List.cons_append, List.nil_append, List.cons_lt_cons_iff,
    List.not_lt_nil, and_false, or_false] at h
  obtain ⟨month, day⟩ := Calendar.monthAndDay_le b.day_lt
  have inDay := b.second_lt
  have leap := Bool.toNat_le b.leap
  simp only [chars, List.append_assoc, List.cons_append]
  refine paddedDigits_append_lt b.year_lt (h.imp_right (And.imp_right fun h => ?_))
  refine mark_paddedDigits_append_lt '-' (by omega) (h.imp_right (And.imp_right fun h => ?_))
  refine mark_paddedDigits_append_lt '-' (by omega) (h.imp_right (And.imp_right fun h => ?_))
  refine mark_paddedDigits_append_lt 'T' (by omega) (h.imp_right (And.imp_right fun h => ?_))
  refine mark_paddedDigits_append_lt ':' (by omega) (h.imp_right (And.imp_right fun h => ?_))
  exact mark_paddedDigits_append_lt ':' (by omega) (.inl h)

/-! ## Texts -/

theorem text_lt {a b : Timestamp} (h : a < b) : a.text < b.text := by
  rw [String.lt_iff_toList_lt, toList_text, toList_text]
  exact chars_lt (shown_lt h)

theorem text_injective {a b : Timestamp} (h : a.text = b.text) : a = b := by
  have read := parse_text a
  rw [h, parse_text b] at read
  exact (Except.ok.inj read).symm

/-! ## Minutes -/

/-- The numbers by which minutes are ordered. -/
def minute (t : Timestamp) : List Nat :=
  [t.year, t.day, t.second / 60]

theorem lt_of_minute_lt {a b : Timestamp} (h : a.minute < b.minute) : a < b := by
  rw [lt_iff_key_lt]
  simp only [minute, key, List.cons_lt_cons_iff, List.not_lt_nil, and_false, or_false] at h ⊢
  omega

theorem le_leap_of_minute_eq {a b : Timestamp} (leap : a.leap = true) (h : b.minute = a.minute) :
    b.key ≤ a.key := by
  simp only [minute, List.cons.injEq, and_true] at h
  obtain ⟨year, day, minute⟩ := h
  have last := a.leap_only leap
  have nanos := leap_iff_nanosecond.1 leap
  have most := b.nanosecond_le
  rw [← not_lt]
  simp only [key, List.cons_lt_cons_iff, List.not_lt_nil, and_false, or_false]
  omega

theorem lt_leap_of_minute_eq {a b : Timestamp} (leap : a.leap = true) (h : b.minute = a.minute)
    (other : b ≠ a) : b < a := by
  rcases trichotomy b a with smaller | same | greater
  · exact smaller
  · exact absurd same other
  · exact absurd (le_leap_of_minute_eq leap h) (not_le_of_gt greater)

/-- **Instants are ordered as their texts.** The leap second of a minute comes after every other
second of the minute and before every later minute. -/
theorem lt_iff_text_lt (a b : Timestamp) :
    (a < b ↔ a.text < b.text) ∧ (a = b ↔ a.text = b.text) ∧
    (a.leap = true →
      (b.minute = a.minute → b ≠ a → b < a) ∧ (a.minute < b.minute → a < b)) := by
  refine ⟨⟨text_lt, fun h => ?_⟩, ⟨congrArg text, text_injective⟩,
    fun leap => ⟨lt_leap_of_minute_eq leap, lt_of_minute_lt⟩⟩
  rcases trichotomy a b with smaller | rfl | greater
  · exact smaller
  · exact absurd h (String.lt_irrefl _)
  · exact absurd (String.lt_trans h (text_lt greater)) (String.lt_irrefl _)

/-- The second before the leap second at the end of 2016. -/
def lastOrdinarySecond : Timestamp :=
  { leapSecond with leap := false, leap_only := by decide }

/-- The second after the leap second at the end of 2016. -/
def firstSecondOf2017 : Timestamp where
  year := 2017
  day := 0
  second := 0
  leap := false
  year_lt := by decide
  day_lt := by decide
  second_lt := by decide
  leap_only := by decide

theorem lastOrdinarySecond_lt_leapSecond :
    lastOrdinarySecond < leapSecond ∧ leapSecond < firstSecondOf2017 ∧
    leapSecond.text < firstSecondOf2017.text := by
  obtain ⟨⟨written, -⟩, -, leap⟩ := lt_iff_text_lt leapSecond firstSecondOf2017
  have later := (leap rfl).2 (by decide)
  exact ⟨((lt_iff_text_lt leapSecond lastOrdinarySecond).2.2 rfl).1 rfl (by decide), later,
    written later⟩

end PrivacyMapping.Timestamp
