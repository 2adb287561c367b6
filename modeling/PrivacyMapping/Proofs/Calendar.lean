import PrivacyMapping.Calendar
import Mathlib.Data.List.Basic
import Mathlib.Algebra.BigOperators.Group.List.Basic
import Mathlib.Algebra.Order.Ring.Nat

/-!
# Days of a year

A day of a year is a month and a day of that month, and the other way round: `dayOfYear?` finds the
day that `monthAndDay` takes apart (`dayOfYear?_eq_some_iff`). Days in their order have months and
days in their order.
-/

namespace PrivacyMapping.Calendar

/-! ## A day among lengths -/

theorem monthAndDayFrom_of_getElem? {lengths : List Nat} {first k d length : Nat}
    (month : lengths[k]? = some length) (inside : d < length) :
    monthAndDayFrom first lengths ((lengths.take k).sum + d) = (first + k, d + 1) := by
  induction lengths generalizing first k with
  | nil => simp at month
  | cons here rest ih =>
    rw [monthAndDayFrom]
    cases k with
    | zero =>
      have same : here = length := by simpa using month
      have within : (List.take 0 (here :: rest)).sum + d < here := by simp; omega
      rw [if_pos within]
      simp
    | succ k =>
      have later : ¬ (List.take (k + 1) (here :: rest)).sum + d < here := by
        simp only [List.take_succ_cons, List.sum_cons]
        omega
      have left : (List.take (k + 1) (here :: rest)).sum + d - here = (rest.take k).sum + d := by
        simp only [List.take_succ_cons, List.sum_cons]
        omega
      rw [if_neg later, left, ih (by simpa using month)]
      congr 1
      omega

theorem exists_month {lengths : List Nat} {day : Nat} (h : day < lengths.sum) :
    ∃ k d length, lengths[k]? = some length ∧ d < length ∧ day = (lengths.take k).sum + d := by
  induction lengths generalizing day with
  | nil => simp at h
  | cons here rest ih =>
    by_cases within : day < here
    · exact ⟨0, day, here, rfl, within, by simp⟩
    · rw [List.sum_cons] at h
      have left : day - here < rest.sum := by omega
      obtain ⟨k, d, length, month, inside, place⟩ := ih left
      refine ⟨k + 1, d, length, by simpa using month, inside, ?_⟩
      rw [List.take_succ_cons, List.sum_cons]
      omega

theorem sum_take_add_le {lengths : List Nat} {k length : Nat} (month : lengths[k]? = some length) :
    (lengths.take k).sum + length ≤ lengths.sum := by
  induction lengths generalizing k with
  | nil => simp at month
  | cons here rest ih =>
    cases k with
    | zero =>
      have same : here = length := by simpa using month
      simp [same]
    | succ k =>
      have later : (rest.take k).sum + length ≤ rest.sum := ih (by simpa using month)
      simp only [List.take_succ_cons, List.sum_cons]
      omega

theorem first_le_monthAndDayFrom (first day : Nat) (lengths : List Nat) :
    first ≤ (monthAndDayFrom first lengths day).1 := by
  induction lengths generalizing first day with
  | nil => exact Nat.le_refl first
  | cons here rest ih =>
    rw [monthAndDayFrom]
    split_ifs with within
    · exact Nat.le_refl first
    · exact Nat.le_of_succ_le (ih (first + 1) (day - here))

theorem monthAndDayFrom_lt {lengths : List Nat} {first earlier later : Nat} (h : earlier < later) :
    (monthAndDayFrom first lengths earlier).1 < (monthAndDayFrom first lengths later).1 ∨
      (monthAndDayFrom first lengths earlier).1 = (monthAndDayFrom first lengths later).1 ∧
        (monthAndDayFrom first lengths earlier).2 < (monthAndDayFrom first lengths later).2 := by
  induction lengths generalizing first earlier later with
  | nil => exact .inr ⟨rfl, Nat.succ_lt_succ h⟩
  | cons here rest ih =>
    rw [monthAndDayFrom, monthAndDayFrom]
    by_cases within : later < here
    · rw [if_pos within, if_pos (by omega)]
      exact .inr ⟨rfl, Nat.succ_lt_succ h⟩
    · rw [if_neg within]
      by_cases before : earlier < here
      · rw [if_pos before]
        exact .inl (first_le_monthAndDayFrom (first + 1) (later - here) rest)
      · rw [if_neg before]
        exact ih (by omega)

/-! ## Days of a year -/

theorem sum_monthLengths (year : Nat) :
    (monthLengths (isLeapYear year)).sum = daysInYear year := by
  unfold daysInYear
  cases isLeapYear year <;> rfl

theorem length_le_of_mem_monthLengths {leapYear : Bool} {length : Nat}
    (h : length ∈ monthLengths leapYear) : length ≤ 31 := by
  cases leapYear <;> revert length <;> decide

/-- A month and a day make the day of the year that is taken apart into them. -/
theorem dayOfYear?_eq_some_iff {year month day n : Nat} :
    dayOfYear? year month day = some n ↔
      n < daysInYear year ∧ monthAndDay year n = (month, day) := by
  rw [← sum_monthLengths]
  constructor
  · intro h
    unfold dayOfYear? at h
    dsimp only at h
    split_ifs at h with zero
    cases found : (monthLengths (isLeapYear year))[month - 1]? with
    | none => rw [found] at h; cases h
    | some length =>
      rw [found] at h
      dsimp only at h
      split_ifs at h with inside
      obtain rfl := Option.some.inj h
      have within : day - 1 < length := by omega
      have least := sum_take_add_le found
      refine ⟨Nat.lt_of_lt_of_le (Nat.add_lt_add_left within _) least, ?_⟩
      have place : monthAndDay year _ = (1 + (month - 1), day - 1 + 1) :=
        monthAndDayFrom_of_getElem? found within
      have parts : (1 + (month - 1), day - 1 + 1) = (month, day) := by
        rw [Prod.mk.injEq]
        omega
      exact place.trans parts
  · rintro ⟨inYear, parts⟩
    obtain ⟨k, d, length, found, inside, rfl⟩ := exists_month inYear
    rw [monthAndDay, monthAndDayFrom_of_getElem? found inside, Prod.mk.injEq] at parts
    obtain ⟨rfl, rfl⟩ := parts
    unfold dayOfYear?
    dsimp only
    rw [if_neg (by omega), Nat.add_sub_cancel_left, found]
    dsimp only
    rw [if_pos (by omega)]
    rfl

theorem monthAndDay_le {year n : Nat} (h : n < daysInYear year) :
    (monthAndDay year n).1 ≤ 12 ∧ (monthAndDay year n).2 ≤ 31 := by
  rw [← sum_monthLengths] at h
  obtain ⟨k, d, length, found, inside, rfl⟩ := exists_month h
  rw [monthAndDay, monthAndDayFrom_of_getElem? found inside]
  obtain ⟨month, rfl⟩ := List.getElem?_eq_some_iff.1 found
  have months : (monthLengths (isLeapYear year)).length = 12 := rfl
  have longest := length_le_of_mem_monthLengths (List.getElem_mem month)
  dsimp only
  omega

theorem monthAndDay_lt {year earlier later : Nat} (h : earlier < later) :
    [(monthAndDay year earlier).1, (monthAndDay year earlier).2] <
      [(monthAndDay year later).1, (monthAndDay year later).2] := by
  simp only [List.cons_lt_cons_iff, List.not_lt_nil, and_false, or_false]
  exact monthAndDayFrom_lt h

end PrivacyMapping.Calendar
