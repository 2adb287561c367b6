import PrivacyMapping.Yaml.Json
import PrivacyMapping.Proofs.Binary64

/-!
# What YAML numbers become

A finite number becomes a JSON number, and an infinity or the not-a-number a text. The JSON number
has the same value, with one exception (`toJson_number_value`): the float `2 ^ 63` passes the test for
the range of whole numbers, whose upper end is rounded up to it, and becomes the greatest whole
number, which is one less.
-/

namespace PrivacyMapping

/-- The value of a JSON number. -/
def Json.Number.value : Json.Number → ℚ
  | .int n => n
  | .float x => x.value

namespace Yaml

/-- The value of a number that is finite. -/
def Number.value? : Number → Option ℚ
  | .int n => some n
  | .float x => some x.value
  | .infinity _ => none
  | .nan => none

theorem two_pow_eq_greatestWhole_succ : (2 : ℚ) ^ 63 = ((greatestWhole + 1 : Int) : ℚ) := by
  have greatest : greatestWhole + 1 = 9223372036854775808 := rfl
  rw [greatest]
  norm_num

/-- The whole number that a float becomes: its value where that is whole and in range, and the
greatest one also for the float above the range. -/
theorem wholeOf?_eq_some_iff {x : Binary64} {n : Int} :
    wholeOf? x = some n ↔
      (x.value = n ∧ leastWhole ≤ n ∧ n ≤ greatestWhole) ∨
        (x.value = 2 ^ 63 ∧ n = greatestWhole) := by
  have least : leastWhole = -9223372036854775808 := rfl
  have greatest : greatestWhole = 9223372036854775807 := rfl
  rw [two_pow_eq_greatestWhole_succ]
  unfold wholeOf?
  cases whole : x.toInt? with
  | none =>
    have fraction : ∀ m : Int, x.value ≠ m := by
      intro m value
      rw [Binary64.toInt?_eq_some_iff.2 value] at whole
      cases whole
    simp only [fraction, false_and, or_self, reduceCtorEq]
  | some m =>
    rw [Binary64.toInt?_eq_some_iff.1 whole, Int.cast_inj, Int.cast_inj]
    dsimp only
    split_ifs with range
    · rw [Option.some.injEq]
      omega
    · rw [iff_false_left nofun]
      omega

theorem value_ne_of_wholeOf?_eq_none {x : Binary64} (h : wholeOf? x = none) : x.value ≠ 2 ^ 63 := by
  intro above
  rw [wholeOf?_eq_some_iff.2 (.inr ⟨above, rfl⟩)] at h
  cases h

theorem value_eq_iff_of_wholeOf? {x : Binary64} {n : Int} (h : wholeOf? x = some n) :
    x.value = n ↔ x.value ≠ 2 ^ 63 := by
  rcases wholeOf?_eq_some_iff.1 h with ⟨value, -, high⟩ | ⟨above, rfl⟩
  · refine iff_of_true value ?_
    rw [value, two_pow_eq_greatestWhole_succ, Ne, Int.cast_inj]
    omega
  · refine iff_of_false ?_ (not_not.2 above)
    rw [above, two_pow_eq_greatestWhole_succ, Int.cast_inj]
    omega

theorem exists_toJson_float (x : Binary64) :
    ∃ m, (Number.float x).toJson = .num m ∧ (m.value = x.value ↔ x.value ≠ 2 ^ 63) ∧
      ((∃ k : Int, x.value = k ∧ -2 ^ 63 ≤ k ∧ k < 2 ^ 63) → ∃ k, m = .int k) := by
  rw [Number.toJson]
  cases whole : wholeOf? x with
  | none =>
    refine ⟨.float x, rfl, iff_of_true rfl (value_ne_of_wholeOf?_eq_none whole), ?_⟩
    rintro ⟨k, value, low, high⟩
    have least : leastWhole = -2 ^ 63 := rfl
    have greatest : greatestWhole = 2 ^ 63 - 1 := rfl
    rw [wholeOf?_eq_some_iff.2 (.inl ⟨value, by omega, by omega⟩)] at whole
    cases whole
  | some n =>
    exact ⟨.int n, rfl, eq_comm.trans (value_eq_iff_of_wholeOf? whole), fun _ => ⟨n, rfl⟩⟩

/-- **A number keeps its value.** A finite number becomes a number, of the same value unless it is
the float `2 ^ 63`, and a whole one wherever the value is whole and in range. Any other number becomes
a text. -/
theorem toJson_number_value (n : Number) :
    (∀ value, n.value? = some value →
      ∃ m, (Value.num n).toJson = .num m ∧
        (m.value = value ↔ ¬ ∃ x, n = .float x ∧ x.value = 2 ^ 63) ∧
        ((∃ k : Int, value = k ∧ -2 ^ 63 ≤ k ∧ k < 2 ^ 63) → ∃ k, m = .int k)) ∧
    (n.value? = none → ∃ text, (Value.num n).toJson = .str text) := by
  cases n with
  | int k =>
    refine ⟨fun value h => ⟨.int k, rfl, ?_, fun _ => ⟨k, rfl⟩⟩, nofun⟩
    obtain rfl := Option.some.inj h
    exact iff_of_true rfl nofun
  | float x =>
    refine ⟨fun value h => ?_, nofun⟩
    obtain rfl := Option.some.inj h
    obtain ⟨m, converted, kept, whole⟩ := exists_toJson_float x
    refine ⟨m, converted, kept.trans (not_congr ?_), whole⟩
    constructor
    · intro above
      exact ⟨x, rfl, above⟩
    · rintro ⟨y, same, above⟩
      rwa [Number.float.inj same]
  | infinity negative =>
    refine ⟨nofun, fun _ => ?_⟩
    cases negative <;> exact ⟨_, rfl⟩
  | nan => exact ⟨nofun, fun _ => ⟨_, rfl⟩⟩

/-- The float `-2 ^ 63`, the least whole number. -/
def leastFloat : Binary64 :=
  ⟨true, 1086 * Nat.pow 2 52, by decide⟩

theorem toJson_number_value_least :
    ((Number.float leastFloat).value? = some ((leastWhole : Int) : ℚ) ∧
      (Value.num (.float leastFloat)).toJson = .num (.int leastWhole) ∧
      (Json.Number.int leastWhole).value = leastWhole) ∧
    ((Number.infinity true).value? = none ∧
      ∃ text, (Value.num (.infinity true)).toJson = .str text) := by
  have value : leastFloat.value = leastWhole :=
    Binary64.toInt?_eq_some_iff.1 (by decide +kernel)
  have finite : (Number.float leastFloat).value? = some ((leastWhole : Int) : ℚ) :=
    congrArg some value
  have inRange : -2 ^ 63 ≤ leastWhole ∧ leastWhole < 2 ^ 63 := by decide
  obtain ⟨m, converted, kept, whole⟩ := (toJson_number_value (.float leastFloat)).1 _ finite
  obtain ⟨k, rfl⟩ := whole ⟨leastWhole, rfl, inRange⟩
  have same : (Json.Number.int k).value = leastWhole := by
    refine kept.2 ?_
    rintro ⟨x, same, above⟩
    rw [← Number.float.inj same, value, two_pow_eq_greatestWhole_succ, Int.cast_inj] at above
    revert above
    decide
  obtain rfl : k = leastWhole := Int.cast_injective same
  exact ⟨⟨finite, converted, same⟩, rfl, (toJson_number_value (.infinity true)).2 rfl⟩

/-- The float `2 ^ 63`, the number above the range of whole numbers. -/
def floatAbove : Binary64 :=
  ⟨false, 1086 * Nat.pow 2 52, by decide⟩

/-- The float above the range becomes a whole number of another value. -/
theorem toJson_number_above_range :
    (Number.float floatAbove).value? = some (2 ^ 63) ∧
    (Value.num (.float floatAbove)).toJson = .num (.int 9223372036854775807) ∧
    ¬ ∃ m, (Value.num (.float floatAbove)).toJson = .num m ∧ m.value = 2 ^ 63 := by
  have value : floatAbove.value = 2 ^ 63 := by
    rw [two_pow_eq_greatestWhole_succ]
    exact Binary64.toInt?_eq_some_iff.1 (by decide +kernel)
  have whole : wholeOf? floatAbove = some greatestWhole :=
    wholeOf?_eq_some_iff.2 (.inr ⟨value, rfl⟩)
  have converted : (Value.num (.float floatAbove)).toJson = .num (.int greatestWhole) := by
    rw [Value.toJson, Number.toJson, whole]
  refine ⟨congrArg some value, converted, ?_⟩
  rintro ⟨m, became, same⟩
  obtain rfl : .int greatestWhole = m := Json.num.inj (converted.symm.trans became)
  rw [Json.Number.value, two_pow_eq_greatestWhole_succ, Int.cast_inj] at same
  omega

end Yaml

end PrivacyMapping
