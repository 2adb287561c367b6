import PrivacyMapping.Proofs.Timestamp.Written
import PrivacyMapping.Proofs.Json.Reading

/-!
# Texts that are read as an instant

A text is read as an instant exactly when it is its date, a mark, its time of day, a fraction or none,
and `Z` (`parse_eq_ok_iff`). Each reader takes one part from the front of a text, and what it takes
is the written part of what it gives.
-/

namespace PrivacyMapping.Timestamp

open Json (bind_eq_ok_iff)
open Text (AreDigits EndsDigits)

/-! ## Digits and marks -/

theorem readDigits_eq_ok_iff {width n : Nat} {cs rest : List Char} :
    readDigits width cs = .ok (n, rest) ↔ n < 10 ^ width ∧ cs = paddedDigits width n ++ rest := by
  unfold readDigits
  dsimp only
  constructor
  · intro h
    split_ifs at h with digits
    obtain ⟨length, all⟩ := digits
    obtain ⟨rfl, rfl⟩ := Prod.mk.inj (Except.ok.inj h)
    have digit : AreDigits (cs.take width) := List.all_eq_true.1 all
    have bound := Text.ofDigitChars_lt digit
    have same := paddedDigits_ofDigitChars digit
    rw [length] at bound same
    rw [same, List.take_append_drop]
    exact ⟨bound, rfl⟩
  · rintro ⟨bound, rfl⟩
    have length := length_paddedDigits width n
    have all : (paddedDigits width n).all Char.isDigit = true :=
      List.all_eq_true.2 (areDigits_paddedDigits width n)
    rw [List.take_left' length, List.drop_left' length, if_pos ⟨length, all⟩,
      ofDigitChars_paddedDigits bound]

theorem readMark_eq_ok_iff {p : Char → Bool} {cs rest : List Char} :
    readMark p cs = .ok rest ↔ ∃ c, p c = true ∧ cs = c :: rest := by
  cases cs with
  | nil => simp [readMark]
  | cons c cs =>
    rw [readMark]
    split_ifs with accepted
    · simp [accepted]
    · simp
      grind

/-! ## Dates -/

theorem readDate_eq_ok_iff {year day : Nat} {cs rest : List Char} :
    readDate cs = .ok ((year, day), rest) ↔
      year < 10000 ∧ day < Calendar.daysInYear year ∧ cs = dateText year day ++ rest := by
  simp only [readDate, bind_eq_ok_iff, Prod.exists, readDigits_eq_ok_iff, readMark_eq_ok_iff,
    beq_iff_eq, exists_eq_left]
  constructor
  · rintro ⟨_, _, ⟨inRange, rfl⟩, _, rfl, month, _, ⟨-, rfl⟩, _, rfl, dayOfMonth, _, ⟨-, rfl⟩, h⟩
    split at h
    · next n found =>
      cases h
      obtain ⟨inYear, parts⟩ := Calendar.dayOfYear?_eq_some_iff.1 found
      refine ⟨inRange, inYear, ?_⟩
      rw [dateText, parts]
      simp
    · cases h
  · rintro ⟨inRange, inYear, rfl⟩
    obtain ⟨month_le, day_le⟩ := Calendar.monthAndDay_le inYear
    have found : Calendar.dayOfYear? year (Calendar.monthAndDay year day).1
        (Calendar.monthAndDay year day).2 = some day := Calendar.dayOfYear?_eq_some_iff.2 ⟨inYear, rfl⟩
    refine ⟨year, _, ⟨inRange, by simp only [dateText, List.append_assoc]; rfl⟩, _, rfl, _, _,
      ⟨by omega, rfl⟩, _, rfl, _, _, ⟨by omega, rfl⟩, ?_⟩
    rw [found]
    rfl

/-! ## Times of day -/

/-- What may stand for the fraction of a second: nothing, or a point with digits after it. -/
def IsFraction (cs : List Char) : Prop :=
  cs = [] ∨ ∃ digits, digits ≠ [] ∧ AreDigits digits ∧ cs = '.' :: digits

theorem nanos_lt {digits : List Char} (h : AreDigits digits)
    (length : digits.length ≤ fractionDigits) :
    Nat.ofDigitChars 10 digits 0 * Nat.pow 10 (fractionDigits - digits.length) < nanosInSecond := by
  have scale : 10 ^ digits.length * 10 ^ (fractionDigits - digits.length) = nanosInSecond := by
    rw [← Nat.pow_add, Nat.add_sub_cancel' length]
    rfl
  rw [← scale]
  exact Nat.mul_lt_mul_of_pos_right (Text.ofDigitChars_lt h) (Nat.pow_pos (by decide))

theorem nanos_take_lt {digits : List Char} (h : AreDigits digits) :
    Nat.ofDigitChars 10 (digits.take fractionDigits) 0 *
      Nat.pow 10 (fractionDigits - (digits.take fractionDigits).length) < nanosInSecond :=
  nanos_lt (fun c hc => h c (List.mem_of_mem_take hc)) (List.length_take_le _ _)

theorem of_readFraction {cs rest : List Char} {nanos : Nat}
    (h : readFraction cs = .ok (nanos, rest)) :
    nanos < nanosInSecond ∧ ∃ fraction, IsFraction fraction ∧ cs = fraction ++ rest := by
  unfold readFraction at h
  split at h
  · next more =>
    dsimp only at h
    split_ifs at h with empty
    obtain ⟨rfl, rfl⟩ := Prod.mk.inj (Except.ok.inj h)
    have digit := Text.areDigits_takeWhile more
    refine ⟨nanos_take_lt digit, '.' :: more.takeWhile Char.isDigit, .inr ⟨_, ?_, digit, rfl⟩, ?_⟩
    · rintro none
      rw [none] at empty
      exact empty rfl
    · rw [List.cons_append, List.takeWhile_append_dropWhile]
  · cases h
    exact ⟨by decide, [], .inl rfl, rfl⟩

theorem exists_readFraction {fraction rest : List Char} (h : IsFraction fraction)
    (ends : EndsDigits rest) (point : rest.head? ≠ some '.') :
    ∃ nanos < nanosInSecond, readFraction (fraction ++ rest) = .ok (nanos, rest) := by
  rcases h with rfl | ⟨digits, nonempty, digit, rfl⟩
  · refine ⟨0, by decide, ?_⟩
    rw [List.nil_append]
    unfold readFraction
    split
    · exact absurd rfl point
    · rfl
  · have taken : (digits.take fractionDigits).isEmpty = false := by
      rw [List.isEmpty_eq_false_iff]
      simp [fractionDigits, nonempty]
    refine ⟨_, nanos_take_lt digit, ?_⟩
    rw [List.cons_append, readFraction, Text.takeWhile_isDigit digit ends,
      Text.dropWhile_isDigit digit ends, taken]
    rfl

/-- A second of a day and the nanosecond in it, as a time of day gives them. -/
structure IsTime (second nanosecond : Nat) : Prop where
  second_lt : second < 86400
  nanosecond_lt : nanosecond < 2 * nanosInSecond
  leap_only : nanosInSecond ≤ nanosecond → second % 60 = 59

/-- Seconds are shown as they are counted, but for the leap second, which is shown as the
sixty-first of its minute. -/
theorem timeText_eq {hour minute shown : Nat} (hminute : minute < 60) (hshown : shown < 61) :
    timeText (hour * 3600 + minute * 60 + min shown 59) (decide (shown = 60)) =
      paddedDigits 2 hour ++ ':' :: (paddedDigits 2 minute ++ ':' :: paddedDigits 2 shown) := by
  have hours : (hour * 3600 + minute * 60 + min shown 59) / 3600 = hour := by omega
  have minutes : (hour * 3600 + minute * 60 + min shown 59) / 60 % 60 = minute := by omega
  have seconds : (hour * 3600 + minute * 60 + min shown 59) % 60 + (decide (shown = 60)).toNat =
      shown := by
    by_cases leap : shown = 60
    · rw [decide_eq_true leap, Bool.toNat_true]
      omega
    · rw [decide_eq_false leap, Bool.toNat_false]
      omega
  rw [timeText, hours, minutes, seconds, List.append_assoc]
  rfl

theorem of_readTime {cs rest : List Char} {second nanosecond : Nat}
    (h : readTime cs = .ok ((second, nanosecond), rest)) :
    IsTime second nanosecond ∧ ∃ fraction, IsFraction fraction ∧
      cs = timeText second (decide (nanosInSecond ≤ nanosecond)) ++ fraction ++ rest := by
  simp only [readTime, bind_eq_ok_iff, Prod.exists, readDigits_eq_ok_iff, readMark_eq_ok_iff,
    beq_iff_eq, exists_eq_left] at h
  obtain ⟨hour, _, ⟨-, rfl⟩, _, rfl, minute, _, ⟨-, rfl⟩, _, rfl, shown, _, ⟨-, rfl⟩, nanos, _,
    read, h⟩ := h
  obtain ⟨small, fraction, isFraction, rfl⟩ := of_readFraction read
  have range : hour < 24 ∧ minute < 60 ∧ shown < 61 := by
    by_contra out
    rw [if_neg out] at h
    cases h
  rw [if_pos range] at h
  obtain ⟨same, rfl⟩ := Prod.mk.inj (Except.ok.inj h)
  obtain ⟨rfl, rfl⟩ := Prod.mk.inj same
  have leap : decide (nanosInSecond ≤ if shown = 60 then nanosInSecond + nanos else nanos) =
      decide (shown = 60) := by
    by_cases last : shown = 60
    · simp [last]
    · simp [last, small]
  refine ⟨⟨by omega, ?_, ?_⟩, fraction, isFraction, ?_⟩
  · split_ifs <;> omega
  · split_ifs <;> omega
  · rw [leap, timeText_eq range.2.1 range.2.2]
    simp

theorem exists_readTime {second : Nat} {leap : Bool} {fraction rest : List Char}
    (inDay : second < 86400) (leap_only : leap = true → second % 60 = 59)
    (h : IsFraction fraction) (ends : EndsDigits rest) (point : rest.head? ≠ some '.') :
    ∃ nanosecond, IsTime second nanosecond ∧ decide (nanosInSecond ≤ nanosecond) = leap ∧
      readTime (timeText second leap ++ fraction ++ rest) = .ok ((second, nanosecond), rest) := by
  obtain ⟨nanos, small, read⟩ := exists_readFraction h ends point
  refine ⟨if leap then nanosInSecond + nanos else nanos, ⟨inDay, ?_, ?_⟩, ?_, ?_⟩
  · split_ifs <;> omega
  · intro beyond
    split_ifs at beyond with inserted
    · exact leap_only inserted
    · omega
  · cases leap
    · simp [small]
    · simp
  · simp only [readTime, bind_eq_ok_iff, Prod.exists, readDigits_eq_ok_iff, readMark_eq_ok_iff,
      beq_iff_eq, exists_eq_left]
    refine ⟨second / 3600, _, ⟨by omega, by simp only [timeText, List.append_assoc]; rfl⟩, _, rfl,
      second / 60 % 60, _, ⟨by omega, rfl⟩, _, rfl, second % 60 + leap.toNat, _, ⟨?_, rfl⟩, nanos,
      rest, read, ?_⟩
    · cases leap <;> simp <;> omega
    · cases leap with
      | false =>
        have ordinary : ¬ second % 60 + false.toNat = 60 := by simp; omega
        have range : second / 3600 < 24 ∧ second / 60 % 60 < 60 ∧ second % 60 + false.toNat < 61 := by
          simp
          omega
        have same : second / 3600 * 3600 + second / 60 % 60 * 60 +
            min (second % 60 + false.toNat) 59 = second := by simp; omega
        rw [if_pos range, same, if_neg ordinary]
        rfl
      | true =>
        have last := leap_only rfl
        have inserted : second % 60 + true.toNat = 60 := by simp; omega
        have range : second / 3600 < 24 ∧ second / 60 % 60 < 60 ∧ second % 60 + true.toNat < 61 := by
          simp
          omega
        have same : second / 3600 * 3600 + second / 60 % 60 * 60 +
            min (second % 60 + true.toNat) 59 = second := by simp; omega
        rw [if_pos range, same, if_pos inserted]
        rfl

/-! ## Offsets -/

theorem of_readOffsetPart {bound n : Nat} {cs rest : List Char}
    (h : readOffsetPart bound cs = .ok (n, rest)) : cs = paddedDigits 2 n ++ rest := by
  unfold readOffsetPart at h
  split_ifs at h
  · cases h
  · simp only [bind_eq_ok_iff, Prod.exists, readDigits_eq_ok_iff] at h
    obtain ⟨m, more, ⟨-, rfl⟩, h⟩ := h
    split_ifs at h
    cases h
    rfl

theorem getLast?_append_paddedDigits (front : List Char) (n : Nat) :
    (front ++ paddedDigits 2 n).getLast? ≠ some 'Z' := by
  intro last
  have nonempty : paddedDigits 2 n ≠ [] := List.ne_nil_of_length_pos (by simp)
  rw [List.getLast?_append_of_ne_nil _ nonempty] at last
  have digit := areDigits_paddedDigits 2 n _ (List.mem_of_getLast? last)
  revert digit
  decide

theorem skipOffset_eq_nil_iff {cs : List Char} (last : cs.getLast? = some 'Z') :
    skipOffset cs = .ok [] ↔ cs = ['Z'] := by
  constructor
  · intro h
    cases cs with
    | nil => cases last
    | cons c rest =>
      rw [skipOffset] at h
      split_ifs at h with zulu sign
      · obtain rfl : rest = [] := Except.ok.inj h
        rw [List.getLast?_singleton, Option.some.injEq] at last
        rw [last]
      · -- an offset of hours and minutes ends in a digit
        simp only [bind_eq_ok_iff, Prod.exists] at h
        obtain ⟨hour, more, hours, h⟩ := h
        have left : ¬ more.isEmpty = true := by
          intro short
          rw [if_pos short] at h
          cases h
        rw [if_neg left] at h
        simp only [bind_eq_ok_iff, Prod.exists, readMark_eq_ok_iff] at h
        obtain ⟨_, ⟨colon, -, rfl⟩, minute, after, minutes, h⟩ := h
        split_ifs at h
        obtain rfl : after = [] := Except.ok.inj h
        rw [of_readOffsetPart hours, of_readOffsetPart minutes, List.append_nil,
          List.append_cons, ← List.cons_append] at last
        exact absurd last (getLast?_append_paddedDigits _ _)
  · rintro rfl
    rfl

/-! ## Whole texts -/

/-- The texts that stand for an instant: its date, a mark, its time of day, a fraction, and `Z`. -/
def Spells (t : Timestamp) (cs : List Char) : Prop :=
  ∃ mark fraction, (mark = 'T' ∨ mark = 't' ∨ mark = ' ') ∧ IsFraction fraction ∧
    cs = dateText t.year t.day ++ mark :: timeText t.second t.leap ++ fraction ++ ['Z']

theorem Spells.getLast?_eq {t : Timestamp} {cs : List Char} (h : t.Spells cs) :
    cs.getLast? = some 'Z' := by
  obtain ⟨mark, fraction, -, -, rfl⟩ := h
  rw [List.getLast?_append_of_ne_nil _ (by simp), List.getLast?_singleton]

theorem length_le_byteLength (cs : List Char) : cs.length ≤ byteLength cs := by
  induction cs with
  | nil => exact Nat.le_refl 0
  | cons c rest ih =>
    have size : 1 ≤ c.utf8Size := Char.utf8Size_pos c
    have step : byteLength (c :: rest) = c.utf8Size + byteLength rest := rfl
    rw [step, List.length_cons]
    omega

theorem ofParts_of_isTime {year day second nanosecond : Nat} (hyear : year < 10000)
    (hday : day < Calendar.daysInYear year) (time : IsTime second nanosecond) :
    ofParts year day second nanosecond = .ok ⟨year, day, second, nanosecond, hyear, hday,
      time.second_lt, time.nanosecond_lt, time.leap_only⟩ :=
  dif_pos ⟨hyear, hday, time.second_lt, time.nanosecond_lt, time.leap_only⟩

theorem spells_of_readChars {cs : List Char} {instant : Instant} (last : cs.getLast? = some 'Z')
    (h : readChars cs = .ok instant) : (ofInstant instant).Spells cs := by
  unfold readChars at h
  split_ifs at h
  · cases h
  · simp only [bind_eq_ok_iff, Prod.exists, readDate_eq_ok_iff, readMark_eq_ok_iff] at h
    obtain ⟨year, day, _, ⟨hyear, hday, rfl⟩, more, ⟨mark, isMark, rfl⟩, second, nanosecond, after,
      time, rest, offset, h⟩ := h
    split_ifs at h with finished
    obtain ⟨isTime, fraction, isFraction, rfl⟩ := of_readTime time
    obtain rfl := List.isEmpty_iff.1 finished
    rw [ofParts_of_isTime hyear hday isTime] at h
    obtain rfl := Except.ok.inj h
    have nonempty : after ≠ [] := by
      rintro rfl
      cases offset
    have ending : after.getLast? = some 'Z' := by
      rwa [List.append_cons, ← List.append_assoc, List.getLast?_append_of_ne_nil _ nonempty] at last
    obtain rfl := (skipOffset_eq_nil_iff ending).1 offset
    refine ⟨mark, fraction, ?_, isFraction, ?_⟩
    · simpa [or_assoc] using isMark
    · simp [ofInstant]

theorem exists_readChars {t : Timestamp} {cs : List Char} (h : t.Spells cs) :
    ∃ instant, readChars cs = .ok instant ∧ ofInstant instant = t := by
  obtain ⟨mark, fraction, isMark, isFraction, rfl⟩ := h
  have ends : EndsDigits ['Z'] := Text.endsDigits_cons rfl
  obtain ⟨nanosecond, isTime, leap, time⟩ :=
    exists_readTime t.second_lt t.leap_only isFraction ends (by decide)
  refine ⟨⟨t.year, t.day, t.second, nanosecond, t.year_lt, t.day_lt, isTime.second_lt,
    isTime.nanosecond_lt, isTime.leap_only⟩, ?_, ?_⟩
  · have long := length_le_byteLength (dateText t.year t.day ++
      mark :: timeText t.second t.leap ++ fraction ++ ['Z'])
    have enough : ¬ byteLength (dateText t.year t.day ++
        mark :: timeText t.second t.leap ++ fraction ++ ['Z']) < leastLength := by
      simp only [List.length_append, List.length_cons, length_dateText, length_timeText] at long
      have least : leastLength = 19 := rfl
      omega
    rw [readChars, if_neg enough]
    simp only [bind_eq_ok_iff, Prod.exists, readDate_eq_ok_iff, readMark_eq_ok_iff]
    refine ⟨t.year, t.day, mark :: (timeText t.second t.leap ++ fraction ++ ['Z']),
      ⟨t.year_lt, t.day_lt, by simp⟩, _, ⟨mark, ?_, rfl⟩, t.second, nanosecond, ['Z'], time, [], rfl, ?_⟩
    · rcases isMark with rfl | rfl | rfl <;> rfl
    · exact ofParts_of_isTime t.year_lt t.day_lt isTime
  · simp only [ofInstant, leap]

/-- A text is read as an instant exactly when it spells it. -/
theorem parse_eq_ok_iff {text : String} {t : Timestamp} :
    parse text = .ok t ↔ t.Spells text.toList := by
  constructor
  · intro h
    unfold parse at h
    split_ifs at h with last
    split at h
    · next instant read =>
      obtain rfl := Except.ok.inj h
      exact spells_of_readChars last read
    · cases h
  · intro spelled
    obtain ⟨instant, read, rfl⟩ := exists_readChars spelled
    rw [parse, if_pos spelled.getLast?_eq, read]

end PrivacyMapping.Timestamp
