import PrivacyMapping.Text.Casing
import PrivacyMapping.Proofs.Text.Blank

/-!
# Lower case twice, and lower case at the ends

A text in lower case is its own lower-case form (`lowercase_lowercase`), because the small letters of
the table are no capitals of it. Trimming comes to the same before and after (`trim_lowercase`): white
space is its own lower-case form, and for a sigma beside it the word ends there as it does at the end of
the text, because white space is neither a letter with case nor passed over in the search for one.

What this takes of the tables is checked over all of their code points at once (`TablesFit`), with the
capitals, the small letters and the white space as the bits of numbers.
-/

namespace PrivacyMapping.Text

/-! ## Tables -/

/-! ### Sets of bits -/

/-- Bits at equal distances from the lowest one on, as many as are counted. -/
def strideBits (stride : Nat) : Nat → Nat
  | 0 => 0
  | count + 1 => 1 ||| strideBits stride count <<< stride

theorem testBit_strideBits (stride : Nat) {count place : Nat} (h : place < count) :
    (strideBits stride count).testBit (place * stride) = true := by
  induction count generalizing place with
  | zero => cases h
  | succ count ih =>
    rw [strideBits, Nat.testBit_or, Bool.or_eq_true]
    cases place with
    | zero =>
      left
      rw [Nat.zero_mul]
      rfl
    | succ place =>
      right
      rw [Nat.succ_mul, Nat.testBit_shiftLeft, Nat.add_sub_cancel, ih (Nat.lt_of_succ_lt_succ h),
        decide_eq_true (Nat.le_add_left _ _), Bool.and_true]

/-- The code points from a first to a last one as the bits of a number. -/
def rangeBits (first last : Nat) : Nat :=
  (1 <<< (last - first + 1) - 1) <<< first

theorem testBit_rangeBits {first last code : Nat} (low : first ≤ code) (high : code ≤ last) :
    (rangeBits first last).testBit code = true := by
  have inside : code - first < last - first + 1 := by omega
  rw [rangeBits, Nat.testBit_shiftLeft, Nat.one_shiftLeft, Nat.testBit_two_pow_sub_one,
    decide_eq_true low, decide_eq_true inside, Bool.and_true]

def unionBits (sets : List Nat) : Nat :=
  sets.foldr (· ||| ·) 0

theorem testBit_unionBits {sets : List Nat} {set i : Nat} (hset : set ∈ sets)
    (hi : set.testBit i = true) : (unionBits sets).testBit i = true := by
  induction sets with
  | nil => cases hset
  | cons first rest ih =>
    have step : unionBits (first :: rest) = first ||| unionBits rest := rfl
    rw [step, Nat.testBit_or, Bool.or_eq_true]
    rcases List.mem_cons.1 hset with rfl | hrest
    · exact .inl hi
    · exact .inr (ih hrest)

theorem testBit_of_disjoint {set other i : Nat} (h : set &&& other = 0) (hi : set.testBit i = true) :
    other.testBit i = false := by
  have none := Nat.zero_testBit i
  rw [← h, Nat.testBit_and, hi, Bool.true_and] at none
  exact none

namespace CodePoints

variable {ranges : CodePoints} {c : Char}

def bits (ranges : CodePoints) : Nat :=
  unionBits (ranges.map fun range => rangeBits range.1 range.2)

theorem testBit_bits (h : ranges.contains c = true) : ranges.bits.testBit c.toNat = true := by
  obtain ⟨range, hrange, inside⟩ := List.any_eq_true.1 h
  simp only [Bool.and_eq_true, decide_eq_true_eq] at inside
  exact testBit_unionBits (List.mem_map_of_mem hrange) (testBit_rangeBits inside.1 inside.2)

/-- Whether no range meets a set of bits. -/
def avoid (ranges : CodePoints) (set : Nat) : Bool :=
  ranges.all fun range => set &&& rangeBits range.1 range.2 == 0

theorem contains_eq_false_of_avoid {set : Nat} (h : ranges.avoid set = true)
    (hc : set.testBit c.toNat = true) : ranges.contains c = false := by
  refine List.any_eq_false.2 fun range hrange inside => ?_
  simp only [Bool.and_eq_true, decide_eq_true_eq] at inside
  have disjoint := beq_iff_eq.1 (List.all_eq_true.1 h range hrange)
  have outside := testBit_of_disjoint disjoint hc
  rw [testBit_rangeBits inside.1 inside.2] at outside
  cases outside

end CodePoints

namespace CaseRun

/-- The places of the capitals of a run as the bits of a number, with the first one lowest. -/
def bits (run : CaseRun) : Nat :=
  strideBits run.stride ((run.last - run.first) / run.stride + 1)

theorem testBit_bits {run : CaseRun} {code : Nat} (covered : run.covers code = true) (start : Nat) :
    (run.bits <<< start).testBit (start + (code - run.first)) = true := by
  simp only [covers, Bool.and_eq_true, beq_iff_eq, decide_eq_true_eq] at covered
  obtain ⟨⟨-, high⟩, step⟩ := covered
  have inside : (code - run.first) / run.stride < (run.last - run.first) / run.stride + 1 :=
    Nat.lt_succ_of_le (Nat.div_le_div_right (Nat.sub_le_sub_right high run.first))
  have hbit := testBit_strideBits run.stride inside
  rw [Nat.div_mul_cancel (Nat.dvd_of_mod_eq_zero step)] at hbit
  rw [Nat.testBit_shiftLeft, Nat.add_sub_cancel_left, decide_eq_true (Nat.le_add_right _ _),
    Bool.true_and]
  exact hbit

end CaseRun

/-! ### Capitals, small letters and white space -/

def capitalBits : Nat :=
  unionBits (caseRuns.map fun run => run.bits <<< run.first)

/-- The small letters that do not come from the table. -/
def specialSmall : List Char :=
  ['ς', 'σ', 'i', '\u0307']

def smallBits : Nat :=
  unionBits (caseRuns.map (fun run => run.bits <<< run.image) ++
    specialSmall.map fun small => rangeBits small.toNat small.toNat)

/-- What is used of the tables. -/
structure TablesFit : Prop where
  -- these are one statement, so that the sets are computed once for all of them
  /-- No small letter is a capital, or the dotted capital I, and no letter is white space. -/
  letters : capitalBits &&& smallBits = 0 ∧ smallBits.testBit 'İ'.toNat = false ∧
    whiteSpaceRanges.bits &&& (capitalBits ||| smallBits) = 0
  /-- The small letters of a run are characters. -/
  valid : (caseRuns.all fun run => (run.image + (run.last - run.first)).blt 0xD800 ||
    Nat.blt 0xDFFF run.image && (run.image + (run.last - run.first)).blt 0x110000) = true
  sigma : caseRuns.any (·.covers 'Σ'.toNat) = true
  cased : casedRanges.avoid whiteSpaceRanges.bits = true
  ignorable : caseIgnorableRanges.avoid whiteSpaceRanges.bits = true

theorem tablesFit : TablesFit where
  letters := by decide +kernel
  valid := by decide +kernel
  sigma := by decide +kernel
  cased := by decide +kernel
  ignorable := by decide +kernel

variable {c : Char} {run : CaseRun} {code : Nat}

theorem testBit_capitalBits (hrun : run ∈ caseRuns) (covered : run.covers code = true) :
    capitalBits.testBit code = true := by
  have low : run.first ≤ code := by
    simp only [CaseRun.covers, Bool.and_eq_true, decide_eq_true_eq] at covered
    exact covered.1.1
  have hbit := run.testBit_bits covered run.first
  rw [Nat.add_sub_cancel' low] at hbit
  exact testBit_unionBits (List.mem_map_of_mem hrun) hbit

theorem testBit_smallBits (hrun : run ∈ caseRuns) (covered : run.covers code = true) :
    smallBits.testBit (run.image + (code - run.first)) = true :=
  testBit_unionBits (List.mem_append_left _ (List.mem_map_of_mem hrun))
    (run.testBit_bits covered run.image)

theorem testBit_special {small : Char} (h : small ∈ specialSmall) :
    smallBits.testBit small.toNat = true :=
  testBit_unionBits (List.mem_append_right _ (List.mem_map_of_mem h)) (testBit_rangeBits le_rfl le_rfl)

theorem not_covers_of_testBit (h : capitalBits.testBit code = false) :
    ∀ run ∈ caseRuns, run.covers code = false :=
  fun _ hrun => Bool.eq_false_iff.2 fun covered => by simp [testBit_capitalBits hrun covered] at h

theorem isCased_of_isWhiteSpace (h : isWhiteSpace c = true) : isCased c = false :=
  CodePoints.contains_eq_false_of_avoid tablesFit.cased (CodePoints.testBit_bits h)

theorem isCaseIgnorable_of_isWhiteSpace (h : isWhiteSpace c = true) : isCaseIgnorable c = false :=
  CodePoints.contains_eq_false_of_avoid tablesFit.ignorable (CodePoints.testBit_bits h)

theorem testBit_of_isWhiteSpace (h : isWhiteSpace c = true) :
    capitalBits.testBit c.toNat = false ∧ smallBits.testBit c.toNat = false := by
  have apart := testBit_of_disjoint tablesFit.letters.2.2 (CodePoints.testBit_bits h)
  rwa [Nat.testBit_or, Bool.or_eq_false_iff] at apart

theorem isWhiteSpace_of_covers (hrun : run ∈ caseRuns) (covered : run.covers c.toNat = true) :
    isWhiteSpace c = false := by
  refine Bool.eq_false_iff.2 fun blank => ?_
  have uncapital := (testBit_of_isWhiteSpace blank).1
  rw [testBit_capitalBits hrun covered] at uncapital
  cases uncapital

/-! ## One character -/

theorem smallLetter_cases (c : Char) :
    (smallLetter c = c ∧ ∀ run ∈ caseRuns, run.covers c.toNat = false) ∨
      ∃ run ∈ caseRuns, run.covers c.toNat = true ∧
        (smallLetter c).toNat = run.image + (c.toNat - run.first) := by
  unfold smallLetter
  split
  · next run found =>
    have hrun := List.mem_of_find?_eq_some found
    have covered : run.covers c.toNat = true := by simpa using List.find?_some found
    refine .inr ⟨run, hrun, covered, ?_⟩
    have valid : (run.image + (c.toNat - run.first)).isValidChar := by
      have bounds := List.all_eq_true.1 tablesFit.valid run hrun
      simp only [CaseRun.covers, Bool.or_eq_true, Bool.and_eq_true, Nat.blt_eq,
        decide_eq_true_eq] at covered bounds
      unfold Nat.isValidChar
      omega
    rw [Char.ofNat, dif_pos valid]
    rfl
  · next none =>
    refine .inl ⟨rfl, fun run hrun => ?_⟩
    simpa using List.find?_eq_none.1 none run hrun

/-- The character is its own lower-case form wherever it stands. -/
def IsLowered (c : Char) : Prop :=
  ∀ before after, lowerChar before c after = [c]

theorem isLowered_of_not_covers (uncovered : ∀ run ∈ caseRuns, run.covers c.toNat = false)
    (dotted : c ≠ 'İ') : IsLowered c := by
  intro before after
  have sigma : c ≠ 'Σ' := by
    rintro rfl
    obtain ⟨run, hrun, covered⟩ := List.any_eq_true.1 tablesFit.sigma
    rw [uncovered run hrun] at covered
    cases covered
  rw [lowerChar, if_neg sigma, if_neg dotted]
  rcases smallLetter_cases c with ⟨same, -⟩ | ⟨run, hrun, covered, -⟩
  · rw [same]
  · rw [uncovered run hrun] at covered
    cases covered

theorem isLowered_of_isWhiteSpace (h : isWhiteSpace c = true) : IsLowered c := by
  apply isLowered_of_not_covers
  · exact not_covers_of_testBit (testBit_of_isWhiteSpace h).1
  · rintro rfl
    revert h
    decide

theorem isLowered_small {small : Char} (h : smallBits.testBit small.toNat = true) :
    IsLowered small ∧ isWhiteSpace small = false := by
  have uncapital : capitalBits.testBit small.toNat = false :=
    Bool.eq_false_iff.2 fun capital => by simp [testBit_of_disjoint tablesFit.letters.1 capital] at h
  refine ⟨isLowered_of_not_covers (not_covers_of_testBit uncapital) ?_, ?_⟩
  · rintro rfl
    rw [tablesFit.letters.2.1] at h
    cases h
  · refine Bool.eq_false_iff.2 fun blank => ?_
    rw [(testBit_of_isWhiteSpace blank).2] at h
    cases h

/-- What a character becomes is settled, and it is white space exactly if the character is. -/
theorem lowerChar_spec {before after : List Char} {lowered : Char}
    (h : lowered ∈ lowerChar before c after) :
    IsLowered lowered ∧ isWhiteSpace lowered = isWhiteSpace c := by
  have settled : ∀ small ∈ specialSmall, isWhiteSpace c = false → lowered = small →
      IsLowered lowered ∧ isWhiteSpace lowered = isWhiteSpace c := by
    rintro small hsmall unblank rfl
    obtain ⟨isLowered, unblank'⟩ := isLowered_small (testBit_special hsmall)
    exact ⟨isLowered, unblank'.trans unblank.symm⟩
  rw [lowerChar] at h
  split_ifs at h with sigma final dotted
  · subst sigma
    exact settled 'ς' (by decide) (by decide) (List.mem_singleton.1 h)
  · subst sigma
    exact settled 'σ' (by decide) (by decide) (List.mem_singleton.1 h)
  · subst dotted
    rcases List.mem_pair.1 h with rfl | rfl
    · exact settled 'i' (by decide) (by decide) rfl
    · exact settled '\u0307' (by decide) (by decide) rfl
  · rw [List.mem_singleton.1 h]
    rcases smallLetter_cases c with ⟨same, uncovered⟩ | ⟨run, hrun, covered, place⟩
    · rw [same]
      exact ⟨isLowered_of_not_covers uncovered dotted, rfl⟩
    · have small := testBit_smallBits hrun covered
      rw [← place] at small
      obtain ⟨settled, unblank⟩ := isLowered_small small
      rw [unblank, isWhiteSpace_of_covers hrun covered]
      exact ⟨settled, rfl⟩

theorem lowerChar_ne_nil (before : List Char) (c : Char) (after : List Char) :
    lowerChar before c after ≠ [] := by
  unfold lowerChar
  split_ifs <;> exact List.cons_ne_nil _ _

/-! ## Lower case twice -/

theorem lowerAfter_of_isLowered {cs : List Char} (h : ∀ c ∈ cs, IsLowered c) (before : List Char) :
    lowerAfter before cs = cs := by
  induction cs generalizing before with
  | nil => rfl
  | cons c rest ih =>
    obtain ⟨hc, hrest⟩ := List.forall_mem_cons.1 h
    rw [lowerAfter, hc, ih hrest, List.singleton_append]

theorem isLowered_of_mem_lowerAfter {cs before : List Char} :
    ∀ c ∈ lowerAfter before cs, IsLowered c := by
  induction cs generalizing before with
  | nil => exact fun c hc => nomatch hc
  | cons c rest ih =>
    intro d hd
    rw [lowerAfter, List.mem_append] at hd
    exact hd.elim (fun here => (lowerChar_spec here).1) (ih d)

/-- A text in lower case is its own lower-case form. -/
@[simp]
theorem lowercase_lowercase (s : String) : lowercase (lowercase s) = lowercase s := by
  rw [lowercase, lowerAfter_of_isLowered]
  · exact String.ofList_toList
  · rw [lowercase, String.toList_ofList]
    exact isLowered_of_mem_lowerAfter

/-! ## Lower case at the ends -/

theorem meetsCased_append {back : List Char} (blank : ∀ c ∈ back, isWhiteSpace c = true)
    (cs : List Char) : meetsCased (cs ++ back) = meetsCased cs := by
  unfold meetsCased
  rw [List.dropWhile_append]
  cases counts : cs.dropWhile isCaseIgnorable with
  | cons c rest => rfl
  | nil =>
    cases back with
    | nil => rfl
    | cons c rest =>
      have hc := blank c List.mem_cons_self
      rw [List.isEmpty_nil, if_pos rfl,
        List.dropWhile_cons_of_neg (by rw [isCaseIgnorable_of_isWhiteSpace hc]; exact nofun)]
      exact isCased_of_isWhiteSpace hc

theorem lowerChar_append {front back : List Char} (hfront : ∀ c ∈ front, isWhiteSpace c = true)
    (hback : ∀ c ∈ back, isWhiteSpace c = true) (before : List Char) (c : Char) (after : List Char) :
    lowerChar (before ++ front) c (after ++ back) = lowerChar before c after := by
  rw [lowerChar, meetsCased_append hfront, meetsCased_append hback, ← lowerChar]

theorem lowerAfter_append_blank {front back : List Char}
    (hfront : ∀ c ∈ front, isWhiteSpace c = true) (hback : ∀ c ∈ back, isWhiteSpace c = true)
    (before cs : List Char) :
    lowerAfter (before ++ front) (cs ++ back) = lowerAfter before cs ++ back := by
  induction cs generalizing before with
  | nil => exact lowerAfter_of_isLowered (fun c hc => isLowered_of_isWhiteSpace (hback c hc)) _
  | cons c rest ih =>
    rw [List.cons_append, lowerAfter, lowerChar_append hfront hback, lowerAfter, List.append_assoc]
    congr 1
    exact ih (c :: before)

theorem lowerAfter_append (before front cs : List Char) :
    ∃ lowered, lowerAfter before (front ++ cs) = lowered ++ lowerAfter (front.reverse ++ before) cs := by
  induction front generalizing before with
  | nil => exact ⟨[], rfl⟩
  | cons c rest ih =>
    obtain ⟨lowered, h⟩ := ih (c :: before)
    refine ⟨lowerChar before c (rest ++ cs) ++ lowered, ?_⟩
    rw [List.cons_append, lowerAfter, h, List.append_assoc, List.reverse_cons, List.append_assoc]
    rfl

theorem lowerAfter_blank_append {front : List Char} (hfront : ∀ c ∈ front, isWhiteSpace c = true)
    (before cs : List Char) :
    lowerAfter before (front ++ cs) = front ++ lowerAfter (front.reverse ++ before) cs := by
  induction front generalizing before with
  | nil => rfl
  | cons c rest ih =>
    obtain ⟨hc, hrest⟩ := List.forall_mem_cons.1 hfront
    rw [List.cons_append, lowerAfter, isLowered_of_isWhiteSpace hc, ih hrest, List.reverse_cons,
      List.append_assoc]
    rfl

theorem isWhiteSpace_of_head?_lowerAfter {before cs : List Char}
    (first : ∀ c, cs.head? = some c → isWhiteSpace c = false) :
    ∀ c, (lowerAfter before cs).head? = some c → isWhiteSpace c = false := by
  intro lowered h
  cases cs with
  | nil => cases h
  | cons c rest =>
    rw [lowerAfter, List.head?_append_of_ne_nil _ (lowerChar_ne_nil before c rest)] at h
    rw [(lowerChar_spec (List.mem_of_head? h)).2]
    exact first c rfl

theorem isWhiteSpace_of_getLast?_lowerAfter {before cs : List Char}
    (last : ∀ c, cs.getLast? = some c → isWhiteSpace c = false) :
    ∀ c, (lowerAfter before cs).getLast? = some c → isWhiteSpace c = false := by
  intro lowered h
  rcases List.eq_nil_or_concat' cs with rfl | ⟨front, c, rfl⟩
  · cases h
  · obtain ⟨others, split⟩ := lowerAfter_append before front [c]
    have lastChar : lowerAfter (front.reverse ++ before) [c] =
        lowerChar (front.reverse ++ before) c [] := List.append_nil _
    rw [split, lastChar, List.getLast?_append_of_ne_nil _ (lowerChar_ne_nil _ c [])] at h
    rw [(lowerChar_spec (List.mem_of_getLast? h)).2]
    exact last c List.getLast?_concat

theorem Surrounds.lowerAfter {cs inner : List Char} (h : Surrounds cs inner) :
    Surrounds (lowerAfter [] cs) (lowerAfter [] inner) := by
  obtain ⟨⟨front, back, rfl, hfront, hback⟩, first, last⟩ := h
  have hreverse : ∀ c ∈ front.reverse, isWhiteSpace c = true :=
    fun c hc => hfront c (List.mem_reverse.1 hc)
  refine ⟨⟨front, back, ?_, hfront, hback⟩, isWhiteSpace_of_head?_lowerAfter first,
    isWhiteSpace_of_getLast?_lowerAfter last⟩
  have around := lowerAfter_append_blank hreverse hback [] inner
  rw [List.append_assoc, lowerAfter_blank_append hfront, List.append_nil, List.append_assoc]
  rw [List.nil_append] at around
  rw [around]

/-- Trimming and lower case come to the same in either order. -/
theorem trim_lowercase (s : String) : trim (lowercase s) = lowercase (trim s) := by
  have inner : Trims s (trim s) := trim_eq_iff.1 rfl
  rw [trim_eq_iff, Trims, lowercase, lowercase, String.toList_ofList, String.toList_ofList]
  exact inner.lowerAfter

/-! ## Blank texts -/

theorem lowercase_eq_empty_iff {s : String} : lowercase s = "" ↔ s = "" := by
  rw [← String.toList_eq_nil_iff, ← String.toList_eq_nil_iff, lowercase, String.toList_ofList]
  cases s.toList with
  | nil => exact Iff.rfl
  | cons c rest => simp [lowerAfter, lowerChar_ne_nil]

theorem isBlank_lowercase (s : String) : isBlank (lowercase s) = isBlank s := by
  rw [Bool.eq_iff_iff, ← trim_eq_empty_iff, ← trim_eq_empty_iff, trim_lowercase,
    lowercase_eq_empty_iff]

theorem isBlank_trim (s : String) : isBlank (trim s) = isBlank s := by
  rw [Bool.eq_iff_iff, ← trim_eq_empty_iff, ← trim_eq_empty_iff, trim_trim]

end PrivacyMapping.Text
