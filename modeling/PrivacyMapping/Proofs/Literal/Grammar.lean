import PrivacyMapping.Proofs.Json.RoundTrip
import PrivacyMapping.Proofs.Literal.Basic
import PrivacyMapping.Yaml.Scalar

/-!
# Texts that are read as numbers

Every text that is read as a JSON number is a literal, with nothing but gaps around it, and a plain
YAML scalar that is a number has no gap in it. So a text that is a number for both readers is a literal.
-/

namespace PrivacyMapping.Literal

open Json (Number)
open Json.Reading
open Text (AreDigits)
open Yaml.Scalar

/-! ## Numbers in JSON -/

theorem exists_sign_append (cs : List Char) :
    ∃ sign : Sign, cs = sign.chars ++ (exponentSign cs).2 := by
  unfold exponentSign
  split
  · exact ⟨.plus, rfl⟩
  · exact ⟨.minus, rfl⟩
  · exact ⟨.none, rfl⟩

section numbers

variable {negative : Bool} {significand : Nat} {power : Int} {cs rest : List Char} {n : Number}

theorem eq_of_float (h : float negative significand power cs = .ok (n, rest)) : cs = rest := by
  rw [float] at h
  generalize (Binary64.ofNat? false significand).bind (scale? · power) = magnitude at h
  cases magnitude with
  | none => cases h
  | some magnitude =>
    cases h
    rfl

theorem exists_exponent_of_readExponent
    (h : readExponent negative significand power cs = .ok (n, rest)) {mark : Char}
    (isMark : mark = 'e' ∨ mark = 'E') : ∃ exponent : Exponent, mark :: cs = exponent.chars ++ rest := by
  obtain ⟨sign, signed⟩ := exists_sign_append cs
  unfold readExponent at h
  dsimp only at h
  generalize (exponentSign cs).1 = factor at h
  generalize (exponentSign cs).2 = body at h signed
  have parts := (List.takeWhile_append_dropWhile (p := Char.isDigit) (l := body)).symm
  have areDigits := Text.areDigits_takeWhile body
  generalize body.takeWhile Char.isDigit = digits at h parts areDigits
  generalize body.dropWhile Char.isDigit = after at h parts
  have ends : digits ≠ [] ∧ after = rest := by
    split at h
    · cases h
    · cases h
    · refine ⟨List.cons_ne_nil _ _, ?_⟩
      split at h
      · exact eq_of_float h
      · split_ifs at h
        · cases h
        · cases h
          rfl
  obtain ⟨nonempty, rfl⟩ := ends
  refine ⟨⟨mark, sign, digits, isMark, areDigits, nonempty⟩, ?_⟩
  rw [signed, parts, Exponent.chars, List.cons_append, List.append_assoc]

theorem exists_exponent_of_readAfterFraction
    (h : readAfterFraction negative significand power cs = .ok (n, rest)) :
    ∃ exponent : Option Exponent, cs = exponentChars exponent ++ rest := by
  unfold readAfterFraction at h
  split at h
  · obtain ⟨exponent, parts⟩ := exists_exponent_of_readExponent h (.inl rfl)
    exact ⟨some exponent, parts⟩
  · obtain ⟨exponent, parts⟩ := exists_exponent_of_readExponent h (.inr rfl)
    exact ⟨some exponent, parts⟩
  · exact ⟨none, eq_of_float h⟩

theorem exists_fraction_of_readFraction
    (h : readFraction negative significand power cs = .ok (n, rest)) :
    ∃ fraction exponent, AreDigits fraction ∧
      '.' :: cs = pointed fraction ++ exponentChars exponent ++ rest := by
  have parts := (List.takeWhile_append_dropWhile (p := Char.isDigit) (l := cs)).symm
  have areDigits := Text.areDigits_takeWhile cs
  unfold readFraction at h
  dsimp only at h
  generalize cs.takeWhile Char.isDigit = digits at h parts areDigits
  split at h
  · cases h
  · cases h
  · next digit more =>
    obtain ⟨exponent, after⟩ := exists_exponent_of_readAfterFraction h
    refine ⟨digit :: more, exponent, areDigits, ?_⟩
    rw [parts, after, pointed]
    simp

theorem exists_of_readNumber (h : readNumber negative cs = .ok (n, rest)) :
    ∃ l : Literal, l.negative = negative ∧ cs = l.unsigned ++ rest := by
  have parts := (List.takeWhile_append_dropWhile (p := Char.isDigit) (l := cs)).symm
  have areDigits := Text.areDigits_takeWhile cs
  unfold readNumber at h
  dsimp only at h
  generalize cs.takeWhile Char.isDigit = whole at h parts areDigits
  generalize cs.dropWhile Char.isDigit = tail at h parts
  suffices tailed : whole ≠ [] ∧ (whole.head? = some '0' → whole = ['0']) ∧
      ∃ fraction exponent, AreDigits fraction ∧
        tail = pointed fraction ++ exponentChars exponent ++ rest by
    obtain ⟨nonempty, noLeadingZero, fraction, exponent, fractionDigits, rfl⟩ := tailed
    refine ⟨.ofParts negative whole fraction exponent
      ⟨areDigits, nonempty, noLeadingZero, fractionDigits⟩, rfl, ?_⟩
    rw [parts, unsigned, Literal.tail, ← List.append_assoc]
    rfl
  split at h
  · cases h
  · cases h
  · cases h
  · next _ digit more single =>
    refine ⟨List.cons_ne_nil _ _, ?_, ?_⟩
    · intro zero
      obtain rfl := Option.some.inj zero
      cases more with
      | nil => rfl
      | cons next others => exact (single next others rfl rfl).elim
    · split at h
      · exact exists_fraction_of_readFraction h
      · obtain ⟨exponent, parts⟩ := exists_exponent_of_readExponent h (.inl rfl)
        exact ⟨[], some exponent, List.forall_mem_nil _, parts⟩
      · obtain ⟨exponent, parts⟩ := exists_exponent_of_readExponent h (.inr rfl)
        exact ⟨[], some exponent, List.forall_mem_nil _, parts⟩
      · refine ⟨[], none, List.forall_mem_nil _, ?_⟩
        split at h
        · cases h
          rfl
        · exact eq_of_float h

end numbers

/-! ## Values in JSON -/

/-- The text consists of characters that may stand between the parts of a value. -/
def AreGaps (cs : List Char) : Prop :=
  ∀ c ∈ cs, isGap c = true

theorem exists_of_readValueWith {inner : Option ItemReader} {cs rest : List Char} {n : Number}
    (h : readValueWith inner cs = .ok (.num n, rest)) :
    ∃ before, ∃ l : Literal, AreGaps before ∧ cs = before ++ (l.chars ++ rest) := by
  have parts := (List.takeWhile_append_dropWhile (p := isGap) (l := cs)).symm
  have gaps : AreGaps (cs.takeWhile isGap) := fun _ => List.mem_takeWhile_imp
  suffices value : ∃ l : Literal, skipGaps cs = l.chars ++ rest by
    obtain ⟨l, body⟩ := value
    exact ⟨_, l, gaps, by rw [← body]; exact parts⟩
  clear parts gaps
  unfold readValueWith at h
  generalize skipGaps cs = body at h
  split at h
  · cases h
  · cases eq_of_readWord h
  · cases eq_of_readWord h
  · cases eq_of_readWord h
  · obtain ⟨_, -, h⟩ := Json.bind_eq_ok_iff.1 h
    cases h
  · obtain ⟨_, hn, h⟩ := Json.bind_eq_ok_iff.1 h
    cases h
    obtain ⟨l, negative, unsigned⟩ := exists_of_readNumber hn
    exact ⟨l, by rw [chars, if_pos negative, unsigned, List.cons_append]⟩
  · split at h
    · cases h
    · obtain ⟨_, -, h⟩ := Json.bind_eq_ok_iff.1 h
      cases h
  · split at h
    · cases h
    · obtain ⟨_, -, h⟩ := Json.bind_eq_ok_iff.1 h
      cases h
  · split_ifs at h
    · obtain ⟨_, hn, h⟩ := Json.bind_eq_ok_iff.1 h
      cases h
      obtain ⟨l, negative, unsigned⟩ := exists_of_readNumber hn
      exact ⟨l, by rw [chars, if_neg (by rw [negative]; exact Bool.false_ne_true), unsigned]⟩
    · cases h

/-- **A text that is read as a number is a literal**, with nothing but gaps around it. -/
theorem exists_of_parse {text : String} {n : Number} (h : Json.parse text = .ok (.num n)) :
    ∃ before after, ∃ l : Literal, AreGaps before ∧ AreGaps after ∧
      text.toList = before ++ (l.chars ++ after) := by
  unfold Json.parse at h
  split at h
  · next hread =>
    cases h
    obtain ⟨⟨value, rest⟩, hvalue, last⟩ := Json.bind_eq_ok_iff.1 hread
    obtain ⟨inner, room⟩ := readValue_eq levels
    rw [room] at hvalue
    dsimp only at last
    split at last
    · next nothing =>
      cases last
      obtain ⟨before, l, gaps, parts⟩ := exists_of_readValueWith hvalue
      exact ⟨before, rest, l, gaps, List.dropWhile_eq_nil_iff.1 nothing, parts⟩
    · cases last
  · cases h

/-! ## Numbers in YAML -/

theorem hexValue?_of_isGap {c : Char} (gap : isGap c = true) : Text.hexValue? c = none := by
  simp only [isGap, Bool.or_eq_true, beq_iff_eq] at gap
  rcases gap with ((rfl | rfl) | rfl) | rfl <;> decide

section gaps

variable {c : Char} (gap : isGap c = true) {cs : List Char}

include gap

theorem not_isDigit_of_isGap : ¬ c.isDigit = true := by
  intro digit
  have value := hexValue?_of_isGap gap
  rw [Text.hexValue?_of_isDigit digit] at value
  cases value

theorem mem_of_mem_cons {first : Char} (hc : c ∈ first :: cs) (h : isGap first = false) : c ∈ cs := by
  refine List.mem_of_ne_of_mem ?_ hc
  rintro rfl
  rw [gap] at h
  cases h

theorem number?_of_gap (base : Nat) (hc : c ∈ cs) : Text.number? base cs = none :=
  Text.number?_eq_none hc (by rw [hexValue?_of_isGap gap]; nofun)

theorem mem_splitSign (hc : c ∈ cs) : c ∈ (splitSign cs).2 := by
  unfold splitSign
  split
  · exact mem_of_mem_cons gap hc rfl
  · exact mem_of_mem_cons gap hc rfl
  · exact hc

theorem basedNumber?_of_gap (hc : c ∈ cs) : basedNumber? cs = none := by
  unfold basedNumber?
  split
  · exact number?_of_gap gap 16 (mem_of_mem_cons gap (mem_of_mem_cons gap hc rfl) rfl)
  · exact number?_of_gap gap 8 (mem_of_mem_cons gap (mem_of_mem_cons gap hc rfl) rfl)
  · exact number?_of_gap gap 2 (mem_of_mem_cons gap (mem_of_mem_cons gap hc rfl) rfl)
  · rfl

theorem whole?_of_gap (hc : c ∈ cs) : whole? cs = none := by
  have body := mem_splitSign gap hc
  unfold whole?
  dsimp only
  rw [basedNumber?_of_gap gap body, number?_of_gap gap 10 body]
  dsimp only
  split_ifs <;> rfl

theorem signed?_of_gap (hc : c ∈ cs) : signed? cs = none := by
  unfold signed?
  split
  · rw [number?_of_gap gap 10 (mem_of_mem_cons gap hc rfl), Option.map_none]
  · rw [number?_of_gap gap 10 (mem_of_mem_cons gap hc rfl), Option.map_none]
  · rw [number?_of_gap gap 10 hc, Option.map_none]

theorem exponent?_of_gap (hc : c ∈ cs) : exponent? cs = none := by
  cases cs with
  | nil => cases hc
  | cons mark rest =>
    rw [exponent?]
    split_ifs with isMark
    · refine signed?_of_gap gap (mem_of_mem_cons gap hc ?_)
      rw [Bool.or_eq_true, beq_iff_eq, beq_iff_eq] at isMark
      rcases isMark with rfl | rfl <;> rfl
    · rfl

theorem mem_dropWhile_isDigit (hc : c ∈ cs) : c ∈ cs.dropWhile Char.isDigit := by
  rw [← List.takeWhile_append_dropWhile (p := Char.isDigit) (l := cs), List.mem_append] at hc
  exact hc.resolve_left fun front => not_isDigit_of_isGap gap (List.mem_takeWhile_imp front)

theorem mem_splitFraction (hc : c ∈ cs) : c ∈ (splitFraction cs).2 := by
  unfold splitFraction
  split
  · exact mem_dropWhile_isDigit gap (mem_of_mem_cons gap hc rfl)
  · exact hc

theorem mem_splitMinus (hc : c ∈ cs) : c ∈ (splitMinus cs).2 := by
  unfold splitMinus
  split
  · exact mem_of_mem_cons gap hc rfl
  · exact hc

theorem decimal?_of_gap (hc : c ∈ cs) : decimal? cs = none := by
  have body := mem_dropWhile_isDigit gap (mem_splitMinus gap hc)
  have exponent := exponent?_of_gap gap (mem_splitFraction gap body)
  unfold decimal?
  dsimp only
  rw [exponent]
  generalize Text.number? 10 _ = significand
  cases significand <;> rfl

variable {s : String} (hc : c ∈ s.toList)

include hc

theorem contains_of_gap {words : List String} (h : ∀ word ∈ words, word.toList.any isGap = false) :
    words.contains s = false := by
  rw [Bool.eq_false_iff, ne_eq, List.contains_iff_mem]
  intro word
  have spread : s.toList.any isGap = true := List.any_eq_true.2 ⟨c, hc, gap⟩
  rw [h s word] at spread
  cases spread

theorem float?_of_gap : float? s = none := by
  unfold float?
  rw [contains_of_gap gap hc (by decide), contains_of_gap gap hc (by decide),
    contains_of_gap gap hc (by decide)]
  simp only [Bool.false_eq_true, if_false, Option.map_eq_none_iff]
  split
  · rfl
  · next rest signed =>
    rw [signed] at hc
    exact decimal?_of_gap gap (mem_of_mem_cons gap hc rfl)
  · exact decimal?_of_gap gap hc

end gaps

theorem not_isGap_of_plainValue? {s : String} {n : Yaml.Number}
    (h : plainValue? s = some (.num n)) {c : Char} (hc : c ∈ s.toList) : ¬ isGap c = true := by
  intro gap
  unfold plainValue? at h
  rw [whole?_of_gap gap hc, float?_of_gap gap hc] at h
  split at h
  · cases h
  · split at h
    · cases h
    · dsimp only [Option.map_none] at h
      split_ifs at h <;> cases h

/-- **A text that is a number for both readers is a literal.** -/
theorem exists_text_eq {t : String} {n : Yaml.Number} {z : Number}
    (written : plainValue? t = some (.num n)) (read : Json.parse t = .ok (.num z)) :
    ∃ l : Literal, l.text = t := by
  obtain ⟨before, after, l, gaps, gaps', parts⟩ := exists_of_parse read
  have none : ∀ {cs}, AreGaps cs → (∀ c ∈ cs, c ∈ t.toList) → cs = [] := by
    intro cs gaps inside
    exact List.eq_nil_iff_forall_not_mem.2 fun c hc =>
      not_isGap_of_plainValue? written (inside c hc) (gaps c hc)
  obtain rfl := none gaps fun c hc => by rw [parts]; simp [hc]
  obtain rfl := none gaps' fun c hc => by rw [parts]; simp [hc]
  refine ⟨l, ?_⟩
  rw [List.nil_append, List.append_nil] at parts
  rw [text, ← parts, String.ofList_toList]

end PrivacyMapping.Literal
