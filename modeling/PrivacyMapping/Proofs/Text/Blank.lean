import PrivacyMapping.Text.Blank
import Mathlib.Data.List.DropRight

/-!
# What trimming leaves

A text is white space around an inner text that neither begins nor ends with white space. Trimming
leaves this inner text, and as there is only one such inner text, that says what trimming does
(`trim_eq_iff`). A text of white space only has the empty one inside.
-/

namespace PrivacyMapping.Text

/-- `inner` stands between white space in the characters, and has none at its own ends. -/
structure Surrounds (cs inner : List Char) : Prop where
  around : ∃ front back, cs = front ++ inner ++ back ∧ (∀ c ∈ front, isWhiteSpace c = true) ∧
    ∀ c ∈ back, isWhiteSpace c = true
  first : ∀ c, inner.head? = some c → isWhiteSpace c = false
  last : ∀ c, inner.getLast? = some c → isWhiteSpace c = false

/-! ## One inner text -/

theorem dropWhile_of_front {front rest : List Char} (blank : ∀ c ∈ front, isWhiteSpace c = true)
    (first : ∀ c, rest.head? = some c → isWhiteSpace c = false) :
    (front ++ rest).dropWhile isWhiteSpace = rest := by
  rw [List.dropWhile_append_of_pos blank]
  cases rest with
  | nil => rfl
  | cons c rest => rw [List.dropWhile_cons_of_neg (by simp [first c rfl])]

theorem Surrounds.trimChars_eq {cs inner : List Char} (h : Surrounds cs inner) :
    trimChars cs = inner := by
  obtain ⟨⟨front, back, rfl, hfront, hback⟩, first, last⟩ := h
  have hreverse : ∀ c ∈ back.reverse, isWhiteSpace c = true := by
    intro c hc
    exact hback c (List.mem_reverse.1 hc)
  unfold trimChars
  cases inner with
  | nil =>
    have blank : ∀ c ∈ front ++ [] ++ back, isWhiteSpace c = true := by
      intro c hc
      rw [List.append_nil] at hc
      rcases List.mem_append.1 hc with hc | hc
      · exact hfront c hc
      · exact hback c hc
    rw [List.dropWhile_eq_nil_iff.2 blank]
    rfl
  | cons c inner =>
    -- the first character of the inner text stops the walk from the front, and its last one that from
    -- the back
    have stops : ∀ d, ((c :: inner) ++ back).head? = some d → isWhiteSpace d = false := first
    have stopsBack : ∀ d, (c :: inner).reverse.head? = some d → isWhiteSpace d = false := by
      intro d hd
      rw [List.head?_reverse] at hd
      exact last d hd
    rw [List.append_assoc, dropWhile_of_front hfront stops, List.reverse_append,
      dropWhile_of_front hreverse stopsBack, List.reverse_reverse]

theorem surrounds_trimChars (cs : List Char) : Surrounds cs (trimChars cs) := by
  have trimmed : trimChars cs = (cs.dropWhile isWhiteSpace).rdropWhile isWhiteSpace := rfl
  rw [trimmed]
  generalize hrest : cs.dropWhile isWhiteSpace = rest
  refine ⟨⟨cs.takeWhile isWhiteSpace, rest.rtakeWhile isWhiteSpace, ?_, ?_, ?_⟩, ?_, ?_⟩
  · rw [List.append_assoc, List.rdropWhile_append_rtakeWhile, ← hrest,
      List.takeWhile_append_dropWhile]
  · intro c hc
    exact List.mem_takeWhile_imp hc
  · intro c hc
    exact List.mem_rtakeWhile_imp hc
  · intro c hc
    -- the inner text begins as the rest does
    have hhead : rest.head? = some c := by
      rw [← List.singleton_prefix_iff_head?_eq_some] at hc ⊢
      exact hc.trans (List.rdropWhile_prefix isWhiteSpace rest)
    have stop := List.head?_dropWhile_not isWhiteSpace cs
    rw [hrest, hhead] at stop
    simpa using stop
  · intro c hc
    obtain ⟨hne, rfl⟩ := List.mem_getLast?_eq_getLast hc
    simpa using List.rdropWhile_last_not isWhiteSpace rest hne

/-! ## Texts -/

/-- `inner` is what is left of the text without the white space at its ends. -/
def Trims (text inner : String) : Prop :=
  Surrounds text.toList inner.toList

/-- Trimming leaves the inner text. -/
theorem trim_eq_iff {text inner : String} : trim text = inner ↔ Trims text inner := by
  constructor
  · rintro rfl
    rw [Trims, trim, String.toList_ofList]
    exact surrounds_trimChars text.toList
  · intro h
    rw [trim, h.trimChars_eq, String.ofList_toList]

@[simp]
theorem trim_trim (s : String) : trim (trim s) = trim s := by
  obtain ⟨-, first, last⟩ : Trims s (trim s) := trim_eq_iff.1 rfl
  exact trim_eq_iff.2 ⟨⟨[], [], by simp⟩, first, last⟩

theorem trim_eq_empty_iff {s : String} : trim s = "" ↔ isBlank s = true := by
  rw [trim_eq_iff, isBlank, List.all_eq_true]
  constructor
  · rintro ⟨⟨front, back, split, hfront, hback⟩, -, -⟩ c hc
    rw [split, String.toList_empty, List.append_nil] at hc
    exact (List.mem_append.1 hc).elim (hfront c) (hback c)
  · intro blank
    exact ⟨⟨s.toList, [], by simp, blank, by simp⟩, by simp, by simp⟩

end PrivacyMapping.Text
