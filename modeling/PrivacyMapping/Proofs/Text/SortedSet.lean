import PrivacyMapping.Text.SortedSet
import Mathlib.Data.List.Sort
import Mathlib.Data.String.Basic

/-!
# Members and order of sorted sets

A sorted set has the texts that were put together as its members, in strictly increasing order. As
an increasing list is determined by its members, these two facts say which list it is.
-/

namespace PrivacyMapping.Text

/-! ## One more text -/

theorem mem_insertSorted {text other : String} {texts : List String} :
    other ∈ insertSorted text texts ↔ other = text ∨ other ∈ texts := by
  induction texts with
  | nil => simp [insertSorted]
  | cons first rest ih =>
    rw [insertSorted]
    split
    · exact List.mem_cons
    · split
      · next hsame => simp [hsame]
      · rw [List.mem_cons, ih, List.mem_cons]
        exact or_left_comm

theorem pairwise_insertSorted {texts : List String} (increasing : texts.Pairwise (· < ·))
    (text : String) : (insertSorted text texts).Pairwise (· < ·) := by
  induction texts with
  | nil => exact List.pairwise_singleton _ text
  | cons first rest ih =>
    obtain ⟨below, hrest⟩ := List.pairwise_cons.1 increasing
    rw [insertSorted]
    split
    · next before =>
      refine List.pairwise_cons.2 ⟨?_, increasing⟩
      intro other hother
      rcases List.mem_cons.1 hother with rfl | hother
      · exact before
      · exact String.lt_trans before (below other hother)
    · next notBefore =>
      split
      · exact increasing
      · next differs =>
        refine List.pairwise_cons.2 ⟨?_, ih hrest⟩
        intro other hother
        rcases mem_insertSorted.1 hother with rfl | hother
        · exact lt_of_le_of_ne (not_lt.1 notBefore) (Ne.symm differs)
        · exact below other hother

/-! ## All texts -/

@[simp]
theorem mem_sortedSet {text : String} {texts : List String} :
    text ∈ sortedSet texts ↔ text ∈ texts := by
  induction texts with
  | nil => rfl
  | cons first rest ih =>
    have step : sortedSet (first :: rest) = insertSorted first (sortedSet rest) := rfl
    rw [step, mem_insertSorted, ih, List.mem_cons]

theorem pairwise_sortedSet (texts : List String) : (sortedSet texts).Pairwise (· < ·) := by
  induction texts with
  | nil => exact List.Pairwise.nil
  | cons first rest ih => exact pairwise_insertSorted ih first

theorem sortedSet_eq_iff {texts others : List String} :
    sortedSet texts = sortedSet others ↔ ∀ text, text ∈ texts ↔ text ∈ others := by
  constructor
  · intro same text
    rw [← mem_sortedSet, same, mem_sortedSet]
  · intro same
    apply (pairwise_sortedSet texts).eq_of_mem_iff (pairwise_sortedSet others)
    intro text
    rw [mem_sortedSet, mem_sortedSet, same text]

end PrivacyMapping.Text
