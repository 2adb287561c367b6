import PrivacyMapping.Proofs.Json.Equality
import PrivacyMapping.Proofs.Mapping
import Mathlib.Data.List.Induction

/-!
# First occurrences

What dropping repeated values comes to: `FirstOccurrences values kept` says that `kept` holds, in
their order, the values that equal no earlier one. It is kept up one value at a time: a value that
equals an earlier one changes nothing, and any other is put at the end.
-/

namespace PrivacyMapping

/-- No value before the place equals the one at the place. -/
def IsFirst (values : List Json) (place : Nat) : Prop :=
  ∀ value, values[place]? = some value →
    ∀ earlier < place, ∀ other, values[earlier]? = some other → ¬ other.Equal value

/-- `kept` has the values that equal no earlier one, in the order of `values`. -/
structure FirstOccurrences (values kept : List Json) : Prop where
  /-- The kept values stand at increasing places, with no equal value before them. -/
  firsts : ∃ places : List Nat, places.Pairwise (· < ·) ∧
    places.map (values[·]?) = kept.map some ∧ ∀ place ∈ places, IsFirst values place
  /-- No two kept values are equal. -/
  unequal : kept.Pairwise fun first second => ¬ first.Equal second
  /-- Every value equals one that is kept. -/
  complete : ∀ value ∈ values, ∃ first ∈ kept, first.Equal value

variable {values kept : List Json} {value : Json}

/-! ## Places -/

theorem IsFirst.append {place : Nat} (h : IsFirst values place) (inside : place < values.length)
    (more : List Json) : IsFirst (values ++ more) place := by
  intro found hfound earlier hearlier other hother
  rw [List.getElem?_append_left inside] at hfound
  rw [List.getElem?_append_left (hearlier.trans inside)] at hother
  exact h found hfound earlier hearlier other hother

theorem isFirst_length (fresh : ∀ other ∈ values, ¬ other.Equal value) :
    IsFirst (values ++ [value]) values.length := by
  intro found hfound earlier hearlier other hother
  obtain rfl : value = found := by simpa using hfound
  rw [List.getElem?_append_left hearlier] at hother
  exact fresh other (List.mem_of_getElem? hother)

theorem lt_length_of_places {places : List Nat} (h : places.map (values[·]?) = kept.map some)
    {place : Nat} (hplace : place ∈ places) : place < values.length := by
  have hmem : values[place]? ∈ kept.map some := h ▸ List.mem_map_of_mem hplace
  obtain ⟨found, -, hfound⟩ := List.mem_map.1 hmem
  exact (List.getElem?_eq_some_iff.1 hfound.symm).1

theorem map_places_append {places : List Nat} (h : places.map (values[·]?) = kept.map some)
    (more : List Json) : places.map ((values ++ more)[·]?) = kept.map some := by
  rw [← h]
  exact List.map_congr_left fun place hplace =>
    List.getElem?_append_left (lt_length_of_places h hplace)

/-! ## One more value -/

namespace FirstOccurrences

theorem nil : FirstOccurrences [] [] :=
  ⟨⟨[], List.Pairwise.nil, rfl, by simp⟩, List.Pairwise.nil, by simp⟩

theorem append_repeated (h : FirstOccurrences values kept) {first : Json} (hfirst : first ∈ kept)
    (equal : first.Equal value) : FirstOccurrences (values ++ [value]) kept := by
  obtain ⟨places, increasing, hplaces, least⟩ := h.firsts
  refine ⟨⟨places, increasing, map_places_append hplaces _, ?_⟩, h.unequal, ?_⟩
  · intro place hplace
    exact (least place hplace).append (lt_length_of_places hplaces hplace) _
  · intro other hother
    rcases List.mem_append.1 hother with hother | hother
    · exact h.complete other hother
    · obtain rfl := List.mem_singleton.1 hother
      exact ⟨first, hfirst, equal⟩

theorem append_fresh (h : FirstOccurrences values kept) (fresh : ∀ first ∈ kept, ¬ first.Equal value) :
    FirstOccurrences (values ++ [value]) (kept ++ [value]) := by
  obtain ⟨places, increasing, hplaces, least⟩ := h.firsts
  have bound : ∀ place ∈ places, place < values.length := fun _ => lt_length_of_places hplaces
  -- a value that equals an earlier one also equals the one that is kept for it
  have unseen : ∀ other ∈ values, ¬ other.Equal value := by
    intro other hother equal
    obtain ⟨first, hfirst, equal'⟩ := h.complete other hother
    exact fresh first hfirst (equal'.trans equal)
  refine ⟨⟨places ++ [values.length], ?_, ?_, ?_⟩, ?_, ?_⟩
  · refine List.pairwise_append.2 ⟨increasing, List.pairwise_singleton _ _, ?_⟩
    intro place hplace last hlast
    rw [List.mem_singleton.1 hlast]
    exact bound place hplace
  · rw [List.map_append, List.map_append, map_places_append hplaces]
    simp
  · intro place hplace
    rcases List.mem_append.1 hplace with hplace | hplace
    · exact (least place hplace).append (bound place hplace) _
    · rw [List.mem_singleton.1 hplace]
      exact isFirst_length unseen
  · refine List.pairwise_append.2 ⟨h.unequal, List.pairwise_singleton _ _, ?_⟩
    intro first hfirst last hlast
    rw [List.mem_singleton.1 hlast]
    exact fresh first hfirst
  · intro other hother
    rcases List.mem_append.1 hother with hother | hother
    · obtain ⟨first, hfirst, equal⟩ := h.complete other hother
      exact ⟨first, List.mem_append_left _ hfirst, equal⟩
    · obtain rfl := List.mem_singleton.1 hother
      exact ⟨other, List.mem_append_right _ List.mem_cons_self, .refl other⟩

end FirstOccurrences

/-! ## All values -/

theorem distinct_append (values : List Json) (value : Json) :
    distinct (values ++ [value]) =
      if (distinct values).any (·.same value) then distinct values
      else distinct values ++ [value] := by
  rw [distinct, List.foldl_append]
  rfl

theorem distinct_eq_nil_iff : distinct values = [] ↔ values = [] := by
  constructor
  · intro h
    induction values using List.reverseRecOn with
    | nil => rfl
    | append_singleton values value _ =>
      rw [distinct_append] at h
      split_ifs at h with hany
      · simp [h] at hany
      · simp at h
  · rintro rfl
    rfl

/-- **Dropping repeated values keeps the first occurrence of each.** -/
theorem firstOccurrences_distinct (h : ∀ value ∈ values, value.WellFormed) :
    FirstOccurrences values (distinct values) := by
  induction values using List.reverseRecOn with
  | nil => exact .nil
  | append_singleton values value ih =>
    have before : ∀ other ∈ values, other.WellFormed :=
      fun other hother => h other (List.mem_append_left _ hother)
    have hvalue : value.WellFormed := h value (List.mem_append_right _ List.mem_cons_self)
    have decided : ∀ first ∈ distinct values, first.same value = true ↔ first.Equal value :=
      fun first hfirst =>
        Json.same_iff_equal (before first ((distinct_sublist values).subset hfirst)) hvalue
    rw [distinct_append]
    split_ifs with hany
    · obtain ⟨first, hfirst, same⟩ := List.any_eq_true.1 hany
      exact (ih before).append_repeated hfirst ((decided first hfirst).1 same)
    · refine (ih before).append_fresh fun first hfirst equal => hany ?_
      exact List.any_eq_true.2 ⟨first, hfirst, (decided first hfirst).2 equal⟩

/-! ## More values behind -/

theorem distinct_isPrefix (values more : List Json) :
    distinct values <+: distinct (values ++ more) := by
  induction more using List.reverseRecOn with
  | nil => simp
  | append_singleton more value ih =>
    rw [← List.append_assoc, distinct_append]
    split_ifs
    · exact ih
    · exact ih.trans (List.prefix_append _ _)

theorem any_same_distinct (h : ∀ value ∈ values, value.WellFormed) (hvalue : value ∈ values) :
    (distinct values).any (·.same value) = true := by
  obtain ⟨first, hfirst, equal⟩ := (firstOccurrences_distinct h).complete value hvalue
  have hfirst' : first.WellFormed := h first ((distinct_sublist values).subset hfirst)
  have same := (Json.same_iff_equal hfirst' (h value hvalue)).2 equal
  exact List.any_eq_true.2 ⟨first, hfirst, same⟩

theorem distinct_append_of_subset (h : ∀ value ∈ values, value.WellFormed) {more : List Json}
    (known : ∀ value ∈ more, value ∈ values) : distinct (values ++ more) = distinct values := by
  induction more using List.reverseRecOn with
  | nil => rw [List.append_nil]
  | append_singleton more value ih =>
    have before := ih fun other hother => known other (List.mem_append_left _ hother)
    have last : value ∈ values := known value (List.mem_append_right _ List.mem_cons_self)
    rw [← List.append_assoc, distinct_append, before, if_pos (any_same_distinct h last)]

end PrivacyMapping
