import PrivacyMapping.Entries
import Mathlib.Data.List.Basic

/-!
# Edits of a dictionary

Lookup and insertion agree with membership as long as no key stands twice, which insertion
preserves. What a run of insertions comes to is said by `Overlays`, which one insertion preserves.

`Entries.insert` described from outside: `Edited key R before after` says that `after` is `before`
with one other value under `key`, in the place of its first entry or else at the end, and that all
other entries are where they were. The relation `R` between the old and the new value may itself be
an edit, so that edits far down in nested objects are described level by level.
-/

namespace PrivacyMapping.Entries

variable {α : Type}

/-! ## Lookup and insertion -/

theorem get?_eq_none_iff {entries : Entries α} {key : String} :
    entries.get? key = none ↔ key ∉ entries.keys := by
  induction entries with
  | nil => simp [keys]
  | cons pair rest ih =>
    rw [get?]
    split
    · next h => simp [keys, h]
    · next h => rw [ih]; simp [keys, Ne.symm h]

theorem mem_keys_iff {entries : Entries α} {key : String} :
    key ∈ entries.keys ↔ ∃ value, entries.get? key = some value := by
  rw [← not_iff_not, ← get?_eq_none_iff, Option.eq_none_iff_forall_ne_some, not_exists]

theorem insert_insert (entries : Entries α) (key : String) (first second : α) :
    (entries.insert key first).insert key second = entries.insert key second := by
  induction entries with
  | nil => simp [insert]
  | cons pair rest ih =>
    by_cases h : pair.1 = key
    · simp [insert, h]
    · simp [insert, h, ih]

theorem insert_eq_self {entries : Entries α} {key : String} {value : α}
    (h : entries.get? key = some value) : entries.insert key value = entries := by
  induction entries with
  | nil => simp at h
  | cons pair rest ih =>
    rw [get?] at h
    rw [insert]
    split_ifs at h ⊢ with hk
    · obtain rfl := hk
      obtain rfl := Option.some.inj h
      rfl
    · rw [ih h]

theorem mem_of_get?_eq_some {entries : Entries α} {key : String} {value : α}
    (h : entries.get? key = some value) : (key, value) ∈ entries := by
  induction entries with
  | nil => simp at h
  | cons pair rest ih =>
    rw [get?] at h
    split_ifs at h with hk
    · obtain rfl := hk
      obtain rfl := Option.some.inj h
      exact List.mem_cons_self
    · exact List.mem_cons_of_mem _ (ih h)

theorem get?_eq_some_of_mem {entries : Entries α} (distinct : entries.keys.Nodup) {key : String}
    {value : α} (h : (key, value) ∈ entries) : entries.get? key = some value := by
  induction entries with
  | nil => simp at h
  | cons pair rest ih =>
    obtain ⟨first, others⟩ := List.nodup_cons.1 distinct
    rw [get?]
    rcases List.mem_cons.1 h with rfl | hrest
    · rw [if_pos rfl]
    · have hne : pair.1 ≠ key := by
        rintro rfl
        exact first (List.mem_map.2 ⟨_, hrest, rfl⟩)
      rw [if_neg hne]
      exact ih others hrest

theorem get?_map {β : Type} (f : α → β) (entries : Entries α) (key : String) :
    get? (entries.map fun pair => (pair.1, f pair.2)) key = (entries.get? key).map f := by
  induction entries with
  | nil => rfl
  | cons pair rest ih =>
    rw [List.map_cons, get?, get?]
    split_ifs
    · rfl
    · exact ih

/-! ## Keys that stand once -/

theorem mem_of_mem_insert {entries : Entries α} {key : String} {value : α} {pair : String × α}
    (h : pair ∈ entries.insert key value) : pair ∈ entries ∨ pair = (key, value) := by
  induction entries with
  | nil => exact .inr (List.mem_singleton.1 h)
  | cons first rest ih =>
    rw [insert] at h
    split_ifs at h with hk
    · rcases List.mem_cons.1 h with rfl | hrest
      · exact .inr (by rw [hk])
      · exact .inl (List.mem_cons_of_mem _ hrest)
    · rcases List.mem_cons.1 h with rfl | hrest
      · exact .inl List.mem_cons_self
      · exact (ih hrest).imp_left (List.mem_cons_of_mem _)

theorem nodup_keys_insert {entries : Entries α} (distinct : entries.keys.Nodup) (key : String)
    (value : α) : (entries.insert key value).keys.Nodup := by
  rw [keys_insert]
  split_ifs with hkey
  · exact distinct
  · refine List.nodup_append.2 ⟨distinct, List.pairwise_singleton _ key, ?_⟩
    rintro other hother _ hsingle rfl
    exact hkey (List.mem_singleton.1 hsingle ▸ hother)

theorem insert_of_not_mem {entries : Entries α} {key : String} (h : key ∉ entries.keys) (value : α) :
    entries.insert key value = entries ++ [(key, value)] := by
  induction entries with
  | nil => rfl
  | cons pair rest ih =>
    obtain ⟨hne, hrest⟩ := not_or.1 (mt List.mem_cons.2 h)
    rw [insert, if_neg (Ne.symm hne), ih hrest, List.cons_append]

theorem insertAll_eq_append {entries pairs : Entries α} (h : (keys (entries ++ pairs)).Nodup) :
    entries.insertAll pairs = entries ++ pairs := by
  induction pairs generalizing entries with
  | nil => exact (List.append_nil entries).symm
  | cons pair rest ih =>
    have split : entries ++ pair :: rest = (entries ++ [pair]) ++ rest := by simp
    have fresh : pair.1 ∉ entries.keys := by
      rw [keys, List.map_append, List.nodup_append] at h
      intro hpair
      exact h.2.2 _ hpair _ List.mem_cons_self rfl
    have step : entries.insertAll (pair :: rest) = (entries.insert pair.1 pair.2).insertAll rest := rfl
    rw [step, insert_of_not_mem fresh, split]
    exact ih (split ▸ h)

/-! ## Pairs put in one after the other -/

theorem exists_last_of_mem_keys {pairs : Entries α} {key : String} (h : key ∈ keys pairs) :
    ∃ front value back, pairs = front ++ (key, value) :: back ∧ key ∉ keys back := by
  induction pairs with
  | nil => cases h
  | cons pair rest ih =>
    by_cases later : key ∈ keys rest
    · obtain ⟨front, value, back, rfl, last⟩ := ih later
      exact ⟨pair :: front, value, back, rfl, last⟩
    · obtain rfl := (List.mem_cons.1 h).resolve_right later
      exact ⟨[], pair.2, rest, rfl, later⟩

/-- The entries are those at the start with pairs put in one after the other: no key stands twice, the
keys come in the order of their first appearance, and each has the value of its last pair, or else its
value from the start. -/
structure Overlays (start pairs entries : Entries α) : Prop where
  distinct : entries.keys.Nodup
  inOrder : entries.keys.Pairwise fun first second =>
    (start.keys ++ pairs.keys).idxOf first < (start.keys ++ pairs.keys).idxOf second
  last : ∀ front key value back, pairs = front ++ (key, value) :: back → key ∉ keys back →
    entries.get? key = some value
  other : ∀ key, key ∉ pairs.keys → entries.get? key = start.get? key

namespace Overlays

variable {start pairs entries : Entries α}

theorem mem_keys_iff (h : Overlays start pairs entries) {key : String} :
    key ∈ entries.keys ↔ key ∈ start.keys ++ pairs.keys := by
  rw [List.mem_append]
  by_cases put : key ∈ pairs.keys
  · obtain ⟨front, value, back, split, last⟩ := exists_last_of_mem_keys put
    simp only [put, or_true, iff_true]
    exact Entries.mem_keys_iff.2 ⟨value, h.last front key value back split last⟩
  · rw [Entries.mem_keys_iff, h.other key put, ← Entries.mem_keys_iff]
    simp only [put, or_false]

protected theorem refl (distinct : start.keys.Nodup) : Overlays start [] start where
  distinct := distinct
  inOrder := by
    have nothing : keys ([] : Entries α) = [] := rfl
    rw [nothing, List.append_nil]
    refine List.pairwise_iff_getElem.2 fun i j hi hj below => ?_
    rwa [distinct.idxOf_getElem, distinct.idxOf_getElem]
  last front key value back split := by simp at split
  other _ _ := rfl

protected theorem nil : Overlays ([] : Entries α) [] [] :=
  .refl List.nodup_nil

theorem insert (h : Overlays start pairs entries) (key : String) (value : α) :
    Overlays start (pairs ++ [(key, value)]) (entries.insert key value) := by
  have put : keys (pairs ++ [(key, value)]) = pairs.keys ++ [key] := List.map_append
  constructor
  case distinct => exact nodup_keys_insert h.distinct key value
  case inOrder =>
    have kept : entries.keys.Pairwise fun first second =>
        (start.keys ++ pairs.keys ++ [key]).idxOf first <
          (start.keys ++ pairs.keys ++ [key]).idxOf second := by
      refine h.inOrder.imp_of_mem fun {first second} hfirst hsecond below => ?_
      rwa [List.idxOf_append_of_mem (h.mem_keys_iff.1 hfirst),
        List.idxOf_append_of_mem (h.mem_keys_iff.1 hsecond)]
    rw [put, ← List.append_assoc, keys_insert]
    split_ifs with known
    · exact kept
    · refine List.pairwise_append.2 ⟨kept, List.pairwise_singleton _ key, ?_⟩
      intro first hfirst last hlast
      rw [h.mem_keys_iff] at known hfirst
      rw [List.mem_singleton.1 hlast, List.idxOf_append_of_mem hfirst,
        List.idxOf_append_of_notMem known]
      exact Nat.lt_of_lt_of_le (List.idxOf_lt_length_of_mem hfirst) (Nat.le_add_right _ _)
  case last =>
    intro front other found back split last
    rcases List.eq_nil_or_concat' back with rfl | ⟨back, final, rfl⟩
    · obtain ⟨-, hpair⟩ := List.append_inj' split rfl
      cases hpair
      exact get?_insert_self entries key value
    · rw [← List.cons_append, ← List.append_assoc] at split
      obtain ⟨rfl, hpair⟩ := List.append_inj' split rfl
      cases hpair
      rw [keys, List.map_append, List.mem_append, not_or] at last
      have differs : other ≠ key := fun same => last.2 (List.mem_singleton.2 same)
      rw [get?_insert_of_ne entries value differs]
      exact h.last front other found back rfl last.1
  case other =>
    intro other absent
    rw [put, List.mem_append, not_or] at absent
    have differs : other ≠ key := fun same => absent.2 (List.mem_singleton.2 same)
    rw [get?_insert_of_ne entries value differs, h.other other absent.1]

theorem insertAll (h : Overlays start pairs entries) (more : Entries α) :
    Overlays start (pairs ++ more) (entries.insertAll more) := by
  induction more generalizing pairs entries with
  | nil => rwa [List.append_nil]
  | cons pair rest ih =>
    rw [List.append_cons]
    exact ih (h.insert pair.1 pair.2)

theorem get?_of_distinct (h : Overlays start pairs entries) (once : pairs.keys.Nodup) (key : String) :
    entries.get? key = (pairs.get? key).or (start.get? key) := by
  cases put : pairs.get? key with
  | none => exact h.other key (get?_eq_none_iff.1 put)
  | some value =>
    obtain ⟨front, back, rfl⟩ := List.append_of_mem (mem_of_get?_eq_some put)
    rw [keys, List.map_append, List.nodup_append] at once
    exact h.last front key value back rfl (List.nodup_cons.1 once.2.1).1

end Overlays

/-! ## One edit -/

/-- `after` is `before` with one other value under `key`, at the end if `key` is absent, where `R`
relates the value under `key` before the edit to the one after it. -/
inductive Edited (key : String) (R : Option α → α → Prop) : Entries α → Entries α → Prop
  | inPlace {front back : Entries α} {old new : α} (first : key ∉ keys front)
      (edit : R (some old) new) :
      Edited key R (front ++ (key, old) :: back) (front ++ (key, new) :: back)
  | atEnd {entries : Entries α} {new : α} (absent : key ∉ keys entries) (edit : R none new) :
      Edited key R entries (entries ++ [(key, new)])

variable {key : String} {R : Option α → α → Prop}

theorem Edited.cons {before after : Entries α} (pair : String × α) (hne : pair.1 ≠ key)
    (h : Edited key R before after) : Edited key R (pair :: before) (pair :: after) := by
  cases h with
  | @inPlace front back old new first edit =>
    have hfirst : key ∉ keys (pair :: front) := by
      simpa [keys, hne.symm] using first
    exact .inPlace hfirst edit
  | atEnd absent edit =>
    have habsent : key ∉ keys (pair :: before) := by
      simpa [keys, hne.symm] using absent
    exact .atEnd habsent edit

theorem edited_insert {entries : Entries α} {value : α} (h : R (entries.get? key) value) :
    Edited key R entries (entries.insert key value) := by
  induction entries with
  | nil => exact .atEnd (by simp [keys]) h
  | cons pair rest ih =>
    obtain ⟨k, old⟩ := pair
    rw [get?] at h
    rw [insert]
    split_ifs at h ⊢ with hk
    · subst hk
      have first : k ∉ keys ([] : Entries α) := by simp [keys]
      exact .inPlace first h
    · exact (ih h).cons (k, old) hk

end PrivacyMapping.Entries
