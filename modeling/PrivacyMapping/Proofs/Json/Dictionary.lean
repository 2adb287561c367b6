import PrivacyMapping.Json.Format
import PrivacyMapping.Proofs.Entries
import PrivacyMapping.Proofs.Text.SortedSet
import Mathlib.Data.List.Perm.Basic

/-!
# Dictionaries

An object of strings is held as a dictionary in the order of its keys. Where no key stands twice the
dictionary has the entries of the object, put in order, so that it answers as the object does and does
not show in which order the members were listed.
-/

namespace PrivacyMapping

namespace Entries

variable {α : Type}

/-! ## The same entries in another order -/

theorem perm_keys {entries others : Entries α} (h : entries.Perm others) :
    entries.keys.Perm others.keys :=
  h.map _

theorem get?_of_perm {entries others : Entries α} (distinct : entries.keys.Nodup)
    (h : entries.Perm others) (key : String) : entries.get? key = others.get? key := by
  cases found : others.get? key with
  | none =>
    rw [get?_eq_none_iff] at found ⊢
    exact fun hkey => found ((perm_keys h).mem_iff.1 hkey)
  | some value => exact get?_eq_some_of_mem distinct (h.mem_iff.2 (mem_of_get?_eq_some found))

theorem eq_of_perm {entries others : Entries α} (increasing : entries.keys.Pairwise (· < ·))
    (increasing' : others.keys.Pairwise (· < ·)) (h : entries.Perm others) : entries = others := by
  refine h.eq_of_pairwise (fun first second _ _ below above => ?_) (List.pairwise_map.1 increasing)
    (List.pairwise_map.1 increasing')
  exact absurd above (lt_asymm below)

/-! ## Insertion in the order of the keys -/

theorem keys_insertSorted (entries : Entries α) (key : String) (value : α) :
    (entries.insertSorted key value).keys = Text.insertSorted key entries.keys := by
  induction entries with
  | nil => rfl
  | cons pair rest ih =>
    have hkeys : keys (pair :: rest) = pair.1 :: keys rest := rfl
    rw [insertSorted, hkeys, Text.insertSorted]
    by_cases before : key < pair.1
    · simp only [before, if_true]
      rfl
    · simp only [before, if_false, eq_comm (a := pair.1)]
      split_ifs with same
      · rw [← same]
        rfl
      · rw [← ih]
        rfl

theorem perm_insertSorted {entries : Entries α} {key : String} (absent : key ∉ entries.keys)
    (value : α) : (entries.insertSorted key value).Perm ((key, value) :: entries) := by
  induction entries with
  | nil => exact .refl _
  | cons pair rest ih =>
    obtain ⟨differs, hrest⟩ := not_or.1 (mt List.mem_cons.2 absent)
    rw [insertSorted]
    split_ifs with before same
    · exact .refl _
    · exact absurd same.symm differs
    · exact ((ih hrest).cons pair).trans (.swap _ _ _)

/-- Pairs put in one after the other, each in the order of the keys. -/
def insertSortedAll (entries pairs : Entries α) : Entries α :=
  pairs.foldl (fun acc pair => acc.insertSorted pair.1 pair.2) entries

theorem pairwise_keys_insertSortedAll {entries : Entries α} (increasing : entries.keys.Pairwise (· < ·))
    (pairs : Entries α) : (entries.insertSortedAll pairs).keys.Pairwise (· < ·) := by
  induction pairs generalizing entries with
  | nil => exact increasing
  | cons pair rest ih =>
    refine @ih (entries.insertSorted pair.1 pair.2) ?_
    rw [keys_insertSorted]
    exact Text.pairwise_insertSorted increasing pair.1

theorem perm_insertSortedAll {entries pairs : Entries α} (distinct : (keys (entries ++ pairs)).Nodup) :
    (entries.insertSortedAll pairs).Perm (entries ++ pairs) := by
  induction pairs generalizing entries with
  | nil => exact .of_eq (List.append_nil entries).symm
  | cons pair rest ih =>
    have absent : pair.1 ∉ entries.keys := by
      rw [keys, List.map_append, List.nodup_append] at distinct
      exact fun h => distinct.2.2 _ h _ List.mem_cons_self rfl
    have front : (entries.insertSorted pair.1 pair.2 ++ rest).Perm (entries ++ pair :: rest) :=
      ((perm_insertSorted absent pair.2).append_right rest).trans List.perm_middle.symm
    have fresh : (keys (entries.insertSorted pair.1 pair.2 ++ rest)).Nodup :=
      (perm_keys front).nodup_iff.2 distinct
    exact (ih fresh).trans front

end Entries

namespace Json

/-! ## Decoded dictionaries -/

/-- The members that hold the strings of a dictionary. -/
def stringMembers (texts : Entries String) : Entries Json :=
  texts.map fun text => (text.1, .str text.2)

theorem keys_stringMembers (texts : Entries String) :
    (stringMembers texts).keys = texts.keys := by
  rw [Entries.keys, stringMembers, List.map_map]
  rfl

theorem get?_stringMembers (texts : Entries String) (key : String) :
    (stringMembers texts).get? key = (texts.get? key).map .str :=
  Entries.get?_map Json.str texts key

theorem stringMembers_perm_iff {texts others : Entries String} :
    (stringMembers texts).Perm (stringMembers others) ↔ texts.Perm others := by
  refine List.map_perm_map_iff ?_
  intro text other same
  obtain ⟨hkey, hvalue⟩ := Prod.mk.inj same
  exact Prod.ext hkey (Json.str.inj hvalue)

theorem exists_of_readDictionary {members : Entries Json} {entries : Entries String} :
    readDictionary members = .ok entries →
      ∃ texts, members = stringMembers texts ∧ entries = Entries.insertSortedAll [] texts := by
  unfold readDictionary Entries.insertSortedAll
  generalize ([] : Entries String) = start
  induction members generalizing start with
  | nil =>
    intro h
    exact ⟨[], rfl, (Except.ok.inj h).symm⟩
  | cons member rest ih =>
    intro h
    rw [List.foldlM_cons] at h
    obtain ⟨key, value⟩ := member
    cases value with
    | str s =>
      obtain ⟨texts, rfl, rfl⟩ := ih _ h
      exact ⟨(key, s) :: texts, rfl, rfl⟩
    | _ => cases h

variable {members others : Entries Json} {entries entries' : Entries String}

theorem exists_of_decode_dictionary (distinct : members.keys.Nodup)
    (h : Format.dictionary.decode (.obj members) = .ok entries) :
    ∃ texts, members = stringMembers texts ∧ entries.Perm texts ∧
      entries.keys.Pairwise (· < ·) := by
  rw [Format.decode] at h
  obtain ⟨texts, rfl, rfl⟩ := exists_of_readDictionary h
  rw [keys_stringMembers] at distinct
  exact ⟨texts, rfl, Entries.perm_insertSortedAll distinct,
    Entries.pairwise_keys_insertSortedAll List.Pairwise.nil texts⟩

theorem nodup_keys_of_decode_dictionary (distinct : members.keys.Nodup)
    (h : Format.dictionary.decode (.obj members) = .ok entries) : entries.keys.Nodup := by
  obtain ⟨-, -, -, increasing⟩ := exists_of_decode_dictionary distinct h
  exact increasing.imp ne_of_lt

theorem get?_of_decode_dictionary (distinct : members.keys.Nodup)
    (h : Format.dictionary.decode (.obj members) = .ok entries) (key : String) :
    members.get? key = (entries.get? key).map .str := by
  obtain ⟨texts, rfl, perm, -⟩ := exists_of_decode_dictionary distinct h
  rw [keys_stringMembers] at distinct
  rw [get?_stringMembers, Entries.get?_of_perm distinct perm.symm]

theorem decode_dictionary_eq_of_perm (distinct : members.keys.Nodup) (same : members.Perm others)
    (h : Format.dictionary.decode (.obj members) = .ok entries)
    (h' : Format.dictionary.decode (.obj others) = .ok entries') : entries = entries' := by
  have distinct' : others.keys.Nodup := (Entries.perm_keys same).nodup_iff.1 distinct
  obtain ⟨texts, rfl, perm, increasing⟩ := exists_of_decode_dictionary distinct h
  obtain ⟨texts', rfl, perm', increasing'⟩ := exists_of_decode_dictionary distinct' h'
  exact Entries.eq_of_perm increasing increasing'
    ((perm.trans (stringMembers_perm_iff.1 same)).trans perm'.symm)

end Json

end PrivacyMapping
