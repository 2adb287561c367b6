import PrivacyMapping.Proofs.Yaml.Json
import Mathlib.Logic.Relation

/-!
# Structure and tags

A sequence becomes the array of what its items become, and a mapping an object that gathers its
pairs by the texts of their keys (`Gathers`). Tags leave no trace: two values that differ only by
tags, on values or on keys and however deep, become the same JSON value. The step of that relation
is one tag put on at one place, and what one step preserves a chain of steps preserves.
-/

namespace PrivacyMapping.Yaml.Value

/-! ## Sequences and mappings -/

theorem toJsonItems_eq_map (items : List Value) : toJsonItems items = items.map toJson := by
  induction items with
  | nil => rfl
  | cons item rest ih => rw [toJsonItems, ih, List.map_cons]

/-- The member that a pair becomes. -/
def memberOf (pair : Value × Value) : String × PrivacyMapping.Json :=
  (pair.1.text, pair.2.toJson)

theorem toJsonPairs_eq_insertAll (members : Entries PrivacyMapping.Json)
    (pairs : List (Value × Value)) :
    toJsonPairs members pairs = members.insertAll (pairs.map memberOf) := by
  induction pairs generalizing members with
  | nil => rfl
  | cons pair rest ih =>
    obtain ⟨key, value⟩ := pair
    rw [toJsonPairs, nameOf_toJson, ih]
    rfl

theorem toJson_map (pairs : List (Value × Value)) :
    (Value.map pairs).toJson = .obj (Entries.insertAll [] (pairs.map memberOf)) := by
  rw [toJson, toJsonPairs_eq_insertAll]

theorem toJson_seq (items : List Value) : (Value.seq items).toJson = .arr (items.map toJson) := by
  rw [toJson, toJsonItems_eq_map]

theorem keyText_of_ne_str {value : PrivacyMapping.Json} (h : ∀ s, value ≠ .str s) :
    keyText value = value.compact := by
  cases value with
  | str s => exact absurd rfl (h s)
  | _ => rfl

theorem lastValue?_eq_none {key : String} {pairs : List (Value × Value)}
    (h : key ∉ pairs.map (·.1.text)) : lastValue? key pairs = none := by
  induction pairs with
  | nil => rfl
  | cons pair rest ih =>
    simp only [List.map_cons, List.mem_cons, not_or] at h
    rw [lastValue?, ih h.2, if_neg (Ne.symm h.1), Option.none_or]

theorem lastValue?_append_cons {front rest : List (Value × Value)} {key value : Value}
    (h : key.text ∉ rest.map (·.1.text)) :
    lastValue? key.text (front ++ (key, value) :: rest) = some value := by
  induction front with
  | nil => rw [List.nil_append, lastValue?, lastValue?_eq_none h, if_pos rfl, Option.none_or]
  | cons pair front ih => rw [List.cons_append, lastValue?, ih, Option.some_or]

/-! ## Gathering -/

/-- The members gather the pairs of a mapping by the texts of their keys. -/
structure Gathers (pairs : List (Value × Value)) (members : Entries PrivacyMapping.Json) :
    Prop where
  /-- Each text stands where it stands first. -/
  keys : members.keys = (pairs.map (·.1.text)).eraseDups
  distinct : members.keys.Nodup
  /-- The last pair of a text gives the value. -/
  last : ∀ front key value rest, pairs = front ++ (key, value) :: rest →
    key.text ∉ rest.map (·.1.text) → members.get? key.text = some value.toJson
  /-- No pair is lost exactly when no text stands twice. -/
  complete : members = pairs.map memberOf ↔ (pairs.map (·.1.text)).Nodup
  /-- As many members as pairs means the same. -/
  length : members.length = pairs.length ↔ (pairs.map (·.1.text)).Nodup

theorem keys_map_memberOf (pairs : List (Value × Value)) :
    Entries.keys (pairs.map memberOf) = pairs.map (·.1.text) := by
  rw [Entries.keys, List.map_map]
  rfl

theorem keys_toJson_map (pairs : List (Value × Value)) :
    (toJsonPairs [] pairs).keys = (pairs.map (·.1.text)).eraseDups := by
  have start : Entries.keys ([] : Entries PrivacyMapping.Json) = [].eraseDups := rfl
  rw [keys_toJsonPairs start, List.nil_append]

theorem nodup_keys_toJson_map (pairs : List (Value × Value)) : (toJsonPairs [] pairs).keys.Nodup :=
  (Json.WellFormed.obj_iff.1 (wellFormed_toJson (.map pairs))).1

theorem toJsonPairs_eq_map_iff (pairs : List (Value × Value)) :
    toJsonPairs [] pairs = pairs.map memberOf ↔ (pairs.map (·.1.text)).Nodup := by
  constructor
  · intro h
    have distinct := nodup_keys_toJson_map pairs
    rwa [h, keys_map_memberOf] at distinct
  · intro h
    rw [← keys_map_memberOf] at h
    rw [toJsonPairs_eq_insertAll]
    exact Entries.insertAll_eq_append h

theorem eraseDups_sublist (texts : List String) : texts.eraseDups.Sublist texts := by
  cases texts with
  | nil => exact .slnil
  | cons first rest =>
    rw [List.eraseDups_cons]
    exact ((eraseDups_sublist _).trans List.filter_sublist).cons_cons first
termination_by texts.length
decreasing_by exact Nat.lt_succ_of_le (List.length_filter_le _ _)

theorem gathers_toJsonPairs (pairs : List (Value × Value)) : Gathers pairs (toJsonPairs [] pairs) where
  keys := keys_toJson_map pairs
  distinct := nodup_keys_toJson_map pairs
  last := by
    rintro front key value rest rfl h
    rw [get?_toJsonPairs, lastValue?_append_cons h]
    rfl
  complete := toJsonPairs_eq_map_iff pairs
  length := by
    have keys := keys_toJson_map pairs
    constructor
    · intro h
      have same : (pairs.map (·.1.text)).eraseDups = pairs.map (·.1.text) := by
        refine (eraseDups_sublist _).eq_of_length ?_
        rw [← keys, Entries.keys, List.length_map, List.length_map, h]
      rw [← same, ← keys]
      exact nodup_keys_toJson_map pairs
    · intro h
      rw [(toJsonPairs_eq_map_iff pairs).2 h, List.length_map]

/-! ## Tags -/

/-- One tag is put on a value, or on a value or key inside it. -/
inductive Tagging : Value → Value → Prop
  | here (tag : String) (value : Value) : Tagging value (.tagged tag value)
  | under {x y : Value} (tag : String) (inside : Tagging x y) :
      Tagging (.tagged tag x) (.tagged tag y)
  | item {x y : Value} (front rest : List Value) (inside : Tagging x y) :
      Tagging (.seq (front ++ x :: rest)) (.seq (front ++ y :: rest))
  | key {x y : Value} (front rest : List (Value × Value)) (value : Value) (inside : Tagging x y) :
      Tagging (.map (front ++ (x, value) :: rest)) (.map (front ++ (y, value) :: rest))
  | value {x y : Value} (front rest : List (Value × Value)) (key : Value) (inside : Tagging x y) :
      Tagging (.map (front ++ (key, x) :: rest)) (.map (front ++ (key, y) :: rest))

/-- Tags put on and taken off turn one value into the other. -/
def SameButTags : Value → Value → Prop :=
  Relation.EqvGen Tagging

theorem Tagging.toJson_eq {x y : Value} (h : Tagging x y) : x.toJson = y.toJson := by
  induction h with
  | here tag value => rw [toJson]
  | under tag _ ih => rw [toJson, toJson, ih]
  | item front rest _ ih => simp only [toJson_seq, List.map_append, List.map_cons, ih]
  | key front rest value _ ih =>
    simp only [toJson_map, List.map_append, List.map_cons, memberOf, text, ih]
  | value front rest key _ ih =>
    simp only [toJson_map, List.map_append, List.map_cons, memberOf, ih]

theorem SameButTags.toJson_eq {x y : Value} (h : SameButTags x y) : x.toJson = y.toJson := by
  induction h with
  | rel x y step => exact step.toJson_eq
  | refl x => rfl
  | symm x y _ ih => exact ih.symm
  | trans x y z _ _ first second => exact first.trans second

/-- **Conversion follows the structure of a value and does not see its tags.** -/
theorem toJson_structural :
    (∀ value : Value, value.toJson.WellFormed) ∧
    (∀ items, (Value.seq items).toJson = .arr (items.map toJson)) ∧
    (∀ pairs, ∃ members, (Value.map pairs).toJson = .obj members ∧ Gathers pairs members) ∧
    (∀ key : Value, (∀ s, key = .str s ∨ key.toJson = .str s → key.text = s) ∧
      ((∀ s, key.toJson ≠ .str s) → key.text = key.toJson.compact)) ∧
    ∀ value other : Value, SameButTags value other → other.toJson = value.toJson := by
  refine ⟨wellFormed_toJson, toJson_seq, fun pairs => ?_, fun key => ⟨?_, keyText_of_ne_str⟩, ?_⟩
  · exact ⟨toJsonPairs [] pairs, rfl, gathers_toJsonPairs pairs⟩
  · rintro s (rfl | converted)
    · rfl
    · rw [text, converted]
      rfl
  · intro value other same
    exact same.toJson_eq.symm

/-- Three keys with the text `1`, one of them under a tag, and a tag inside a value. -/
def collidingPairs : List (Value × Value) :=
  [(.num (.int 1), .str "first"), (.str "1", .seq [.tagged "t" (.bool true)]),
    (.tagged "t" (.num (.int 1)), .null)]

/-- The same pairs without their tags. -/
def barePairs : List (Value × Value) :=
  [(.num (.int 1), .str "first"), (.str "1", .seq [.bool true]), (.num (.int 1), .null)]

theorem sameButTags_collidingPairs : SameButTags (.map collidingPairs) (.map barePairs) := by
  have key : Tagging (.map [(.num (.int 1), .str "first"), (.str "1", .seq [.tagged "t" (.bool true)]),
      (.num (.int 1), .null)]) (.map collidingPairs) :=
    .key (collidingPairs.take 2) [] .null (.here "t" (.num (.int 1)))
  have item : Tagging (.seq [.bool true]) (.seq [.tagged "t" (.bool true)]) :=
    .item [] [] (.here "t" (.bool true))
  have value : Tagging (.map barePairs) (.map [(.num (.int 1), .str "first"),
      (.str "1", .seq [.tagged "t" (.bool true)]), (.num (.int 1), .null)]) :=
    .value (barePairs.take 1) (barePairs.drop 2) (.str "1") item
  exact .symm _ _ (.trans _ _ _ (.rel _ _ value) (.rel _ _ key))

theorem toJson_structural_colliding_keys :
    SameButTags (.map collidingPairs) (.map barePairs) ∧
    (Value.map barePairs).toJson = (Value.map collidingPairs).toJson ∧
    (Value.map collidingPairs).toJson = .obj [("1", .null)] ∧
    ¬ (collidingPairs.map (·.1.text)).Nodup := by
  have texts : collidingPairs.map (·.1.text) = ["1", "1", "1"] := by decide +kernel
  refine ⟨sameButTags_collidingPairs, ?_, rfl, ?_⟩
  · exact toJson_structural.2.2.2.2 _ _ sameButTags_collidingPairs
  · rw [texts]
    decide

end PrivacyMapping.Yaml.Value
