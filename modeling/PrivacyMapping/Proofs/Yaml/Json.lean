import PrivacyMapping.Yaml.Json
import PrivacyMapping.Proofs.Json.WellFormed

/-!
# What YAML values become

Keys of a mapping may become the same text although they differ, as `1` and `"1"` do. Their pairs fall
together, so the JSON value of a YAML value has no key twice.
-/

namespace PrivacyMapping.Yaml

theorem Number.wellFormed_toJson (n : Number) : n.toJson.WellFormed := by
  cases n with
  | int n => exact .num _
  | float x =>
    rw [Number.toJson]
    split <;> exact .num _
  | infinity negative => cases negative <;> exact .str _
  | nan => exact .str _

namespace Value

mutual

theorem wellFormed_toJson : (value : Value) → value.toJson.WellFormed
  | .null => .null
  | .bool b => .bool b
  | .num n => n.wellFormed_toJson
  | .str s => .str s
  | .seq items => .arr (wellFormed_toJsonItems items)
  | .map pairs => wellFormed_toJsonPairs pairs (.obj List.nodup_nil (fun _ h => nomatch h))
  | .tagged _ value => wellFormed_toJson value

theorem wellFormed_toJsonItems : (items : List Value) → ∀ item ∈ toJsonItems items, item.WellFormed
  | [] => fun _ h => nomatch h
  | item :: rest =>
    List.forall_mem_cons.2 ⟨wellFormed_toJson item, wellFormed_toJsonItems rest⟩

theorem wellFormed_toJsonPairs {members : Entries PrivacyMapping.Json} :
    (pairs : List (Value × Value)) → (PrivacyMapping.Json.obj members).WellFormed →
      (PrivacyMapping.Json.obj (toJsonPairs members pairs)).WellFormed
  | [], h => h
  | (_, value) :: rest, h =>
    wellFormed_toJsonPairs rest (h.insert _ (wellFormed_toJson value))

end

end Value

theorem exists_parse_of_parseJson {text : String} {json : PrivacyMapping.Json}
    (h : parseJson text = .ok json) : ∃ value, parse text = .ok value ∧ value.toJson = json := by
  unfold parseJson at h
  cases hparse : parse text with
  | error e => rw [hparse] at h; cases h
  | ok value =>
    rw [hparse] at h
    exact ⟨value, rfl, Except.ok.inj h⟩

theorem wellFormed_of_parseJson {text : String} {json : PrivacyMapping.Json}
    (h : parseJson text = .ok json) : json.WellFormed := by
  obtain ⟨value, -, rfl⟩ := exists_parse_of_parseJson h
  exact value.wellFormed_toJson

/-! ## Members of what a mapping becomes -/

namespace Value

/-- The text that a key becomes. -/
def text (key : Value) : String :=
  keyText key.toJson

/-- The name of a pair is the text of its key: the words that are set apart are the JSON texts. -/
theorem nameOf_toJson (key : Value) : key.nameOf key.toJson = key.text := by
  cases key with
  | bool b => cases b <;> rfl
  | _ => rfl

/-- The value without the tags around it. -/
def untagged : Value → Value
  | .tagged _ value => value.untagged
  | value => value

/-- The value of the last pair whose key becomes a text. -/
def lastValue? (key : String) : List (Value × Value) → Option Value
  | [] => none
  | (name, value) :: rest => (lastValue? key rest).or (if name.text = key then some value else none)

/-- The value that a mapping, tagged or not, has under a text. -/
def entry? (value : Value) (key : String) : Option Value :=
  match value.untagged with
  | .map pairs => lastValue? key pairs
  | _ => none

theorem toJson_untagged : (value : Value) → value.untagged.toJson = value.toJson
  | .tagged _ value => toJson_untagged value
  | .null | .bool _ | .num _ | .str _ | .seq _ | .map _ => rfl

theorem get?_toJsonPairs (pairs : List (Value × Value)) (members : Entries PrivacyMapping.Json)
    (key : String) :
    (toJsonPairs members pairs).get? key =
      ((lastValue? key pairs).map toJson).or (members.get? key) := by
  induction pairs generalizing members with
  | nil => rfl
  | cons pair rest ih =>
    obtain ⟨name, value⟩ := pair
    rw [toJsonPairs, nameOf_toJson, ih, lastValue?, Option.map_or, Option.or_assoc]
    congr 1
    split_ifs with h
    · rw [h, Entries.get?_insert_self]
      rfl
    · rw [Entries.get?_insert_of_ne _ _ (Ne.symm h)]
      rfl

theorem get?_number (n : Number) (key : String) : n.toJson.get? key = none := by
  cases n with
  | float x =>
    rw [Number.toJson]
    cases wholeOf? x <;> rfl
  | infinity negative => cases negative <;> rfl
  | _ => rfl

theorem get?_toJson : (value : Value) → (key : String) →
    value.toJson.get? key = (value.entry? key).map toJson
  | .tagged _ value, key => get?_toJson value key
  | .map pairs, key => (get?_toJsonPairs pairs [] key).trans (Option.or_none)
  | .num n, key => get?_number n key
  | .null, _ | .bool _, _ | .str _, _ | .seq _, _ => rfl

theorem toJson_number_ne_obj (n : Number) (members : Entries PrivacyMapping.Json) :
    n.toJson ≠ .obj members := by
  cases n with
  | float x =>
    rw [Number.toJson]
    split <;> exact nofun
  | infinity negative => cases negative <;> exact nofun
  | _ => exact nofun

theorem exists_pairs_of_toJson {members : Entries PrivacyMapping.Json} :
    (value : Value) → value.toJson = .obj members → ∃ pairs, value.untagged = .map pairs
  | .tagged _ value, h => exists_pairs_of_toJson value h
  | .map pairs, _ => ⟨pairs, rfl⟩
  | .num n, h => absurd h (toJson_number_ne_obj n members)

theorem exists_pairs_of_get?_toJson {value : Value} {key : String}
    {members : Entries PrivacyMapping.Json} (h : value.toJson.get? key = some (.obj members)) :
    ∃ pairs, (value.entry? key).map (·.untagged) = some (.map pairs) := by
  rw [get?_toJson, Option.map_eq_some_iff] at h
  obtain ⟨entry, hentry, converted⟩ := h
  obtain ⟨pairs, hpairs⟩ := exists_pairs_of_toJson entry converted
  exact ⟨pairs, Option.map_eq_some_iff.2 ⟨entry, hentry, hpairs⟩⟩

theorem keys_toJsonPairs {members : Entries PrivacyMapping.Json} {front : List String}
    (h : members.keys = front.eraseDups) (pairs : List (Value × Value)) :
    (toJsonPairs members pairs).keys = (front ++ pairs.map (·.1.text)).eraseDups := by
  induction pairs generalizing members front with
  | nil => rw [toJsonPairs, h, List.map_nil, List.append_nil]
  | cons pair rest ih =>
    obtain ⟨name, value⟩ := pair
    have inserted : (members.insert name.text value.toJson).keys =
        (front ++ [name.text]).eraseDups := by
      rw [Entries.keys_insert, h, List.eraseDups_append]
      by_cases known : name.text ∈ front
      · simp [List.removeAll, known]
      · simp [List.removeAll, known, List.eraseDups_cons]
    rw [toJsonPairs, nameOf_toJson, List.map_cons, List.append_cons]
    exact ih inserted

end Value

end PrivacyMapping.Yaml
