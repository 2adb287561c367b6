import PrivacyMapping.Json.Basic
import PrivacyMapping.Proofs.Entries

/-!
# Well-formed values

In a document every object has each of its keys once. The type of values does not say so, as it holds
the members of an object as a list; `WellFormed` does. It passes to the values inside a value, and
inserting a member preserves it, so every value that is read or put together member by member is
well-formed.
-/

namespace PrivacyMapping.Json

/-- No object in the value has a key twice. -/
inductive WellFormed : Json → Prop
  | null : WellFormed .null
  | bool (b : Bool) : WellFormed (.bool b)
  | num (n : Number) : WellFormed (.num n)
  | str (s : String) : WellFormed (.str s)
  | arr {items : List Json} (inside : ∀ item ∈ items, WellFormed item) : WellFormed (.arr items)
  | obj {members : Entries Json} (distinct : members.keys.Nodup)
      (inside : ∀ member ∈ members, WellFormed member.2) : WellFormed (.obj members)

namespace WellFormed

attribute [simp] null bool num str

@[simp]
theorem arr_iff {items : List Json} :
    (Json.arr items).WellFormed ↔ ∀ item ∈ items, item.WellFormed := by
  constructor
  · intro h
    cases h with
    | arr inside => exact inside
  · exact .arr

@[simp]
theorem obj_iff {members : Entries Json} :
    (Json.obj members).WellFormed ↔
      members.keys.Nodup ∧ ∀ member ∈ members, member.2.WellFormed := by
  constructor
  · intro h
    cases h with
    | obj distinct inside => exact ⟨distinct, inside⟩
  · rintro ⟨distinct, inside⟩
    exact .obj distinct inside

/-! ## Values inside -/

theorem of_get?_entries {members : Entries Json} {key : String} {value : Json}
    (h : (Json.obj members).WellFormed) (found : members.get? key = some value) :
    value.WellFormed :=
  (obj_iff.1 h).2 _ (Entries.mem_of_get?_eq_some found)

theorem of_get? {object value : Json} {key : String} (h : object.WellFormed)
    (found : object.get? key = some value) : value.WellFormed := by
  cases object with
  | obj members => exact of_get?_entries h found
  | _ => simp [Json.get?] at found

theorem of_getD {members : Entries Json} {key : String} {default value : Json}
    (h : (Json.obj members).WellFormed) (hdefault : default.WellFormed)
    (found : (members.get? key).getD default = value) : value.WellFormed := by
  subst found
  cases hvalue : members.get? key with
  | none => exact hdefault
  | some value => exact h.of_get?_entries hvalue

/-! ## Members put in -/

theorem insert {members : Entries Json} (h : (Json.obj members).WellFormed) (key : String)
    {value : Json} (hvalue : value.WellFormed) :
    (Json.obj (Entries.insert members key value)).WellFormed := by
  obtain ⟨distinct, inside⟩ := obj_iff.1 h
  refine .obj (Entries.nodup_keys_insert distinct key value) ?_
  intro member hmember
  rcases Entries.mem_of_mem_insert hmember with hold | rfl
  · exact inside member hold
  · exact hvalue

end WellFormed

end PrivacyMapping.Json
