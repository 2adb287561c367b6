import PrivacyMapping.Proofs.Json.WellFormed

/-!
# Values within limits

A text holds a value only within limits: arrays and objects lie in one another down to a number of
levels, and whole numbers have a greatest size. `Fits allowed room value` says that a well-formed value
keeps to them, whatever the limits are. It passes to the values inside a value, with one level less,
and inserting a member preserves it. Every well-formed value keeps to some limits (`exists_fits`).
-/

namespace PrivacyMapping.Json

/-! ## Numbers -/

mutual

/-- The numbers in a value, in their order. -/
def numbers : Json → List Number
  | .num n => [n]
  | .arr items => itemNumbers items
  | .obj members => memberNumbers members
  | _ => []

def itemNumbers : List Json → List Number
  | [] => []
  | item :: rest => numbers item ++ itemNumbers rest

def memberNumbers : List (String × Json) → List Number
  | [] => []
  | (_, value) :: rest => numbers value ++ memberNumbers rest

end

theorem itemNumbers_eq_flatMap (items : List Json) : itemNumbers items = items.flatMap numbers := by
  induction items with
  | nil => rfl
  | cons item rest ih => rw [itemNumbers, ih, List.flatMap_cons]

theorem memberNumbers_eq_flatMap (members : Entries Json) :
    memberNumbers members = members.flatMap fun member => numbers member.2 := by
  induction members with
  | nil => rfl
  | cons member rest ih => rw [memberNumbers, ih, List.flatMap_cons]

/-! ## Limits -/

/-- The value is well-formed, has at most `room` levels of arrays and objects, and holds only numbers
that are allowed. -/
inductive Fits (allowed : Number → Prop) : Nat → Json → Prop
  | null (room : Nat) : Fits allowed room .null
  | bool (room : Nat) (b : Bool) : Fits allowed room (.bool b)
  | num (room : Nat) {n : Number} (h : allowed n) : Fits allowed room (.num n)
  | str (room : Nat) (s : String) : Fits allowed room (.str s)
  | arr {room : Nat} {items : List Json} (inside : ∀ item ∈ items, Fits allowed room item) :
      Fits allowed (room + 1) (.arr items)
  | obj {room : Nat} {members : Entries Json} (distinct : members.keys.Nodup)
      (inside : ∀ member ∈ members, Fits allowed room member.2) : Fits allowed (room + 1) (.obj members)

namespace Fits

variable {allowed allowed' : Number → Prop} {room room' : Nat} {value : Json} {members : Entries Json}

theorem wellFormed (h : value.Fits allowed room) : value.WellFormed := by
  induction h with
  | null => exact .null
  | bool _ b => exact .bool b
  | @num _ n _ => exact .num n
  | str _ s => exact .str s
  | arr _ ih => exact .arr ih
  | obj distinct _ ih => exact .obj distinct ih

theorem mono (h : value.Fits allowed room) (numbers : ∀ n ∈ value.numbers, allowed n → allowed' n)
    (le : room ≤ room') : value.Fits allowed' room' := by
  induction h generalizing room' with
  | null => exact .null room'
  | bool _ b => exact .bool room' b
  | num _ hn => exact .num room' (numbers _ (List.mem_singleton_self _) hn)
  | str _ s => exact .str room' s
  | @arr room items _ ih =>
    obtain ⟨inner, rfl⟩ := Nat.exists_eq_succ_of_ne_zero (Nat.ne_zero_of_lt le)
    refine .arr fun item hitem => ih item hitem (fun n hn => numbers n ?_) (Nat.le_of_succ_le_succ le)
    rw [Json.numbers, itemNumbers_eq_flatMap]
    exact List.mem_flatMap.2 ⟨item, hitem, hn⟩
  | @obj room members distinct _ ih =>
    obtain ⟨inner, rfl⟩ := Nat.exists_eq_succ_of_ne_zero (Nat.ne_zero_of_lt le)
    refine .obj distinct fun member hmember =>
      ih member hmember (fun n hn => numbers n ?_) (Nat.le_of_succ_le_succ le)
    rw [Json.numbers, memberNumbers_eq_flatMap]
    exact List.mem_flatMap.2 ⟨member, hmember, hn⟩

theorem arr_iff {items : List Json} :
    (Json.arr items).Fits allowed (room + 1) ↔ ∀ item ∈ items, item.Fits allowed room := by
  constructor
  · intro h
    cases h with
    | arr inside => exact inside
  · exact .arr

theorem obj_iff :
    (Json.obj members).Fits allowed (room + 1) ↔
      members.keys.Nodup ∧ ∀ member ∈ members, member.2.Fits allowed room := by
  constructor
  · intro h
    cases h with
    | obj distinct inside => exact ⟨distinct, inside⟩
  · rintro ⟨distinct, inside⟩
    exact .obj distinct inside

theorem distinct (h : (Json.obj members).Fits allowed (room + 1)) : members.keys.Nodup :=
  (obj_iff.1 h).1

theorem obj_nil : (Json.obj []).Fits allowed (room + 1) :=
  .obj List.nodup_nil (by simp)

/-! ## Values inside -/

theorem of_get? {key : String} (h : (Json.obj members).Fits allowed (room + 1))
    (found : members.get? key = some value) : value.Fits allowed room :=
  (obj_iff.1 h).2 _ (Entries.mem_of_get?_eq_some found)

theorem of_getD {key : String} {default : Json} (h : (Json.obj members).Fits allowed (room + 1))
    (hdefault : default.Fits allowed room) (found : (members.get? key).getD default = value) :
    value.Fits allowed room := by
  subst found
  cases hvalue : members.get? key with
  | none => exact hdefault
  | some value => exact h.of_get? hvalue

/-! ## Members put in -/

theorem insert (h : (Json.obj members).Fits allowed (room + 1)) (key : String)
    (hvalue : value.Fits allowed room) :
    (Json.obj (Entries.insert members key value)).Fits allowed (room + 1) := by
  obtain ⟨distinct, inside⟩ := obj_iff.1 h
  refine .obj (Entries.nodup_keys_insert distinct key value) ?_
  intro member hmember
  rcases Entries.mem_of_mem_insert hmember with hold | rfl
  · exact inside member hold
  · exact hvalue

theorem insertAll {pairs : Entries Json} (h : (Json.obj members).Fits allowed (room + 1))
    (hpairs : ∀ pair ∈ pairs, pair.2.Fits allowed room) :
    (Json.obj (Entries.insertAll members pairs)).Fits allowed (room + 1) := by
  induction pairs generalizing members with
  | nil => exact h
  | cons pair rest ih =>
    have first := h.insert pair.1 (hpairs pair List.mem_cons_self)
    exact ih first fun other hother => hpairs other (List.mem_cons_of_mem _ hother)

end Fits

/-! ## Some limits -/

theorem exists_room {allowed : Number → Prop} {values : List Json}
    (h : ∀ value ∈ values, ∃ room, value.Fits allowed room) :
    ∃ room, ∀ value ∈ values, value.Fits allowed room := by
  induction values with
  | nil => exact ⟨0, by simp⟩
  | cons first rest ih =>
    obtain ⟨hfirst, hrest⟩ := List.forall_mem_cons.1 h
    obtain ⟨room, hroom⟩ := hfirst
    obtain ⟨room', hroom'⟩ := ih hrest
    refine ⟨max room room', List.forall_mem_cons.2 ⟨?_, fun value hvalue => ?_⟩⟩
    · exact hroom.mono (fun _ _ => id) (Nat.le_max_left _ _)
    · exact (hroom' value hvalue).mono (fun _ _ => id) (Nat.le_max_right _ _)

theorem WellFormed.exists_fits {value : Json} (h : value.WellFormed) :
    ∃ room, value.Fits (fun _ => True) room := by
  induction h with
  | null => exact ⟨0, .null 0⟩
  | bool b => exact ⟨0, .bool 0 b⟩
  | num n => exact ⟨0, .num 0 trivial⟩
  | str s => exact ⟨0, .str 0 s⟩
  | arr _ ih =>
    obtain ⟨room, inside⟩ := exists_room ih
    exact ⟨room + 1, .arr inside⟩
  | @obj members distinct _ ih =>
    have values : ∀ value ∈ members.map (·.2), ∃ room, value.Fits (fun _ => True) room :=
      List.forall_mem_map.2 ih
    obtain ⟨room, inside⟩ := exists_room values
    exact ⟨room + 1, .obj distinct fun member hmember => inside _ (List.mem_map_of_mem hmember)⟩

end PrivacyMapping.Json
