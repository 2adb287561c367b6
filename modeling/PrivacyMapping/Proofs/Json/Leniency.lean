import PrivacyMapping.Proofs.Json.Record

/-!
# What decoding passes over

Decoding asks for no member of an object, and passes over members that it has no use for. So a value
that can be decoded still can without any of its members (`Format.accepts_without`), and it is decoded
to the same result with more members, as long as no field that is read at their place has their key
(`Format.decode_addAll`). Both are shown for all formats at once, along the format.
-/

namespace PrivacyMapping.Json

/-! ## Places -/

/-- One step into a value: to the member of a key, or to the item of an index. -/
inductive Place where
  | member (key : String)
  | item (index : Nat)
  deriving DecidableEq

/-! ## Fewer members -/

mutual

/-- The value without the members that lie at dropped places, at any depth. -/
def without (dropped : List Place → Bool) : Json → Json
  | .arr items => .arr (withoutItems dropped 0 items)
  | .obj members => .obj (withoutMembers dropped members)
  | value => value

def withoutItems (dropped : List Place → Bool) (index : Nat) : List Json → List Json
  | [] => []
  | item :: rest =>
    without (fun path => dropped (.item index :: path)) item ::
      withoutItems dropped (index + 1) rest

def withoutMembers (dropped : List Place → Bool) : List (String × Json) → List (String × Json)
  | [] => []
  | (key, value) :: rest =>
    if dropped [.member key] then withoutMembers dropped rest
    else (key, without (fun path => dropped (.member key :: path)) value) ::
      withoutMembers dropped rest

end

theorem length_withoutItems (dropped : List Place → Bool) (index : Nat) (items : List Json) :
    (withoutItems dropped index items).length = items.length := by
  induction items generalizing index with
  | nil => rfl
  | cons item rest ih => rw [withoutItems, List.length_cons, List.length_cons, ih]

theorem exists_of_mem_withoutItems {dropped : List Place → Bool} {index : Nat} {items : List Json}
    {value : Json} (h : value ∈ withoutItems dropped index items) :
    ∃ item ∈ items, ∃ dropped', value = item.without dropped' := by
  induction items generalizing index with
  | nil => cases h
  | cons item rest ih =>
    rcases List.mem_cons.1 h with rfl | hrest
    · exact ⟨item, List.mem_cons_self, _, rfl⟩
    · obtain ⟨original, horiginal, rest⟩ := ih hrest
      exact ⟨original, List.mem_cons_of_mem _ horiginal, rest⟩

theorem exists_of_mem_withoutMembers {dropped : List Place → Bool} {members : Entries Json}
    {name : String} {value : Json} (h : (name, value) ∈ withoutMembers dropped members) :
    ∃ original, (name, original) ∈ members ∧ ∃ dropped', value = original.without dropped' := by
  induction members with
  | nil => cases h
  | cons member rest ih =>
    obtain ⟨key, original⟩ := member
    have later : (name, value) ∈ withoutMembers dropped rest →
        ∃ original', (name, original') ∈ (key, original) :: rest ∧
          ∃ dropped', value = original'.without dropped' := by
      intro hrest
      obtain ⟨original', horiginal, kept⟩ := ih hrest
      exact ⟨original', List.mem_cons_of_mem _ horiginal, kept⟩
    rw [withoutMembers] at h
    split_ifs at h with drop
    · exact later h
    · rcases List.mem_cons.1 h with same | hrest
      · obtain ⟨rfl, rfl⟩ := Prod.mk.inj same
        exact ⟨original, List.mem_cons_self, _, rfl⟩
      · exact later hrest

/-! ## What a format accepts -/

/-- The value can be decoded. -/
def Format.Accepts {α : Type} (format : Format α) (value : Json) : Prop :=
  ∃ a, format.decode value = .ok a

/-- The field of a key, if there is one, accepts the value. -/
def Fields.Accepts {ρ : Type} : Fields ρ → String → Json → Prop
  | .nil, _, _ => True
  | .cons key format _ rest, name, value =>
    if key = name then format.Accepts value else rest.Accepts name value

/-- The fields accept the items by position. -/
def Fields.AcceptsItems {ρ : Type} : Fields ρ → List Json → Prop
  | .nil, _ => True
  | .cons _ _ _ _, [] => True
  | .cons _ format _ rest, item :: items => format.Accepts item ∧ rest.AcceptsItems items

theorem exists_foldlM_iff {σ τ ε : Type} {step : σ → τ → Except ε σ} {Succeeds : τ → Prop}
    (h : ∀ state x, (∃ next, step state x = .ok next) ↔ Succeeds x) (xs : List τ) (state : σ) :
    (∃ last, xs.foldlM step state = .ok last) ↔ ∀ x ∈ xs, Succeeds x := by
  induction xs generalizing state with
  | nil => simp [pure, Except.pure]
  | cons x xs ih =>
    rw [List.forall_mem_cons, ← h state x, List.foldlM_cons]
    constructor
    · rintro ⟨last, hlast⟩
      obtain ⟨next, hnext, hrest⟩ := bind_eq_ok_iff.1 hlast
      exact ⟨⟨next, hnext⟩, (ih next).1 ⟨last, hrest⟩⟩
    · rintro ⟨⟨next, hnext⟩, hrest⟩
      obtain ⟨last, hlast⟩ := (ih next).2 hrest
      exact ⟨last, bind_eq_ok_iff.2 ⟨next, hnext, hlast⟩⟩

theorem accepts_optional_iff {α : Type} {format : Format α} {value : Json} :
    (Format.optional format).Accepts value ↔ value = .null ∨ format.Accepts value := by
  by_cases null : value = .null
  · subst null
    exact ⟨fun _ => .inl rfl, fun _ => ⟨none, rfl⟩⟩
  · simp [Format.Accepts, decode_optional_of_ne_null null, map_eq_ok_iff, null]

theorem accepts_list_iff {α : Type} {format : Format α} {items : List Json} :
    (Format.list format).Accepts (.arr items) ↔ ∀ item ∈ items, format.Accepts item := by
  constructor
  · rintro ⟨values, h⟩ item hitem
    exact exists_decode_of_mem h hitem
  · exact exists_decode_list

theorem accepts_dictionary_iff {members : Entries Json} :
    Format.dictionary.Accepts (.obj members) ↔ ∀ member ∈ members, ∃ s, member.2 = .str s := by
  refine exists_foldlM_iff (fun entries member => ?_) members []
  cases member.2 <;> simp

theorem Fields.exists_put_iff {name : String} {value : Json} : {ρ : Type} → (fields : Fields ρ) →
    (parts : ρ) → ((∃ after, fields.put name value parts = .ok after) ↔ fields.Accepts name value)
  | _, .nil, _ => by simp [Fields.put, Fields.Accepts]
  | _, .cons key format _ rest, (_, parts) => by
    rw [Fields.put, Fields.Accepts]
    split_ifs
    · simp [map_eq_ok_iff, Format.Accepts]
    · simp [map_eq_ok_iff, ← rest.exists_put_iff parts]

theorem Fields.exists_take_iff : {ρ : Type} → (fields : Fields ρ) → (items : List Json) →
    ((∃ parts, fields.take items = .ok parts) ↔ fields.AcceptsItems items)
  | _, .nil, items => by simp [Fields.take, Fields.AcceptsItems]
  | _, .cons _ _ _ _, [] => by simp [Fields.take, Fields.AcceptsItems]
  | _, .cons _ format _ rest, item :: items => by
    rw [Fields.AcceptsItems, ← rest.exists_take_iff items]
    simp [Prod.exists, Fields.take_cons_eq_ok_iff, Format.Accepts]

section record

variable {ρ α : Type} {name : String} {fields : Fields ρ} {tuple : Tuple ρ α}

theorem accepts_record_obj_iff {members : Entries Json} :
    (Format.record name fields tuple).Accepts (.obj members) ↔
      ∀ member ∈ members, fields.Accepts member.1 member.2 := by
  have puts : ∀ parts (member : String × Json),
      (∃ after, fields.put member.1 member.2 parts = .ok after) ↔
        fields.Accepts member.1 member.2 := fun parts _ => fields.exists_put_iff parts
  rw [← exists_foldlM_iff puts members fields.defaults]
  simp [Format.Accepts, Format.decode, map_eq_ok_iff]

theorem accepts_record_arr_iff {items : List Json} :
    (Format.record name fields tuple).Accepts (.arr items) ↔
      fields.AcceptsItems items ∧ items.length ≤ fields.keys.length := by
  rw [← fields.exists_take_iff]
  constructor
  · rintro ⟨a, h⟩
    obtain ⟨htake, fits⟩ := decode_record_arr_eq_ok_iff.1 h
    exact ⟨⟨_, htake⟩, fits⟩
  · rintro ⟨⟨parts, htake⟩, fits⟩
    refine ⟨tuple.make parts, decode_record_arr_eq_ok_iff.2 ⟨?_, fits⟩⟩
    rw [htake, tuple.parts_make]

end record

/-! ## Fewer members are accepted -/

mutual

/-- What a format accepts, it accepts without any of its members. -/
theorem Format.accepts_without : {α : Type} → (format : Format α) → {value : Json} →
    format.Accepts value → (dropped : List Place → Bool) → format.Accepts (value.without dropped)
  | _, .text, value, h, _ => by
    obtain ⟨text, h⟩ := h
    obtain rfl := decode_text_eq_ok_iff.1 h
    exact ⟨text, rfl⟩
  | _, .optional format, value, h, dropped => by
    rw [accepts_optional_iff] at h ⊢
    rcases h with rfl | h
    · exact .inl rfl
    · exact .inr (format.accepts_without h dropped)
  | _, .list format, .arr items, h, dropped => by
    rw [without, accepts_list_iff]
    intro value hvalue
    obtain ⟨item, hitem, dropped', rfl⟩ := exists_of_mem_withoutItems hvalue
    exact format.accepts_without (accepts_list_iff.1 h item hitem) dropped'
  | _, .dictionary, .obj members, h, dropped => by
    rw [without, accepts_dictionary_iff]
    rintro ⟨name, value⟩ hvalue
    obtain ⟨original, horiginal, dropped', rfl⟩ := exists_of_mem_withoutMembers hvalue
    obtain ⟨text, rfl⟩ := accepts_dictionary_iff.1 h _ horiginal
    exact ⟨text, rfl⟩
  | _, .record _ fields _, .obj members, h, dropped => by
    rw [without, accepts_record_obj_iff]
    rintro ⟨name, value⟩ hvalue
    obtain ⟨original, horiginal, dropped', rfl⟩ := exists_of_mem_withoutMembers hvalue
    exact fields.accepts_without (accepts_record_obj_iff.1 h _ horiginal) dropped'
  | _, .record _ fields _, .arr items, h, dropped => by
    rw [accepts_record_arr_iff] at h
    rw [without, accepts_record_arr_iff, length_withoutItems]
    exact ⟨fields.acceptsItems_without h.1 dropped 0, h.2⟩
  | _, .list _, .obj _, ⟨_, h⟩, _ => nomatch h
  | _, .dictionary, .arr _, ⟨_, h⟩, _ => nomatch h
  | _, _, .null, h, _ => h
  | _, _, .bool _, h, _ => h
  | _, _, .num _, h, _ => h
  | _, _, .str _, h, _ => h

theorem Fields.accepts_without : {ρ : Type} → (fields : Fields ρ) → {name : String} →
    {value : Json} → fields.Accepts name value → (dropped : List Place → Bool) →
      fields.Accepts name (value.without dropped)
  | _, .nil, _, _, _, _ => trivial
  | _, .cons key format _ rest, name, value, h, dropped => by
    rw [Fields.Accepts] at h ⊢
    split_ifs at h ⊢
    · exact format.accepts_without h dropped
    · exact rest.accepts_without h dropped

theorem Fields.acceptsItems_without : {ρ : Type} → (fields : Fields ρ) → {items : List Json} →
    fields.AcceptsItems items → (dropped : List Place → Bool) → (index : Nat) →
      fields.AcceptsItems (withoutItems dropped index items)
  | _, .nil, _, _, _, _ => trivial
  | _, .cons _ _ _ _, [], _, _, _ => trivial
  | _, .cons _ format _ rest, _ :: _, h, dropped, index =>
    ⟨format.accepts_without h.1 _, rest.acceptsItems_without h.2 dropped (index + 1)⟩

end

/-! ## More members -/

/-- A member to be added to the object at a path, and how many of its members are to stand in front. -/
structure Addition where
  path : List Place
  position : Nat
  key : String
  value : Json

namespace Addition

/-- The members with the new one among them, in the place of any that has its key. -/
def toMembers (addition : Addition) (members : Entries Json) : Entries Json :=
  let others := members.filter (·.1 ≠ addition.key)
  others.take addition.position ++ (addition.key, addition.value) :: others.drop addition.position

/-- The value with the new member in the object to which the path leads, if it leads to one. -/
def toValue (addition : Addition) : List Place → Json → Json
  | [], .obj members => .obj (addition.toMembers members)
  | .member name :: path, .obj members =>
    .obj (members.map fun member =>
      if member.1 = name then (name, addition.toValue path member.2) else member)
  | .item index :: path, .arr items => .arr (items.modify index (addition.toValue path))
  | _, value => value

end Addition

/-- The value with one member more. -/
def add (value : Json) (addition : Addition) : Json :=
  addition.toValue addition.path value

/-! ## Keys that mean something -/

mutual

/-- Whether a format reads the member of a key in an object at a path: the key is the key of a field of
the record that is read there, or the object there is a dictionary. -/
def Format.knows {α : Type} : Format α → List Place → String → Bool
  | .text, _, _ => false
  | .optional format, path, key => format.knows path key
  | .list format, .item _ :: path, key => format.knows path key
  | .list _, _, _ => false
  | .dictionary, path, _ => path.isEmpty
  | .record _ fields _, [], key => fields.keys.contains key
  | .record _ fields _, place :: path, key => fields.knows place path key

def Fields.knows {ρ : Type} : Fields ρ → Place → List Place → String → Bool
  | .nil, _, _, _ => false
  | .cons name format _ rest, .member field, path, key =>
    if name = field then format.knows path key else rest.knows (.member field) path key
  | .cons _ format _ _, .item 0, path, key => format.knows path key
  | .cons _ _ _ rest, .item (index + 1), path, key => rest.knows (.item index) path key

end

/-! ## More members are passed over -/

theorem Fields.put_of_not_mem {ρ : Type} {name : String} : (fields : Fields ρ) → name ∉ fields.keys →
    (value : Json) → (parts : ρ) → fields.put name value parts = .ok parts
  | .nil, _, _, _ => rfl
  | .cons _ _ _ rest, h, value, (_, parts) => by
    obtain ⟨hne, hrest⟩ := not_or.1 (mt List.mem_cons.2 h)
    rw [Fields.put, if_neg (Ne.symm hne), rest.put_of_not_mem hrest value parts]
    rfl

theorem Fields.foldlM_put_toMembers {ρ : Type} {fields : Fields ρ} {addition : Addition}
    (h : addition.key ∉ fields.keys) (members : Entries Json) (before : ρ) :
    (addition.toMembers members).foldlM (fun parts member => fields.put member.1 member.2 parts)
        before =
      members.foldlM (fun parts member => fields.put member.1 member.2 parts) before := by
  have passed : ∀ value parts, fields.put addition.key value parts = .ok parts :=
    fields.put_of_not_mem h
  have others : ∀ before, (members.filter (·.1 ≠ addition.key)).foldlM
      (fun parts member => fields.put member.1 member.2 parts) before =
        members.foldlM (fun parts member => fields.put member.1 member.2 parts) before := by
    induction members with
    | nil => exact fun _ => rfl
    | cons member rest ih =>
      intro before
      by_cases hkey : member.1 = addition.key
      · rw [List.filter_cons_of_neg (by simpa using hkey), List.foldlM_cons, hkey, passed]
        exact ih before
      · rw [List.filter_cons_of_pos (by simpa using hkey), List.foldlM_cons, List.foldlM_cons]
        exact congrArg (fields.put member.1 member.2 before >>= ·) (funext ih)
  rw [← others, ← List.take_append_drop addition.position (members.filter _), Addition.toMembers,
    List.foldlM_append, List.foldlM_append]
  simp only [List.foldlM_cons, passed]
  rfl

theorem foldlM_map_eq_ok {σ τ ε : Type} {step : σ → τ → Except ε σ} {change : τ → τ}
    (h : ∀ state x next, step state x = .ok next → step state (change x) = .ok next) {xs : List τ}
    {state last : σ} (hlast : xs.foldlM step state = .ok last) :
    (xs.map change).foldlM step state = .ok last := by
  induction xs generalizing state with
  | nil => exact hlast
  | cons x xs ih =>
    rw [List.foldlM_cons] at hlast
    obtain ⟨next, hnext, hrest⟩ := bind_eq_ok_iff.1 hlast
    rw [List.map_cons, List.foldlM_cons]
    exact bind_eq_ok_iff.2 ⟨next, h state x next hnext, ih hrest⟩

theorem forall₂_modify {α β : Type} {R : α → β → Prop} {change : α → α}
    (h : ∀ x y, R x y → R (change x) y) {xs : List α} {ys : List β} (hxs : xs.Forall₂ R ys)
    (index : Nat) : (xs.modify index change).Forall₂ R ys := by
  induction hxs generalizing index with
  | nil => simp
  | cons hxy hrest ih =>
    cases index with
    | zero => exact .cons (h _ _ hxy) hrest
    | succ index => exact .cons hxy (ih index)

namespace Addition

variable (addition : Addition)

theorem toValue_str (path : List Place) (s : String) : addition.toValue path (.str s) = .str s := by
  cases path with
  | nil => rfl
  | cons place path => cases place <;> rfl

theorem toValue_eq_null_iff {path : List Place} {value : Json} :
    addition.toValue path value = .null ↔ value = .null := by
  cases path with
  | nil => cases value <;> simp [toValue]
  | cons place path => cases place <;> cases value <;> simp [toValue]

end Addition

mutual

theorem Format.decode_toValue {addition : Addition} : {α : Type} → (format : Format α) →
    {value : Json} → {a : α} → format.decode value = .ok a → (path : List Place) →
      format.knows path addition.key = false →
        format.decode (addition.toValue path value) = .ok a
  | _, .text, value, a, h, path, _ => by
    obtain rfl := decode_text_eq_ok_iff.1 h
    rw [addition.toValue_str, h]
  | _, .optional format, value, a, h, path, unknown => by
    by_cases null : value = .null
    · rwa [null, (addition.toValue_eq_null_iff).2 rfl, ← null]
    · rw [decode_optional_of_ne_null null] at h
      obtain ⟨inner, hinner, rfl⟩ := map_eq_ok_iff.1 h
      rw [Format.knows] at unknown
      rw [decode_optional_of_ne_null (mt addition.toValue_eq_null_iff.1 null),
        format.decode_toValue hinner path unknown]
      rfl
  | _, .list format, value, a, h, path, unknown => by
    cases value with
    | arr items =>
      match path with
      | .item index :: path =>
        rw [Format.knows] at unknown
        rw [Addition.toValue, decode_list_arr_eq_ok_iff]
        exact forall₂_modify (fun _ _ hitem => format.decode_toValue hitem path unknown)
          (decode_list_arr_eq_ok_iff.1 h) index
      | [] | .member _ :: _ => exact h
    | _ => cases h
  | _, .dictionary, value, a, h, path, unknown => by
    cases value with
    | obj members =>
      match path with
      | [] => cases unknown
      | .item _ :: _ => exact h
      | .member name :: path =>
        -- the members are strings, in which nothing is added
        have same : ∀ member ∈ members,
            (if member.1 = name then (name, addition.toValue path member.2) else member) = member := by
          intro member hmember
          obtain ⟨s, hs⟩ := accepts_dictionary_iff.1 ⟨a, h⟩ member hmember
          split_ifs with hname
          · rw [hs, addition.toValue_str, ← hs, ← hname]
          · rfl
        rw [Addition.toValue, List.map_congr_left same, List.map_id']
        exact h
    | _ => cases h
  | _, .record _ fields tuple, value, a, h, path, unknown => by
    cases value with
    | obj members =>
      match path with
      | [] =>
        have foreign : addition.key ∉ fields.keys := by
          simpa [Format.knows] using unknown
        rw [Addition.toValue, Format.decode, Fields.foldlM_put_toMembers foreign]
        exact h
      | .item _ :: _ => exact h
      | .member name :: path =>
        rw [Format.knows] at unknown
        rw [Format.decode] at h
        obtain ⟨parts, hparts, rfl⟩ := map_eq_ok_iff.1 h
        rw [Addition.toValue, Format.decode]
        refine map_eq_ok_iff.2 ⟨parts, foldlM_map_eq_ok ?_ hparts, rfl⟩
        intro before member after hput
        split_ifs with hname
        · subst hname
          exact fields.put_toValue hput path unknown
        · exact hput
    | arr items =>
      match path with
      | .item index :: path =>
        rw [Format.knows] at unknown
        rw [decode_record_arr_eq_ok_iff] at h
        rw [Addition.toValue, decode_record_arr_eq_ok_iff, List.length_modify]
        exact ⟨fields.take_toValue h.1 index path unknown, h.2⟩
      | [] | .member _ :: _ => exact h
    | _ => cases h

theorem Fields.put_toValue {addition : Addition} {name : String} : {ρ : Type} →
    (fields : Fields ρ) → {value : Json} → {before after : ρ} →
      fields.put name value before = .ok after → (path : List Place) →
        fields.knows (.member name) path addition.key = false →
          fields.put name (addition.toValue path value) before = .ok after
  | _, .nil, _, _, _, h, _, _ => h
  | _, .cons key format _ rest, value, (first, parts), after, h, path, unknown => by
    rw [Fields.put] at h ⊢
    rw [Fields.knows] at unknown
    split_ifs at h unknown ⊢
    · obtain ⟨decoded, hdecoded, rfl⟩ := map_eq_ok_iff.1 h
      exact map_eq_ok_iff.2 ⟨decoded, format.decode_toValue hdecoded path unknown, rfl⟩
    · obtain ⟨between, hbetween, rfl⟩ := map_eq_ok_iff.1 h
      exact map_eq_ok_iff.2 ⟨between, rest.put_toValue hbetween path unknown, rfl⟩

theorem Fields.take_toValue {addition : Addition} : {ρ : Type} → (fields : Fields ρ) →
    {items : List Json} → {parts : ρ} → fields.take items = .ok parts → (index : Nat) →
      (path : List Place) → fields.knows (.item index) path addition.key = false →
        fields.take (items.modify index (addition.toValue path)) = .ok parts
  | _, .nil, _, _, h, _, _, _ => h
  | _, .cons _ _ _ _, [], _, h, index, _, _ => by simpa using h
  | _, .cons _ format _ rest, _ :: _, (_, _), h, 0, path, unknown => by
    obtain ⟨hfirst, hparts⟩ := Fields.take_cons_eq_ok_iff.1 h
    exact Fields.take_cons_eq_ok_iff.2 ⟨format.decode_toValue hfirst path unknown, hparts⟩
  | _, .cons _ _ _ rest, _ :: _, (_, _), h, index + 1, path, unknown => by
    obtain ⟨hfirst, hparts⟩ := Fields.take_cons_eq_ok_iff.1 h
    exact Fields.take_cons_eq_ok_iff.2 ⟨hfirst, rest.take_toValue hparts index path unknown⟩

end

/-- Members that the format does not know are passed over, however many are added. -/
theorem Format.decode_addAll {α : Type} (format : Format α) {value : Json} {a : α}
    (h : format.decode value = .ok a) (additions : List Addition)
    (unknown : ∀ addition ∈ additions, format.knows addition.path addition.key = false) :
    format.decode (additions.foldl add value) = .ok a := by
  induction additions generalizing value with
  | nil => exact h
  | cons addition rest ih =>
    obtain ⟨first, others⟩ := List.forall_mem_cons.1 unknown
    exact ih (format.decode_toValue h addition.path first) others

end PrivacyMapping.Json
