import PrivacyMapping.Json.Format
import PrivacyMapping.Proofs.Json.Reading
import Mathlib.Data.List.Forall2

/-!
# Decoded records and lists

Decoding goes through the members of an object in their order and gives each value to the field of its
key. Where no key stands twice the order does not matter: `Fields.Reads` says field by field that a
field has the decoded value under its key, or the value that it had before. From an array a record is
decoded by position. `Fields.Given` says the same of both, with `part?` for the value that a record gives
for a field. A list is decoded item by item.
-/

namespace PrivacyMapping.Json

/-! ## Texts and optional values -/

theorem decode_text_eq_ok_iff {value : Json} {text : String} :
    Format.text.decode value = .ok text ↔ value = .str text := by
  cases value <;> simp [Format.decode]

theorem decode_optional_of_ne_null {α : Type} {format : Format α} {value : Json} (h : value ≠ .null) :
    (Format.optional format).decode value = (format.decode value).map some := by
  cases value with
  | null => exact absurd rfl h
  | _ => rw [Format.decode]; simp

/-! ## Records from objects -/

theorem Tuple.make_eq_iff {ρ α : Type} (tuple : Tuple ρ α) {parts : ρ} {a : α} :
    tuple.make parts = a ↔ parts = tuple.parts a := by
  constructor
  · rintro rfl
    rw [tuple.parts_make]
  · rintro rfl
    rw [tuple.make_parts]

/-- The fields `after` are the fields `before`, changed to the decoded values of those keys that the
view has a value for. -/
def Fields.Reads : {ρ : Type} → Fields ρ → (String → Option Json) → ρ → ρ → Prop
  | _, .nil, _, _, _ => True
  | _, .cons key format _ rest, view, (first, parts), (first', parts') =>
    (match view key with
      | none => first' = first
      | some value => format.decode value = .ok first') ∧
    rest.Reads view parts parts'

theorem Fields.reads_congr {view view' : String → Option Json} : {ρ : Type} → (fields : Fields ρ) →
    {before after : ρ} → (∀ key ∈ fields.keys, view key = view' key) →
      (fields.Reads view before after ↔ fields.Reads view' before after)
  | _, .nil, _, _, _ => Iff.rfl
  | _, .cons key format _ rest, (_, _), (_, _), h => by
    obtain ⟨first, others⟩ := List.forall_mem_cons.1 h
    rw [Fields.Reads, Fields.Reads, first, rest.reads_congr others]

theorem Fields.reads_none : {ρ : Type} → (fields : Fields ρ) → {before after : ρ} →
    (fields.Reads (fun _ => none) before after ↔ after = before)
  | _, .nil, _, _ => by simp [Fields.Reads]
  | _, .cons _ _ _ rest, (_, _), (_, _) => by
    rw [Fields.Reads, rest.reads_none, Prod.mk.injEq]

theorem Fields.put_reads_iff {members : Entries Json} {name : String} {value : Json}
    (fresh : members.get? name = none) : {ρ : Type} → (fields : Fields ρ) → fields.keys.Nodup →
      {before after : ρ} →
        ((∃ between, fields.put name value before = .ok between ∧
            fields.Reads members.get? between after) ↔
          fields.Reads (Entries.get? ((name, value) :: members)) before after)
  | _, .nil, _, _, _ => by simp [Fields.put, Fields.Reads]
  | _, .cons key format _ rest, hkeys, (first, parts), (first', parts') => by
    obtain ⟨hkey, hrest⟩ := List.nodup_cons.1 hkeys
    rw [Fields.put, Fields.Reads, Entries.get?]
    by_cases hname : name = key
    · -- the field takes the value, and no later field has the same key
      subst hname
      have others : ∀ other ∈ rest.keys,
          members.get? other = Entries.get? ((name, value) :: members) other := by
        intro other hother
        have hne : name ≠ other := fun same => hkey (same ▸ hother)
        rw [Entries.get?, if_neg hne]
      rw [if_pos rfl, if_pos rfl, ← rest.reads_congr others]
      cases hdecode : format.decode value with
      | error e => simp [Except.map, hdecode]
      | ok decoded =>
        simp only [Except.map, Except.ok.injEq, exists_eq_left', Fields.Reads, fresh, hdecode]
        exact and_congr_left' eq_comm
    · rw [if_neg (Ne.symm hname), if_neg hname, ← rest.put_reads_iff fresh hrest]
      cases rest.put name value parts with
      | error e => simp [Except.map]
      | ok between => simp [Except.map, Fields.Reads]

theorem Fields.foldlM_put_eq_ok_iff {ρ : Type} {fields : Fields ρ} (hkeys : fields.keys.Nodup)
    {members : Entries Json} (distinct : members.keys.Nodup) {before after : ρ} :
    members.foldlM (fun parts member => fields.put member.1 member.2 parts) before = .ok after ↔
      fields.Reads members.get? before after := by
  induction members generalizing before with
  | nil =>
    have empty : (Entries.get? [] : String → Option Json) = fun _ => none := rfl
    rw [empty, fields.reads_none]
    simp [pure, Except.pure, eq_comm]
  | cons member rest ih =>
    obtain ⟨name, value⟩ := member
    obtain ⟨fresh, others⟩ := List.nodup_cons.1 distinct
    rw [← fields.put_reads_iff (Entries.get?_eq_none_iff.2 fresh) hkeys, List.foldlM_cons,
      bind_eq_ok_iff]
    simp only [ih others]

theorem decode_record_obj_eq_ok_iff {ρ α : Type} {name : String} {fields : Fields ρ}
    {tuple : Tuple ρ α} (hkeys : fields.keys.Nodup) {members : Entries Json}
    (distinct : members.keys.Nodup) {a : α} :
    (Format.record name fields tuple).decode (.obj members) = .ok a ↔
      fields.Reads members.get? fields.defaults (tuple.parts a) := by
  rw [Format.decode, ← Fields.foldlM_put_eq_ok_iff hkeys distinct]
  cases members.foldlM (fun parts member => fields.put member.1 member.2 parts) fields.defaults with
  | error e => simp [Except.map]
  | ok parts => rw [Except.map, Except.ok.injEq, Except.ok.injEq, tuple.make_eq_iff]

theorem reads_of_decode {ρ α : Type} {name : String} {fields : Fields ρ} {tuple : Tuple ρ α}
    (hkeys : fields.keys.Nodup) {object value : Json} {key : String} {a : α}
    (wellFormed : object.WellFormed) (found : object.get? key = some value)
    (h : (Format.record name fields tuple).decode object = .ok a) :
    fields.Reads object.get? fields.defaults (tuple.parts a) := by
  cases object with
  | obj members =>
    exact (decode_record_obj_eq_ok_iff hkeys (WellFormed.obj_iff.1 wellFormed).1).1 h
  | _ => simp [Json.get?] at found

/-! ## One member more -/

theorem Fields.reads_insert {members : Entries Json} {key : String} {value : Json} : {ρ : Type} →
    (fields : Fields ρ) → fields.keys.Nodup → {before after after' : ρ} →
      fields.Reads members.get? before after → fields.put key value after = .ok after' →
        fields.Reads (members.insert key value).get? before after'
  | _, .nil, _, _, _, _, _, _ => trivial
  | _, .cons name format _ rest, hkeys, (first, parts), (first', parts'), after', h, hput => by
    obtain ⟨hname, hrest⟩ := List.nodup_cons.1 hkeys
    obtain ⟨hfirst, hothers⟩ := h
    rw [Fields.put] at hput
    split_ifs at hput with same
    · subst same
      cases hdecode : format.decode value with
      | error e => simp [hdecode, Except.map] at hput
      | ok decoded =>
        rw [hdecode] at hput
        obtain rfl := Except.ok.inj hput
        have others : ∀ other ∈ rest.keys,
            members.get? other = (members.insert name value).get? other := by
          intro other hother
          have hne : other ≠ name := fun same => hname (same ▸ hother)
          exact (Entries.get?_insert_of_ne members value hne).symm
        rw [Fields.Reads, Entries.get?_insert_self]
        exact ⟨hdecode, (rest.reads_congr others).1 hothers⟩
    · cases hdecode : rest.put key value parts' with
      | error e => simp [hdecode, Except.map] at hput
      | ok between =>
        rw [hdecode] at hput
        obtain rfl := Except.ok.inj hput
        rw [Fields.Reads, Entries.get?_insert_of_ne members value same]
        exact ⟨hfirst, rest.reads_insert hrest hothers hdecode⟩

theorem decode_record_insert {ρ α : Type} {name : String} {fields : Fields ρ} {tuple : Tuple ρ α}
    (hkeys : fields.keys.Nodup) {members : Entries Json} (distinct : members.keys.Nodup) {a b : α}
    (h : (Format.record name fields tuple).decode (.obj members) = .ok a) {key : String} {value : Json}
    (hput : fields.put key value (tuple.parts a) = .ok (tuple.parts b)) :
    (Format.record name fields tuple).decode (.obj (Entries.insert members key value)) = .ok b := by
  rw [decode_record_obj_eq_ok_iff hkeys (Entries.nodup_keys_insert distinct key value)]
  exact fields.reads_insert hkeys ((decode_record_obj_eq_ok_iff hkeys distinct).1 h) hput

/-! ## Records from arrays -/

theorem decode_record_arr_eq_ok_iff {ρ α : Type} {name : String} {fields : Fields ρ}
    {tuple : Tuple ρ α} {items : List Json} {a : α} :
    (Format.record name fields tuple).decode (.arr items) = .ok a ↔
      fields.take items = .ok (tuple.parts a) ∧ items.length ≤ fields.keys.length := by
  rw [Format.decode, bind_eq_ok_iff]
  constructor
  · rintro ⟨parts, htake, h⟩
    split_ifs at h with fits
    rw [tuple.make_eq_iff.1 (Except.ok.inj h)] at htake
    exact ⟨htake, fits⟩
  · rintro ⟨htake, fits⟩
    exact ⟨_, htake, by rw [if_pos fits, tuple.make_parts]⟩

theorem Fields.take_cons_eq_ok_iff {α ρ : Type} {key : String} {format : Format α} {default : α}
    {rest : Fields ρ} {value : Json} {values : List Json} {first : α} {parts : ρ} :
    (Fields.cons key format default rest).take (value :: values) = .ok (first, parts) ↔
      format.decode value = .ok first ∧ rest.take values = .ok parts := by
  simp only [Fields.take, bind_eq_ok_iff, pure, Except.pure, Except.ok.injEq, Prod.mk.injEq]
  constructor
  · rintro ⟨_, hfirst, _, hparts, rfl, rfl⟩
    exact ⟨hfirst, hparts⟩
  · rintro ⟨hfirst, hparts⟩
    exact ⟨_, hfirst, _, hparts, rfl, rfl⟩

/-! ## Parts by key or by place -/

/-- The part of a record under a key, or at a place if the record is an array. -/
def part? (value : Json) (place : Nat) (key : String) : Option Json :=
  match value with
  | .obj members => Entries.get? members key
  | .arr items => items[place]?
  | _ => none

theorem WellFormed.of_part? {value part : Json} {place : Nat} {key : String} (h : value.WellFormed)
    (found : value.part? place key = some part) : part.WellFormed := by
  cases value with
  | obj members => exact h.of_get?_entries found
  | arr items => exact arr_iff.1 h part (List.mem_of_getElem? found)
  | _ => cases found

/-- Each field has the decoded value of its part, or its default if there is no such part. -/
def Fields.Given : {ρ : Type} → Fields ρ → (Nat → String → Option Json) → ρ → Prop
  | _, .nil, _, _ => True
  | _, .cons key format default rest, view, (first, parts) =>
    (match view 0 key with
      | none => first = default
      | some value => format.decode value = .ok first) ∧
    rest.Given (fun place => view (place + 1)) parts

theorem Fields.given_of_reads {view : String → Option Json} : {ρ : Type} → (fields : Fields ρ) →
    {parts : ρ} → fields.Reads view fields.defaults parts → fields.Given (fun _ => view) parts
  | _, .nil, _, _ => trivial
  | _, .cons _ _ _ rest, (_, _), h => ⟨h.1, rest.given_of_reads h.2⟩

theorem Fields.given_defaults : {ρ : Type} → (fields : Fields ρ) →
    fields.Given (fun _ _ => none) fields.defaults
  | _, .nil => trivial
  | _, .cons _ _ _ rest => ⟨rfl, rest.given_defaults⟩

theorem Fields.given_of_take : {ρ : Type} → (fields : Fields ρ) → {items : List Json} → {parts : ρ} →
    fields.take items = .ok parts → fields.Given (fun place _ => items[place]?) parts
  | _, .nil, _, _, _ => trivial
  | _, .cons key format default rest, [], _, h => by
    -- the array ends here, and all fields that are left have their defaults
    obtain rfl := Except.ok.inj h
    exact (Fields.cons key format default rest).given_defaults
  | _, .cons _ _ _ rest, _ :: _, (_, _), h => by
    obtain ⟨hfirst, hrest⟩ := take_cons_eq_ok_iff.1 h
    exact ⟨hfirst, rest.given_of_take hrest⟩

/-- The fields of a decoded record are given by its parts, whether it is an object or an array. -/
theorem given_of_decode {ρ α : Type} {name : String} {fields : Fields ρ} {tuple : Tuple ρ α}
    (hkeys : fields.keys.Nodup) {value : Json} {a : α} (wellFormed : value.WellFormed)
    (h : (Format.record name fields tuple).decode value = .ok a) :
    fields.Given value.part? (tuple.parts a) := by
  cases value with
  | obj members =>
    have distinct := (WellFormed.obj_iff.1 wellFormed).1
    exact fields.given_of_reads ((decode_record_obj_eq_ok_iff hkeys distinct).1 h)
  | arr items => exact fields.given_of_take (decode_record_arr_eq_ok_iff.1 h).1
  | _ => simp [Format.decode] at h

/-! ## Lists -/

theorem rel_find? {α β : Type} {R : α → β → Prop} {p : α → Bool} {q : β → Bool} {xs : List α}
    {ys : List β} (h : xs.Forall₂ R ys) (agree : ∀ x ∈ xs, ∀ y, R x y → p x = q y) :
    Option.Rel R (xs.find? p) (ys.find? q) := by
  induction h with
  | nil => exact .none
  | @cons x y xs ys hxy _ ih =>
    obtain ⟨first, others⟩ := List.forall_mem_cons.1 agree
    rw [List.find?_cons, List.find?_cons, ← first y hxy]
    cases p x with
    | true => exact .some hxy
    | false => exact ih others

theorem mapM_eq_ok_iff {α β ε : Type} {f : α → Except ε β} {xs : List α} {ys : List β} :
    xs.mapM f = .ok ys ↔ List.Forall₂ (fun x y => f x = .ok y) xs ys := by
  induction xs generalizing ys with
  | nil => cases ys <;> simp [pure, Except.pure]
  | cons x xs ih =>
    simp only [List.mapM_cons, bind_eq_ok_iff, ih, pure, Except.pure, Except.ok.injEq]
    constructor
    · rintro ⟨y, hy, rest, hrest, rfl⟩
      exact .cons hy hrest
    · rintro (_ | ⟨hy, hrest⟩)
      exact ⟨_, hy, _, hrest, rfl⟩

theorem decode_list_arr_eq_ok_iff {α : Type} {format : Format α} {items : List Json} {values : List α} :
    (Format.list format).decode (.arr items) = .ok values ↔
      List.Forall₂ (fun item value => format.decode item = .ok value) items values := by
  rw [Format.decode, mapM_eq_ok_iff]

theorem exists_decode_of_mem {α : Type} {format : Format α} {items : List Json} {values : List α}
    (h : (Format.list format).decode (.arr items) = .ok values) {item : Json} (hitem : item ∈ items) :
    ∃ value, format.decode item = .ok value := by
  have decoded := decode_list_arr_eq_ok_iff.1 h
  obtain ⟨i, hi, rfl⟩ := List.getElem_of_mem hitem
  exact ⟨_, decoded.get hi (decoded.length_eq ▸ hi)⟩

theorem exists_decode_list {α : Type} {format : Format α} {items : List Json}
    (h : ∀ item ∈ items, ∃ value, format.decode item = .ok value) :
    ∃ values, (Format.list format).decode (.arr items) = .ok values := by
  simp only [decode_list_arr_eq_ok_iff]
  induction items with
  | nil => exact ⟨[], .nil⟩
  | cons item rest ih =>
    obtain ⟨hitem, hrest⟩ := List.forall_mem_cons.1 h
    obtain ⟨value, hvalue⟩ := hitem
    obtain ⟨values, hvalues⟩ := ih hrest
    exact ⟨value :: values, .cons hvalue hvalues⟩

end PrivacyMapping.Json
