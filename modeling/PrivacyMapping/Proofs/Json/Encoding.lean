import PrivacyMapping.Proofs.Json.Record

/-!
# Encoded values read back

What a format encodes, it decodes to the same value (`Format.decode_encode`). Three things could stand
in the way, and `Format.faithful` rules them out: two fields of a record with the same key, a value
inside an optional one that is itself encoded as null, and a dictionary out of order.
-/

namespace PrivacyMapping.Json

/-! ## Faithful formats -/

/-- Whether null is the encoded form of a value. -/
def Format.hasNull {α : Type} : Format α → Bool
  | .optional _ => true
  | _ => false

mutual

/-- Whether all that a format encodes reads back: the fields of every record have distinct keys, and null
stands for one value only. Dictionaries are left out. -/
def Format.faithful {α : Type} : Format α → Bool
  | .text => true
  | .optional format => !format.hasNull && format.faithful
  | .list format => format.faithful
  | .dictionary => false
  | .record _ fields _ => decide fields.keys.Nodup && fields.faithful

def Fields.faithful {ρ : Type} : Fields ρ → Bool
  | .nil => true
  | .cons _ format _ rest => format.faithful && rest.faithful

end

/-! ## Encoded forms -/

theorem Format.encode_ne_null {α : Type} (format : Format α) (h : format.hasNull = false) (a : α) :
    format.encode a ≠ .null := by
  cases format with
  | optional format => cases h
  | _ => simp [Format.encode]

theorem Fields.keys_members : {ρ : Type} → (fields : Fields ρ) → (parts : ρ) →
    Entries.keys (fields.members parts) = fields.keys
  | _, .nil, _ => rfl
  | _, .cons key _ _ rest, (_, parts) => congrArg (key :: ·) (rest.keys_members parts)

theorem Fields.reads_cons_iff {ρ : Type} (fields : Fields ρ) {key : String} (h : key ∉ fields.keys)
    (value : Json) (members : Entries Json) {before after : ρ} :
    fields.Reads (Entries.get? ((key, value) :: members)) before after ↔
      fields.Reads members.get? before after := by
  apply fields.reads_congr
  intro other hother
  have hne : key ≠ other := fun same => h (same ▸ hother)
  rw [Entries.get?, if_neg hne]

mutual

/-- A faithful format decodes what it encodes. -/
theorem Format.decode_encode : {α : Type} → (format : Format α) → format.faithful = true → (a : α) →
    format.decode (format.encode a) = .ok a
  | _, .text, _, _ => rfl
  | _, .optional _, _, none => rfl
  | _, .optional format, h, some a => by
    simp only [Format.faithful, Bool.and_eq_true, Bool.not_eq_true'] at h
    rw [Format.encode, decode_optional_of_ne_null (format.encode_ne_null h.1 a),
      format.decode_encode h.2 a]
    rfl
  | _, .list format, h, items => by
    rw [Format.encode, decode_list_arr_eq_ok_iff, List.forall₂_map_left_iff, List.forall₂_same]
    exact fun item _ => format.decode_encode h item
  | _, .record _ fields tuple, h, a => by
    simp only [Format.faithful, Bool.and_eq_true, decide_eq_true_eq] at h
    have distinct : (Entries.keys (fields.members (tuple.parts a))).Nodup := by
      rw [fields.keys_members]
      exact h.1
    rw [Format.encode, decode_record_obj_eq_ok_iff h.1 distinct]
    exact fields.reads_members h.1 h.2 _ _

theorem Fields.reads_members : {ρ : Type} → (fields : Fields ρ) → fields.keys.Nodup →
    fields.faithful = true → (before parts : ρ) →
      fields.Reads (Entries.get? (fields.members parts)) before parts
  | _, .nil, _, _, _, _ => trivial
  | _, .cons key format _ rest, distinct, h, (_, before), (first, parts) => by
    obtain ⟨hkey, hrest⟩ := List.nodup_cons.1 distinct
    simp only [Fields.faithful, Bool.and_eq_true] at h
    rw [Fields.members, Fields.Reads, rest.reads_cons_iff hkey, Entries.get?, if_pos rfl]
    exact ⟨format.decode_encode h.1 first, rest.reads_members hrest h.2 before parts⟩

end

/-! ## Well-formedness -/

mutual

theorem Format.wellFormed_encode : {α : Type} → (format : Format α) → format.faithful = true →
    (a : α) → (format.encode a).WellFormed
  | _, .text, _, s => .str s
  | _, .optional _, _, none => .null
  | _, .optional format, h, some a => by
    simp only [Format.faithful, Bool.and_eq_true] at h
    exact format.wellFormed_encode h.2 a
  | _, .list format, h, items => by
    rw [Format.encode, WellFormed.arr_iff]
    intro value hvalue
    obtain ⟨item, -, rfl⟩ := List.mem_map.1 hvalue
    exact format.wellFormed_encode h item
  | _, .record _ fields tuple, h, a => by
    simp only [Format.faithful, Bool.and_eq_true, decide_eq_true_eq] at h
    refine .obj ?_ (fields.wellFormed_members h.2 _)
    rw [fields.keys_members]
    exact h.1

theorem Fields.wellFormed_members : {ρ : Type} → (fields : Fields ρ) → fields.faithful = true →
    (parts : ρ) → ∀ member ∈ fields.members parts, member.2.WellFormed
  | _, .nil, _, _ => fun _ h => nomatch h
  | _, .cons _ format _ rest, h, (first, parts) => by
    simp only [Fields.faithful, Bool.and_eq_true] at h
    exact List.forall_mem_cons.2
      ⟨format.wellFormed_encode h.1 first, rest.wellFormed_members h.2 parts⟩

end

end PrivacyMapping.Json
