import PrivacyMapping.Oscal.SecurityPlan
import PrivacyMapping.Proofs.Json.Equality
import PrivacyMapping.Proofs.Json.Record
import PrivacyMapping.Proofs.Oscal.Limits
import PrivacyMapping.Proofs.Oscal.Writing

/-!
# What is read back after a write

A write and a reader each look for the first property of a name, but not among the same items. The
write goes by the objects with that string as their name. The reader is lenient: it also takes an
array for a property, by position, and the empty name where none is given (`Shadows`). It agrees with
the write on every name that no such item comes before, and `property?_of_write` says what it reads
otherwise.
-/

namespace PrivacyMapping.Oscal

open Json (Format Fields)

/-! ## Items that are read as a property -/

/-- The item is read as a property of the name, though it is no object with the name: it is an array
that begins with the name, or it gives no name at all and the name is empty. -/
def Shadows (name : String) : Json → Prop
  | .arr [] => name = ""
  | .arr (first :: _) => first = .str name
  | .obj members => Entries.get? members "name" = none ∧ name = ""
  | _ => False

instance (name : String) : (item : Json) → Decidable (Shadows name item)
  | .arr [] => inferInstanceAs (Decidable (name = ""))
  | .arr (first :: _) => inferInstanceAs (Decidable (first = .str name))
  | .obj members => inferInstanceAs (Decidable (Entries.get? members "name" = none ∧ name = ""))
  | .null | .bool _ | .num _ | .str _ => .isFalse id

theorem Shadows.not_named {name other : String} {item : Json} (h : Shadows name item) :
    ¬ Named other item := by
  intro named
  obtain ⟨members, rfl⟩ := named.exists_members
  have found : Entries.get? members "name" = some (.str other) := named
  have absent : Entries.get? members "name" = none := h.1
  simp [absent] at found

/-- Whether an item is read as a property of the name. -/
def isRead (name : String) (item : Json) : Bool :=
  isNamed name item || decide (Shadows name item)

theorem isRead_iff {name : String} {item : Json} :
    isRead name item = true ↔ Named name item ∨ Shadows name item := by
  rw [isRead, Bool.or_eq_true, isNamed_iff, decide_eq_true_iff]

theorem recognizes_isRead (name : String) : Recognizes name (isRead name) := by
  intro other item named
  have unshadowed : decide (Shadows name item) = false :=
    decide_eq_false fun shadows => shadows.not_named named
  rw [isRead, unshadowed, Bool.or_false]
  exact recognizes_isNamed name other item named

section decoded

variable {item : Json} {property : Property}

theorem name_eq_iff_of_decode (wellFormed : item.WellFormed)
    (h : Property.format.decode item = .ok property) (name : String) :
    property.name = name ↔ Named name item ∨ Shadows name item := by
  cases item with
  | obj members =>
    have distinct := (Json.WellFormed.obj_iff.1 wellFormed).1
    obtain ⟨hname, -⟩ := (Json.decode_record_obj_eq_ok_iff (by decide) distinct).1 h
    cases found : Entries.get? members "name" with
    | none =>
      -- the name takes its default
      rw [found] at hname
      have empty : property.name = "" := hname
      simp [Named, Shadows, Json.get?, found, empty, eq_comm]
    | some value =>
      rw [found] at hname
      have text := Json.decode_text_eq_ok_iff.1 hname
      simp [Named, Shadows, Json.get?, found, text]
  | arr items =>
    have taken := (Json.decode_record_arr_eq_ok_iff.1 h).1
    cases items with
    | nil =>
      have empty : "" = property.name := congrArg Prod.fst (Except.ok.inj taken)
      simp [Named, Shadows, Json.get?, ← empty, eq_comm]
    | cons first rest =>
      have text := Json.decode_text_eq_ok_iff.1 (Json.Fields.take_cons_eq_ok_iff.1 taken).1
      simp [Named, Shadows, Json.get?, text]
  | _ => simp [Property.format, Format.decode] at h

theorem value_eq_of_decode (wellFormed : item.WellFormed)
    (h : Property.format.decode item = .ok property) {value : String}
    (hvalue : item.get? "value" = some (.str value)) : property.value = value := by
  obtain ⟨-, read, -⟩ := Json.reads_of_decode (by decide) wellFormed hvalue h
  rw [hvalue] at read
  exact (Json.str.inj (Json.decode_text_eq_ok_iff.1 read)).symm

end decoded

/-! ## The first item that is read -/

/-- The item at place `i` is the first one that is read as a property of the name, and it shadows the
name. -/
structure FirstShadow (name : String) (items : List Json) (i : Nat) (item : Json) : Prop where
  at_place : items[i]? = some item
  shadows : Shadows name item
  least : ∀ j < i, ∀ other, items[j]? = some other → ¬ Named name other ∧ ¬ Shadows name other

theorem FirstShadow.find?_eq {name : String} {items : List Json} {i : Nat} {item : Json}
    (h : FirstShadow name items i item) : items.find? (isRead name) = some item := by
  obtain ⟨hi, hitem⟩ := List.getElem?_eq_some_iff.1 h.at_place
  refine List.find?_eq_some_iff_getElem.2 ⟨isRead_iff.2 (.inr h.shadows), i, hi, hitem, ?_⟩
  intro j hj
  have unread := h.least j hj _ (List.getElem?_eq_getElem (by omega))
  rw [Bool.not_eq_true', Bool.eq_false_iff, ne_eq, isRead_iff, not_or]
  exact unread

theorem Shadows.exists_firstShadow {name : String} {items : List Json} {item : Json}
    (h : Shadows name item) (found : items.find? (isRead name) = some item) :
    ∃ i, FirstShadow name items i item := by
  obtain ⟨-, i, hi, hitem, least⟩ := List.find?_eq_some_iff_getElem.1 found
  refine ⟨i, List.getElem?_eq_some_iff.2 ⟨hi, hitem⟩, h, ?_⟩
  intro j hj other hother
  obtain ⟨_, rfl⟩ := List.getElem?_eq_some_iff.1 hother
  have unread := least j hj
  rw [Bool.not_eq_true', Bool.eq_false_iff, ne_eq, isRead_iff, not_or] at unread
  exact unread

/-! ## The plan that is read -/

theorem wellFormed_of_at? {value inside : Json} {path : List String} (h : value.WellFormed)
    (found : value.at? path = some inside) : inside.WellFormed := by
  induction path generalizing value with
  | nil =>
    obtain rfl := Option.some.inj found
    exact h
  | cons key path ih =>
    rw [Json.at?_cons, Option.bind_eq_some_iff] at found
    obtain ⟨next, hnext, hrest⟩ := found
    exact ih (h.of_get? hnext) hrest

section plans

variable {document : Json} {plan : SecurityPlan} {items : List Json}

theorem ofJson_eq_ok_iff :
    SecurityPlan.ofJson document = .ok plan ↔
      SecurityPlan.documentFormat.decode document = .ok plan := by
  rw [SecurityPlan.ofJson]
  cases SecurityPlan.documentFormat.decode document <;> simp [Except.mapError]

theorem forall₂_decode_of_ofJson (wellFormed : document.WellFormed)
    (h : SecurityPlan.ofJson document = .ok plan)
    (hitems : document.at? [planKey, characteristicsKey, "props"] = some (.arr items)) :
    items.Forall₂ (fun item property => Property.format.decode item = .ok property)
      plan.characteristics.properties := by
  simp only [Json.at?_cons, Json.at?_nil, Option.bind_eq_some_iff, Option.some.injEq] at hitems
  obtain ⟨inPlan, hplan, inCharacteristics, hcharacteristics, _, hitems, rfl⟩ := hitems
  have wellFormedPlan := wellFormed.of_get? hplan
  have wellFormedCharacteristics := wellFormedPlan.of_get? hcharacteristics
  obtain ⟨readPlan, -⟩ :=
    Json.reads_of_decode (by decide) wellFormed hplan (ofJson_eq_ok_iff.1 h)
  rw [show document.get? "system-security-plan" = some inPlan from hplan] at readPlan
  obtain ⟨-, -, readCharacteristics, -⟩ :=
    Json.reads_of_decode (by decide) wellFormedPlan hcharacteristics readPlan
  rw [show inPlan.get? "system-characteristics" = some inCharacteristics from hcharacteristics]
    at readCharacteristics
  obtain ⟨-, readItems, -⟩ :=
    Json.reads_of_decode (by decide) wellFormedCharacteristics hitems readCharacteristics
  rw [hitems] at readItems
  exact Json.decode_list_arr_eq_ok_iff.1 readItems

theorem exists_property_of_find? {name : String} {item : Json} (wellFormed : document.WellFormed)
    (h : SecurityPlan.ofJson document = .ok plan)
    (hitems : document.at? [planKey, characteristicsKey, "props"] = some (.arr items))
    (found : items.find? (isRead name) = some item) :
    item.WellFormed ∧ ∃ property, Property.format.decode item = .ok property ∧
      plan.property? name = some property.value := by
  have inside := Json.WellFormed.arr_iff.1 (wellFormed_of_at? wellFormed hitems)
  have agree : ∀ item ∈ items, ∀ property : Property, Property.format.decode item = .ok property →
      isRead name item = (property.name == name) := by
    intro item hitem property decoded
    rw [Bool.eq_iff_iff, isRead_iff, beq_iff_eq]
    exact (name_eq_iff_of_decode (inside item hitem) decoded name).symm
  have read := Json.rel_find? (forall₂_decode_of_ofJson wellFormed h hitems) agree
  refine ⟨inside item (List.mem_of_find?_eq_some found), ?_⟩
  rw [found] at read
  rw [SecurityPlan.property?, propertyValue?]
  cases hproperty : plan.characteristics.properties.find? (·.name == name) with
  | none => simp [hproperty] at read
  | some property =>
    rw [hproperty, Option.rel_some_some] at read
    exact ⟨property, read, rfl⟩

end plans

/-! ## Writing and reading -/

variable {document written : Json} {pending : Pending} {time : Timestamp} {report : Report}
  {plan : SecurityPlan}

/-- **What is written is read back, unless it is shadowed.** In the plan read from a written document
a pending name has its pending value, except where the first item that is read as a property of the
name is no object with the name: the write has passed over such an item, and its own value is read. -/
theorem property?_of_write (wellFormed : document.WellFormed)
    (h : write document pending time = .ok (written, report))
    (hread : SecurityPlan.ofJson written = .ok plan) :
    ∀ name ∈ pending.names,
      ((∀ i item, ¬ FirstShadow name (propertiesOf document) i item) →
        ∃ value, pending.get? name = some value ∧ plan.property? name = some value) ∧
      ∀ i item, FirstShadow name (propertiesOf document) i item →
        ∃ property, Property.format.decode item = .ok property ∧
          plan.property? name = some property.value := by
  obtain ⟨s, hs, rfl, -⟩ := write_eq_ok_iff.1 h
  intro name hname
  obtain ⟨value, hvalue⟩ : ∃ value, pending.get? name = some value := by
    rw [← Option.ne_none_iff_exists']
    exact fun absent => Pending.get?_eq_none_iff.1 absent hname
  -- the item that the reader takes for the name after the write, from the one it takes before
  have found := find?_foldl_put (recognizes_isRead name) pending.entries s.properties
  rw [← Pending.get?_eq_latest?, hvalue, ← fst_writeEntries] at found
  obtain ⟨wellFormedItem, property, decoded, read⟩ :=
    exists_property_of_find? (hs.wellFormed_written wellFormed pending time) hread
      (s.at?_properties_written pending time) found
  rw [hs.propertiesOf_eq]
  constructor
  · intro unshadowed
    refine ⟨value, hvalue, ?_⟩
    rw [read]
    refine congrArg some (value_eq_of_decode wellFormedItem decoded ?_)
    cases hitem : s.properties.find? (isRead name) with
    | none => rfl
    | some item =>
      -- an item that is read though it is not named would be a shadow
      have named : Named name item := by
        refine (isRead_iff.1 (List.find?_some hitem)).resolve_right fun shadows => ?_
        obtain ⟨i, first⟩ := shadows.exists_firstShadow hitem
        exact unshadowed i item first
      rw [Option.map_some, Option.getD_some, settle_of_named named]
      exact named.get?_withValue value
  · intro i item first
    rw [first.find?_eq, Option.map_some, Option.getD_some,
      settle_of_not_named first.shadows.not_named] at decoded
    exact ⟨property, decoded, read⟩

/-- A document with a property held by position, one without a name and two of one name. -/
def mixedDocument : Json :=
  .obj [(planKey, .obj [(characteristicsKey, .obj [
    ("props", .arr [.arr [.str "a", .str "old"], .obj [("value", .str "old")],
      .obj [("name", .str "b"), ("value", .str "old")],
      .obj [("name", .str "b"), ("value", .str "older")]])])])]

/-- Pending values for the names under which its items are read. -/
def mixedPending : Pending where
  entries := [("b", "1"), ("a", "2"), ("", "3"), ("b", "4")]

/-- The mixed document after the write of the pending values. -/
def mixedWritten : Json :=
  .obj [(planKey, .obj [(characteristicsKey, .obj [
      ("props", .arr [.arr [.str "a", .str "old"], .obj [("value", .str "old")],
        .obj [("name", .str "b"), ("value", .str "4")],
        .obj [("name", .str "b"), ("value", .str "older")],
        .obj [("name", .str "a"), ("value", .str "2")],
        .obj [("name", .str ""), ("value", .str "3")]])]),
    ("metadata", .obj [("last-modified", .str "2026-10-18T09:30:00Z")])])]

/-- The plan that is read then, in which the names `a` and the empty one have their old values. -/
def mixedPlan : SecurityPlan where
  metadata := { lastModified := some "2026-10-18T09:30:00Z" }
  characteristics :=
    { properties := [⟨"a", "old"⟩, ⟨"", "old"⟩, ⟨"b", "4"⟩, ⟨"b", "older"⟩, ⟨"a", "2"⟩, ⟨"", "3"⟩] }

theorem wellFormed_mixedDocument : mixedDocument.WellFormed := by
  simp [mixedDocument, Entries.keys]

theorem write_mixedDocument :
    write mixedDocument mixedPending sampleTime =
      .ok (mixedWritten, { updated := ["b", "b"], added := ["a", ""] }) := rfl

theorem ofJson_mixedWritten : SecurityPlan.ofJson mixedWritten = .ok mixedPlan := rfl

theorem property?_of_write_mixed_items :
    mixedDocument.WellFormed ∧
    write mixedDocument mixedPending sampleTime =
      .ok (mixedWritten, { updated := ["b", "b"], added := ["a", ""] }) ∧
    SecurityPlan.ofJson mixedWritten = .ok mixedPlan ∧
    ∀ name ∈ mixedPending.names,
      ((∀ i item, ¬ FirstShadow name (propertiesOf mixedDocument) i item) →
        ∃ value, mixedPending.get? name = some value ∧ mixedPlan.property? name = some value) ∧
      ∀ i item, FirstShadow name (propertiesOf mixedDocument) i item →
        ∃ property, Property.format.decode item = .ok property ∧
          mixedPlan.property? name = some property.value :=
  ⟨wellFormed_mixedDocument, write_mixedDocument, ofJson_mixedWritten,
    property?_of_write wellFormed_mixedDocument write_mixedDocument ofJson_mixedWritten⟩

/-- Without the exception it does not hold: a property that is held by position is not the one that
is written, and yet is the one that is read. -/
theorem property?_of_write_shadowed :
    ¬ ∀ (document written : Json) (pending : Pending) (time : Timestamp) (report : Report)
        (plan : SecurityPlan), document.WellFormed →
      write document pending time = .ok (written, report) →
      SecurityPlan.ofJson written = .ok plan →
      ∀ name ∈ pending.names, plan.property? name = pending.get? name := by
  intro h
  have pendingName : "a" ∈ mixedPending.names := by decide
  have same := h _ _ _ _ _ _ wellFormed_mixedDocument write_mixedDocument ofJson_mixedWritten "a"
    pendingName
  have read : mixedPlan.property? "a" = some "old" := rfl
  have pending : mixedPending.get? "a" = some "2" := rfl
  rw [read, pending] at same
  exact absurd same (by decide)

end PrivacyMapping.Oscal
