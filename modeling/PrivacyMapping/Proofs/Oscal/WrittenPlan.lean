import PrivacyMapping.Proofs.Oscal.Reading

/-!
# The plan read from a written document

A write touches the properties and the time of modification, and a reader sees nothing else of it: a
document that could be read can be read after the write, and the plan that is read differs only in
these two places (`ofJson_of_write`). Each section is followed on its own: `Sections.ReadAs` says what
the sections of a document are read as, whether they are there or count as empty.
-/

namespace PrivacyMapping.Oscal

open Json (Format Fields)

/-! ## Properties -/

/-- An item that can be read as a property. -/
def Readable (item : Json) : Prop :=
  item.WellFormed ∧ ∃ property, Property.format.decode item = .ok property

theorem Readable.withValue {item : Json} (h : Readable item) (value : String) :
    Readable (withValue value item) := by
  obtain ⟨wellFormed, property, decoded⟩ := h
  refine ⟨wellFormed_withValue wellFormed value, ?_⟩
  cases item with
  | obj members =>
    have distinct := (Json.WellFormed.obj_iff.1 wellFormed).1
    exact ⟨{ property with value }, Json.decode_record_insert (by decide) distinct decoded rfl⟩
  | _ => exact ⟨property, decoded⟩

theorem readable_newProperty (name value : String) : Readable (newProperty name value) :=
  ⟨wellFormed_newProperty name value, ⟨name, value⟩, rfl⟩

theorem readable_of_decode_list {items : List Json} {properties : List Property}
    (wellFormed : ∀ item ∈ items, item.WellFormed)
    (h : (Format.list Property.format).decode (.arr items) = .ok properties) :
    ∀ item ∈ items, Readable item :=
  fun item hitem => ⟨wellFormed item hitem, Json.exists_decode_of_mem h hitem⟩

/-! ## Sections -/

/-- What the parts of a document are read as. -/
structure Sections.ReadAs (s : Sections) (result : SecurityPlan) : Prop where
  document : SecurityPlan.documentFormat.decode (.obj s.document) = .ok result
  plan : SecurityPlan.format.decode (.obj s.plan) = .ok result
  metadata : Metadata.format.decode (.obj s.metadata) = .ok result.metadata
  characteristics :
    SystemCharacteristics.format.decode (.obj s.characteristics) = .ok result.characteristics
  properties :
    (Format.list Property.format).decode (.arr s.properties) = .ok result.characteristics.properties

theorem decode_getD {α : Type} {format : Format α} {default found : α} {empty present : Json}
    {value : Option Json} (hdefault : format.decode empty = .ok default)
    (read : match value with
      | none => found = default
      | some value => format.decode value = .ok found)
    (h : value.getD empty = present) : format.decode present = .ok found := by
  subst h
  cases value with
  | none => exact read ▸ hdefault
  | some value => exact read

section plans

variable {document : Json} {plan : SecurityPlan}

theorem HasSections.readAs {s : Sections} (hs : HasSections document s)
    (wellFormed : document.WellFormed) (h : SecurityPlan.ofJson document = .ok plan) :
    s.ReadAs plan := by
  obtain ⟨rfl, hplan, hmetadata, hcharacteristics, hproperties⟩ := hs
  have empty : (Json.obj []).WellFormed := .obj List.nodup_nil (by simp)
  have wellFormedPlan := wellFormed.of_get?_entries hplan
  have wellFormedCharacteristics := wellFormedPlan.of_getD empty hcharacteristics
  have readDocument := ofJson_eq_ok_iff.1 h
  obtain ⟨readPlan, -⟩ := (Json.decode_record_obj_eq_ok_iff (by decide)
    (Json.WellFormed.obj_iff.1 wellFormed).1).1 readDocument
  rw [show s.document.get? "system-security-plan" = some (.obj s.plan) from hplan] at readPlan
  obtain ⟨-, readMetadata, readCharacteristics, -⟩ := (Json.decode_record_obj_eq_ok_iff (by decide)
    (Json.WellFormed.obj_iff.1 wellFormedPlan).1).1 readPlan
  have characteristics := decode_getD rfl readCharacteristics hcharacteristics
  obtain ⟨-, readProperties, -⟩ := (Json.decode_record_obj_eq_ok_iff (by decide)
    (Json.WellFormed.obj_iff.1 wellFormedCharacteristics).1).1 characteristics
  exact ⟨readDocument, readPlan, decode_getD rfl readMetadata hmetadata, characteristics,
    decode_getD rfl readProperties hproperties⟩

section edited

variable {s : Sections} {allowed : Json.Number → Prop} {room : Nat}

theorem Sections.ReadAs.exists_properties (h : s.ReadAs plan) (fits : s.Fits allowed room)
    (pending : Pending) :
    ∃ properties, (Format.list Property.format).decode
      (.arr (writeEntries pending s.properties).1) = .ok properties := by
  have before : ∀ item ∈ s.properties, Readable item :=
    readable_of_decode_list
      (fun item hitem => (Json.Fits.arr_iff.1 fits.properties item hitem).wellFormed) h.properties
  have after := forall_writeEntries (fun _ value h => Readable.withValue h value)
    readable_newProperty before pending
  exact Json.exists_decode_list fun item hitem => (after item hitem).2

/-- The document put together from the edited sections is read as the plan with these sections edited.
-/
theorem Sections.ReadAs.decode_written (h : s.ReadAs plan) (fits : s.Fits allowed room)
    {pending : Pending} {properties : List Property}
    (hproperties : (Format.list Property.format).decode
      (.arr (writeEntries pending s.properties).1) = .ok properties) (time : Timestamp) :
    SecurityPlan.documentFormat.decode (s.written pending time) = .ok { plan with
      metadata := { plan.metadata with lastModified := some time.text }
      characteristics := { plan.characteristics with properties } } := by
  have metadata : Metadata.format.decode
      (.obj (s.metadata.insert "last-modified" (.str time.text))) =
        .ok { plan.metadata with lastModified := some time.text } :=
    Json.decode_record_insert (by decide) fits.metadata.distinct h.metadata rfl
  have characteristics : SystemCharacteristics.format.decode
      (.obj (s.characteristics.insert "props" (.arr (writeEntries pending s.properties).1))) =
        .ok { plan.characteristics with properties } := by
    refine Json.decode_record_insert (by decide) fits.characteristics.distinct h.characteristics ?_
    simp [Fields.put, hproperties, Except.map]
  have filled : SecurityPlan.format.decode (.obj (s.plan.insert characteristicsKey
      (.obj (s.characteristics.insert "props" (.arr (writeEntries pending s.properties).1))))) =
        .ok { plan with characteristics := { plan.characteristics with properties } } := by
    refine Json.decode_record_insert (by decide) fits.plan.distinct h.plan ?_
    simp [Fields.put, characteristicsKey, characteristics, Except.map]
  have stamped : SecurityPlan.format.decode (.obj ((s.plan.insert characteristicsKey
      (.obj (s.characteristics.insert "props" (.arr (writeEntries pending s.properties).1)))).insert
        "metadata" (.obj (s.metadata.insert "last-modified" (.str time.text))))) =
        .ok { plan with
          metadata := { plan.metadata with lastModified := some time.text }
          characteristics := { plan.characteristics with properties } } := by
    refine Json.decode_record_insert (by decide)
      (Entries.nodup_keys_insert fits.plan.distinct _ _) filled ?_
    simp [Fields.put, metadata, Except.map]
  refine Json.decode_record_insert (by decide) fits.document.distinct h.document ?_
  simp [Fields.put, planKey, stamped, Except.map]

end edited

end plans

/-! ## Plans -/

variable {document written : Json} {pending : Pending} {time : Timestamp} {report : Report}
  {plan : SecurityPlan}

/-- **A write is invisible but for the properties and the time.** A document that can be read can be
read after a write. The plan that is read then has the time of the write in its metadata, and is equal
to the one before in everything but this time and the properties; so its summary differs in the time
only. -/
theorem ofJson_of_write (wellFormed : document.WellFormed)
    (h : write document pending time = .ok (written, report))
    (hread : SecurityPlan.ofJson document = .ok plan) :
    ∃ plan', SecurityPlan.ofJson written = .ok plan' ∧
      plan' = { plan with
        metadata := { plan.metadata with lastModified := some time.text }
        characteristics :=
          { plan.characteristics with properties := plan'.characteristics.properties } } ∧
      plan'.summary = { plan.summary with lastModified := some time.text } := by
  obtain ⟨s, hs, rfl, -⟩ := write_eq_ok_iff.1 h
  obtain ⟨room, fits⟩ := hs.exists_fits wellFormed
  have read := hs.readAs wellFormed hread
  obtain ⟨properties, hproperties⟩ := read.exists_properties fits pending
  exact ⟨_, ofJson_eq_ok_iff.2 (read.decode_written fits hproperties time), rfl, rfl⟩

/-- A document without metadata, with sections and properties held by position, a property that has no
value, and members that are not known. -/
def unevenDocument : Json :=
  .obj [("draft", .bool true),
    (planKey, .obj [("uuid", .null),
      ("system-implementation", .arr [.arr [.arr [.str "c-1", .null, .str "Server"]]]),
      (characteristicsKey, .obj [("system-name", .str "Kasse"), ("status", .str "operational"),
        ("props", .arr [.arr [.str "c", .str "old"], .obj [("name", .str "b")]])]),
      ("control-implementation", .obj [("implemented-requirements", .arr [
        .obj [("control-id", .str "r-1"),
          ("statements", .arr [.obj [("statement-id", .str "s-1")], .arr []])]])])])]

/-- The plan that is read from it. -/
def unevenPlan : SecurityPlan where
  characteristics := { systemName := some "Kasse", properties := [⟨"c", "old"⟩, ⟨"b", ""⟩] }
  implementation := { components := [{ uuid := some "c-1", title := some "Server" }] }
  controls := { requirements := [
    { controlId := "r-1", statements := [{ statementId := "s-1" }, {}] }] }

/-- The uneven document after the write of the sample values. -/
def unevenWritten : Json :=
  .obj [("draft", .bool true),
    (planKey, .obj [("uuid", .null),
      ("system-implementation", .arr [.arr [.arr [.str "c-1", .null, .str "Server"]]]),
      (characteristicsKey, .obj [("system-name", .str "Kasse"), ("status", .str "operational"),
        ("props", .arr [.arr [.str "c", .str "old"], .obj [("name", .str "b"), ("value", .str "4")],
          newProperty "a" "3"])]),
      ("control-implementation", .obj [("implemented-requirements", .arr [
        .obj [("control-id", .str "r-1"),
          ("statements", .arr [.obj [("statement-id", .str "s-1")], .arr []])]])]),
      ("metadata", .obj [("last-modified", .str "2026-10-18T09:30:00Z")])])]

theorem ofJson_of_write_uneven_document :
    unevenDocument.WellFormed ∧
    write unevenDocument samplePending sampleTime =
      .ok (unevenWritten, { updated := ["b", "a", "b"], added := ["a"] }) ∧
    SecurityPlan.ofJson unevenDocument = .ok unevenPlan ∧
    ∃ plan', SecurityPlan.ofJson unevenWritten = .ok plan' ∧
      plan' = { unevenPlan with
        metadata := { unevenPlan.metadata with lastModified := some sampleTime.text }
        characteristics :=
          { unevenPlan.characteristics with properties := plan'.characteristics.properties } } ∧
      plan'.summary = { unevenPlan.summary with lastModified := some sampleTime.text } := by
  have wellFormed : unevenDocument.WellFormed := by simp [unevenDocument, Entries.keys, planKey,
    characteristicsKey]
  have h : write unevenDocument samplePending sampleTime =
      .ok (unevenWritten, { updated := ["b", "a", "b"], added := ["a"] }) := rfl
  have hread : SecurityPlan.ofJson unevenDocument = .ok unevenPlan := rfl
  exact ⟨wellFormed, h, hread, ofJson_of_write wellFormed h hread⟩

end PrivacyMapping.Oscal
