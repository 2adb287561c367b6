import PrivacyMapping.Proofs.Oscal.Sections

/-!
# What a successful write leaves

Two descriptions of the document after a write. `write_lands` looks where a reader looks: the first
property of every pending name carries the latest pending value, and the metadata carry the time.
`write_frame` looks at everything else: level by level, the document differs from the one before only
in the sections on the way, and there only as `Filled` says. `write_report` compares both documents
with what the write says that it did.
-/

namespace PrivacyMapping.Oscal

variable {document written : Json} {pending : Pending} {time : Timestamp} {report : Report}

/-! ## Values that land -/

theorem exists_firstNamed {name : String} {items : List Json} {item : Json}
    (h : items.find? (isNamed name) = some item) : ∃ i, FirstNamed name items i item := by
  obtain ⟨named, i, hi, rfl, least⟩ := List.find?_eq_some_iff_getElem.1 h
  refine ⟨i, List.getElem?_eq_getElem hi, isNamed_iff.1 named, ?_⟩
  intro j hj other hother
  obtain ⟨_, rfl⟩ := List.getElem?_eq_some_iff.1 hother
  exact isNamed_eq_false_iff.1 (by simpa using least j hj)

theorem FirstNamed.find?_eq {name : String} {items : List Json} {i : Nat} {item : Json}
    (h : FirstNamed name items i item) : items.find? (isNamed name) = some item := by
  obtain ⟨hi, hitem⟩ := List.getElem?_eq_some_iff.1 h.at_place
  refine List.find?_eq_some_iff_getElem.2 ⟨isNamed_iff.2 h.named, i, hi, hitem, ?_⟩
  intro j hj
  have unnamed := h.least j hj _ (List.getElem?_eq_getElem (by omega))
  rw [isNamed_eq_false_iff.2 unnamed, Bool.not_false]

theorem exists_firstNamed_writeEntries {name value : String} (h : pending.get? name = some value)
    (items : List Json) :
    ∃ i item, FirstNamed name (writeEntries pending items).1 i item ∧
      item.get? "value" = some (.str value) := by
  have found := find?_foldl_put (recognizes_isNamed name) pending.entries items
  rw [← Pending.get?_eq_latest?, h, ← fst_writeEntries] at found
  obtain ⟨i, first⟩ := exists_firstNamed found
  refine ⟨i, _, first, ?_⟩
  cases hitem : items.find? (isNamed name) with
  | none => rfl
  | some item =>
    have named := isNamed_iff.1 (List.find?_some hitem)
    rw [Option.map_some, Option.getD_some, settle_of_named named]
    exact named.get?_withValue value

namespace Sections

variable (s : Sections) (pending : Pending) (time : Timestamp)

theorem at?_properties_written :
    (s.written pending time).at? [planKey, characteristicsKey, "props"] =
      some (.arr (writeEntries pending s.properties).1) := by
  have other : characteristicsKey ≠ "metadata" := by decide
  simp only [written, Json.at?_obj, Entries.get?_insert_self, Entries.get?_insert_of_ne _ _ other,
    Option.bind_some, Json.at?_nil]

theorem at?_time_written :
    (s.written pending time).at? [planKey, "metadata", "last-modified"] = some (.str time.text) := by
  simp only [written, Json.at?_obj, Entries.get?_insert_self, Option.bind_some, Json.at?_nil]

end Sections

/-- **Pending values land, and the last one of a name wins.** After a write the first property of
every pending name has the value that the pending values give to the name, whatever properties were
there before, and the metadata have the time of the write. -/
theorem write_lands (h : write document pending time = .ok (written, report)) :
    (∃ properties, written.at? [planKey, characteristicsKey, "props"] = some (.arr properties) ∧
      ∀ name ∈ pending.names, ∃ i item value, FirstNamed name properties i item ∧
        pending.get? name = some value ∧ item.get? "value" = some (.str value)) ∧
    written.at? [planKey, "metadata", "last-modified"] = some (.str time.text) := by
  obtain ⟨s, -, rfl, -⟩ := write_eq_ok_iff.1 h
  refine ⟨⟨_, s.at?_properties_written pending time, ?_⟩, s.at?_time_written pending time⟩
  intro name hname
  cases hvalue : pending.get? name with
  | none => exact absurd hname (Pending.get?_eq_none_iff.1 hvalue)
  | some value =>
    obtain ⟨i, item, first, hitem⟩ := exists_firstNamed_writeEntries hvalue s.properties
    exact ⟨i, item, value, first, rfl, hitem⟩

/-- A document without metadata, whose plan has two properties of one name and items that are no
properties. -/
def sampleDocument : Json :=
  .obj [(planKey, .obj [(characteristicsKey, .obj [
      ("props", .arr [.null, .obj [("name", .null)],
        .obj [("name", .str "b"), ("value", .null), ("ns", .str "n")],
        .obj [("name", .str "b"), ("value", .str "old")]]),
      ("status", .null)])]),
    ("rest", .null)]

/-- Pending values with two values for each name. -/
def samplePending : Pending where
  entries := [("a", "1"), ("b", "2"), ("a", "3"), ("b", "4")]

def sampleTime : Timestamp :=
  ⟨2026, 290, 34200, false, by decide, by decide, by decide, by decide⟩

/-- The sample document after the write of the pending values. -/
def sampleWritten : Json :=
  .obj [(planKey, .obj [(characteristicsKey, .obj [
      ("props", .arr [.null, .obj [("name", .null)],
        .obj [("name", .str "b"), ("value", .str "4"), ("ns", .str "n")],
        .obj [("name", .str "b"), ("value", .str "old")],
        .obj [("name", .str "a"), ("value", .str "3")]]),
      ("status", .null)]),
    ("metadata", .obj [("last-modified", .str "2026-10-18T09:30:00Z")])]),
    ("rest", .null)]

theorem write_lands_repeated_names :
    write sampleDocument samplePending sampleTime =
      .ok (sampleWritten, { updated := ["b", "a", "b"], added := ["a"] }) ∧
    (∃ properties,
      sampleWritten.at? [planKey, characteristicsKey, "props"] = some (.arr properties) ∧
      ∀ name ∈ samplePending.names, ∃ i item value, FirstNamed name properties i item ∧
        samplePending.get? name = some value ∧ item.get? "value" = some (.str value)) ∧
    sampleWritten.at? [planKey, "metadata", "last-modified"] = some (.str sampleTime.text) :=
  have h : write sampleDocument samplePending sampleTime =
      .ok (sampleWritten, { updated := ["b", "a", "b"], added := ["a"] }) := rfl
  ⟨h, write_lands h⟩

/-! ## Everything else -/

/-- An object, empty if it is absent, has been edited. -/
def InObject (R : Entries Json → Entries Json → Prop) (old : Option Json) (new : Json) : Prop :=
  ∃ before after, old.getD (.obj []) = .obj before ∧ new = .obj after ∧ R before after

/-- An array, empty if it is absent, has been edited. -/
def InArray (R : List Json → List Json → Prop) (old : Option Json) (new : Json) : Prop :=
  ∃ before after, old.getD (.arr []) = .arr before ∧ new = .arr after ∧ R before after

/-- The members of a plan before and after a write: first the properties are filled, then the time of
modification is set, each in a section that is added at the end if it is absent. -/
def PlanWritten (pending : Pending) (time : Timestamp) (before after : Entries Json) : Prop :=
  ∃ filled,
    Entries.Edited characteristicsKey
      (InObject (Entries.Edited "props" (InArray (Filled pending)))) before filled ∧
    Entries.Edited "metadata"
      (InObject (Entries.Edited "last-modified" fun _ new => new = .str time.text)) filled after

/-- A document before and after a write: an object in which only the plan under its key differs. -/
def Written (pending : Pending) (time : Timestamp) (before after : Json) : Prop :=
  ∃ members members', before = .obj members ∧ after = .obj members' ∧
    Entries.Edited planKey
      (fun old new => ∃ plan plan', old = some (.obj plan) ∧ new = .obj plan' ∧
        PlanWritten pending time plan plan') members members'

/-- **The frame of a write.** The document that a write leaves is the one before it, with the members
of the plan edited as `PlanWritten` says and everything else unchanged and in its place. -/
theorem write_frame (h : write document pending time = .ok (written, report)) :
    Written pending time document written := by
  obtain ⟨s, hs, rfl, -⟩ := write_eq_ok_iff.1 h
  refine ⟨s.document, _, hs.document_eq, rfl, Entries.edited_insert ?_⟩
  refine ⟨s.plan, _, hs.plan_eq, rfl, _, Entries.edited_insert ?_, Entries.edited_insert ?_⟩
  · refine ⟨s.characteristics, _, hs.characteristics_eq, rfl, Entries.edited_insert ?_⟩
    exact ⟨s.properties, _, hs.properties_eq, rfl, filled_writeEntries pending s.properties⟩
  · refine ⟨s.metadata, _, ?_, rfl, Entries.edited_insert rfl⟩
    rw [Entries.get?_insert_of_ne _ _ (by decide)]
    exact hs.metadata_eq

theorem write_frame_created_metadata :
    write sampleDocument samplePending sampleTime =
      .ok (sampleWritten, { updated := ["b", "a", "b"], added := ["a"] }) ∧
    Written samplePending sampleTime sampleDocument sampleWritten :=
  have h : write sampleDocument samplePending sampleTime =
      .ok (sampleWritten, { updated := ["b", "a", "b"], added := ["a"] }) := rfl
  ⟨h, write_frame h⟩

/-! ## The report -/

/-- **The report tells exactly what happened.** The names that it lists as added and as updated are
those of the pending entries, told apart by the properties of the document before the write, and the
added ones stand one to one behind the properties that were there. -/
theorem write_report (h : write document pending time = .ok (written, report)) :
    ∃ after, written.at? [planKey, characteristicsKey, "props"] = some (.arr after) ∧
      Reports pending (propertiesOf document) after report := by
  obtain ⟨s, hs, rfl, rfl⟩ := write_eq_ok_iff.1 h
  rw [hs.propertiesOf_eq]
  exact ⟨_, s.at?_properties_written pending time, reports_writeEntries pending s.properties⟩

/-- Pending values with names that come back, some of them new to the sample document. -/
def repeatingPending : Pending where
  entries := [("c", "1"), ("b", "2"), ("a", "3"), ("c", "4"), ("b", "5")]
  skipped := ["notes"]

theorem write_report_repeated_new_name :
    ∃ written,
      write sampleDocument repeatingPending sampleTime =
        .ok (written, { updated := ["b", "c", "b"], added := ["c", "a"], skipped := ["notes"] }) ∧
      ∃ after, written.at? [planKey, characteristicsKey, "props"] = some (.arr after) ∧
        Reports repeatingPending (propertiesOf sampleDocument) after
          { updated := ["b", "c", "b"], added := ["c", "a"], skipped := ["notes"] } := by
  have h : write sampleDocument repeatingPending sampleTime =
      .ok (_, { updated := ["b", "c", "b"], added := ["c", "a"], skipped := ["notes"] }) := rfl
  exact ⟨_, h, write_report h⟩

end PrivacyMapping.Oscal
