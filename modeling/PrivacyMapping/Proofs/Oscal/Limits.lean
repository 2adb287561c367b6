import PrivacyMapping.Proofs.Json.Fits
import PrivacyMapping.Proofs.Oscal.Sections

/-!
# Limits of a written document

A write puts texts into a document, and objects and arrays down to the fifth level. So it stays within
the limits of the document before it, if these leave room for five levels (`fits_of_write`),
and a well-formed document stays well-formed.
-/

namespace PrivacyMapping.Oscal

variable {allowed : Json.Number → Prop} {room : Nat}

/-! ## Properties -/

theorem fits_withValue {item : Json} (h : item.Fits allowed room) (value : String) :
    (withValue value item).Fits allowed room := by
  cases h with
  | obj distinct inside => exact .insert (.obj distinct inside) "value" (.str _ value)
  | null => exact .null room
  | bool _ b => exact .bool room b
  | num _ hn => exact .num room hn
  | str _ s => exact .str room s
  | arr inside => exact .arr inside

theorem fits_newProperty (name value : String) :
    (newProperty name value).Fits allowed (room + 1) := by
  have empty : (Json.obj []).Fits allowed (room + 1) := .obj_nil
  exact (empty.insert "name" (.str room name)).insert "value" (.str room value)

theorem wellFormed_withValue {item : Json} (h : item.WellFormed) (value : String) :
    (withValue value item).WellFormed := by
  obtain ⟨room, hroom⟩ := h.exists_fits
  exact (fits_withValue hroom value).wellFormed

theorem wellFormed_newProperty (name value : String) : (newProperty name value).WellFormed := by
  have fits : (newProperty name value).Fits (fun _ => True) 1 := fits_newProperty name value
  exact fits.wellFormed

/-! ## Sections -/

/-- The parts of a document are within limits, each with the room that is left at its level. -/
structure Sections.Fits (allowed : Json.Number → Prop) (room : Nat) (s : Sections) : Prop where
  document : (Json.obj s.document).Fits allowed (room + 5)
  plan : (Json.obj s.plan).Fits allowed (room + 4)
  metadata : (Json.obj s.metadata).Fits allowed (room + 3)
  characteristics : (Json.obj s.characteristics).Fits allowed (room + 3)
  properties : (Json.arr s.properties).Fits allowed (room + 2)

theorem HasSections.fits {document : Json} {s : Sections} (hs : HasSections document s)
    (h : document.Fits allowed (room + 5)) : s.Fits allowed room := by
  obtain ⟨rfl, hplan, hmetadata, hcharacteristics, hproperties⟩ := hs
  have plan := h.of_get? hplan
  have characteristics := plan.of_getD .obj_nil hcharacteristics
  exact ⟨h, plan, plan.of_getD .obj_nil hmetadata, characteristics,
    characteristics.of_getD (.arr (by simp)) hproperties⟩

theorem HasSections.exists_fits {document : Json} {s : Sections} (hs : HasSections document s)
    (h : document.WellFormed) : ∃ room, s.Fits (fun _ => True) room := by
  obtain ⟨room, hroom⟩ := h.exists_fits
  exact ⟨room, hs.fits (hroom.mono (fun _ _ => id) (Nat.le_add_right room 5))⟩

theorem Sections.Fits.written {s : Sections} (h : s.Fits allowed room) (pending : Pending)
    (time : Timestamp) : (s.written pending time).Fits allowed (room + 5) := by
  have changed : ∀ (item : Json) (value : String), item.Fits allowed (room + 1) →
      (withValue value item).Fits allowed (room + 1) := fun _ value item => fits_withValue item value
  have items := forall_writeEntries changed fits_newProperty (Json.Fits.arr_iff.1 h.properties) pending
  have characteristics := h.characteristics.insert "props" (Json.Fits.arr items)
  have metadata := h.metadata.insert "last-modified" (.str _ time.text)
  have plan := (h.plan.insert characteristicsKey characteristics).insert "metadata" metadata
  exact h.document.insert planKey plan

/-- A written document keeps to the limits of the document before it. -/
theorem fits_of_write {document written : Json} {pending : Pending} {time : Timestamp}
    {report : Report} (h : write document pending time = .ok (written, report))
    (fits : document.Fits allowed (room + 5)) : written.Fits allowed (room + 5) := by
  obtain ⟨s, hs, rfl, -⟩ := write_eq_ok_iff.1 h
  exact (hs.fits fits).written pending time

theorem HasSections.wellFormed_written {document : Json} {s : Sections} (hs : HasSections document s)
    (h : document.WellFormed) (pending : Pending) (time : Timestamp) :
    (s.written pending time).WellFormed := by
  obtain ⟨room, fits⟩ := hs.exists_fits h
  exact (fits.written pending time).wellFormed

end PrivacyMapping.Oscal
