import PrivacyMapping.Oscal.Writing
import PrivacyMapping.Proofs.Entries
import PrivacyMapping.Proofs.Oscal.Report

/-!
# Documents that can be written

`refusal?` says from the shape of a document alone whether a write is refused, and why. A document
that is not refused has the sections of a plan (`HasSections`), of which some may be absent and count
as empty. The edit, with its checks and its changes one after the other, comes down to these two
cases: on a refused document it changes nothing (`on_fill_of_refused`), and on any other it leaves the
document put together from the edited sections (`on_fill_of_hasSections`).
-/

namespace PrivacyMapping

/-! ## Paths -/

/-- The value at the end of a path of keys. -/
def Json.at? (value : Json) (path : List String) : Option Json :=
  path.foldlM Json.get? value

/-- Whether a value is an object. -/
def Json.isObject : Json → Bool
  | .obj _ => true
  | _ => false

/-- Whether a value is an array. -/
def Json.isArray : Json → Bool
  | .arr _ => true
  | _ => false

@[simp]
theorem Json.at?_nil (value : Json) : value.at? [] = some value := rfl

theorem Json.at?_cons (value : Json) (key : String) (path : List String) :
    value.at? (key :: path) = (value.get? key).bind (·.at? path) := rfl

theorem Json.at?_singleton (value : Json) (key : String) : value.at? [key] = value.get? key := by
  cases h : value.get? key <;> simp [at?_cons, h]

theorem Json.at?_obj (members : Entries Json) (key : String) (path : List String) :
    (Json.obj members).at? (key :: path) = (members.get? key).bind (·.at? path) := rfl

namespace Oscal

/-! ## Shapes -/

/-- Why a document is refused, if it is: the first thing on the way to the properties and the metadata
that is missing or is not what it should be. -/
def refusal? (document : Json) : Option Error :=
  if (document.at? [planKey]).isNone then some .missingPlan
  else if (document.at? [planKey]).any (!·.isObject) then some (.notObject "system-security-plan")
  else if (document.at? [planKey, "metadata"]).any (!·.isObject) then
    some (.notObject "system-security-plan.metadata")
  else if (document.at? [planKey, characteristicsKey]).any (!·.isObject) then
    some (.notObject "system-security-plan.system-characteristics")
  else if (document.at? [planKey, characteristicsKey, "props"]).any (!·.isArray) then
    some (.notArray "system-security-plan.system-characteristics.props")
  else none

/-- The parts of a document that a write changes. -/
structure Sections where
  document : Entries Json
  plan : Entries Json
  metadata : Entries Json
  characteristics : Entries Json
  properties : List Json

/-- A document with these parts; those that are absent count as empty, the plan apart. -/
structure HasSections (document : Json) (s : Sections) : Prop where
  document_eq : document = .obj s.document
  plan_eq : s.document.get? planKey = some (.obj s.plan)
  metadata_eq : (s.plan.get? "metadata").getD (.obj []) = .obj s.metadata
  characteristics_eq : (s.plan.get? characteristicsKey).getD (.obj []) = .obj s.characteristics
  properties_eq : (s.characteristics.get? "props").getD (.arr []) = .arr s.properties

/-- The document put together from sections into which pending values have been written. -/
def Sections.written (s : Sections) (pending : Pending) (time : Timestamp) : Json :=
  let characteristics := s.characteristics.insert "props" (.arr (writeEntries pending s.properties).1)
  let metadata := s.metadata.insert "last-modified" (.str time.text)
  let plan := (s.plan.insert characteristicsKey (.obj characteristics)).insert "metadata" (.obj metadata)
  .obj (s.document.insert planKey (.obj plan))

/-! ## Checks -/

section checks

variable {members : Entries Json} {key : String} {value : Option Json}

theorem any_not_isObject_eq_false_iff :
    value.any (!·.isObject) = false ↔ ∃ found, value.getD (.obj []) = .obj found := by
  cases value with
  | none => simp
  | some value => cases value <;> simp [Json.isObject]

theorem any_not_isArray_eq_false_iff :
    value.any (!·.isArray) = false ↔ ∃ found, value.getD (.arr []) = .arr found := by
  cases value with
  | none => simp
  | some value => cases value <;> simp [Json.isArray]

theorem objectAt_eq_ok {found : Entries Json} (h : (members.get? key).getD (.obj []) = .obj found)
    (path : String) : objectAt members key path = .ok found := by
  unfold objectAt
  split <;> simp_all

theorem objectAt_eq_error (h : (members.get? key).any (!·.isObject) = true) (path : String) :
    objectAt members key path = .error (.notObject path) := by
  unfold objectAt
  split <;> simp_all [Json.isObject]

theorem arrayAt_eq_ok {found : List Json} (h : (members.get? key).getD (.arr []) = .arr found)
    (path : String) : arrayAt members key path = .ok found := by
  unfold arrayAt
  split <;> simp_all

theorem arrayAt_eq_error (h : (members.get? key).any (!·.isArray) = true) (path : String) :
    arrayAt members key path = .error (.notArray path) := by
  unfold arrayAt
  split <;> simp_all [Json.isArray]

end checks

section plans

variable {document : Json} {plan characteristics : Entries Json}

theorem planOf_eq_ok (h : document.get? planKey = some (.obj plan)) : planOf document = .ok plan := by
  simp [planOf, h]

theorem at?_section (h : document.get? planKey = some (.obj plan)) (key : String) :
    document.at? [planKey, key] = plan.get? key := by
  rw [Json.at?_cons, h, Option.bind_some, Json.at?_singleton]
  rfl

theorem at?_properties (h : document.get? planKey = some (.obj plan))
    (hcharacteristics : (plan.get? characteristicsKey).getD (.obj []) = .obj characteristics) :
    document.at? [planKey, characteristicsKey, "props"] = characteristics.get? "props" := by
  rw [Json.at?_cons, h, Option.bind_some, Json.at?_cons]
  change (plan.get? characteristicsKey).bind (·.at? ["props"]) = _
  cases hvalue : plan.get? characteristicsKey with
  | none =>
    obtain rfl : [] = characteristics := by simpa [hvalue] using hcharacteristics
    rfl
  | some value =>
    obtain rfl : value = .obj characteristics := by simpa [hvalue] using hcharacteristics
    rw [Option.bind_some, Json.at?_singleton]
    rfl

theorem exists_plan (some_plan : ¬ (document.at? [planKey]).isNone = true)
    (object : ¬ (document.at? [planKey]).any (!·.isObject) = true) :
    ∃ plan, document.get? planKey = some (.obj plan) := by
  rw [Json.at?_singleton] at some_plan object
  cases hvalue : document.get? planKey with
  | none => simp [hvalue] at some_plan
  | some value => cases value <;> simp_all [Json.isObject]

end plans

/-! ## The edit on a document -/

theorem on_fill (document : Json) (pending : Pending) (time : Timestamp) :
    (fill pending time).on document =
      match planOf document with
      | .error e => (.error e, document)
      | .ok plan =>
        match checkPlan plan with
        | .error e => (.error e, document)
        | .ok () =>
          let filled := fillPlan pending plan
          (.ok filled.2, withPlan (stampPlan time filled.1) (withPlan filled.1 document)) := by
  simp only [fill, Edit.on_bind, Edit.on_get, Edit.on_lift, Edit.on_modify, Edit.on_pure]
  cases planOf document with
  | error e => rfl
  | ok plan =>
    dsimp only
    cases checkPlan plan with
    | error e => rfl
    | ok _ => rfl

variable {document : Json}

theorem on_fill_of_refused {e : Error} (h : refusal? document = some e) (pending : Pending)
    (time : Timestamp) : (fill pending time).on document = (.error e, document) := by
  rw [on_fill]
  unfold refusal? at h
  -- in each case one check fails after those before it have passed
  split_ifs at h with noPlan planMisplaced metadataMisplaced characteristicsMisplaced misplaced
  · obtain rfl := Option.some.inj h
    rw [Json.at?_singleton, Option.isNone_iff_eq_none] at noPlan
    simp [planOf, noPlan]
  · obtain rfl := Option.some.inj h
    rw [Json.at?_singleton] at planMisplaced
    cases hvalue : document.get? planKey with
    | none => simp [hvalue] at planMisplaced
    | some value => cases value <;> simp_all [planOf, Json.isObject, planKey]
  all_goals
    obtain ⟨plan, hplan⟩ := exists_plan noPlan planMisplaced
    obtain rfl := Option.some.inj h
    rw [at?_section hplan] at metadataMisplaced
    rw [planOf_eq_ok hplan]
  · simp [checkPlan, objectAt_eq_error metadataMisplaced, bind, Except.bind]
  all_goals
    obtain ⟨metadata, hmetadata⟩ :=
      any_not_isObject_eq_false_iff.1 (Bool.not_eq_true _ ▸ metadataMisplaced)
    rw [at?_section hplan] at characteristicsMisplaced
  · simp [checkPlan, objectAt_eq_ok hmetadata, objectAt_eq_error characteristicsMisplaced, bind,
      Except.bind]
  · obtain ⟨characteristics, hcharacteristics⟩ :=
      any_not_isObject_eq_false_iff.1 (Bool.not_eq_true _ ▸ characteristicsMisplaced)
    rw [at?_properties hplan hcharacteristics] at misplaced
    simp [checkPlan, objectAt_eq_ok hmetadata, objectAt_eq_ok hcharacteristics,
      arrayAt_eq_error misplaced, bind, Except.bind]

theorem exists_hasSections (h : refusal? document = none) : ∃ s, HasSections document s := by
  unfold refusal? at h
  split_ifs at h with noPlan planMisplaced metadataMisplaced characteristicsMisplaced misplaced
  obtain ⟨plan, hplan⟩ := exists_plan noPlan planMisplaced
  obtain ⟨members, rfl⟩ : ∃ members, document = .obj members := by
    cases document with
    | obj members => exact ⟨members, rfl⟩
    | _ => simp [Json.get?] at hplan
  rw [at?_section hplan] at metadataMisplaced characteristicsMisplaced
  obtain ⟨metadata, hmetadata⟩ :=
    any_not_isObject_eq_false_iff.1 (Bool.not_eq_true _ ▸ metadataMisplaced)
  obtain ⟨characteristics, hcharacteristics⟩ :=
    any_not_isObject_eq_false_iff.1 (Bool.not_eq_true _ ▸ characteristicsMisplaced)
  rw [at?_properties hplan hcharacteristics] at misplaced
  obtain ⟨properties, hproperties⟩ :=
    any_not_isArray_eq_false_iff.1 (Bool.not_eq_true _ ▸ misplaced)
  exact ⟨⟨members, plan, metadata, characteristics, properties⟩, rfl, hplan, hmetadata,
    hcharacteristics, hproperties⟩

/-! ## The properties of a document -/

/-- The items in the place of the properties of a document, none if there are no properties. -/
def propertiesOf (document : Json) : List Json :=
  match document.at? [planKey, characteristicsKey, "props"] with
  | some (.arr items) => items
  | _ => []

theorem HasSections.propertiesOf_eq {s : Sections} (h : HasSections document s) :
    propertiesOf document = s.properties := by
  have plan : document.get? planKey = some (.obj s.plan) := by
    rw [h.document_eq]
    exact h.plan_eq
  have properties := h.properties_eq
  rw [propertiesOf, at?_properties plan h.characteristics_eq]
  cases found : s.characteristics.get? "props" with
  | none =>
    rw [found] at properties
    exact Json.arr.inj properties
  | some value =>
    rw [found] at properties
    obtain rfl : value = .arr s.properties := properties
    rfl

/-! ## The edit on a document with sections -/

theorem HasSections.planOf_eq {s : Sections} (h : HasSections document s) :
    planOf document = .ok s.plan := by
  have found : document.get? planKey = some (.obj s.plan) := by
    rw [h.document_eq]
    exact h.plan_eq
  exact planOf_eq_ok found

theorem HasSections.checkPlan_eq {s : Sections} (h : HasSections document s) :
    checkPlan s.plan = .ok () := by
  simp [checkPlan, objectAt_eq_ok h.metadata_eq, objectAt_eq_ok h.characteristics_eq,
    arrayAt_eq_ok h.properties_eq, bind, Except.bind, pure, Except.pure]

theorem HasSections.fillPlan_eq {s : Sections} (h : HasSections document s) (pending : Pending) :
    fillPlan pending s.plan =
      (s.plan.insert characteristicsKey
        (.obj (s.characteristics.insert "props" (.arr (writeEntries pending s.properties).1))),
      (writeEntries pending s.properties).2) := by
  simp only [fillPlan, h.characteristics_eq, h.properties_eq]

theorem HasSections.stampPlan_eq {s : Sections} (h : HasSections document s) (time : Timestamp)
    (value : Json) :
    stampPlan time (s.plan.insert characteristicsKey value) =
      (s.plan.insert characteristicsKey value).insert "metadata"
        (.obj (s.metadata.insert "last-modified" (.str time.text))) := by
  have metadata : (s.plan.insert characteristicsKey value).get? "metadata" = s.plan.get? "metadata" :=
    Entries.get?_insert_of_ne s.plan value (by decide)
  simp only [stampPlan, metadata, h.metadata_eq]

theorem on_fill_of_hasSections {s : Sections} (h : HasSections document s) (pending : Pending)
    (time : Timestamp) :
    (fill pending time).on document =
      (.ok (writeEntries pending s.properties).2, s.written pending time) := by
  rw [on_fill, h.planOf_eq]
  simp only [h.checkPlan_eq, h.fillPlan_eq, h.stampPlan_eq, h.document_eq, withPlan,
    Entries.insert_insert, Sections.written]

/-- A write succeeds on the documents with sections, and gives the document put together from them. -/
theorem write_eq_ok_iff {written : Json} {report : Report} {pending : Pending} {time : Timestamp} :
    write document pending time = .ok (written, report) ↔
      ∃ s, HasSections document s ∧ written = s.written pending time ∧
        report = (writeEntries pending s.properties).2 := by
  constructor
  · intro h
    cases hrefusal : refusal? document with
    | some e => simp [write, on_fill_of_refused hrefusal] at h
    | none =>
      obtain ⟨s, hs⟩ := exists_hasSections hrefusal
      simp only [write, on_fill_of_hasSections hs, Except.ok.injEq, Prod.mk.injEq] at h
      exact ⟨s, hs, h.1.symm, h.2.symm⟩
  · rintro ⟨s, hs, rfl, rfl⟩
    simp only [write, on_fill_of_hasSections hs]

/-! ## Refused writes -/

/-- **A write either changes nothing or drops nothing.** A refused document is left as it was, with
the reason that its shape gives; on every other document the write succeeds and reports every pending
entry as either updated or added. -/
theorem fill_refuses_or_reports_all (document : Json) (pending : Pending) (time : Timestamp) :
    match refusal? document with
    | some e => (fill pending time).on document = (.error e, document)
    | none => ∃ report left, (fill pending time).on document = (.ok report, left) ∧
        report.updated.length + report.added.length = pending.entries.length := by
  cases hrefusal : refusal? document with
  | some e => exact on_fill_of_refused hrefusal pending time
  | none =>
    obtain ⟨s, hs⟩ := exists_hasSections hrefusal
    exact ⟨_, _, on_fill_of_hasSections hs pending time, length_report_writeEntries pending s.properties⟩

end Oscal

end PrivacyMapping
