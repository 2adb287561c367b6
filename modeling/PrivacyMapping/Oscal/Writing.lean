import PrivacyMapping.Oscal.Error
import PrivacyMapping.Oscal.Pending
import PrivacyMapping.Timestamp

/-!
# Writing properties into a security plan

Pending values are written in turn. An entry sets the value of the first property of its name and
adds a property at the end if there is none, so a later entry of the same name replaces the value of
an earlier one. The time of modification is set on every write. A document that lacks the sections
on the way gets them; one that has something else in their place is refused before anything is
changed. A document is edited in place, so that what a failed write leaves of it is part of its
answer.
-/

namespace PrivacyMapping.Oscal

def planKey : String := "system-security-plan"

/-- The key of the section that holds the properties. -/
def characteristicsKey : String := "system-characteristics"

/-- The names of the properties that a write has changed and added, in the order of the entries, and
the target fields that had no property. -/
structure Report where
  updated : List String := []
  added : List String := []
  skipped : List String := []
  deriving DecidableEq, Inhabited

/-! ## Properties -/

/-- Whether a value is a property of a name. -/
def isNamed (name : String) (item : Json) : Bool :=
  match item.get? "name" with
  | some (.str s) => s = name
  | _ => false

def withValue (value : String) : Json → Json
  | .obj members => .obj (Entries.insert members "value" (.str value))
  | item => item

def newProperty (name value : String) : Json :=
  .obj [("name", .str name), ("value", .str value)]

/-- The properties with another value for the first one of a name, if there is one. -/
def setFirst? (name value : String) : List Json → Option (List Json)
  | [] => none
  | item :: rest =>
    if isNamed name item then some (withValue value item :: rest)
    else (setFirst? name value rest).map (item :: ·)

def writeEntry (state : List Json × Report) (entry : String × String) : List Json × Report :=
  let (properties, report) := state
  let (name, value) := entry
  match setFirst? name value properties with
  | some properties => (properties, { report with updated := report.updated ++ [name] })
  | none =>
    (properties ++ [newProperty name value], { report with added := report.added ++ [name] })

def writeEntries (pending : Pending) (properties : List Json) : List Json × Report :=
  pending.entries.foldl writeEntry (properties, { skipped := pending.skipped })

/-! ## Plans -/

/-- The members of an object under a key, none if the key is absent. -/
def objectAt (members : Entries Json) (key path : String) : Except Error (Entries Json) :=
  match members.get? key with
  | none => .ok []
  | some (.obj members) => .ok members
  | some _ => .error (.notObject path)

/-- The items of an array under a key, none if the key is absent. -/
def arrayAt (members : Entries Json) (key path : String) : Except Error (List Json) :=
  match members.get? key with
  | none => .ok []
  | some (.arr items) => .ok items
  | some _ => .error (.notArray path)

def planOf (document : Json) : Except Error (Entries Json) :=
  match document.get? planKey with
  | none => .error .missingPlan
  | some (.obj plan) => .ok plan
  | some _ => .error (.notObject planKey)

/-- Refuse a plan that has something else in the place of a section. -/
def checkPlan (plan : Entries Json) : Except Error Unit := do
  let _ ← objectAt plan "metadata" "system-security-plan.metadata"
  let characteristics ← objectAt plan characteristicsKey "system-security-plan.system-characteristics"
  let _ ← arrayAt characteristics "props" "system-security-plan.system-characteristics.props"
  pure ()

/-- Write pending values into the properties of a plan. Sections that are absent are added at the end
of the object that they belong to; where something else is in their place, nothing is written. -/
def fillPlan (pending : Pending) (plan : Entries Json) : Entries Json × Report :=
  match (plan.get? characteristicsKey).getD (.obj []) with
  | .obj characteristics =>
    match (Entries.get? characteristics "props").getD (.arr []) with
    | .arr properties =>
      let (properties, report) := writeEntries pending properties
      let characteristics := Entries.insert characteristics "props" (.arr properties)
      (plan.insert characteristicsKey (.obj characteristics), report)
    | _ => (plan, { skipped := pending.skipped })
  | _ => (plan, { skipped := pending.skipped })

/-- Set the time of modification of a plan, unless it has something else than an object in the place
of its metadata. -/
def stampPlan (time : Timestamp) (plan : Entries Json) : Entries Json :=
  match (plan.get? "metadata").getD (.obj []) with
  | .obj metadata =>
    plan.insert "metadata" (.obj (Entries.insert metadata "last-modified" (.str time.text)))
  | _ => plan

/-! ## Documents -/

/-- An edit of a document, which leaves the document as it then is also when it fails. -/
abbrev Edit (α : Type) := ExceptT Error (StateM Json) α

namespace Edit

variable {α β : Type}

/-- What an edit answers on a document, and the document that it leaves. -/
def on (edit : Edit α) (document : Json) : Except Error α × Json :=
  StateT.run (ExceptT.run edit) document

@[simp]
theorem on_bind (edit : Edit α) (next : α → Edit β) (document : Json) :
    Edit.on (edit >>= next) document =
      match edit.on document with
      | (.error e, document) => (.error e, document)
      | (.ok value, document) => (next value).on document := by
  have run : Edit.on (edit >>= next) document =
      match edit.on document with
      | (outcome, document) => (ExceptT.bindCont next outcome : StateM Json _) document := rfl
  rw [run]
  obtain ⟨outcome, left⟩ := edit.on document
  cases outcome <;> rfl

@[simp]
theorem on_lift (outcome : Except Error α) (document : Json) :
    Edit.on (liftM outcome) document = (outcome, document) := by
  cases outcome <;> rfl

@[simp]
theorem on_get (document : Json) : Edit.on get document = (.ok document, document) := rfl

@[simp]
theorem on_modify (change : Json → Json) (document : Json) :
    Edit.on (modify change) document = (.ok ⟨⟩, change document) := rfl

@[simp]
theorem on_pure (value : α) (document : Json) :
    Edit.on (pure value) document = (.ok value, document) := rfl

end Edit

/-- Put a plan in the place of the plan of a document. -/
def withPlan (plan : Entries Json) : Json → Json
  | .obj document => .obj (Entries.insert document planKey (.obj plan))
  | document => document

/-- Write pending values into the document at a time. -/
def fill (pending : Pending) (time : Timestamp) : Edit Report := do
  let plan ← planOf (← get)
  checkPlan plan
  -- nothing fails from here on
  let (plan, report) := fillPlan pending plan
  modify (withPlan plan)
  modify (withPlan (stampPlan time plan))
  return report

/-- The document with pending values written into it at a time. -/
def write (document : Json) (pending : Pending) (time : Timestamp) : Except Error (Json × Report) :=
  match (fill pending time).on document with
  | (.ok report, document) => .ok (document, report)
  | (.error e, _) => .error e

/-- Write the values of a mapping result into a document at a time. -/
def writeMapping (document : Json) (result : MappingResult) (bindings : Bindings)
    (separator : String) (time : Timestamp) : Except Error (Json × Report) :=
  write document (Pending.ofMapping result bindings separator) time

end PrivacyMapping.Oscal
