import PrivacyMapping.Oscal.ActionPlan
import PrivacyMapping.Oscal.SecurityPlan
import PrivacyMapping.Proofs.Json.Encoding
import PrivacyMapping.Proofs.Json.Leniency

/-!
# Reading plans

Security plans and action plans are read by their formats, so the laws of formats hold for both. A plan
is read back from the document that it is written as (`ofJson_toJson`), and reading is lenient: it asks
for no member, and passes over those that are not known (`ofJson_lenient`).
-/

namespace PrivacyMapping.Oscal

open Json (Addition Format Place)

/-! ## Plans read back -/

/-- **Plans are read back.** A plan, whatever document it was read from, is written as a well-formed
document with all its fields, and from this document the same plan is read again. -/
theorem ofJson_toJson :
    (∀ plan : SecurityPlan,
      plan.toJson.WellFormed ∧ SecurityPlan.ofJson plan.toJson = .ok plan) ∧
    ∀ plan : ActionPlan, plan.toJson.WellFormed ∧ ActionPlan.ofJson plan.toJson = .ok plan := by
  have faithfulSecurity : SecurityPlan.documentFormat.faithful = true := by decide
  have faithfulAction : ActionPlan.documentFormat.faithful = true := by decide
  constructor
  · intro plan
    exact ⟨SecurityPlan.documentFormat.wellFormed_encode faithfulSecurity plan,
      Json.mapError_eq_ok_iff.2 (SecurityPlan.documentFormat.decode_encode faithfulSecurity plan)⟩
  · intro plan
    exact ⟨ActionPlan.documentFormat.wellFormed_encode faithfulAction plan,
      Json.mapError_eq_ok_iff.2 (ActionPlan.documentFormat.decode_encode faithfulAction plan)⟩

/-! ## Lenient reading -/

/-- A document that can be read still can without any of its members, and it is read as the same with
more members, none of which is known at its place. -/
structure ReadsLeniently {ε α : Type} (read : Json → Except ε α) (format : Format α) : Prop where
  fewer : ∀ document a, read document = .ok a →
    ∀ dropped : List Place → Bool, ∃ b, read (document.without dropped) = .ok b
  more : ∀ document a, read document = .ok a → ∀ additions : List Addition,
    (∀ addition ∈ additions, format.knows addition.path addition.key = false) →
      read (additions.foldl Json.add document) = .ok a

theorem readsLeniently {ε α : Type} {read : Json → Except ε α} {format : Format α}
    (h : ∀ {document a}, read document = .ok a ↔ format.decode document = .ok a) :
    ReadsLeniently read format := by
  constructor
  case fewer =>
    intro document a hread dropped
    obtain ⟨b, hb⟩ := format.accepts_without ⟨a, h.1 hread⟩ dropped
    exact ⟨b, h.2 hb⟩
  case more =>
    intro document a hread additions unknown
    exact h.2 (format.decode_addAll (h.1 hread) additions unknown)

/-- **Reading is lenient.** From a document that can be read as a plan any members may be taken away at
any depth, and it can still be read; members may be added to any of its objects, and the same plan is
read, as long as none has the key of a field that is read from its object. -/
theorem ofJson_lenient :
    ReadsLeniently SecurityPlan.ofJson SecurityPlan.documentFormat ∧
      ReadsLeniently ActionPlan.ofJson ActionPlan.documentFormat :=
  ⟨readsLeniently Json.mapError_eq_ok_iff, readsLeniently Json.mapError_eq_ok_iff⟩

/-- An action plan with an item by key and an item by position, and a member that is not known. -/
def unlikeItemsDocument : Json :=
  .obj [("plan-of-action-and-milestones", .obj [
    ("uuid", .null),
    ("poam-items", .arr [
      .obj [("title", .str "Backup"),
        ("risk", .arr [.arr [.obj [("name", .str "risk-score"), ("value", .str "7")]]])],
      .arr [.str "i-2", .str "Access", .null, .str "open"]]),
    ("links", .arr [.obj [("title", .str "Law")]])])]

/-- The plan that is read from it. -/
def unlikeItemsPlan : ActionPlan where
  items := [{ title := some "Backup", risk := some ⟨[⟨"risk-score", "7"⟩]⟩ },
    { uuid := some "i-2", title := some "Access", status := some "open" }]

/-- The places of all members with the keys `title` and `value`. -/
def titlesAndValues (path : List Place) : Bool :=
  path.getLast? == some (.member "title") || path.getLast? == some (.member "value")

/-- Members that are not known: beside the plan, in a property of a risk that is held by position, and
in an object that is not read. -/
def remarks : List Addition :=
  [⟨[], 0, "title", .str "Plan"⟩,
    ⟨[.member "plan-of-action-and-milestones", .member "poam-items", .item 0, .member "risk", .item 0,
      .item 0], 1, "uuid", .arr []⟩,
    ⟨[.member "plan-of-action-and-milestones", .member "links", .item 0], 9, "uuid", .bool true⟩]

theorem ofJson_lenient_unlike_items :
    ActionPlan.ofJson unlikeItemsDocument = .ok unlikeItemsPlan ∧
    (∃ fewer, ActionPlan.ofJson (unlikeItemsDocument.without titlesAndValues) = .ok fewer) ∧
    (∀ addition ∈ remarks,
      ActionPlan.documentFormat.knows addition.path addition.key = false) ∧
    remarks.foldl Json.add unlikeItemsDocument = .obj [("title", .str "Plan"),
      ("plan-of-action-and-milestones", .obj [
        ("uuid", .null),
        ("poam-items", .arr [
          .obj [("title", .str "Backup"), ("risk", .arr [.arr [
            .obj [("name", .str "risk-score"), ("uuid", .arr []), ("value", .str "7")]]])],
          .arr [.str "i-2", .str "Access", .null, .str "open"]]),
        ("links", .arr [.obj [("title", .str "Law"), ("uuid", .bool true)]])])] ∧
    ActionPlan.ofJson (remarks.foldl Json.add unlikeItemsDocument) = .ok unlikeItemsPlan := by
  have read : ActionPlan.ofJson unlikeItemsDocument = .ok unlikeItemsPlan := rfl
  have unknown : ∀ addition ∈ remarks,
      ActionPlan.documentFormat.knows addition.path addition.key = false := by decide
  exact ⟨read, ofJson_lenient.2.fewer _ _ read titlesAndValues, unknown, rfl,
    ofJson_lenient.2.more _ _ read remarks unknown⟩

end PrivacyMapping.Oscal
