import PrivacyMapping.Oscal.Error
import PrivacyMapping.Oscal.Metadata

/-!
# Plans of action and milestones

What is planned, with its status, its risk and the milestones on the way. Reading is lenient in the
same way as for security plans.
-/

namespace PrivacyMapping.Oscal

open Json (Format Fields)

/-- The risk that an item answers. -/
structure Risk where
  properties : List Property := []
  deriving DecidableEq, Inhabited

def Risk.format : Format Risk :=
  .record "Risk" (.cons "props" (.list Property.format) [] .nil)
    ⟨fun (properties, _) => ⟨properties⟩, fun r => (r.properties, ()), fun _ => rfl, fun _ => rfl⟩

structure Milestone where
  title : Option String := none
  scheduledCompletion : Option String := none
  deriving DecidableEq, Inhabited

namespace Milestone

def format : Format Milestone :=
  .record "Milestone"
    (.cons "title" (.optional .text) none <|
      .cons "scheduled-completion-date" (.optional .text) none .nil)
    ⟨fun (title, scheduledCompletion, _) => ⟨title, scheduledCompletion⟩,
      fun m => (m.title, m.scheduledCompletion, ()), fun _ => rfl, fun _ => rfl⟩

/-- The title of a milestone, followed by its date if there is one. -/
def text (milestone : Milestone) : String :=
  let title := milestone.title.getD ""
  match milestone.scheduledCompletion with
  | some date => title ++ " (" ++ date ++ ")"
  | none => title

end Milestone

structure ActionItem where
  uuid : Option String := none
  title : Option String := none
  description : Option String := none
  status : Option String := none
  risk : Option Risk := none
  milestones : List Milestone := []
  deriving DecidableEq, Inhabited

namespace ActionItem

def format : Format ActionItem :=
  .record "PoamItem"
    (.cons "uuid" (.optional .text) none <|
      .cons "title" (.optional .text) none <|
      .cons "description" (.optional .text) none <|
      .cons "status" (.optional .text) none <|
      .cons "risk" (.optional Risk.format) none <|
      .cons "milestones" (.list Milestone.format) [] .nil)
    ⟨fun (uuid, title, description, status, risk, milestones, _) =>
        ⟨uuid, title, description, status, risk, milestones⟩,
      fun i => (i.uuid, i.title, i.description, i.status, i.risk, i.milestones, ()),
      fun _ => rfl, fun _ => rfl⟩

/-- The status of an item, `planned` unless it is given. -/
def statusText (item : ActionItem) : String :=
  item.status.getD "planned"

/-- The score of the risk, held by its property `risk-score`. -/
def riskScore? (item : ActionItem) : Option String :=
  item.risk.bind fun risk => propertyValue? risk.properties "risk-score"

end ActionItem

structure ActionPlan where
  uuid : Option String := none
  metadata : Metadata := {}
  items : List ActionItem := []
  deriving DecidableEq, Inhabited

structure ItemSummary where
  title : String
  status : String
  riskScore : Option String
  milestones : List String
  deriving DecidableEq, Inhabited

structure ActionSummary where
  title : String
  items : List ItemSummary
  deriving DecidableEq, Inhabited

def ActionItem.summary (item : ActionItem) : ItemSummary where
  title := item.title.getD ""
  status := item.statusText
  riskScore := item.riskScore?
  milestones := item.milestones.map (·.text)

namespace ActionPlan

def format : Format ActionPlan :=
  .record "PlanOfActionAndMilestones"
    (.cons "uuid" (.optional .text) none <|
      .cons "metadata" Metadata.format {} <|
      .cons "poam-items" (.list ActionItem.format) [] .nil)
    ⟨fun (uuid, metadata, items, _) => ⟨uuid, metadata, items⟩,
      fun p => (p.uuid, p.metadata, p.items, ()), fun _ => rfl, fun _ => rfl⟩

def documentFormat : Format ActionPlan :=
  .record "PoamDocument" (.cons "plan-of-action-and-milestones" format {} .nil)
    ⟨fun (plan, _) => plan, fun plan => (plan, ()), fun _ => rfl, fun _ => rfl⟩

def ofJson (document : Json) : Except Error ActionPlan :=
  (documentFormat.decode document).mapError .malformed

/-- The document with a plan, all defaults being filled in. -/
def toJson (plan : ActionPlan) : Json :=
  documentFormat.encode plan

def summary (plan : ActionPlan) : ActionSummary where
  title := plan.metadata.title.getD "POA&M"
  items := plan.items.map (·.summary)

end ActionPlan

end PrivacyMapping.Oscal
