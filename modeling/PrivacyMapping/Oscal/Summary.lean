import PrivacyMapping.Json.Printer
import PrivacyMapping.Oscal.ActionPlan
import PrivacyMapping.Oscal.SecurityPlan

/-!
# Summaries as JSON and as text

A summary is shown as a JSON value or as aligned lines for a reader. In the lines, what is not given
is shown as `-`.
-/

namespace PrivacyMapping.Oscal

def optionalText : Option String → Json
  | some s => .str s
  | none => .null

/-- A text filled up with blanks to a number of characters. -/
def padded (width : Nat) (s : String) : String :=
  s ++ String.ofList (List.replicate (width - s.length) ' ')

/-- Lines as one text, each ended by a line break. -/
def joinLines (lines : List String) : String :=
  String.join (lines.map (· ++ "\n"))

namespace PlanSummary

/-- The summary of a security plan as a JSON value. -/
def toJson (s : PlanSummary) : Json :=
  .obj [
    ("title", .str s.title),
    ("version", .str s.version),
    ("oscal-version", .str s.oscalVersion),
    ("last-modified", optionalText s.lastModified),
    ("implemented-requirements", .ofNat s.requirements),
    ("components", .ofNat s.components),
    ("statements", .arr (s.statements.map fun statement => .obj [
      ("control-id", .str statement.controlId),
      ("statement-id", .str statement.statementId)])),
    ("resources", .ofNat s.resources)]

def statementLine (statement : StatementRef) : String :=
  "    " ++ padded 16 statement.controlId ++ " " ++ statement.statementId

/-- The summary of a security plan as lines of text. -/
def text (s : PlanSummary) : String :=
  joinLines <| [
    "  title:         " ++ s.title,
    "  version:       " ++ s.version,
    "  oscal-version: " ++ s.oscalVersion,
    "  last-modified: " ++ s.lastModified.getD "-",
    "  components:    " ++ toString s.components,
    "  requirements:  " ++ toString s.requirements,
    "  resources:     " ++ toString s.resources] ++
    if s.statements.isEmpty then [] else "  statements:" :: s.statements.map statementLine

end PlanSummary

namespace ActionSummary

def itemJson (item : ItemSummary) : Json :=
  .obj [
    ("title", .str item.title),
    ("status", .str item.status),
    ("risk-score", optionalText item.riskScore),
    ("milestones", .arr (item.milestones.map .str))]

/-- The summary of an action plan as a JSON value. -/
def toJson (s : ActionSummary) : Json :=
  .obj [("title", .str s.title), ("items", .arr (s.items.map itemJson))]

def itemLines (item : ItemSummary) : List String :=
  ("    [" ++ padded 8 item.status ++ "] " ++ item.title ++
      " (risk: " ++ item.riskScore.getD "-" ++ ")") ::
    item.milestones.map ("      - " ++ ·)

/-- The summary of an action plan as lines of text. -/
def text (s : ActionSummary) : String :=
  joinLines <| ("  title: " ++ s.title) :: ("  items: " ++ toString s.items.length) ::
    s.items.flatMap itemLines

end ActionSummary

end PrivacyMapping.Oscal
