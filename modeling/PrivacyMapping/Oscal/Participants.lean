import PrivacyMapping.Oscal.Pending
import PrivacyMapping.Text.SortedSet

/-!
# Participants of a process

A process export tells which of its lanes lie inside the organisation and which of its message flows
leave it. The labels of the inner lanes are the data subjects, and the pools to which the outer
flows go are external recipients. Both are sorted sets of trimmed texts, so neither the order nor
the repetition of lanes and flows matters.
-/

namespace PrivacyMapping

/-- Whether a value counts as true: anything but null, false, zero, and what is empty. -/
def Json.isTruthy : Json → Bool
  | .null => false
  | .bool b => b
  | .num n => !n.isZero
  | .str s => s ≠ ""
  | .arr items => !items.isEmpty
  | .obj members => !members.isEmpty

namespace Oscal

/-- The data subjects and the external recipients of a process. -/
structure Participants where
  internal : List String := []
  external : List String := []
  deriving DecidableEq, Inhabited

namespace Participants

/-- The text under a key of an item that qualifies, trimmed and not empty. -/
def name? (key : String) (qualifies : Json → Bool) (item : Json) : Option String :=
  if qualifies item then
    match item.get? key with
    | some (.str s) =>
      let name := Text.trim s
      if name = "" then none else some name
    | _ => none
  else none

/-- The names of the items that qualify in an array of the process. -/
def collect (process : Json) (array key : String) (qualifies : Json → Bool) : List String :=
  match process.get? array with
  | some (.arr items) => Text.sortedSet (items.filterMap (name? key qualifies))
  | _ => []

/-- Whether a lane lies inside the organisation: only when it says that it is not external. -/
def isInternalLane (lane : Json) : Bool :=
  match lane.get? "external" with
  | some (.bool false) => true
  | _ => false

/-- Whether a message flow leaves the organisation. -/
def isExternalFlow (flow : Json) : Bool :=
  (flow.get? "external").any Json.isTruthy

def ofProcess (process : Json) : Participants where
  internal := collect process "lanes" "label" isInternalLane
  external := collect process "messageFlows" "targetPool" isExternalFlow

def isEmpty (participants : Participants) : Bool :=
  participants.internal.isEmpty && participants.external.isEmpty

/-- The text between recipients that a mapping found and external ones. -/
def groupSeparator : String := "; "

/-- The pending values with the data subjects replaced by the inner lanes, if there are any. -/
def mergeSubjects (participants : Participants) (pending : Pending) (bindings : Bindings)
    (separator : String) : Pending :=
  match bindings.property? "data-subjects" with
  | some name =>
    if participants.internal.isEmpty then pending
    else pending.set name (separator.intercalate participants.internal)
  | none => pending

/-- The pending values with the external recipients, if there are any, after those already there. -/
def mergeRecipients (participants : Participants) (pending : Pending) (bindings : Bindings)
    (separator : String) : Pending :=
  match bindings.property? "recipients" with
  | some name =>
    if participants.external.isEmpty then pending
    else
      let external := separator.intercalate participants.external
      match pending.get? name with
      | some mapped =>
        pending.set name (if mapped = "" then external else mapped ++ groupSeparator ++ external)
      | none => pending.set name external
  | none => pending

def merge (participants : Participants) (pending : Pending) (bindings : Bindings)
    (separator : String) : Pending :=
  participants.mergeRecipients (participants.mergeSubjects pending bindings separator) bindings
    separator

end Participants

end Oscal

end PrivacyMapping
