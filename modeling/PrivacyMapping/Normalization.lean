import PrivacyMapping.Json.Printer
import PrivacyMapping.Text.Blank
import PrivacyMapping.Text.Casing
import PrivacyMapping.Text.SortedSet

/-!
# Normalization of found values

A list of found values is cleaned by steps, each of which treats every value on its own. Values are
looked up and compared by their string form. Values that are blank are dropped before the first step
and after every step, so that a value that a step makes blank is gone for the steps after it.
-/

namespace PrivacyMapping

/-- The text that stands for a value in comparisons: a string is its own, null has the empty one,
and any other value its JSON text. -/
def Json.stringForm : Json → String
  | .str s => s
  | .null => ""
  | value => value.compact

/-- Whether a value carries nothing: null, or a string form of white space only. -/
def Json.isBlank : Json → Bool
  | .null => true
  | value => Text.isBlank value.stringForm

namespace Normalization

inductive Step where
  /-- Drop the values whose string form is among the texts. -/
  | mask (texts : List String)
  /-- Replace a value whose string form is a key of the table. -/
  | replace (table : Entries Json)
  /-- Replace each value by its string form in lower case. -/
  | lowercase
  /-- Replace each value by its string form without white space at its ends. -/
  | trim
  deriving Inhabited

/-- The texts that a mask stands for, if it is one: each item of an array, or the value itself. Null
and objects are no masks. -/
def maskTexts? : Json → Option (List String)
  | .null | .obj _ => none
  | .arr items => some (Text.sortedSet (items.map Json.stringForm))
  | value => some [value.stringForm]

/-- The steps that one entry of a rule asks for. An entry with several known keys asks for several
steps, always in the order mask, map, lowercase, trim; unknown keys and entries that are no objects
ask for none. -/
def stepsOf : Json → List Step
  | .obj members =>
    let mask :=
      match (Entries.get? members "mask").bind maskTexts? with
      | some texts => [Step.mask texts]
      | none => []
    let replace :=
      match Entries.get? members "map" with
      | some (.obj table) => [Step.replace table]
      | _ => []
    -- only `true` sets a flag, not every value that is not empty
    let flag (key : String) (step : Step) : List Step :=
      match Entries.get? members key with
      | some (.bool true) => [step]
      | _ => []
    mask ++ replace ++ flag "lowercase" .lowercase ++ flag "trim" .trim
  | _ => []

/-- What a step makes of one value: nothing, or one value. -/
def Step.applyTo : Step → Json → Option Json
  | .mask texts, value => if value.stringForm ∈ texts then none else some value
  | .replace table, value => some ((Entries.get? table value.stringForm).getD value)
  | .lowercase, value => some (.str (Text.lowercase value.stringForm))
  | .trim, value => some (.str (Text.trim value.stringForm))

def Step.apply (step : Step) (values : List Json) : List Json :=
  values.filterMap step.applyTo

/-- The values that are not blank. -/
def dropBlank (values : List Json) : List Json :=
  values.filter fun value => !value.isBlank

/-- The values after all steps, blank ones being dropped at the start and after every step. -/
def normalize (values : List Json) (steps : List Step) : List Json :=
  steps.foldl (fun values step => dropBlank (step.apply values)) (dropBlank values)

end Normalization

end PrivacyMapping
