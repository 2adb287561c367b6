import PrivacyMapping.Selector
import PrivacyMapping.Normalization

/-!
# Rules

A rule says where the values of a target field come from, how they are normalized, and what stands
in for them when nothing is found. A rule can be read from the body it has in a rule set, or built
up from a path.
-/

namespace PrivacyMapping

open Normalization (Step)

/-- How one target field is filled. A rule without a source fills nothing; a fallback, where there
is one, is not empty. -/
structure Rule where
  source : Option Selector := none
  steps : List Step := []
  fallback : Option (List Json) := none
  deriving Inhabited

namespace Rule

def new (path : String) : Rule :=
  { source := some (Selector.parse path) }

/-- The rule with further steps at the end. -/
def withSteps (rule : Rule) (steps : List Step) : Rule :=
  { rule with steps := rule.steps ++ steps }

/-- The values that a fallback stands for: the items of an array, or the value itself. Null and the
empty array are no fallback. -/
def fallbackValues? : Json → Option (List Json)
  | .null | .arr [] => none
  | .arr items => some items
  | value => some [value]

def withFallback (rule : Rule) (fallback : Json) : Rule :=
  { rule with fallback := fallbackValues? fallback }

/-- The selector that a source stands for; only a string that is not empty is one. -/
def sourceOf? : Json → Option Selector
  | .str path => if path = "" then none else some (Selector.parse path)
  | _ => none

/-- The steps that the `normalize` key of a body asks for: those of each item of an array, or those
of a single entry. -/
def stepsOf : Json → List Step
  | .arr entries => entries.flatMap Normalization.stepsOf
  | entry => Normalization.stepsOf entry

/-- The rule with the given body. A body that is no object gives the rule without a source. -/
def ofJson : Json → Rule
  | .obj members =>
    { source := (Entries.get? members "source").bind sourceOf?
      steps := ((Entries.get? members "normalize").map stepsOf).getD []
      fallback := (Entries.get? members "fallback").bind fallbackValues? }
  | _ => {}

end Rule

end PrivacyMapping
