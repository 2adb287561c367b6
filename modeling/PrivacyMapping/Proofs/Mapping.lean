import PrivacyMapping.Mapping
import Mathlib.Data.List.Basic

/-!
# What a rule makes of its values

The outcome of a rule is a function of the values that its selector finds (`Rule.found`): the
normalized values without repetitions if there are any, and otherwise the fallback.
-/

namespace PrivacyMapping

open Normalization (normalize)

/-! ## Repeated values -/

theorem foldl_distinct_sublist (kept values : List Json) :
    (values.foldl (fun kept value => if kept.any (·.same value) then kept else kept ++ [value])
      kept).Sublist (kept ++ values) := by
  induction values generalizing kept with
  | nil => simp
  | cons value rest ih =>
    rw [List.foldl_cons]
    split
    · exact (ih kept).trans (List.Sublist.append_left (List.sublist_cons_self value rest) kept)
    · simpa using ih (kept ++ [value])

theorem distinct_sublist (values : List Json) : (distinct values).Sublist values :=
  foldl_distinct_sublist [] values

/-! ## Outcomes -/

namespace Rule

/-- The values that the selector of a rule finds, none without a selector. -/
def found (rule : Rule) (sources : Sources) : List Json :=
  match rule.source with
  | some selector => selector.resolve sources
  | none => []

variable {rule : Rule} {target : String} {sources : Sources} {field : Field}

theorem found_of_source {selector : Selector} (h : rule.source = some selector) (sources : Sources) :
    rule.found sources = selector.resolve sources := by
  rw [found, h]

theorem evaluate_congr {first second : Sources}
    (h : normalize (rule.found first) rule.steps = normalize (rule.found second) rule.steps) :
    rule.evaluate target first = rule.evaluate target second := by
  unfold evaluate
  cases hsource : rule.source with
  | none => rfl
  | some selector =>
    simp only [found, hsource] at h
    simp only [Option.bind_some, h]

theorem values_of_resolved (h : rule.evaluate target sources = some field)
    (resolved : field.origin = .resolved) :
    field.values = distinct (normalize (rule.found sources) rule.steps) := by
  unfold evaluate at h
  cases hsource : rule.source with
  | none => simp [hsource] at h
  | some selector =>
    simp only [hsource, Option.bind_some] at h
    simp only [found, hsource]
    split at h
    · obtain ⟨values, -, rfl⟩ := Option.map_eq_some_iff.1 h
      cases resolved
    · obtain rfl := Option.some.inj h
      rfl

end Rule

end PrivacyMapping
