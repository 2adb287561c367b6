import PrivacyMapping.Proofs.Normalization
import PrivacyMapping.Proofs.Mapping
import PrivacyMapping.Proofs.Selector

/-!
# Rules as they are made

A rule is read from the body that it has in a rule set, or built up from a path. Either way its
fallback is never empty, and the values that its steps put in are well-formed.
-/

namespace PrivacyMapping.Rule

open Normalization (Step normalize)

/-- The rule is read from a body, or built up from a path. -/
inductive Built : Rule → Prop
  | ofJson {body : Json} (hbody : body.WellFormed) : Built (ofJson body)
  | new (path : String) : Built (new path)
  | withSteps {rule : Rule} {steps : List Step} (built : Built rule)
      (hsteps : ∀ step ∈ steps, step.WellFormed) : Built (rule.withSteps steps)
  | withFallback {rule : Rule} (built : Built rule) (fallback : Json) :
      Built (rule.withFallback fallback)

theorem wellFormed_of_mem_stepsOf {entry : Json} (h : entry.WellFormed) {step : Step}
    (hstep : step ∈ stepsOf entry) : step.WellFormed := by
  cases entry with
  | arr entries =>
    obtain ⟨inner, hinner, hstep⟩ := List.mem_flatMap.1 hstep
    exact Normalization.wellFormed_of_mem_stepsOf (Json.WellFormed.arr_iff.1 h inner hinner) hstep
  | _ => exact Normalization.wellFormed_of_mem_stepsOf h hstep

theorem ne_nil_of_fallbackValues? {value : Json} {values : List Json}
    (h : fallbackValues? value = some values) : values ≠ [] := by
  unfold fallbackValues? at h
  split at h
  · cases h
  · cases h
  · next items nonempty =>
    obtain rfl := Option.some.inj h
    exact nonempty
  · obtain rfl := Option.some.inj h
    exact List.cons_ne_nil _ _

/-- What every rule satisfies that is read or built up. -/
theorem Built.invariant {rule : Rule} (built : rule.Built) :
    (∀ step ∈ rule.steps, step.WellFormed) ∧ ∀ values, rule.fallback = some values → values ≠ [] := by
  induction built with
  | @ofJson body hbody =>
    cases body with
    | obj members =>
      constructor
      · intro step hstep
        cases found : Entries.get? members "normalize" with
        | none => simp [Rule.ofJson, found] at hstep
        | some entry =>
          have hentry : step ∈ stepsOf entry := by simpa [Rule.ofJson, found] using hstep
          exact wellFormed_of_mem_stepsOf (hbody.of_get?_entries found) hentry
      · intro values hvalues
        obtain ⟨value, -, hvalue⟩ := Option.bind_eq_some_iff.1 hvalues
        exact ne_nil_of_fallbackValues? hvalue
    | _ => exact ⟨by simp [Rule.ofJson], by simp [Rule.ofJson]⟩
  | new path => exact ⟨by simp [Rule.new], by simp [Rule.new]⟩
  | withSteps _ hsteps ih =>
    refine ⟨fun step hstep => ?_, ih.2⟩
    rcases List.mem_append.1 hstep with hstep | hstep
    · exact ih.1 step hstep
    · exact hsteps step hstep
  | withFallback _ fallback ih => exact ⟨ih.1, fun values => ne_nil_of_fallbackValues?⟩

theorem wellFormed_normalize {rule : Rule} (hsteps : ∀ step ∈ rule.steps, step.WellFormed)
    {sources : Sources} (hsources : sources.WellFormed) :
    ∀ value ∈ normalize (rule.found sources) rule.steps, value.WellFormed := by
  refine Normalization.wellFormed_of_mem_normalize hsteps fun value hvalue => ?_
  unfold found at hvalue
  split at hvalue
  · exact Selector.wellFormed_of_mem_resolve hsources hvalue
  · cases hvalue

end PrivacyMapping.Rule
