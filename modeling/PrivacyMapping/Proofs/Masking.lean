import PrivacyMapping.Proofs.Normalization
import PrivacyMapping.Proofs.Mapping

/-!
# Masked values stay out

Masked values neither appear in the outcome of a rule nor influence it: two sets of source documents
that differ only in values masked by some step of the rule have the same outcome, whatever steps
come before and after the mask, and no masked value is left as long as no later step makes new ones.
-/

namespace PrivacyMapping.Rule

open Normalization

variable {rule : Rule} {before after : List Step} {texts : List String}

/-- **Masked values do not influence the outcome, and do not appear in it.** -/
theorem evaluate_masked (hsteps : rule.steps = before ++ .mask texts :: after) (target : String) :
    (∀ first second : Sources,
      unmasked texts (normalize (rule.found first) before) =
        unmasked texts (normalize (rule.found second) before) →
      rule.evaluate target first = rule.evaluate target second) ∧
    ((∀ step ∈ after, ∃ others, step = .mask others) →
      ∀ (sources : Sources) (field : Field), rule.evaluate target sources = some field →
        field.origin = .resolved → ∀ value ∈ field.values, value.stringForm ∉ texts) := by
  constructor
  · intro first second h
    apply evaluate_congr
    rw [hsteps, normalize_mask, normalize_mask, h]
  · intro masks sources field hfield resolved value hvalue
    rw [values_of_resolved hfield resolved, hsteps, normalize_mask] at hvalue
    have remaining := (normalize_sublist_of_masks masks _).subset ((distinct_sublist _).subset hvalue)
    exact (mem_unmasked.1 remaining).2

/-- A rule that masks a number after trimming. -/
def maskingRule : Rule where
  source := some ⟨"staff", [⟨"names", false⟩]⟩
  steps := [.trim] ++ .mask ["42"] :: [.mask ["43"]]
  fallback := some [.str "none"]

/-- A source document with a list of names. -/
def staff (names : List Json) : Sources :=
  Sources.empty.insert "staff" (.obj [("names", .arr names)])

theorem evaluate_masked_number :
    (unmasked ["42"] (normalize (maskingRule.found (staff [.num (.int 42), .str " Amt"])) [.trim]) =
        unmasked ["42"] (normalize (maskingRule.found (staff [.str "Amt", .str "42 "])) [.trim]) ∧
      maskingRule.evaluate "units" (staff [.num (.int 42), .str " Amt"]) =
        maskingRule.evaluate "units" (staff [.str "Amt", .str "42 "])) ∧
    (maskingRule.evaluate "units" (staff [.num (.int 42), .str " Amt"]) =
        some ⟨"units", [.str "Amt"], .resolved⟩ ∧
      ∀ value ∈ [Json.str "Amt"], value.stringForm ∉ ["42"]) := by
  have steps : maskingRule.steps = [.trim] ++ .mask ["42"] :: [.mask ["43"]] := rfl
  have masked := evaluate_masked steps "units"
  have same : unmasked ["42"]
        (normalize (maskingRule.found (staff [.num (.int 42), .str " Amt"])) [.trim]) =
      unmasked ["42"] (normalize (maskingRule.found (staff [.str "Amt", .str "42 "])) [.trim]) := by
    rfl
  have outcome : maskingRule.evaluate "units" (staff [.num (.int 42), .str " Amt"]) =
      some ⟨"units", [.str "Amt"], .resolved⟩ := by rfl
  refine ⟨⟨same, masked.1 _ _ same⟩, outcome, masked.2 ?_ _ _ outcome rfl⟩
  intro step hstep
  exact ⟨["43"], List.mem_singleton.1 hstep⟩

end PrivacyMapping.Rule
