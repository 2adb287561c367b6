import PrivacyMapping.Normalization
import PrivacyMapping.Proofs.Json.WellFormed
import Mathlib.Data.List.Basic

/-!
# Runs of normalization steps

A run of steps can be cut at any place: the steps after the cut start from the values that the steps
before it leave. The values that count as blank are gone after any number of steps, so that dropping
them once more at the cut changes nothing. No value has a part in what becomes of another. What a run
leaves of well-formed values is well-formed.
-/

namespace PrivacyMapping.Normalization

/-! ## Blank values -/

@[simp]
theorem dropBlank_dropBlank (values : List Json) :
    dropBlank (dropBlank values) = dropBlank values := by
  simp [dropBlank]

/-! ## Runs -/

@[simp]
theorem normalize_nil (values : List Json) : normalize values [] = dropBlank values := rfl

theorem normalize_cons (values : List Json) (step : Step) (steps : List Step) :
    normalize values (step :: steps) = normalize (step.apply (dropBlank values)) steps := rfl

@[simp]
theorem normalize_dropBlank (values : List Json) (steps : List Step) :
    normalize (dropBlank values) steps = normalize values steps := by
  rw [normalize, dropBlank_dropBlank, ← normalize]

@[simp]
theorem dropBlank_normalize (values : List Json) (steps : List Step) :
    dropBlank (normalize values steps) = normalize values steps := by
  induction steps generalizing values with
  | nil => simp
  | cons step rest ih => rw [normalize_cons, ih]

theorem normalize_append (values : List Json) (steps more : List Step) :
    normalize values (steps ++ more) = normalize (normalize values steps) more := by
  induction steps generalizing values with
  | nil => simp
  | cons step rest ih => rw [List.cons_append, normalize_cons, normalize_cons, ih]

theorem isBlank_eq (value : Json) : value.isBlank = Text.isBlank value.stringForm := by
  cases value <;> rfl

theorem not_isBlank_of_mem_normalize {values : List Json} {steps : List Step} {value : Json}
    (h : value ∈ normalize values steps) : value.isBlank = false := by
  rw [← dropBlank_normalize, dropBlank, List.mem_filter] at h
  simpa using h.2

theorem not_blank_of_mem_normalize {values : List Json} {steps : List Step} {value : Json}
    (h : value ∈ normalize values steps) :
    value ≠ .null ∧ Text.isBlank value.stringForm = false := by
  have unblank := not_isBlank_of_mem_normalize h
  constructor
  · rintro rfl
    cases unblank
  · rw [← isBlank_eq, unblank]

/-! ## One value at a time -/

theorem dropBlank_append (values others : List Json) :
    dropBlank (values ++ others) = dropBlank values ++ dropBlank others :=
  List.filter_append ..

theorem Step.apply_append (step : Step) (values others : List Json) :
    step.apply (values ++ others) = step.apply values ++ step.apply others :=
  List.filterMap_append

theorem normalize_append_values (values others : List Json) (steps : List Step) :
    normalize (values ++ others) steps = normalize values steps ++ normalize others steps := by
  induction steps generalizing values others with
  | nil => exact dropBlank_append values others
  | cons step rest ih =>
    rw [normalize_cons, dropBlank_append, step.apply_append, ih, ← normalize_cons, ← normalize_cons]

theorem normalize_no_values (steps : List Step) : normalize [] steps = [] := by
  induction steps with
  | nil => rfl
  | cons step rest ih => exact ih

/-- A run leaves of a list what it leaves of each of its values. -/
theorem normalize_eq_flatMap (values : List Json) (steps : List Step) :
    normalize values steps = values.flatMap fun value => normalize [value] steps := by
  induction values with
  | nil => exact normalize_no_values steps
  | cons value rest ih =>
    rw [List.flatMap_cons, ← ih, ← normalize_append_values, List.singleton_append]

theorem normalize_subset {values others : List Json} (h : ∀ value ∈ values, value ∈ others)
    (steps : List Step) : ∀ value ∈ normalize values steps, value ∈ normalize others steps := by
  intro value left
  rw [normalize_eq_flatMap, List.mem_flatMap] at left ⊢
  obtain ⟨origin, horigin, left⟩ := left
  exact ⟨origin, h origin horigin, left⟩

theorem length_normalize_le (values : List Json) (steps : List Step) :
    (normalize values steps).length ≤ values.length := by
  induction steps generalizing values with
  | nil => exact List.length_filter_le _ _
  | cons step rest ih =>
    rw [normalize_cons]
    calc (normalize (step.apply (dropBlank values)) rest).length
      _ ≤ (step.apply (dropBlank values)).length := ih _
      _ ≤ (dropBlank values).length := List.length_filterMap_le _ _
      _ ≤ values.length := List.length_filter_le _ _

/-! ## Well-formed values -/

/-- The values that a step puts in are well-formed. -/
def Step.WellFormed : Step → Prop
  | .replace table => ∀ entry ∈ table, entry.2.WellFormed
  | _ => True

theorem Step.WellFormed.applyTo {step : Step} (h : step.WellFormed) {value result : Json}
    (hvalue : value.WellFormed) (happly : step.applyTo value = some result) : result.WellFormed := by
  cases step with
  | mask texts =>
    rw [Step.applyTo] at happly
    split_ifs at happly
    obtain rfl := Option.some.inj happly
    exact hvalue
  | replace table =>
    obtain rfl := Option.some.inj happly
    cases hentry : Entries.get? table value.stringForm with
    | none => exact hvalue
    | some replacement => exact h _ (Entries.mem_of_get?_eq_some hentry)
  | lowercase =>
    obtain rfl := Option.some.inj happly
    exact .str _
  | trim =>
    obtain rfl := Option.some.inj happly
    exact .str _

theorem wellFormed_of_mem_normalize {values : List Json} {steps : List Step}
    (hsteps : ∀ step ∈ steps, step.WellFormed) (h : ∀ value ∈ values, value.WellFormed) :
    ∀ value ∈ normalize values steps, value.WellFormed := by
  have kept : ∀ value ∈ dropBlank values, value.WellFormed :=
    fun value hvalue => h value (List.mem_filter.1 hvalue).1
  induction steps generalizing values with
  | nil => exact kept
  | cons step rest ih =>
    rw [normalize_cons]
    have applied : ∀ value ∈ step.apply (dropBlank values), value.WellFormed := by
      intro result hresult
      obtain ⟨value, hvalue, happly⟩ := List.mem_filterMap.1 hresult
      exact (hsteps step List.mem_cons_self).applyTo (kept value hvalue) happly
    refine ih (fun other hother => hsteps other (List.mem_cons_of_mem _ hother)) applied ?_
    exact fun value hvalue => applied value (List.mem_filter.1 hvalue).1

theorem wellFormed_of_mem_stepsOf {entry : Json} (h : entry.WellFormed) {step : Step}
    (hstep : step ∈ stepsOf entry) : step.WellFormed := by
  cases entry with
  | obj members =>
    cases step with
    | replace table =>
      simp only [stepsOf, List.mem_append] at hstep
      rcases hstep with ((hmask | hreplace) | hlowercase) | htrim
      · split at hmask <;> simp at hmask
      · split at hreplace
        · next table' found =>
          obtain rfl : table = table' := by simpa using hreplace
          exact (Json.WellFormed.obj_iff.1 (h.of_get?_entries found)).2
        · cases hreplace
      · split at hlowercase <;> simp at hlowercase
      · split at htrim <;> simp at htrim
    | _ => trivial
  | _ => cases hstep

/-! ## Masks -/

/-- The values whose string form is not among the masked texts. -/
def unmasked (texts : List String) (values : List Json) : List Json :=
  values.filter fun value => value.stringForm ∉ texts

theorem mem_unmasked {texts : List String} {values : List Json} {value : Json} :
    value ∈ unmasked texts values ↔ value ∈ values ∧ value.stringForm ∉ texts := by
  simp [unmasked]

theorem apply_mask (texts : List String) (values : List Json) :
    (Step.mask texts).apply values = unmasked texts values := by
  induction values with
  | nil => rfl
  | cons value rest ih =>
    have ih' : rest.filterMap (Step.mask texts).applyTo = unmasked texts rest := ih
    rw [Step.apply, unmasked, List.filterMap_cons, List.filter_cons, ih']
    by_cases h : value.stringForm ∈ texts
    · simp [Step.applyTo, h, unmasked]
    · simp [Step.applyTo, h, unmasked]

/-- What a run leaves depends on the values before a mask only through those that are not masked. -/
theorem normalize_mask (values : List Json) (before : List Step) (texts : List String)
    (after : List Step) :
    normalize values (before ++ .mask texts :: after) =
      normalize (unmasked texts (normalize values before)) after := by
  rw [normalize_append, normalize_cons, dropBlank_normalize, apply_mask]

theorem normalize_sublist_of_masks {steps : List Step} (h : ∀ step ∈ steps, ∃ texts, step = .mask texts)
    (values : List Json) : (normalize values steps).Sublist values := by
  induction steps generalizing values with
  | nil => exact List.filter_sublist
  | cons step rest ih =>
    obtain ⟨texts, rfl⟩ := h step List.mem_cons_self
    rw [normalize_cons, apply_mask]
    have later := ih (fun step hstep => h step (List.mem_cons_of_mem _ hstep))
      (unmasked texts (dropBlank values))
    exact (later.trans List.filter_sublist).trans List.filter_sublist

end PrivacyMapping.Normalization
