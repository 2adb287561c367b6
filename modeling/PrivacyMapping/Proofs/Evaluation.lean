import PrivacyMapping.Proofs.Distinct
import PrivacyMapping.Proofs.Rule

/-!
# The three outcomes of a rule

A rule that reads from the sources resolves its field, falls back, or leaves the field out, and which
of these happens is decided by whether a normalized value is found and whether there is a fallback.
The values of a resolved field are the first occurrences of the normalized values; those of a fallback
are the fallback as it stands.
-/

namespace PrivacyMapping.Rule

open Normalization (Step normalize)

variable {rule : Rule} {sources : Sources}

theorem evaluate_of_source_eq_none (h : rule.source = none) (target : String) :
    rule.evaluate target sources = none := by
  rw [evaluate, h, Option.bind_none]

theorem evaluate_of_source {selector : Selector} (h : rule.source = some selector) (target : String) :
    rule.evaluate target sources =
      if normalize (rule.found sources) rule.steps = [] then
        rule.fallback.map fun values => ⟨target, values, .fallback⟩
      else
        some ⟨target, distinct (normalize (rule.found sources) rule.steps), .resolved⟩ := by
  rw [evaluate, h, Option.bind_some, found_of_source h]
  split_ifs with hfound
  · rw [hfound]
    rfl
  · have nonempty := mt distinct_eq_nil_iff.1 hfound
    split
    · next hnil => exact absurd hnil nonempty
    · rfl

theorem evaluate_eq_resolved_iff {target : String} {field : Field} :
    rule.evaluate target sources = some field ∧ field.origin = .resolved ↔
      rule.source.isSome ∧ normalize (rule.found sources) rule.steps ≠ [] ∧
        field = ⟨target, distinct (normalize (rule.found sources) rule.steps), .resolved⟩ := by
  cases hsource : rule.source with
  | none => simp [evaluate_of_source_eq_none hsource]
  | some selector =>
    rw [evaluate_of_source hsource]
    split_ifs with hfound
    · simp only [hfound, ne_eq, not_true_eq_false, false_and, and_false, iff_false, not_and]
      intro hfield
      obtain ⟨values, -, rfl⟩ := Option.map_eq_some_iff.1 hfield
      exact Origin.noConfusion
    · simp only [Option.some.injEq, Option.isSome_some, ne_eq, hfound, not_false_eq_true, true_and]
      constructor
      · rintro ⟨rfl, -⟩
        rfl
      · rintro rfl
        exact ⟨rfl, rfl⟩

theorem evaluate_eq_fallback_iff {target : String} {field : Field} :
    rule.evaluate target sources = some field ∧ field.origin = .fallback ↔
      rule.source.isSome ∧ normalize (rule.found sources) rule.steps = [] ∧
        ∃ values, rule.fallback = some values ∧ field = ⟨target, values, .fallback⟩ := by
  cases hsource : rule.source with
  | none => simp [evaluate_of_source_eq_none hsource]
  | some selector =>
    rw [evaluate_of_source hsource]
    split_ifs with hfound
    · simp only [Option.map_eq_some_iff, Option.isSome_some, hfound, true_and]
      constructor
      · rintro ⟨⟨values, hvalues, rfl⟩, -⟩
        exact ⟨values, hvalues, rfl⟩
      · rintro ⟨values, hvalues, rfl⟩
        exact ⟨⟨values, hvalues, rfl⟩, rfl⟩
    · simp only [Option.some.injEq, hfound, false_and, and_false, iff_false, not_and]
      rintro rfl
      exact Origin.noConfusion

theorem Built.resolved_values (built : rule.Built) (hsources : sources.WellFormed)
    (nonempty : normalize (rule.found sources) rule.steps ≠ []) :
    let values := distinct (normalize (rule.found sources) rule.steps)
    values ≠ [] ∧
      (∀ value ∈ values, value ≠ .null ∧ Text.isBlank value.stringForm = false) ∧
      FirstOccurrences (normalize (rule.found sources) rule.steps) values := by
  refine ⟨mt distinct_eq_nil_iff.1 nonempty, fun value hvalue => ?_,
    firstOccurrences_distinct (wellFormed_normalize built.invariant.1 hsources)⟩
  exact Normalization.not_blank_of_mem_normalize ((distinct_sublist _).subset hvalue)

/-- **A rule resolves its field, falls back, or leaves the field out.** With the normalized values that
its selector finds it resolves; without any it falls back if it has a fallback. A resolved field has
the first occurrences of these values, none of them blank; a field filled by the fallback has the
fallback, which is not empty. -/
theorem evaluate_trichotomy (built : rule.Built) (hsources : sources.WellFormed) (target : String) :
    let found := normalize (rule.found sources) rule.steps
    ((∃ field, rule.evaluate target sources = some field ∧ field.origin = .resolved) ↔
      rule.source.isSome ∧ found ≠ []) ∧
    ((∃ field, rule.evaluate target sources = some field ∧ field.origin = .fallback) ↔
      rule.source.isSome ∧ found = [] ∧ rule.fallback.isSome) ∧
    (rule.evaluate target sources = none ↔
      rule.source = none ∨ (found = [] ∧ rule.fallback = none)) ∧
    ∀ field, rule.evaluate target sources = some field → field.target = target ∧
      (field.origin = .resolved → field.values ≠ [] ∧
        (∀ value ∈ field.values, value ≠ .null ∧ Text.isBlank value.stringForm = false) ∧
        FirstOccurrences found field.values) ∧
      (field.origin = .fallback → rule.fallback = some field.values ∧ field.values ≠ []) := by
  intro found
  refine ⟨?_, ?_, ?_, fun field hfield => ?_⟩
  · simp only [evaluate_eq_resolved_iff]
    constructor
    · rintro ⟨_, source, nonempty, -⟩
      exact ⟨source, nonempty⟩
    · rintro ⟨source, nonempty⟩
      exact ⟨_, source, nonempty, rfl⟩
  · simp only [evaluate_eq_fallback_iff]
    constructor
    · rintro ⟨_, source, empty, values, hvalues, -⟩
      exact ⟨source, empty, by rw [hvalues]; rfl⟩
    · rintro ⟨source, empty, hfallback⟩
      obtain ⟨values, hvalues⟩ := Option.isSome_iff_exists.1 hfallback
      exact ⟨_, source, empty, values, hvalues, rfl⟩
  · cases hsource : rule.source with
    | none => simp [evaluate_of_source_eq_none hsource]
    | some selector =>
      rw [evaluate_of_source hsource]
      split_ifs with hfound <;> simp [found, hfound]
  · -- the origin says which of the two outcomes the field comes from
    cases horigin : field.origin with
    | resolved =>
      obtain ⟨-, nonempty, rfl⟩ := evaluate_eq_resolved_iff.1 ⟨hfield, horigin⟩
      exact ⟨rfl, fun _ => built.resolved_values hsources nonempty, nofun⟩
    | fallback =>
      obtain ⟨-, -, values, hvalues, rfl⟩ := evaluate_eq_fallback_iff.1 ⟨hfield, horigin⟩
      exact ⟨rfl, nofun, fun _ => ⟨hvalues, built.invariant.2 values hvalues⟩⟩

deriving instance DecidableEq for Field

/-- A rule that replaces a text by an object. -/
def replacingRule : Rule :=
  ((Rule.new "plan.items").withSteps
    [.replace [("x", .obj [("b", .num (.int 1)), ("a", .null)])]]).withFallback (.str "none")

/-- A source document with values that are equal but for their sign or the order of their keys. -/
def similarItems : Sources :=
  Sources.empty.insert "plan" (.obj [("items", .arr [.str "x", .null, .num (.float (.zero true)),
    .obj [("a", .null), ("b", .num (.int 1))], .num (.float (.zero false)), .str " ",
    .num (.int 0)])])

theorem evaluate_trichotomy_similar_items :
    replacingRule.Built ∧ similarItems.WellFormed ∧
    (replacingRule.evaluate "t" similarItems =
        some ⟨"t", [.obj [("b", .num (.int 1)), ("a", .null)], .num (.float (.zero true)),
          .num (.int 0)], .resolved⟩ ∧
      FirstOccurrences (normalize (replacingRule.found similarItems) replacingRule.steps)
        [.obj [("b", .num (.int 1)), ("a", .null)], .num (.float (.zero true)), .num (.int 0)]) ∧
    (replacingRule.evaluate "t" Sources.empty = some ⟨"t", [.str "none"], .fallback⟩ ∧
      replacingRule.fallback = some [.str "none"]) := by
  have built : replacingRule.Built := by
    refine .withFallback (.withSteps (.new _) fun step hstep => ?_) _
    obtain rfl := List.mem_singleton.1 hstep
    simp [Step.WellFormed, Entries.keys]
  have hsources : similarItems.WellFormed := by
    simp [similarItems, Sources.WellFormed, Sources.insert, Sources.empty, Entries.insert,
      Entries.keys]
  have outcome : replacingRule.evaluate "t" similarItems =
      some ⟨"t", [.obj [("b", .num (.int 1)), ("a", .null)], .num (.float (.zero true)),
        .num (.int 0)], .resolved⟩ := by decide +kernel
  have outcome' : replacingRule.evaluate "t" Sources.empty =
      some ⟨"t", [.str "none"], .fallback⟩ := by decide +kernel
  obtain ⟨-, -, -, fields⟩ := evaluate_trichotomy built hsources "t"
  have hempty : Sources.empty.WellFormed := fun _ h => absurd h List.not_mem_nil
  obtain ⟨-, -, -, fields'⟩ := evaluate_trichotomy built hempty "t"
  exact ⟨built, hsources, ⟨outcome, ((fields _ outcome).2.1 rfl).2.2⟩, outcome',
    ((fields' _ outcome').2.2 rfl).1⟩

end PrivacyMapping.Rule
