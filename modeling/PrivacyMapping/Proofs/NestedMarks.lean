import PrivacyMapping.Proofs.Evaluation
import PrivacyMapping.Proofs.Projection

/-!
# Selectors with more than one mark

Only one part of a selector may project. A second mark cuts off every way to a value: the parts behind
the first one are followed in each item, and there a mark leads nowhere. So a selector with two marks
or more finds nothing in any documents, while one with a single mark, or with none, finds something in
some (`resolve_nested_marks`).
-/

namespace PrivacyMapping

/-! ## Counting marks -/

/-- The number of marked parts. -/
def marks (segments : List Segment) : Nat :=
  segments.countP (·.wildcard)

theorem marks_cons_of_marked {segment : Segment} (marked : segment.wildcard = true)
    (rest : List Segment) : marks (segment :: rest) = marks rest + 1 :=
  List.countP_cons_of_pos marked

theorem marks_cons_of_plain {segment : Segment} (plain : ¬ segment.wildcard = true)
    (rest : List Segment) : marks (segment :: rest) = marks rest :=
  List.countP_cons_of_neg plain

namespace Json

/-! ## A second mark -/

theorem follow?_of_mark {segments : List Segment} (h : 0 < marks segments) (value : Json) :
    value.follow? segments = none := by
  induction segments generalizing value with
  | nil => cases h
  | cons segment rest ih =>
    rw [follow?_cons]
    split_ifs with marked
    · rfl
    · rw [marks_cons_of_plain marked] at h
      cases value.step? segment.key with
      | none => rfl
      | some next => exact ih h next

theorem project_of_mark {rest : List Segment} (h : 0 < marks rest) (value : Json) :
    value.project rest = [] := by
  have parts : ¬ rest.isEmpty = true := by
    cases rest with
    | nil => cases h
    | cons segment rest => exact nofun
  cases value with
  | arr items =>
    rw [project_arr, List.flatMap_eq_nil_iff]
    intro item _
    rw [projected, if_neg parts, follow?_of_mark h]
    rfl
  | _ => rfl

theorem select_of_two_marks {segments : List Segment} (h : 2 ≤ marks segments) (value : Json) :
    value.select segments = [] := by
  induction segments generalizing value with
  | nil => cases h
  | cons segment rest ih =>
    rw [select]
    cases value.step? segment.key with
    | none => rfl
    | some next =>
      dsimp only
      split_ifs with marked
      · rw [marks_cons_of_marked marked] at h
        exact project_of_mark (by omega) next
      · rw [marks_cons_of_plain marked] at h
        exact ih h next

/-! ## A single mark -/

/-- A value in which parts lead to null: one object for each part, its value in an array where the
part is marked. -/
def nest : List Segment → Json
  | [] => .null
  | segment :: rest =>
    .obj [(segment.key, if segment.wildcard then .arr [nest rest] else nest rest)]

theorem step?_nest (segment : Segment) (rest : List Segment) :
    (nest (segment :: rest)).step? segment.key =
      some (if segment.wildcard then .arr [nest rest] else nest rest) := by
  rw [nest, step?, Entries.get?, if_pos rfl]

theorem follow?_nest {segments : List Segment} (h : marks segments = 0) :
    (nest segments).follow? segments = some .null := by
  induction segments with
  | nil => rfl
  | cons segment rest ih =>
    have plain : ¬ segment.wildcard = true := by
      intro marked
      rw [marks_cons_of_marked marked] at h
      cases h
    rw [marks_cons_of_plain plain] at h
    rw [follow?_cons, if_neg plain, step?_nest, if_neg plain, Option.bind_some, ih h]

theorem select_nest {segments : List Segment} (h : marks segments ≤ 1) :
    (nest segments).select segments = [.null] := by
  induction segments with
  | nil => rfl
  | cons segment rest ih =>
    rw [select, step?_nest]
    dsimp only
    split_ifs with marked
    · rw [marks_cons_of_marked marked] at h
      have plain : marks rest = 0 := by omega
      cases rest with
      | nil => rfl
      | cons next rest => simp [project, follow?_nest plain, results]
    · rw [marks_cons_of_plain marked] at h
      exact ih h

end Json

namespace Selector

variable {selector : Selector}

theorem resolve_of_two_marks (h : 2 ≤ selector.wildcardCount) (sources : Sources) :
    selector.resolve sources = [] := by
  rw [resolve]
  cases sources.get? selector.source with
  | none => rfl
  | some document =>
    dsimp only
    split_ifs
    · rfl
    · exact document.select_of_two_marks h

theorem exists_resolve_ne_nil (parts : selector.segments ≠ []) (h : selector.wildcardCount ≤ 1) :
    ∃ sources, selector.resolve sources ≠ [] := by
  have parts' : selector.segments.isEmpty = false := by simpa using parts
  refine ⟨Sources.empty.insert selector.source (Json.nest selector.segments), ?_⟩
  have found : (Sources.empty.insert selector.source (Json.nest selector.segments)).get?
      selector.source = some (Json.nest selector.segments) :=
    Entries.get?_insert_self _ _ _
  simp [resolve, found, parts', Json.select_nest h]

/-- **Only one mark is ever honoured.** A selector finds nothing in any documents exactly if it is a
source name alone or has two marks or more, whatever its keys and wherever the marks stand; a rule
with two marks in its selector then has its fallback, and without one leaves its target out. -/
theorem resolve_nested_marks (selector : Selector) :
    ((∀ sources, selector.resolve sources = []) ↔
      selector.segments = [] ∨ 2 ≤ selector.wildcardCount) ∧
    (2 ≤ selector.wildcardCount → ∀ rule : Rule, rule.source = some selector →
      ∀ target sources, rule.evaluate target sources =
        rule.fallback.map fun values => ⟨target, values, .fallback⟩) := by
  refine ⟨⟨fun nothing => ?_, ?_⟩, fun nested rule source target sources => ?_⟩
  · by_contra otherwise
    obtain ⟨parts, single⟩ := not_or.1 otherwise
    obtain ⟨sources, found⟩ := exists_resolve_ne_nil parts (by omega)
    exact found (nothing sources)
  · rintro (bare | nested) sources
    · rw [resolve]
      cases sources.get? selector.source <;> simp [bare]
    · exact resolve_of_two_marks nested sources
  · rw [Rule.evaluate_of_source source, if_pos]
    rw [Rule.found_of_source source, resolve_of_two_marks nested, Normalization.normalize_no_values]

/-- A rule whose selector marks the array of units and the first item of each unit. -/
def nestedRule : Rule :=
  (Rule.new "plan.units[*].0[*].name").withFallback (.arr [.str "none", .null])

/-- Source documents in which every part of that selector has something to lead to. -/
def nestedSources : Sources :=
  Sources.empty.insert "plan"
    (.obj [("units", .arr [.arr [.arr [.obj [("name", .str "a")]]], .arr [], .null])])

theorem resolve_nested_marks_numeric_key :
    (2 ≤ (parse "plan.units[*].0[*].name").wildcardCount ∧
      (parse "plan.units[*].0[*].name").resolve nestedSources = []) ∧
    nestedRule.source = some (parse "plan.units[*].0[*].name") ∧
    nestedRule.evaluate "t" nestedSources = some ⟨"t", [.str "none", .null], .fallback⟩ ∧
    (parse "plan.units[*].0").resolve nestedSources = [.obj [("name", .str "a")]] := by
  obtain ⟨nothing, evaluated⟩ := resolve_nested_marks (parse "plan.units[*].0[*].name")
  have nested : 2 ≤ (parse "plan.units[*].0[*].name").wildcardCount := by decide
  have source : nestedRule.source = some (parse "plan.units[*].0[*].name") := rfl
  exact ⟨⟨nested, nothing.2 (.inr nested) nestedSources⟩, source,
    evaluated nested nestedRule source "t" nestedSources, rfl⟩

end Selector

end PrivacyMapping
