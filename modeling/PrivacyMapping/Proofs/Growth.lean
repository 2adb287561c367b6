import PrivacyMapping.Proofs.Evaluation
import PrivacyMapping.Proofs.Projection

/-!
# Records appended to a source

A selector leads to an array and joins what each of its items adds, so that items appended to the
array append their own results to what the selector finds. Every value is normalized on its own, and
of repeated values the first is kept. So the values of a resolved field stay where they are when
records are appended, and new ones can only follow them (`evaluate_appended`).
-/

namespace PrivacyMapping

/-! ## The array that parts lead to -/

/-- The keys of the parts up to the first marked one, which is the last of them; all keys where no
part is marked. -/
def keysToArray : List Segment → List String
  | [] => []
  | segment :: rest => segment.key :: if segment.wildcard then [] else keysToArray rest

namespace Json

/-- What an item of the array that parts lead to adds to the results of the parts. -/
def added (item : Json) : List Segment → List Json
  | [] => [item]
  | segment :: rest => if segment.wildcard then item.projected rest else item.added rest

theorem select_eq_flatMap {value : Json} {segments : List Segment} {items : List Json}
    (reached : value.reach? (keysToArray segments) = some (.arr items)) :
    value.select segments = items.flatMap (·.added segments) := by
  induction segments generalizing value with
  | nil =>
    obtain rfl := Option.some.inj reached
    exact (List.flatMap_singleton' items).symm
  | cons segment rest ih =>
    rw [keysToArray, reach?_cons] at reached
    obtain ⟨next, step, reached⟩ := Option.bind_eq_some_iff.1 reached
    rw [select, step]
    unfold added
    dsimp only
    split_ifs at reached ⊢
    · obtain rfl := Option.some.inj reached
      exact project_arr items rest
    · exact ih reached

end Json

namespace Selector

/-- The array that a selector leads to: the one that its mark projects over, or without a mark the
one at its end. -/
def array? (selector : Selector) (sources : Sources) : Option (List Json) :=
  match sources.reach? selector.source (keysToArray selector.segments) with
  | some (.arr items) => some items
  | _ => none

variable {selector : Selector}

theorem resolve_eq_flatMap {sources : Sources} {items : List Json}
    (h : selector.array? sources = some items) :
    selector.resolve sources =
      if selector.segments.isEmpty then [] else items.flatMap (·.added selector.segments) := by
  unfold array? at h
  split at h
  · next found reached =>
    obtain rfl := Option.some.inj h
    obtain ⟨document, registered, reached⟩ := Option.bind_eq_some_iff.1 reached
    rw [resolve, registered]
    dsimp only
    rw [Json.select_eq_flatMap reached]
  · cases h

/-- Items appended to the array of a selector append their own results, among which nothing is new
if the items stand in the array already. -/
theorem exists_resolve_appended {sources grown : Sources} {items more : List Json}
    (before : selector.array? sources = some items)
    (after : selector.array? grown = some (items ++ more)) :
    ∃ values, selector.resolve grown = selector.resolve sources ++ values ∧
      ((∀ item ∈ more, item ∈ items) → ∀ value ∈ values, value ∈ selector.resolve sources) := by
  rw [resolve_eq_flatMap before, resolve_eq_flatMap after]
  split_ifs
  · exact ⟨[], rfl, fun _ value hvalue => hvalue⟩
  · refine ⟨more.flatMap (·.added selector.segments), List.flatMap_append, ?_⟩
    intro known value hvalue
    obtain ⟨item, hitem, hvalue⟩ := List.mem_flatMap.1 hvalue
    exact List.mem_flatMap.2 ⟨item, known item hitem, hvalue⟩

end Selector

namespace Rule

open Normalization (normalize)

variable {rule : Rule} {selector : Selector} {sources grown : Sources} {items more : List Json}

/-- **Appended records only extend a result.** Where the array that the selector of a rule leads to
has items appended, whatever else is different in the documents, a resolved field keeps its values in
their order, and further values follow them. Items that stand in the array already add no value. (No
object of a document, or of a table among the steps, has a key twice.) -/
theorem evaluate_appended (source : rule.source = some selector)
    (before : selector.array? sources = some items)
    (after : selector.array? grown = some (items ++ more)) {target : String} {field : Field}
    (evaluated : rule.evaluate target sources = some field) (resolved : field.origin = .resolved) :
    ∃ values, rule.evaluate target grown = some ⟨target, values, .resolved⟩ ∧
      field.values <+: values ∧
      ((∀ step ∈ rule.steps, step.WellFormed) → sources.WellFormed →
        (∀ item ∈ more, item ∈ items) → values = field.values) := by
  obtain ⟨-, nonempty, rfl⟩ := evaluate_eq_resolved_iff.1 ⟨evaluated, resolved⟩
  obtain ⟨new, appended, known⟩ := Selector.exists_resolve_appended before after
  -- what is normalized of the longer array starts with what is normalized of the shorter one
  have longer : normalize (rule.found grown) rule.steps =
      normalize (rule.found sources) rule.steps ++ normalize new rule.steps := by
    rw [found_of_source source, found_of_source source, appended,
      Normalization.normalize_append_values]
  refine ⟨distinct (normalize (rule.found grown) rule.steps), ?_, ?_, fun hsteps hsources old => ?_⟩
  · rw [evaluate_of_source source, if_neg]
    rw [longer]
    exact fun none => nonempty (List.append_eq_nil_iff.1 none).1
  · rw [longer]
    exact distinct_isPrefix _ _
  · rw [longer]
    refine distinct_append_of_subset (wellFormed_normalize hsteps hsources) ?_
    rw [found_of_source source]
    exact Normalization.normalize_subset (known old) rule.steps

/-- The selector of the subjects of all records. -/
def subjectSelector : Selector :=
  ⟨"xdomea", [⟨"records", true⟩, ⟨"subjects", false⟩]⟩

/-- A rule that maps subjects and drops one of them. -/
def subjectRule : Rule where
  source := some subjectSelector
  steps := [.trim, .replace [("B", .str "A"), ("c", .null)], .mask ["x"], .lowercase]

def recordSources (records : List Json) : Sources :=
  Sources.empty.insert "xdomea" (.obj [("records", .arr records)])

/-- Records with several subjects, without any, and with one. -/
def subjectRecords : List Json :=
  [.obj [("subjects", .arr [.str "x", .str " A"])], .null,
    .obj [("subjects", .str "D "), ("title", .str "t")]]

/-- A record with subjects that come to one that is there, to nothing, and to a new one. -/
def laterRecord : Json :=
  .obj [("subjects", .arr [.str "B", .str "c", .num (.int 7)])]

theorem evaluate_appended_later_record :
    subjectRule.source = some subjectSelector ∧
    subjectSelector.array? (recordSources subjectRecords) = some subjectRecords ∧
    subjectRule.evaluate "t" (recordSources subjectRecords) =
      some ⟨"t", [.str "a", .str "d"], .resolved⟩ ∧
    (subjectSelector.array? (recordSources (subjectRecords ++ [laterRecord])) =
        some (subjectRecords ++ [laterRecord]) ∧
      ∃ values, subjectRule.evaluate "t" (recordSources (subjectRecords ++ [laterRecord])) =
        some ⟨"t", values, .resolved⟩ ∧ [.str "a", .str "d"] <+: values) ∧
    (subjectSelector.array? (recordSources (subjectRecords ++ subjectRecords.reverse)) =
        some (subjectRecords ++ subjectRecords.reverse) ∧
      subjectRule.evaluate "t" (recordSources (subjectRecords ++ subjectRecords.reverse)) =
        some ⟨"t", [.str "a", .str "d"], .resolved⟩) := by
  have source : subjectRule.source = some subjectSelector := rfl
  have reached : ∀ records, subjectSelector.array? (recordSources records) = some records :=
    fun _ => rfl
  have outcome : subjectRule.evaluate "t" (recordSources subjectRecords) =
      some ⟨"t", [.str "a", .str "d"], .resolved⟩ := by rfl
  have hsteps : ∀ step ∈ subjectRule.steps, step.WellFormed := by
    simp +contextual [subjectRule, Normalization.Step.WellFormed, or_imp]
  have hsources : (recordSources subjectRecords).WellFormed := by
    simp [recordSources, subjectRecords, Sources.WellFormed, Sources.insert, Sources.empty,
      Entries.insert, Entries.keys]
  obtain ⟨values, grown, extended, -⟩ :=
    evaluate_appended source (reached subjectRecords) (reached _) outcome rfl
  obtain ⟨values', repeated, -, same⟩ :=
    evaluate_appended source (reached subjectRecords)
      (reached (subjectRecords ++ subjectRecords.reverse)) outcome rfl
  obtain rfl := same hsteps hsources fun _ => List.mem_reverse.1
  exact ⟨source, reached _, outcome, ⟨reached _, values, grown, extended⟩, reached _, repeated⟩

end Rule

end PrivacyMapping
