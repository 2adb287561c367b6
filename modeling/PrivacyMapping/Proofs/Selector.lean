import PrivacyMapping.Selector
import PrivacyMapping.Proofs.Json.WellFormed

/-!
# What selectors find

A selector leads from a document to values inside it, or to the items of an array there. What holds
of the values inside a document therefore holds of everything that a selector finds; here it is that
they are well-formed.
-/

namespace PrivacyMapping

/-! ## Steps and paths -/

theorem Json.follow?_cons (value : Json) (segment : Segment) (rest : List Segment) :
    value.follow? (segment :: rest) =
      if segment.wildcard then none else (value.step? segment.key).bind (·.follow? rest) := by
  rw [follow?, List.foldlM_cons]
  split_ifs <;> rfl

namespace Json.WellFormed

variable {value : Json}

theorem step? (h : value.WellFormed) {key : String} {next : Json} (found : value.step? key = some next) :
    next.WellFormed := by
  cases value with
  | obj members => exact h.of_get?_entries found
  | arr items =>
    obtain ⟨i, -, hi⟩ := Option.bind_eq_some_iff.1 found
    exact arr_iff.1 h next (List.mem_of_getElem? hi)
  | _ => cases found

theorem follow? (h : value.WellFormed) {segments : List Segment} {last : Json}
    (found : value.follow? segments = some last) : last.WellFormed := by
  induction segments generalizing value with
  | nil =>
    obtain rfl := Option.some.inj found
    exact h
  | cons segment rest ih =>
    rw [Json.follow?_cons] at found
    split_ifs at found
    obtain ⟨next, hnext, hrest⟩ := Option.bind_eq_some_iff.1 found
    exact ih (h.step? hnext) hrest

theorem of_mem_results (h : value.WellFormed) {result : Json} (hresult : result ∈ value.results) :
    result.WellFormed := by
  cases value with
  | arr items => exact arr_iff.1 h result hresult
  | _ =>
    obtain rfl := List.mem_singleton.1 hresult
    exact h

theorem of_mem_project (h : value.WellFormed) {rest : List Segment} {result : Json}
    (hresult : result ∈ value.project rest) : result.WellFormed := by
  cases value with
  | arr items =>
    have inside := arr_iff.1 h
    rw [Json.project] at hresult
    split_ifs at hresult
    · exact inside result hresult
    · obtain ⟨item, hitem, hfound⟩ := List.mem_flatMap.1 hresult
      split at hfound
      · next found hfollow => exact ((inside item hitem).follow? hfollow).of_mem_results hfound
      · cases hfound
  | _ => cases hresult

theorem of_mem_select (h : value.WellFormed) {segments : List Segment} {result : Json}
    (hresult : result ∈ value.select segments) : result.WellFormed := by
  induction segments generalizing value with
  | nil => exact h.of_mem_results hresult
  | cons segment rest ih =>
    rw [Json.select] at hresult
    split at hresult
    · cases hresult
    · next next hnext =>
      split_ifs at hresult
      · exact (h.step? hnext).of_mem_project hresult
      · exact ih (h.step? hnext) hresult

end Json.WellFormed

/-! ## Source documents -/

/-- All source documents are well-formed. -/
def Sources.WellFormed (sources : Sources) : Prop :=
  ∀ entry ∈ sources.documents, entry.2.WellFormed

theorem Sources.WellFormed.get? {sources : Sources} (h : sources.WellFormed) {name : String}
    {document : Json} (found : sources.get? name = some document) : document.WellFormed :=
  h _ (Entries.mem_of_get?_eq_some found)

theorem Selector.wellFormed_of_mem_resolve {sources : Sources} (h : sources.WellFormed)
    {selector : Selector} {value : Json} (hvalue : value ∈ selector.resolve sources) :
    value.WellFormed := by
  rw [resolve] at hvalue
  split at hvalue
  · cases hvalue
  · next document found =>
    split_ifs at hvalue
    · cases hvalue
    · exact (h.get? found).of_mem_select hvalue

end PrivacyMapping
