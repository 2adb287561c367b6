import PrivacyMapping.Sources
import PrivacyMapping.Proofs.Entries
import Mathlib.Data.Finset.Card

/-!
# Runs of registrations

Source documents come about by registrations from the empty set on, a pair of documents being short for
two of them (`Registered`). What is held in the end can be read off the registrations: the names in the
order of their first registration, each with the document of its last one (`registered_last_wins`).
-/

namespace PrivacyMapping.Sources

/-- The source documents are what a run of registrations leaves. -/
inductive Registered : Entries Json → Sources → Prop
  | empty : Registered [] empty
  | insert {registrations : Entries Json} {sources : Sources}
      (run : Registered registrations sources) (name : String) (document : Json) :
      Registered (registrations ++ [(name, document)]) (sources.insert name document)
  | namedPair (firstName : String) (first : Json) (secondName : String) (second : Json) :
      Registered [(firstName, first), (secondName, second)]
        (namedPair firstName first secondName second)
  | pair (first second : Json) :
      Registered [(defaultFirst, first), (defaultSecond, second)] (pair first second)

variable {registrations : Entries Json} {sources : Sources}

theorem overlays_namedPair (firstName : String) (first : Json) (secondName : String) (second : Json) :
    Entries.Overlays [] [(firstName, first), (secondName, second)]
      (namedPair firstName first secondName second).documents :=
  (Entries.Overlays.nil.insert firstName first).insert secondName second

theorem Registered.overlays (h : Registered registrations sources) :
    Entries.Overlays [] registrations sources.documents := by
  induction h with
  | empty => exact .nil
  | insert _ name document ih => exact ih.insert name document
  | namedPair firstName first secondName second =>
    exact overlays_namedPair firstName first secondName second
  | pair first second => exact overlays_namedPair defaultFirst first defaultSecond second

theorem Registered.mem_names_iff (h : Registered registrations sources) {name : String} :
    name ∈ sources.names ↔ name ∈ registrations.keys :=
  h.overlays.mem_keys_iff

theorem Registered.size_eq (h : Registered registrations sources) :
    sources.size = registrations.keys.toFinset.card := by
  have same : registrations.keys.toFinset = sources.names.toFinset := by
    ext name
    rw [List.mem_toFinset, List.mem_toFinset, h.mem_names_iff]
  have distinct : sources.names.Nodup := h.overlays.distinct
  rw [same, List.toFinset_card_of_nodup distinct]
  exact (List.length_map _).symm

/-! ## Other names -/

theorem get?_insert_of_ne (sources : Sources) {name other : String} (document : Json)
    (differs : other ≠ name) : (sources.insert name document).get? other = sources.get? other :=
  Entries.get?_insert_of_ne sources.documents document differs

theorem getElem?_names_insert (sources : Sources) {name other : String} (document : Json)
    (differs : other ≠ name) (place : Nat) :
    (sources.insert name document).names[place]? = some other ↔
      sources.names[place]? = some other := by
  have names : (sources.insert name document).names =
      if name ∈ sources.names then sources.names else sources.names ++ [name] :=
    Entries.keys_insert sources.documents name document
  rw [names]
  split_ifs
  · exact Iff.rfl
  · rcases Nat.lt_or_ge place sources.names.length with inside | behind
    · rw [List.getElem?_append_left inside]
    · rw [List.getElem?_append_right behind, List.getElem?_eq_none behind, List.getElem?_singleton]
      split_ifs <;> simp [differs.symm]

/-- **The last registration of a name wins, in the place of its first one.** After any run of
registrations the names are those registered, each once and in the order of their first registration,
and there are as many documents. A name has the document of its last registration, and none if it was
never registered. One more registration changes neither the document nor the place of another name. -/
theorem registered_last_wins (h : Registered registrations sources) :
    (sources.names.Nodup ∧ (∀ name, name ∈ sources.names ↔ name ∈ registrations.keys) ∧
      sources.names.Pairwise fun first second =>
        registrations.keys.idxOf first < registrations.keys.idxOf second) ∧
    (∀ front name document back, registrations = front ++ (name, document) :: back →
      name ∉ Entries.keys back → sources.get? name = some document) ∧
    (∀ name, name ∉ registrations.keys → sources.get? name = none) ∧
    sources.size = registrations.keys.toFinset.card ∧
    ∀ name document other, other ≠ name →
      (sources.insert name document).get? other = sources.get? other ∧
      ∀ place : Nat, (sources.insert name document).names[place]? = some other ↔
        sources.names[place]? = some other := by
  have left := h.overlays
  exact ⟨⟨left.distinct, fun _ => h.mem_names_iff, left.inOrder⟩, left.last, left.other, h.size_eq,
    fun _ document _ differs => ⟨sources.get?_insert_of_ne document differs,
      sources.getElem?_names_insert document differs⟩⟩

/-- A pair under its default names, of which the first is registered again behind another name. -/
def repeatedRegistrations : Entries Json :=
  [("xdomea", .null), ("bpmn", .str "b"), ("extra", .bool true), ("xdomea", .str "a")]

def repeatedSources : Sources :=
  ((pair .null (.str "b")).insert "extra" (.bool true)).insert "xdomea" (.str "a")

theorem registered_last_wins_repeated_name :
    Registered repeatedRegistrations repeatedSources ∧
    repeatedSources.names = ["xdomea", "bpmn", "extra"] ∧ repeatedSources.size = 3 ∧
    repeatedSources.get? "xdomea" = some (.str "a") ∧
    ("records" ∉ repeatedRegistrations.keys ∧ repeatedSources.get? "records" = none) ∧
    ("bpmn" ≠ "extra" ∧ (repeatedSources.insert "extra" .null).get? "bpmn" = some (.str "b")) := by
  have run : Registered repeatedRegistrations repeatedSources :=
    ((Registered.pair .null (.str "b")).insert "extra" (.bool true)).insert "xdomea" (.str "a")
  obtain ⟨-, last, never, size, others⟩ := registered_last_wins run
  have absent : "records" ∉ repeatedRegistrations.keys := by decide
  have differs : "bpmn" ≠ "extra" := by decide
  refine ⟨run, rfl, size, ?_, ⟨absent, never _ absent⟩, differs, (others _ .null _ differs).1⟩
  exact last (repeatedRegistrations.take 3) "xdomea" (.str "a") [] rfl (by decide)

end PrivacyMapping.Sources
