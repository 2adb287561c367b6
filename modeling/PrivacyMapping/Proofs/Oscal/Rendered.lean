import PrivacyMapping.Proofs.Oscal.Pending

/-!
# Fields as pending values

The fields of a mapping result are told apart in turn: a bound field becomes an entry, and any other is
remembered as skipped (`Distributed`). Several fields may be bound to one property, and values may be
set afterwards; what a property has in the end is its latest setting or else its last field
(`ofMapping_setAll`).
-/

namespace PrivacyMapping.Oscal

/-- The item is the last one of the list with the property. -/
def LastOf {α : Type} (p : α → Prop) (items : List α) (item : α) : Prop :=
  ∃ front back, items = front ++ item :: back ∧ p item ∧ ∀ later ∈ back, ¬ p later

theorem LastOf.latest?_eq {entries : List (String × String)} {name value : String}
    (h : LastOf (fun entry => entry.1 = name) entries (name, value)) :
    latest? entries name = some value := by
  obtain ⟨front, back, rfl, -, last⟩ := h
  have absent : name ∉ back.map (·.1) := by
    intro hname
    obtain ⟨entry, hentry, same⟩ := List.mem_map.1 hname
    exact last entry hentry same
  exact latest?_of_last absent front value

/-! ## Fields in turn -/

/-- The string forms of the values of a field in one text. -/
def rendering (separator : String) (field : Field) : String :=
  separator.intercalate (field.values.map Json.stringForm)

/-- Each field is either an entry for the property that it is bound to or a skipped target, in the
order of the fields. -/
inductive Distributed (bindings : Bindings) (separator : String) :
    List Field → List (String × String) → List String → Prop
  | nil : Distributed bindings separator [] [] []
  | rendered {field : Field} {fields : List Field} {entries : List (String × String)}
      {skipped : List String} {property : String}
      (bound : bindings.property? field.target = some property)
      (rest : Distributed bindings separator fields entries skipped) :
      Distributed bindings separator (field :: fields)
        ((property, rendering separator field) :: entries) skipped
  | skipped {field : Field} {fields : List Field} {entries : List (String × String)}
      {skipped : List String} (unbound : bindings.property? field.target = none)
      (rest : Distributed bindings separator fields entries skipped) :
      Distributed bindings separator (field :: fields) entries (field.target :: skipped)

theorem distributed_ofMapping (result : MappingResult) (bindings : Bindings) (separator : String) :
    Distributed bindings separator result.fields
      (Pending.ofMapping result bindings separator).entries
      (Pending.ofMapping result bindings separator).skipped := by
  obtain ⟨fields⟩ := result
  induction fields with
  | nil => exact .nil
  | cons field rest ih =>
    unfold Pending.ofMapping at ih ⊢
    cases bound : bindings.property? field.target with
    | none =>
      simp only [List.filterMap_cons, List.map_cons, List.filter_cons, bound, Option.map_none,
        Option.isNone_none, if_true]
      exact .skipped bound ih
    | some property =>
      simp only [List.filterMap_cons, List.map_cons, List.filter_cons, bound, Option.map_some,
        Option.isNone_some, Bool.false_eq_true, if_false]
      exact .rendered bound ih

namespace Distributed

variable {bindings : Bindings} {separator : String} {fields : List Field}
  {entries : List (String × String)} {skipped : List String} {name : String}

theorem mem_names_iff (h : Distributed bindings separator fields entries skipped) :
    name ∈ entries.map (·.1) ↔ ∃ field ∈ fields, bindings.property? field.target = some name := by
  induction h with
  | nil => simp
  | rendered bound rest ih =>
    rw [List.map_cons, List.mem_cons, ih, List.exists_mem_cons_iff, bound, Option.some.injEq, eq_comm]
  | skipped unbound rest ih =>
    rw [ih, List.exists_mem_cons_iff, unbound]
    simp

theorem exists_append {front back : List Field}
    (h : Distributed bindings separator (front ++ back) entries skipped) :
    ∃ early late passed, entries = early ++ late ∧
      Distributed bindings separator back late passed := by
  induction front generalizing entries skipped with
  | nil => exact ⟨[], entries, skipped, rfl, h⟩
  | cons field front ih =>
    cases h with
    | @rendered _ _ entries _ property bound rest =>
      obtain ⟨early, late, passed, rfl, hlate⟩ := ih rest
      exact ⟨(property, rendering separator field) :: early, late, passed, rfl, hlate⟩
    | skipped unbound rest => exact ih rest

theorem latest?_eq (h : Distributed bindings separator fields entries skipped) {field : Field}
    (last : LastOf (fun field => bindings.property? field.target = some name) fields field) :
    latest? entries name = some (rendering separator field) := by
  obtain ⟨front, back, rfl, bound, later⟩ := last
  obtain ⟨early, late, passed, rfl, hlate⟩ := h.exists_append
  cases hlate with
  | @rendered _ _ behind _ property bound' rest =>
    obtain rfl : property = name := Option.some.inj (bound'.symm.trans bound)
    have absent : property ∉ behind.map (·.1) := by
      rw [rest.mem_names_iff]
      rintro ⟨other, hother, same⟩
      exact later other hother same
    exact latest?_of_last absent early _
  | skipped unbound rest =>
    rw [bound] at unbound
    cases unbound

end Distributed

/-! ## Settings afterwards -/

/-- **Every field is rendered or reported, and the last value wins.** The fields become entries and
skipped targets in turn, none lost and none twice. After any settings a name has the value of its
latest setting, or else that of the last field bound to it, or else none. One setting keeps the values
of the other names, the skipped targets, and the names of the entries; only a name that was absent gets
an entry at the end. -/
theorem ofMapping_setAll (result : MappingResult) (bindings : Bindings) (separator : String) :
    Distributed bindings separator result.fields
      (Pending.ofMapping result bindings separator).entries
      (Pending.ofMapping result bindings separator).skipped ∧
    (∀ (settings : List (String × String)) (name : String),
      (∀ value, LastOf (fun setting => setting.1 = name) settings (name, value) →
        ((Pending.ofMapping result bindings separator).setAll settings).get? name = some value) ∧
      (name ∉ settings.map (·.1) →
        (∀ field,
          LastOf (fun field => bindings.property? field.target = some name) result.fields field →
            ((Pending.ofMapping result bindings separator).setAll settings).get? name =
              some (rendering separator field)) ∧
        ((∀ field ∈ result.fields, bindings.property? field.target ≠ some name) →
          ((Pending.ofMapping result bindings separator).setAll settings).get? name = none))) ∧
    ∀ (before : Pending) (name value : String),
      (∀ other, other ≠ name → (before.set name value).get? other = before.get? other) ∧
      (before.set name value).skipped = before.skipped ∧
      (name ∈ before.names → (before.set name value).names = before.names) ∧
      (name ∉ before.names →
        (before.set name value).entries = before.entries ++ [(name, value)]) := by
  have distributed := distributed_ofMapping result bindings separator
  refine ⟨distributed, ?_, ?_⟩
  · intro settings name
    refine ⟨fun value last => ?_, fun unset => ⟨fun field last => ?_, fun unbound => ?_⟩⟩
    · rw [Pending.get?_setAll, last.latest?_eq, Option.some_or]
    · rw [Pending.get?_setAll, latest?_eq_none_iff.2 unset, Option.none_or,
        Pending.get?_eq_latest?, distributed.latest?_eq last]
    · have absent : name ∉ (Pending.ofMapping result bindings separator).names := by
        rw [Pending.names, distributed.mem_names_iff]
        rintro ⟨field, hfield, bound⟩
        exact unbound field hfield bound
      rw [Pending.get?_setAll, latest?_eq_none_iff.2 unset, Option.none_or]
      exact Pending.get?_eq_none_iff.2 absent
  · intro before name value
    refine ⟨fun other differs => ?_, rfl, fun present => ?_, fun absent => ?_⟩
    · rw [Pending.get?_set, if_neg (Ne.symm differs)]
    · exact Pending.names_set_of_mem present value
    · exact Pending.entries_set_of_not_mem absent value

/-- Two fields in one property, and a field that is bound to none. -/
def sharedProperty : Bindings :=
  ⟨[("purposes", "ropa:purpose"), ("units", "ropa:purpose")]⟩

def sampleResult : MappingResult :=
  ⟨[⟨"purposes", [.str "Finanzen", .str "Haushalt"], .resolved⟩, ⟨"notes", [.null], .fallback⟩,
    ⟨"units", [.str "Kasse"], .resolved⟩]⟩

def sharedEntries : Pending :=
  Pending.ofMapping sampleResult sharedProperty ", "

/-- The later field gives the property its value, until the property is set. -/
theorem ofMapping_setAll_shared_property :
    sharedEntries.entries = [("ropa:purpose", "Finanzen, Haushalt"), ("ropa:purpose", "Kasse")] ∧
    sharedEntries.skipped = ["notes"] ∧
    (sharedEntries.setAll [("other", "x")]).get? "ropa:purpose" = some "Kasse" ∧
    (sharedEntries.setAll [("ropa:purpose", "x"), ("ropa:purpose", "y"), ("other", "x")]).get?
      "ropa:purpose" = some "y" := by
  obtain ⟨-, values, -⟩ := ofMapping_setAll sampleResult sharedProperty ", "
  refine ⟨by decide, by decide, ?_, ?_⟩
  · obtain ⟨-, unset⟩ := values [("other", "x")] "ropa:purpose"
    exact (unset (by decide)).1 ⟨"units", [.str "Kasse"], .resolved⟩
      ⟨[_, _], [], rfl, by decide, by simp⟩
  · obtain ⟨set, -⟩ :=
      values [("ropa:purpose", "x"), ("ropa:purpose", "y"), ("other", "x")] "ropa:purpose"
    exact set "y" ⟨[("ropa:purpose", "x")], [("other", "x")], rfl, rfl, by simp⟩

end PrivacyMapping.Oscal
