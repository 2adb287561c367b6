import PrivacyMapping.Oscal.Participants
import PrivacyMapping.Proofs.Oscal.Pending

/-!
# What merging participants changes

Merging sets the property of the data subjects to the inner lanes, and then puts the external
recipients behind what is pending for theirs. Each half sets one name at most (`setBound`), so what it
does to a value and to the entries is said once for both. The two target fields may be bound to one
property, and then the external recipients come behind the inner lanes.
-/

namespace PrivacyMapping.Oscal.Participants

/-! ## One half -/

section half

variable (pending : Pending) (bindings : Bindings) (target : String) (names : List String)
  (value : String → String)

/-- Set the property that a target field is bound to, if it is bound and there are names. -/
def setBound : Pending :=
  match bindings.property? target with
  | some property => if names.isEmpty then pending else pending.set property (value property)
  | none => pending

theorem get?_setBound (name : String) :
    (setBound pending bindings target names value).get? name =
      if bindings.property? target = some name ∧ names ≠ [] then some (value name)
      else pending.get? name := by
  unfold setBound
  cases bindings.property? target with
  | none => simp
  | some property =>
    cases names with
    | nil => simp
    | cons first rest =>
      show (pending.set property (value property)).get? name = _
      rw [Pending.get?_set]
      by_cases same : property = name
      · subst same
        simp
      · simp [same]

theorem retains_setBound {touched : String → Prop}
    (htouched : ∀ name, bindings.property? target = some name → touched name) :
    Pending.Retains touched pending (setBound pending bindings target names value) := by
  unfold setBound
  split
  · next property bound =>
    split
    · exact .refl touched pending
    · exact Pending.retains_set pending (htouched property bound) (value property)
  · exact .refl touched pending

end half

/-! ## Both halves -/

/-- External recipients behind the text that is there already, unless there is none or it is empty. -/
def behind (present : Option String) (external : String) : String :=
  match present with
  | some text => if text = "" then external else text ++ "; " ++ external
  | none => external

section merge

variable (participants : Participants) (pending : Pending) (bindings : Bindings)
  (separator : String)

theorem mergeSubjects_eq :
    participants.mergeSubjects pending bindings separator =
      setBound pending bindings "data-subjects" participants.internal
        fun _ => separator.intercalate participants.internal := rfl

theorem mergeRecipients_eq :
    participants.mergeRecipients pending bindings separator =
      setBound pending bindings "recipients" participants.external
        fun name => behind (pending.get? name) (separator.intercalate participants.external) := by
  unfold mergeRecipients setBound
  cases bindings.property? "recipients" with
  | none => rfl
  | some recipients =>
    dsimp only
    cases pending.get? recipients with
    | none => rfl
    | some text => rfl

/-- The value of a name once the inner lanes, if there are any, have replaced that of the data
subjects. -/
def afterSubjects (name : String) : Option String :=
  if bindings.property? "data-subjects" = some name ∧ participants.internal ≠ [] then
    some (separator.intercalate participants.internal)
  else pending.get? name

theorem get?_merge (name : String) :
    (participants.merge pending bindings separator).get? name =
      if bindings.property? "recipients" = some name ∧ participants.external ≠ [] then
        some (behind (participants.afterSubjects pending bindings separator name)
          (separator.intercalate participants.external))
      else participants.afterSubjects pending bindings separator name := by
  have subjects : (participants.mergeSubjects pending bindings separator).get? name =
      participants.afterSubjects pending bindings separator name := by
    rw [mergeSubjects_eq, get?_setBound]
    rfl
  rw [merge, mergeRecipients_eq, get?_setBound, subjects]

/-- Whether the property is bound to the data subjects or to the recipients. -/
def IsMerged (property : String) : Prop :=
  bindings.property? "data-subjects" = some property ∨ bindings.property? "recipients" = some property

theorem retains_merge :
    Pending.Retains (IsMerged bindings) pending
      (participants.merge pending bindings separator) := by
  have first : Pending.Retains (IsMerged bindings) pending
      (participants.mergeSubjects pending bindings separator) := by
    rw [mergeSubjects_eq]
    exact retains_setBound _ _ _ _ _ fun property bound => .inl bound
  have second : Pending.Retains (IsMerged bindings)
      (participants.mergeSubjects pending bindings separator)
      (participants.merge pending bindings separator) := by
    rw [merge, mergeRecipients_eq]
    exact retains_setBound _ _ _ _ _ fun property bound => .inr bound
  exact first.trans second

/-- **Merging changes only the two bound properties.** Every other name keeps its value. The property
of the data subjects gets the inner lanes, if there are any, unless it is that of the recipients too.
The property of the recipients gets the external ones, if there are any, behind what is pending for it
after the data subjects. No entry is removed or moved, and the skipped targets are the same. -/
theorem merge_only_bound (participants : Participants) (pending : Pending) (bindings : Bindings)
    (separator : String) :
    (∀ name, bindings.property? "data-subjects" ≠ some name →
      bindings.property? "recipients" ≠ some name →
      (participants.merge pending bindings separator).get? name = pending.get? name) ∧
    (∀ name, bindings.property? "data-subjects" = some name →
      bindings.property? "recipients" ≠ some name →
      (participants.merge pending bindings separator).get? name =
        if participants.internal = [] then pending.get? name
        else some (separator.intercalate participants.internal)) ∧
    (∀ name, bindings.property? "recipients" = some name →
      (participants.merge pending bindings separator).get? name =
        if participants.external = [] then participants.afterSubjects pending bindings separator name
        else
          some (behind (participants.afterSubjects pending bindings separator name)
            (separator.intercalate participants.external))) ∧
    Pending.Retains (IsMerged bindings) pending
      (participants.merge pending bindings separator) := by
  refine ⟨?_, ?_, ?_, participants.retains_merge pending bindings separator⟩
  · intro name notSubjects notRecipients
    rw [get?_merge, if_neg fun h => notRecipients h.1, afterSubjects,
      if_neg fun h => notSubjects h.1]
  · intro name isSubjects notRecipients
    rw [get?_merge, if_neg fun h => notRecipients h.1, afterSubjects]
    by_cases empty : participants.internal = []
    · rw [if_neg fun h => h.2 empty, if_pos empty]
    · rw [if_pos ⟨isSubjects, empty⟩, if_neg empty]
  · intro name isRecipients
    rw [get?_merge]
    by_cases empty : participants.external = []
    · rw [if_neg fun h => h.2 empty, if_pos empty]
    · rw [if_pos ⟨isRecipients, empty⟩, if_neg empty]

end merge

/-- Data subjects and recipients in one property. -/
def sharedBindings : Bindings :=
  ⟨[("data-subjects", "people"), ("recipients", "people")]⟩

/-- Pending values with two entries for the shared property. -/
def sharedPending : Pending where
  entries := [("people", "first"), ("purpose", "Kasse"), ("people", "second")]

def sharedParticipants : Participants :=
  ⟨["Amt", "Kasse"], ["Bund"]⟩

/-- The inner lanes replace the second entry, and the external recipients come behind them. -/
theorem merge_only_bound_shared :
    sharedBindings.property? "recipients" = some "people" ∧
    (sharedParticipants.merge sharedPending sharedBindings ", ").get? "people" =
      some "Amt, Kasse; Bund" ∧
    (sharedParticipants.merge sharedPending sharedBindings ", ").get? "purpose" = some "Kasse" ∧
    Pending.Retains (IsMerged sharedBindings) sharedPending
      (sharedParticipants.merge sharedPending sharedBindings ", ") := by
  obtain ⟨others, -, recipients, kept⟩ :=
    merge_only_bound sharedParticipants sharedPending sharedBindings ", "
  have bound : sharedBindings.property? "recipients" = some "people" := by decide
  refine ⟨bound, (recipients "people" bound).trans (by decide), ?_, kept⟩
  exact (others "purpose" (by decide) (by decide)).trans (by decide)

end PrivacyMapping.Oscal.Participants
