import PrivacyMapping.RuleSet
import PrivacyMapping.Proofs.Evaluation
import PrivacyMapping.Proofs.Yaml.Json
import Mathlib.Data.List.Nodup

/-!
# Targets of a rule set

Every target of a rule set that is read has one rule. So the rule listed under a target is the one
that is looked up, and the field of a target is what this rule makes of the sources, whatever the
other rules do.
-/

namespace PrivacyMapping

/-! ## Fields of one rule -/

namespace Rule

variable {rule : Rule} {target : String} {sources : Sources} {field : Field}

theorem target_of_evaluate (h : rule.evaluate target sources = some field) : field.target = target := by
  cases horigin : field.origin with
  | resolved =>
    obtain ⟨-, -, rfl⟩ := evaluate_eq_resolved_iff.1 ⟨h, horigin⟩
    rfl
  | fallback =>
    obtain ⟨-, -, _, -, rfl⟩ := evaluate_eq_fallback_iff.1 ⟨h, horigin⟩
    rfl

/-- A rule reads no document but the one that its selector names. -/
theorem evaluate_of_get?_eq {first second : Sources}
    (h : ∀ selector, rule.source = some selector →
      first.get? selector.source = second.get? selector.source) (target : String) :
    rule.evaluate target first = rule.evaluate target second := by
  apply evaluate_congr
  cases hsource : rule.source with
  | none => simp only [found, hsource]
  | some selector => simp only [found, hsource, Selector.resolve, h selector hsource]

end Rule

namespace RuleSet

variable {ruleSet : RuleSet} {sources : Sources} {target : String}

/-- The targets in the order of the rules. -/
def targets (ruleSet : RuleSet) : List String :=
  Entries.keys ruleSet.rules

/-! ## One rule for each target -/

theorem eq_of_toString_eq {i j : Nat} (h : toString i = toString j) : i = j := by
  have text : String.ofList (Nat.toDigits 10 i) = String.ofList (Nat.toDigits 10 j) := by
    rw [← Nat.repr_eq_ofList_toDigits, ← Nat.repr_eq_ofList_toDigits]
    exact h
  have digits : Nat.toDigits 10 i = Nat.toDigits 10 j := String.ofList_injective text
  have value : ∀ n, Nat.ofDigitChars 10 (Nat.toDigits 10 n) 0 = n :=
    fun n => Nat.ofDigitChars_toDigits (by decide) (by decide)
  rw [← value i, ← value j, digits]

theorem keys_bodies_arr (items : List Json) :
    Entries.keys (bodies (.arr items)) = (List.range items.length).map toString := by
  apply List.ext_getElem
  · simp [bodies, Entries.keys]
  · intro i _ _
    simp [bodies, Entries.keys]

theorem nodup_keys_bodies {value : Json} (h : value.WellFormed) :
    (Entries.keys (bodies value)).Nodup := by
  cases value with
  | obj members => exact (Json.WellFormed.obj_iff.1 h).1
  | arr items =>
    rw [keys_bodies_arr]
    exact List.nodup_range.map fun _ _ => eq_of_toString_eq
  | _ => exact List.nodup_nil

theorem exists_rules_of_ofJson {document : Json} (h : ofJson document = .ok ruleSet) :
    ∃ value, document.get? "rules" = some value ∧
      ruleSet.rules = (bodies value).map fun body => (body.1, Rule.ofJson body.2) := by
  unfold ofJson at h
  split at h
  · cases h
  · next value found =>
    split_ifs at h
    obtain rfl := Except.ok.inj h
    exact ⟨value, found, rfl⟩

theorem targets_eq_keys_bodies {value : Json}
    (h : ruleSet.rules = (bodies value).map fun body => (body.1, Rule.ofJson body.2)) :
    ruleSet.targets = Entries.keys (bodies value) := by
  simp [targets, h, Entries.keys, Function.comp_def]

theorem nodup_targets_of_ofJson {document : Json} (hdocument : document.WellFormed)
    (h : ofJson document = .ok ruleSet) : ruleSet.targets.Nodup := by
  obtain ⟨value, found, rules⟩ := exists_rules_of_ofJson h
  rw [targets_eq_keys_bodies rules]
  exact nodup_keys_bodies (hdocument.of_get? found)

theorem nodup_targets {text : String} (h : parse text = .ok ruleSet) : ruleSet.targets.Nodup := by
  unfold parse at h
  split at h
  · cases h
  · next document hdocument =>
    exact nodup_targets_of_ofJson (Yaml.wellFormed_of_parseJson hdocument) h

theorem get?_eq_some_of_mem (distinct : ruleSet.targets.Nodup) {rule : Rule}
    (h : (target, rule) ∈ ruleSet.rules) : ruleSet.get? target = some rule :=
  Entries.get?_eq_some_of_mem distinct h

/-! ## One field for each target -/

theorem targets_evaluate_sublist (ruleSet : RuleSet) (sources : Sources) :
    ((ruleSet.evaluate sources).fields.map (·.target)).Sublist ruleSet.targets := by
  rw [evaluate, targets, Entries.keys]
  induction ruleSet.rules with
  | nil => exact List.Sublist.refl _
  | cons rule rest ih =>
    rw [List.filterMap_cons]
    split
    · exact ih.trans (List.sublist_cons_self _ _)
    · next field hfield =>
      rw [List.map_cons, List.map_cons, Rule.target_of_evaluate hfield]
      exact ih.cons_cons _

theorem nodup_targets_evaluate (distinct : ruleSet.targets.Nodup) (sources : Sources) :
    ((ruleSet.evaluate sources).fields.map (·.target)).Nodup :=
  distinct.sublist (targets_evaluate_sublist ruleSet sources)

theorem field?_evaluate (distinct : ruleSet.targets.Nodup) (sources : Sources) (target : String) :
    (ruleSet.evaluate sources).field? target =
      (ruleSet.get? target).bind (·.evaluate target sources) := by
  rw [MappingResult.field?, evaluate, get?]
  rw [targets] at distinct
  generalize ruleSet.rules = rules at distinct ⊢
  induction rules with
  | nil => rfl
  | cons rule rest ih =>
    obtain ⟨name, rule⟩ := rule
    obtain ⟨first, others⟩ := List.nodup_cons.1 distinct
    rw [List.filterMap_cons, Entries.get?]
    by_cases hname : name = target
    · subst hname
      rw [if_pos rfl, Option.bind_some]
      split
      · next hnone =>
        -- no other rule fills the field that this one leaves out
        rw [ih others, Entries.get?_eq_none_iff.2 first, Option.bind_none, hnone]
      · next field hfield =>
        rw [List.find?_cons, Rule.target_of_evaluate hfield, beq_self_eq_true, hfield]
    · rw [if_neg hname, ← ih others]
      split
      · rfl
      · next field hfield =>
        rw [List.find?_cons, Rule.target_of_evaluate hfield, beq_false_of_ne hname]

end RuleSet

/-! ## Mapping runs -/

namespace Sources

variable {sources : Sources} {rules : String}

theorem map_eq_error_iff {e : RuleSet.Error} :
    sources.map rules = .error e ↔ RuleSet.parse rules = .error e := by
  rw [map]
  cases RuleSet.parse rules <;> simp [Except.map]

theorem map_eq_ok_iff {result : MappingResult} :
    sources.map rules = .ok result ↔
      ∃ ruleSet, RuleSet.parse rules = .ok ruleSet ∧ ruleSet.evaluate sources = result := by
  rw [map]
  cases RuleSet.parse rules <;> simp [Except.map]

end Sources

deriving instance DecidableEq for Normalization.Step, Rule, RuleSet

end PrivacyMapping
