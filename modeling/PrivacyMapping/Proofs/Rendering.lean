import PrivacyMapping.Proofs.RuleSet

/-!
# Two ways to write a result

A result is written field by field, or made an object first. The object has one member for each
target, so the two ways differ as soon as a target repeats; in the result of a rule set none does.
-/

namespace PrivacyMapping

namespace MappingResult

variable {result : MappingResult}

theorem toJson_eq (distinct : (result.fields.map (·.target)).Nodup) :
    result.toJson = .obj (result.fields.map fun field => (field.target, .arr field.values)) := by
  have keys : (Entries.keys ([] ++ result.fields.map fun field =>
      (field.target, Json.arr field.values))).Nodup := by
    simpa [Entries.keys, Function.comp_def] using distinct
  rw [toJson, Entries.insertAll_eq_append keys, List.nil_append]

theorem write_toJson (distinct : (result.fields.map (·.target)).Nodup) (layout : Json.Layout)
    (depth : Nat) : result.toJson.write layout depth = result.write layout depth := by
  rw [toJson_eq distinct, Json.write, Json.writeMembers_eq_map, List.map_map]
  rfl

theorem field?_eq_some_of_mem (distinct : (result.fields.map (·.target)).Nodup) {field : Field}
    (h : field ∈ result.fields) : result.field? field.target = some field := by
  rw [field?]
  generalize result.fields = fields at distinct h
  induction fields with
  | nil => cases h
  | cons first rest ih =>
    obtain ⟨fresh, others⟩ := List.nodup_cons.1 distinct
    rcases List.mem_cons.1 h with rfl | hrest
    · rw [List.find?_cons, beq_self_eq_true]
    · have hne : first.target ≠ field.target := by
        intro same
        exact fresh (List.mem_map.2 ⟨field, hrest, same.symm⟩)
      rw [List.find?_cons, beq_false_of_ne hne]
      exact ih others hrest

end MappingResult

namespace RuleSet

/-- **Targets are distinct, so both ways to write a result agree.** The rules of a rule set have
distinct targets, and so do the fields that they fill; what is listed under a target is what is looked
up. The object of a result has one member for each field in their order, and in every layout it is
written as the result is written field by field. -/
theorem write_toJson_evaluate {text : String} {ruleSet : RuleSet} (h : parse text = .ok ruleSet)
    (sources : Sources) :
    ruleSet.targets.Nodup ∧
    (∀ target rule, (target, rule) ∈ ruleSet.rules → ruleSet.get? target = some rule) ∧
    ((ruleSet.evaluate sources).fields.map (·.target)).Nodup ∧
    (∀ field ∈ (ruleSet.evaluate sources).fields,
      (ruleSet.evaluate sources).field? field.target = some field) ∧
    (ruleSet.evaluate sources).toJson =
      .obj ((ruleSet.evaluate sources).fields.map fun field => (field.target, .arr field.values)) ∧
    ∀ layout depth,
      (ruleSet.evaluate sources).toJson.write layout depth =
        (ruleSet.evaluate sources).write layout depth := by
  have rules := nodup_targets h
  have fields := nodup_targets_evaluate rules sources
  exact ⟨rules, fun _ _ => get?_eq_some_of_mem rules, fields,
    fun _ => MappingResult.field?_eq_some_of_mem fields, MappingResult.toJson_eq fields,
    MappingResult.write_toJson fields⟩

/-- Rules under keys that become the same text. -/
def collidingText : String :=
  "rules:\n  1: none\n  b:\n    source: one.y\n  \"1\": [x]\n  1.0: 5\n  !t 1:\n    source: one.x\n"

/-- The two rules that are left, the first one with the body of the last key. -/
def collidingRules : RuleSet where
  version := none
  priorities := []
  rules := [("1", { source := some ⟨"one", [⟨"x", false⟩]⟩ }),
    ("b", { source := some ⟨"one", [⟨"y", false⟩]⟩ })]

/-- A document for both rules. -/
def collidingSources : Sources :=
  Sources.empty.insert "one" (.obj [("x", .str "X"), ("y", .arr [.num (.int 1), .str "Y"])])

theorem write_toJson_evaluate_colliding_keys :
    parse collidingText = .ok collidingRules ∧ collidingRules.targets.Nodup ∧
    (collidingRules.evaluate collidingSources).toJson =
      .obj [("1", .arr [.str "X"]), ("b", .arr [.num (.int 1), .str "Y"])] ∧
    (collidingRules.evaluate collidingSources).toJson.write .indented 0 =
      (collidingRules.evaluate collidingSources).write .indented 0 := by
  have h : parse collidingText = .ok collidingRules := by decide +kernel
  have evaluated : (collidingRules.evaluate collidingSources).fields =
      [⟨"1", [.str "X"], .resolved⟩, ⟨"b", [.num (.int 1), .str "Y"], .resolved⟩] := by
    decide +kernel
  obtain ⟨distinct, -, -, -, object, text⟩ := write_toJson_evaluate h collidingSources
  rw [evaluated] at object
  exact ⟨h, distinct, object, text .indented 0⟩

end RuleSet

end PrivacyMapping
