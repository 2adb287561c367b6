import PrivacyMapping.Proofs.RuleSet

/-!
# Rules and documents are independent

What a mapping run says about a target depends on the rule of the target and on the document that the
rule reads. The other rules and documents, and the order of either, change nothing about it; the order
of the rules is the order of the fields.
-/

namespace PrivacyMapping.RuleSet

theorem fields_evaluate {ruleSet : RuleSet} (distinct : ruleSet.targets.Nodup) (sources : Sources) :
    (ruleSet.evaluate sources).fields = ruleSet.targets.filterMap (ruleSet.evaluate sources).field? := by
  rw [targets, Entries.keys, List.filterMap_map]
  refine List.filterMap_congr fun rule hrule => ?_
  rw [Function.comp_apply, field?_evaluate distinct, get?_eq_some_of_mem distinct hrule,
    Option.bind_some]

/-- **Rules and documents are independent.** Two runs that have the same rule for a target, and the same
document for the rule to read, have the same field for the target or both none. The fields come in the
order of the rules, and rules in another order fill the same fields. -/
theorem evaluate_independent {text text' : String} {first second : RuleSet}
    (hfirst : parse text = .ok first) (hsecond : parse text' = .ok second)
    (sources others : Sources) :
    (∀ target, first.get? target = second.get? target →
      (∀ rule selector, first.get? target = some rule → rule.source = some selector →
        sources.get? selector.source = others.get? selector.source) →
      (first.evaluate sources).field? target = (second.evaluate others).field? target) ∧
    (first.evaluate sources).fields =
      first.targets.filterMap (first.evaluate sources).field? ∧
    (first.rules.Perm second.rules →
      (first.evaluate sources).fields.Perm (second.evaluate sources).fields) := by
  have distinct := nodup_targets hfirst
  refine ⟨fun target sameRule sameDocument => ?_, fields_evaluate distinct sources, fun perm => ?_⟩
  · rw [field?_evaluate distinct, field?_evaluate (nodup_targets hsecond), ← sameRule]
    cases hrule : first.get? target with
    | none => rfl
    | some rule => exact Rule.evaluate_of_get?_eq (sameDocument rule · hrule) target
  · exact perm.filterMap _

/-- Three rules, the first of which has no usable body. -/
def orderedText : String :=
  "rules:\n  b: [odd]\n  a:\n    source: one.x\n    normalize: \x7blowercase: true\x7d\n  c:\n    source: two.y\n"

/-- The same rules in another order, one of them with another unusable body. -/
def reorderedText : String :=
  "rules:\n  c:\n    source: two.y\n  b: 3\n  a:\n    normalize: [lowercase: true]\n    source: one.x\n"

/-- The rule that reads the first document. -/
def firstRule : Rule where
  source := some ⟨"one", [⟨"x", false⟩]⟩
  steps := [.lowercase]

/-- The rule that reads the second document. -/
def secondRule : Rule where
  source := some ⟨"two", [⟨"y", false⟩]⟩

def orderedRules : RuleSet :=
  ⟨none, [], [("b", {}), ("a", firstRule), ("c", secondRule)]⟩

def reorderedRules : RuleSet :=
  ⟨none, [], [("c", secondRule), ("b", {}), ("a", firstRule)]⟩

/-- Two documents, of which the second depends on the argument. -/
def twoDocuments (y : Json) : Sources :=
  Sources.namedPair "one" (.obj [("x", .str "X")]) "two" (.obj [("y", y)])

/-- The documents registered the other way round. -/
def swappedDocuments (y : Json) : Sources :=
  Sources.namedPair "two" (.obj [("y", y)]) "one" (.obj [("x", .str "X")])

theorem evaluate_independent_reordered :
    (parse orderedText = .ok orderedRules ∧ parse reorderedText = .ok reorderedRules) ∧
    (orderedRules.get? "a" = reorderedRules.get? "a" ∧
      (twoDocuments .null).get? "one" = (swappedDocuments (.str "Y")).get? "one" ∧
      (orderedRules.evaluate (twoDocuments .null)).field? "a" =
        (reorderedRules.evaluate (swappedDocuments (.str "Y"))).field? "a" ∧
      (orderedRules.evaluate (twoDocuments .null)).field? "a" = some ⟨"a", [.str "x"], .resolved⟩) ∧
    (orderedRules.rules.Perm reorderedRules.rules ∧
      (orderedRules.evaluate (twoDocuments (.str "Y"))).fields.Perm
        (reorderedRules.evaluate (twoDocuments (.str "Y"))).fields) := by
  have ordered : parse orderedText = .ok orderedRules := by decide +kernel
  have reordered : parse reorderedText = .ok reorderedRules := by decide +kernel
  have sameRule : orderedRules.get? "a" = reorderedRules.get? "a" := rfl
  have sameDocument : (twoDocuments .null).get? "one" = (swappedDocuments (.str "Y")).get? "one" := rfl
  have perm : orderedRules.rules.Perm reorderedRules.rules := by decide +kernel
  have field : (orderedRules.evaluate (twoDocuments .null)).field? "a" =
      some ⟨"a", [.str "x"], .resolved⟩ := by decide +kernel
  obtain ⟨same, -, -⟩ :=
    evaluate_independent ordered reordered (twoDocuments .null) (swappedDocuments (.str "Y"))
  obtain ⟨-, -, permuted⟩ :=
    evaluate_independent ordered reordered (twoDocuments (.str "Y")) (twoDocuments (.str "Y"))
  refine ⟨⟨ordered, reordered⟩, ⟨sameRule, sameDocument, same "a" sameRule ?_, field⟩, perm,
    permuted perm⟩
  intro rule selector hrule hselector
  obtain rfl : firstRule = rule := Option.some.inj hrule
  obtain rfl := Option.some.inj hselector
  exact sameDocument

end PrivacyMapping.RuleSet
