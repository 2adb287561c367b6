import PrivacyMapping.Proofs.RuleSet
import PrivacyMapping.Proofs.Yaml.Number

/-!
# Rule sets that are refused

A mapping run fails only on its rule set, and a rule set is refused for two reasons only: its text is no
YAML document, or nothing stands under `rules` that could hold rules. `Json.IsVoid` lists what counts as
nothing; it is the same of a YAML value and of what the value becomes. In all other cases the run has a
result, and `HoldsRules` says which rules there are.
-/

namespace PrivacyMapping

/-! ## Void values -/

/-- Null, false, zero however it is written, or the empty string. -/
def Json.IsVoid : Json → Prop
  | .null => True
  | .bool b => b = false
  | .num (.int n) => n = 0
  | .num (.float x) => x.signedUnits = 0
  | .str s => s = ""
  | .arr _ | .obj _ => False

/-- The same of a YAML value, whatever tags are around it. -/
def Yaml.Value.IsVoid : Yaml.Value → Prop
  | .null => True
  | .bool b => b = false
  | .num (.int n) => n = 0
  | .num (.float x) => x.signedUnits = 0
  | .num (.infinity _) | .num .nan => False
  | .str s => s = ""
  | .seq _ | .map _ => False
  | .tagged _ value => value.IsVoid

theorem RuleSet.isEmptyValue_iff {value : Json} : isEmptyValue value = true ↔ value.IsVoid := by
  cases value with
  | num n =>
    cases n with
    | int n => exact beq_iff_eq
    | float x => exact Binary64.isZero_iff
  | _ => simp [isEmptyValue, Json.IsVoid]

namespace Yaml

theorem eq_zero_iff_of_wholeOf? {x : Binary64} {n : Int} (h : wholeOf? x = some n) :
    n = 0 ↔ x.signedUnits = 0 := by
  rw [← Binary64.value_eq_zero_iff]
  rcases wholeOf?_eq_some_iff.1 h with ⟨value, -⟩ | ⟨above, rfl⟩
  · rw [value, Int.cast_eq_zero]
  · rw [above]
    exact iff_of_false (by decide) (by norm_num)

theorem Value.isVoid_toJson : (value : Value) → (value.toJson.IsVoid ↔ value.IsVoid)
  | .tagged _ value => isVoid_toJson value
  | .num (.float x) => by
    rw [toJson, Number.toJson]
    cases whole : wholeOf? x with
    | some n => exact eq_zero_iff_of_wholeOf? whole
    | none => exact Iff.rfl
  | .num (.infinity negative) => by
    cases negative <;> simp [toJson, Number.toJson, Json.IsVoid, IsVoid]
  | .num .nan => by simp [toJson, Number.toJson, Json.IsVoid, IsVoid]
  | .null | .bool _ | .num (.int _) | .str _ | .seq _ | .map _ => Iff.rfl

end Yaml

/-! ## Rules that are there -/

/-- Something stands under `rules` that is not void. -/
def Json.HasRules (document : Json) : Prop :=
  ∃ rules, document.get? "rules" = some rules ∧ ¬ rules.IsVoid

theorem Yaml.Value.hasRules_toJson_iff {document : Yaml.Value} :
    document.toJson.HasRules ↔
      ∃ rules, document.entry? "rules" = some rules ∧ ¬ rules.IsVoid := by
  simp [Json.HasRules, get?_toJson, isVoid_toJson]

namespace RuleSet

variable {ruleSet : RuleSet} {document rules : Json}

/-- The rules that a value under `rules` gives: one for each key of an object in its order, one for each
item of an array under its index, and none for any other value. -/
structure HoldsRules (ruleSet : RuleSet) (rules : Json) : Prop where
  mapping : ∀ members : Entries Json, rules = .obj members →
    members.keys.Nodup ∧ ruleSet.targets = members.keys ∧
      ∀ target body, members.get? target = some body →
        ruleSet.get? target = some (Rule.ofJson body)
  sequence : ∀ items : List Json, rules = .arr items →
    ruleSet.targets = (List.range items.length).map toString ∧
      ∀ (i : Nat) body, items[i]? = some body → ruleSet.get? (toString i) = some (Rule.ofJson body)
  other : (∀ members, rules ≠ .obj members) → (∀ items, rules ≠ .arr items) → ruleSet.rules = []

theorem get?_eq_some_of_bodies
    (h : ruleSet.rules = (bodies rules).map fun body => (body.1, Rule.ofJson body.2))
    {target : String} {body : Json} (found : Entries.get? (bodies rules) target = some body) :
    ruleSet.get? target = some (Rule.ofJson body) := by
  rw [get?, h, Entries.get?_map, found]
  rfl

theorem holdsRules_of_bodies (wellFormed : rules.WellFormed)
    (h : ruleSet.rules = (bodies rules).map fun body => (body.1, Rule.ofJson body.2)) :
    ruleSet.HoldsRules rules := by
  constructor
  case mapping =>
    rintro members rfl
    exact ⟨(Json.WellFormed.obj_iff.1 wellFormed).1, targets_eq_keys_bodies h,
      fun _ _ => get?_eq_some_of_bodies h⟩
  case sequence =>
    rintro items rfl
    refine ⟨(targets_eq_keys_bodies h).trans (keys_bodies_arr items), fun i body hbody => ?_⟩
    obtain ⟨hi, rfl⟩ := List.getElem?_eq_some_iff.1 hbody
    have listed : (toString i, items[i]) ∈ bodies (.arr items) := List.mem_mapIdx.2 ⟨i, hi, rfl⟩
    exact get?_eq_some_of_bodies h
      (Entries.get?_eq_some_of_mem (nodup_keys_bodies wellFormed) listed)
  case other =>
    intro notMapping notSequence
    cases rules with
    | obj members => exact absurd rfl (notMapping members)
    | arr items => exact absurd rfl (notSequence items)
    | _ => exact h

/-! ## Refused texts -/

theorem ofJson_of_not_hasRules (h : ¬ document.HasRules) :
    ofJson document = .error .missingRules := by
  rw [ofJson]
  split
  · rfl
  · next rules found =>
    have void : rules.IsVoid := by
      by_contra notVoid
      exact h ⟨rules, found, notVoid⟩
    rw [if_pos (isEmptyValue_iff.2 void)]

theorem exists_ofJson_eq_ok (found : document.get? "rules" = some rules) (notVoid : ¬ rules.IsVoid) :
    ∃ ruleSet, ofJson document = .ok ruleSet := by
  rw [ofJson, found]
  exact ⟨_, if_neg (mt isEmptyValue_iff.1 notVoid)⟩

theorem ofJson_eq_error_iff {e : Error} :
    ofJson document = .error e ↔ ¬ document.HasRules ∧ e = .missingRules := by
  by_cases h : document.HasRules
  · obtain ⟨rules, found, notVoid⟩ := h
    obtain ⟨ruleSet, hruleSet⟩ := exists_ofJson_eq_ok found notVoid
    simp [hruleSet, show document.HasRules from ⟨rules, found, notVoid⟩]
  · simp [ofJson_of_not_hasRules h, h, eq_comm]

theorem parse_of_yaml {text : String} {value : Yaml.Value} (h : Yaml.parse text = .ok value) :
    parse text = ofJson value.toJson := by
  rw [parse, Yaml.parseJson, h]
  rfl

/-- A rule set is refused as a text that is no YAML document, or as a document without rules. -/
theorem parse_eq_error_iff {text : String} {e : Error} :
    parse text = .error e ↔
      (∃ fault, Yaml.parse text = .error fault ∧ e = .yaml fault) ∨
      ∃ value, Yaml.parse text = .ok value ∧ ¬ value.toJson.HasRules ∧ e = .missingRules := by
  cases hyaml : Yaml.parse text with
  | error fault =>
    have refused : parse text = .error (.yaml fault) := by
      rw [parse, Yaml.parseJson, hyaml]
      rfl
    rw [refused]
    constructor
    · intro h
      exact .inl ⟨fault, rfl, (Except.error.inj h).symm⟩
    · rintro (⟨fault', same, rfl⟩ | ⟨value, parsed, -⟩)
      · rw [Except.error.inj same]
      · cases parsed
  | ok value => simp [parse_of_yaml hyaml, ofJson_eq_error_iff]

theorem targets_of_mapping {text : String} {value : Yaml.Value} {pairs : List (Yaml.Value × Yaml.Value)}
    (hyaml : Yaml.parse text = .ok value) (h : parse text = .ok ruleSet)
    (hpairs : (value.entry? "rules").map (·.untagged) = some (.map pairs)) :
    ruleSet.targets = (pairs.map (·.1.text)).eraseDups := by
  obtain ⟨entry, hentry, huntagged⟩ := Option.map_eq_some_iff.1 hpairs
  rw [parse_of_yaml hyaml] at h
  obtain ⟨rules, found, hrules⟩ := exists_rules_of_ofJson h
  rw [Yaml.Value.get?_toJson, hentry, Option.map_some, ← entry.toJson_untagged, huntagged] at found
  obtain rfl := Option.some.inj found
  have empty : Entries.keys ([] : Entries Json) = ([] : List String).eraseDups := rfl
  exact (targets_eq_keys_bodies hrules).trans (Yaml.Value.keys_toJsonPairs empty pairs)

end RuleSet

/-! ## Mapping runs -/

namespace Sources

/-- **A mapping run fails exactly on a text without rules.** It fails if the text is no YAML document, and
if nothing stands under `rules` in the document or only null, false, zero or the empty string; each has
its message. In all other cases the run has a result, whatever the rules are, and the rules are those
under `rules`. The first conjunct and the second speak of the document as it is converted, the third of
the YAML document: tags make no difference, of keys with the same text the last one counts, and the
rules are in the order of the document. -/
theorem map_fails_without_rules (sources : Sources) (text : String) :
    (∀ message, (∃ e, sources.map text = .error e ∧ e.message = message) ↔
      (∃ fault, Yaml.parse text = .error fault ∧
        message = "YAML parse error: " ++ fault.message) ∨
      ∃ value, Yaml.parse text = .ok value ∧ ¬ value.toJson.HasRules ∧
        message = "No rules in YAML") ∧
    (∀ value rules, Yaml.parse text = .ok value → value.toJson.get? "rules" = some rules →
      ¬ rules.IsVoid →
        ∃ ruleSet, RuleSet.parse text = .ok ruleSet ∧ ruleSet.HoldsRules rules ∧
          sources.map text = .ok (ruleSet.evaluate sources)) ∧
    ∀ value, Yaml.parse text = .ok value →
      (value.toJson.HasRules ↔ ∃ rules, value.entry? "rules" = some rules ∧ ¬ rules.IsVoid) ∧
      ∀ ruleSet pairs, RuleSet.parse text = .ok ruleSet →
        (value.entry? "rules").map (·.untagged) = some (.map pairs) →
          ruleSet.targets = (pairs.map (·.1.text)).eraseDups := by
  refine ⟨fun message => ?_, fun value rules hyaml found notVoid => ?_, fun value hyaml =>
    ⟨Yaml.Value.hasRules_toJson_iff, fun ruleSet pairs => RuleSet.targets_of_mapping hyaml⟩⟩
  · simp only [map_eq_error_iff, RuleSet.parse_eq_error_iff]
    constructor
    · rintro ⟨e, ⟨fault, hyaml, rfl⟩ | ⟨value, hyaml, without, rfl⟩, rfl⟩
      · exact .inl ⟨fault, hyaml, rfl⟩
      · exact .inr ⟨value, hyaml, without, rfl⟩
    · rintro (⟨fault, hyaml, rfl⟩ | ⟨value, hyaml, without, rfl⟩)
      · exact ⟨_, .inl ⟨fault, hyaml, rfl⟩, rfl⟩
      · exact ⟨_, .inr ⟨value, hyaml, without, rfl⟩, rfl⟩
  · obtain ⟨ruleSet, h⟩ := RuleSet.exists_ofJson_eq_ok found notVoid
    have parsed : RuleSet.parse text = .ok ruleSet := (RuleSet.parse_of_yaml hyaml).trans h
    obtain ⟨rules', found', held⟩ := RuleSet.exists_rules_of_ofJson h
    obtain rfl : rules = rules' := Option.some.inj (found.symm.trans found')
    have wellFormed : rules.WellFormed := value.wellFormed_toJson.of_get? found
    exact ⟨ruleSet, parsed, RuleSet.holdsRules_of_bodies wellFormed held,
      map_eq_ok_iff.2 ⟨ruleSet, parsed, rfl⟩⟩

/-- A document with a tagged key, and a tagged negative zero under it. -/
def voidRulesText : String := "a: 1\n!key rules: !zero -0.0\n"

/-- Rules with tags around them, a null key, and two keys that become the same text; each of the bodies is
wrong in another way. -/
def oddRulesText : String :=
  "!t rules: !u\n  1: none\n  ~: [x]\n  \"1\": 5\n  b:\n    source: 3\n    normalize: [4]\n"

/-- What stands under `rules` after conversion. -/
def oddRules : Entries Json :=
  [("1", .num (.int 5)), ("null", .arr [.str "x"]),
    ("b", .obj [("source", .num (.int 3)), ("normalize", .arr [.num (.int 4)])])]

theorem map_fails_without_rules_odd_documents :
    (∃ e, Sources.empty.map voidRulesText = .error e ∧ e.message = "No rules in YAML") ∧
    ∃ value ruleSet pairs, Yaml.parse oddRulesText = .ok value ∧
      (value.entry? "rules").map (·.untagged) = some (.map pairs) ∧
      RuleSet.parse oddRulesText = .ok ruleSet ∧ ruleSet.HoldsRules (.obj oddRules) ∧
      Sources.empty.map oddRulesText = .ok (ruleSet.evaluate Sources.empty) ∧
      ruleSet.targets = ["1", "null", "b"] ∧
      ruleSet.targets = (pairs.map (·.1.text)).eraseDups := by
  constructor
  · have converted : Yaml.parseJson voidRulesText =
        .ok (.obj [("a", .num (.int 1)), ("rules", .num (.int 0))]) := by decide +kernel
    obtain ⟨value, parsed, json⟩ := Yaml.exists_parse_of_parseJson converted
    refine ((map_fails_without_rules Sources.empty voidRulesText).1 _).2
      (.inr ⟨value, parsed, ?_, rfl⟩)
    rintro ⟨rules, found, notVoid⟩
    rw [json] at found
    obtain rfl := Option.some.inj found
    exact notVoid rfl
  · have converted : Yaml.parseJson oddRulesText = .ok (.obj [("rules", .obj oddRules)]) := by
      decide +kernel
    obtain ⟨value, parsed, json⟩ := Yaml.exists_parse_of_parseJson converted
    have found : value.toJson.get? "rules" = some (.obj oddRules) := by
      rw [json]
      rfl
    obtain ⟨-, accepted, structured⟩ := map_fails_without_rules Sources.empty oddRulesText
    obtain ⟨ruleSet, hruleSet, held, result⟩ := accepted value _ parsed found id
    obtain ⟨pairs, hpairs⟩ := Yaml.Value.exists_pairs_of_get?_toJson found
    exact ⟨value, ruleSet, pairs, parsed, hpairs, hruleSet, held, result, (held.mapping _ rfl).2.1,
      (structured value parsed).2 ruleSet pairs hruleSet hpairs⟩

end Sources

end PrivacyMapping
