import PrivacyMapping.Proofs.Evaluation
import PrivacyMapping.Proofs.Json.Equality
import PrivacyMapping.Proofs.Literal.Agreement
import PrivacyMapping.Proofs.Literal.Grammar
import PrivacyMapping.Proofs.Literal.Printed
import PrivacyMapping.Proofs.RuleSet
import PrivacyMapping.Proofs.Yaml.Number

/-!
# Masked numbers

A mask is read as YAML and the values that it masks as JSON, and the two meet in their string forms. A
literal that is written on both sides is masked exactly if both readers make the same number of it.
Whole numbers within 64 bits are masked, except for negative zero, which is a float in JSON. A literal
that is a float in JSON, but whole in value, is not masked, since a mask is turned into a whole number.
Other floats are masked if both readers round them alike, as they do for short literals.
-/

namespace PrivacyMapping

open Normalization (Step normalize unmasked dropBlank)

/-! ## Strings of numbers -/

namespace Json

theorem stringForm_num (n : Number) : (Json.num n).stringForm = String.ofList n.text := rfl

theorem stringForm_num_inj {m n : Number} :
    (Json.num m).stringForm = (Json.num n).stringForm ↔ m = n := by
  rw [stringForm_num, stringForm_num]
  constructor
  · intro h
    exact Literal.text_injective (String.ofList_injective h)
  · rintro rfl
    rfl

theorem not_isWhiteSpace_of_isDigit {c : Char} (h : c.isDigit = true) :
    Text.isWhiteSpace c = false := by
  obtain ⟨digit, small⟩ := Text.digitChar_of_isDigit h
  have all : ∀ k < 10, Text.isWhiteSpace (Nat.digitChar k) = false := by decide
  rw [← digit]
  exact all _ small

theorem not_isBlank_num (n : Number) : (Json.num n).isBlank = false := by
  obtain ⟨l, chars⟩ : ∃ l : Literal, l.chars = n.text := by
    cases n with
    | int n =>
      obtain ⟨l, chars, -⟩ := Literal.exists_eq_intText n
      exact ⟨l, chars⟩
    | float x =>
      obtain ⟨l, chars, -⟩ := Literal.exists_eq_floatText x
      exact ⟨l, chars⟩
  obtain ⟨digit, more, front, isDigit⟩ := l.exists_unsigned_eq_cons
  rw [Normalization.isBlank_eq, stringForm_num, ← chars, Text.isBlank, String.toList_ofList,
    Bool.eq_false_iff, ne_eq, List.all_eq_true]
  intro blank
  have digitBlank := blank digit (by rw [Literal.chars, front]; split_ifs <;> simp)
  rw [not_isWhiteSpace_of_isDigit isDigit] at digitBlank
  cases digitBlank

theorem eq_of_equal_num {other : Json} {n : Number} (h : other.Equal (.num n))
    (nonzero : ∀ x, n = .float x → ¬ x.isZero = true) : other = .num n := by
  cases h with
  | int n => rfl
  | @float x y value =>
    have zero := nonzero y rfl
    have same : x.sameValue y = true := Binary64.sameValue_iff.2 value
    simp only [Binary64.sameValue, Bool.or_eq_true, Bool.and_eq_true, beq_iff_eq] at same
    obtain ⟨negative, rank⟩ := same.resolve_left fun zeros => zero zeros.2
    cases x
    cases y
    simp_all

end Json

/-! ## Whole floats -/

namespace Yaml

theorem exists_wholeOf?_iff {x : Binary64} :
    (∃ m, wholeOf? x = some m) ↔ ∃ k : Int, x.value = k ∧ -2 ^ 63 ≤ k ∧ k ≤ 2 ^ 63 := by
  have least : leastWhole = -2 ^ 63 := rfl
  have greatest : greatestWhole = 2 ^ 63 - 1 := rfl
  constructor
  · rintro ⟨m, whole⟩
    rcases wholeOf?_eq_some_iff.1 whole with ⟨value, low, high⟩ | ⟨value, -⟩
    · exact ⟨m, value, by omega, by omega⟩
    · exact ⟨2 ^ 63, by rw [value]; norm_num, by omega, by omega⟩
  · rintro ⟨k, value, low, high⟩
    by_cases last : k = 2 ^ 63
    · refine ⟨greatestWhole, wholeOf?_eq_some_iff.2 (.inr ⟨?_, rfl⟩)⟩
      rw [value, last]
      norm_num
    · exact ⟨k, wholeOf?_eq_some_iff.2 (.inl ⟨value, by omega, by omega⟩)⟩

theorem not_isZero_of_wholeOf? {x : Binary64} (h : wholeOf? x = none) : ¬ x.isZero = true := by
  intro zero
  have value : x.value = ((0 : Int) : ℚ) := by
    rw [Int.cast_zero]
    exact Binary64.value_eq_zero_iff.2 (Binary64.isZero_iff.1 zero)
  rw [wholeOf?_eq_some_iff.2 (.inl ⟨value, by decide, by decide⟩)] at h
  cases h

theorem toJson_float (x : Binary64) :
    (Number.float x).toJson =
      .num (match wholeOf? x with
        | some m => .int m
        | none => .float x) := by
  rw [Number.toJson]
  cases wholeOf? x <;> rfl

theorem not_isZero_of_toJson {n : Number} {x : Binary64} (h : n.toJson = .num (.float x)) :
    ¬ x.isZero = true := by
  cases n with
  | float y =>
    rw [toJson_float] at h
    cases whole : wholeOf? y with
    | some m =>
      rw [whole] at h
      cases h
    | none =>
      rw [whole] at h
      cases h
      exact not_isZero_of_wholeOf? whole
  | infinity negative => cases negative <;> cases h
  | _ => cases h

end Yaml

/-! ## The number of a mask and the number that it masks -/

namespace Literal

variable (l : Literal) {n : Yaml.Number} {z : Json.Number}

theorem exists_toJson_eq_num (written : Yaml.Scalar.plainValue? l.text = some (.num n)) :
    ∃ mask, n.toJson = .num mask := by
  rcases l.plainValue?_text written with ⟨-, rfl⟩ | ⟨-, x, -, rfl⟩
  · exact ⟨_, rfl⟩
  · exact ⟨_, Yaml.toJson_float x⟩

theorem toJson_ne_iff_of_isWhole (written : Yaml.Scalar.plainValue? l.text = some (.num n))
    (read : l.number? = some z) (whole : l.IsWhole) : n.toJson ≠ .num z ↔ l.IsNegativeZero := by
  obtain ⟨-, rfl⟩ := (l.plainValue?_text written).resolve_right fun other => other.1 whole
  by_cases zero : l.IsNegativeZero
  · obtain ⟨x, rfl⟩ := l.exists_float_of_number? read fun _ => zero
    exact iff_of_true nofun zero
  · obtain rfl := Option.some.inj ((l.number?_of_isWhole whole zero).symm.trans read)
    exact iff_of_false (not_not.2 rfl) zero

/-- A literal that is a float for both readers becomes a whole number as a mask if its float is one,
and is the same float otherwise if it is short. Nothing is said of the float `2 ^ 63`. -/
theorem toJson_ne_of_not_isWhole (written : Yaml.Scalar.plainValue? l.text = some (.num n))
    (read : l.number? = some z) (other : ¬ l.IsWhole) :
    ∃ x, n = .float x ∧
      ((∃ k : Int, x.value = k ∧ -2 ^ 63 ≤ k ∧ k < 2 ^ 63) → n.toJson ≠ .num z) ∧
      ((¬ ∃ k : Int, x.value = k ∧ -2 ^ 63 ≤ k ∧ k ≤ 2 ^ 63) →
        (n.toJson ≠ .num z ↔ z ≠ .float x) ∧ (l.IsShort → n.toJson = .num z)) := by
  obtain ⟨-, x, nearest, rfl⟩ := (l.plainValue?_text written).resolve_left fun whole => other whole.1
  obtain ⟨y, rfl⟩ := l.exists_float_of_number? read fun whole => absurd whole other
  refine ⟨x, rfl, fun whole => ?_, ?_⟩
  · obtain ⟨k, value, low, high⟩ := whole
    obtain ⟨m, whole⟩ := Yaml.exists_wholeOf?_iff.2 ⟨k, value, low, high.le⟩
    rw [Yaml.toJson_float, whole]
    nofun
  · intro none
    rw [← Yaml.exists_wholeOf?_iff, not_exists, ← Option.eq_none_iff_forall_ne_some] at none
    rw [Yaml.toJson_float, none]
    refine ⟨?_, fun short => ?_⟩
    · rw [ne_eq, Json.num.injEq]
      exact ne_comm
    · have same := l.number?_of_isShort short fun integral => other (short.isWhole integral)
      rw [read, nearest, Option.map_some] at same
      rw [Option.some.inj same]

end Literal

/-! ## Rules with one mask -/

/-- A field is filled from the sources, and a value equal to the given one is among its values. -/
def Resolves (outcome : Option Field) (value : Json) : Prop :=
  ∃ field, outcome = some field ∧ field.origin = .resolved ∧ ∃ kept ∈ field.values, kept.Equal value

namespace Rule

variable {rule : Rule} {sources : Sources} {text : String}

theorem mem_normalize_of_mask (h : rule.steps = [.mask [text]]) {value : Json} :
    value ∈ normalize (rule.found sources) rule.steps ↔
      value ∈ rule.found sources ∧ value.isBlank = false ∧ value.stringForm ≠ text := by
  have masked := Normalization.normalize_mask (rule.found sources) [] [text] []
  rw [List.nil_append] at masked
  rw [h, masked]
  simp only [Normalization.normalize_nil, dropBlank, List.mem_filter, Normalization.mem_unmasked,
    List.mem_singleton, Bool.not_eq_eq_eq_not, Bool.not_true]
  tauto

theorem resolves_of_unmasked (h : rule.steps = [.mask [text]]) (built : rule.Built)
    (hsources : sources.WellFormed) {value : Json} (found : value ∈ rule.found sources)
    (visible : value.isBlank = false) (unmasked : value.stringForm ≠ text) (target : String) :
    Resolves (rule.evaluate target sources) value := by
  have left := (mem_normalize_of_mask h).2 ⟨found, visible, unmasked⟩
  have nonempty := List.ne_nil_of_mem left
  obtain ⟨-, -, firsts⟩ := built.resolved_values hsources nonempty
  cases hsource : rule.source with
  | none =>
    rw [Rule.found, hsource] at found
    cases found
  | some selector =>
    refine ⟨⟨target, distinct (normalize (rule.found sources) rule.steps), .resolved⟩, ?_, rfl,
      firsts.complete value left⟩
    rw [evaluate_of_source hsource, if_neg nonempty]

theorem not_resolves_of_masked (h : rule.steps = [.mask [text]]) {value : Json}
    (masked : ∀ other : Json, other.Equal value → other.stringForm = text) (target : String) :
    ¬ Resolves (rule.evaluate target sources) value := by
  rintro ⟨field, outcome, resolved, kept, hkept, equal⟩
  rw [values_of_resolved outcome resolved] at hkept
  have left := (distinct_sublist _).subset hkept
  exact ((mem_normalize_of_mask h).1 left).2.2 (masked kept equal)

end Rule

/-! ## One literal on both sides -/

/-- A rule set text has a rule for the target with the normalization list `[{mask: [n]}]`. -/
def RuleSet.MasksNumber (text target : String) (n : Yaml.Number) : Prop :=
  ∃ document rules members, Yaml.parseJson text = .ok document ∧
    document.get? "rules" = some rules ∧ (target, .obj members) ∈ RuleSet.bodies rules ∧
    Entries.get? members "normalize" =
      some (Yaml.Value.seq [.map [(.str "mask", .seq [.num n])]]).toJson

theorem RuleSet.wellFormed_of_mem_bodies {rules : Json} (h : rules.WellFormed)
    {body : String × Json} (mem : body ∈ RuleSet.bodies rules) : body.2.WellFormed := by
  cases rules with
  | obj members => exact (Json.WellFormed.obj_iff.1 h).2 body mem
  | arr items =>
    obtain ⟨i, bound, rfl⟩ := List.mem_mapIdx.1 mem
    exact Json.WellFormed.arr_iff.1 h _ (List.getElem_mem bound)
  | _ => cases mem

theorem RuleSet.exists_rule_of_masksNumber {text target : String} {n : Yaml.Number}
    {ruleSet : RuleSet} (h : RuleSet.parse text = .ok ruleSet)
    (masks : RuleSet.MasksNumber text target n) :
    ∃ rule, ruleSet.get? target = some rule ∧ rule.Built ∧
      rule.steps = [.mask [n.toJson.stringForm]] := by
  obtain ⟨document, rules, members, parsed, found, body, normalization⟩ := masks
  have distinct := nodup_targets h
  rw [parse, parsed] at h
  obtain ⟨rules', found', held⟩ := exists_rules_of_ofJson h
  obtain rfl := Option.some.inj (found.symm.trans found')
  have mem : (target, Rule.ofJson (.obj members)) ∈ ruleSet.rules := by
    rw [held]
    exact List.mem_map.2 ⟨_, body, rfl⟩
  have wellFormed :=
    wellFormed_of_mem_bodies ((Yaml.wellFormed_of_parseJson parsed).of_get? found) body
  refine ⟨_, get?_eq_some_of_mem distinct mem, .ofJson wellFormed, ?_⟩
  rw [Rule.ofJson, normalization]
  rfl

namespace RuleSet

theorem resolves_masked_number_iff {rule : Rule} {sources : Sources} {n : Yaml.Number}
    {mask z : Json.Number} (hmask : n.toJson = .num mask) (built : rule.Built)
    (steps : rule.steps = [.mask [n.toJson.stringForm]]) (hsources : sources.WellFormed)
    (found : .num z ∈ rule.found sources) (nonzero : mask = z → ∀ x, z = .float x → ¬ x.isZero = true)
    (target : String) : Resolves (rule.evaluate target sources) (.num z) ↔ mask ≠ z := by
  rw [hmask] at steps
  constructor
  · rintro resolves rfl
    refine Rule.not_resolves_of_masked steps (fun other equal => ?_) target resolves
    rw [Json.eq_of_equal_num equal (nonzero rfl)]
  · intro other
    exact Rule.resolves_of_unmasked steps built hsources found (Json.not_isBlank_num z)
      (fun same => other (Json.stringForm_num_inj.1 same).symm) target

/-- The rule of a rule set text that masks a number leaves the number if it is another one in the
sources. -/
theorem resolves_iff_of_masksNumber {text target : String} {ruleSet : RuleSet} {rule : Rule}
    {sources : Sources} {n : Yaml.Number} {mask z : Json.Number} (hmask : n.toJson = .num mask)
    (hrules : parse text = .ok ruleSet) (masks : MasksNumber text target n)
    (hrule : ruleSet.get? target = some rule)
    (documents : ∀ document ∈ sources.documents, ∃ text, Json.parse text = .ok document.2)
    (found : .num z ∈ rule.found sources) :
    Resolves ((ruleSet.evaluate sources).field? target) (.num z) ↔ n.toJson ≠ .num z := by
  obtain ⟨_, hrule', built, steps⟩ := exists_rule_of_masksNumber hrules masks
  obtain rfl := Option.some.inj (hrule.symm.trans hrule')
  have wellFormed : sources.WellFormed := by
    intro document mem
    obtain ⟨_, parsed⟩ := documents document mem
    exact Json.wellFormed_of_parse parsed
  have nonzero : mask = z → ∀ x, z = .float x → ¬ x.isZero = true := by
    rintro rfl x rfl
    exact Yaml.not_isZero_of_toJson hmask
  rw [field?_evaluate (nodup_targets hrules), hrule, Option.bind_some, hmask, ne_eq, Json.num.injEq]
  exact resolves_masked_number_iff hmask built steps wellFormed found nonzero target

/-- **A number masks itself if both readers make the same number of it.** A text `t` is read as the
number `n` in the mask of a rule, and as the number `z` in the source documents, where the selector of
the rule finds it. It is resolved nevertheless exactly if the mask stands for another number than `z`.
Such a text is a literal. A whole number within 64 bits is resolved only if it is negative zero. A
literal whose YAML number is a float is resolved if this float is whole, from `-2 ^ 63` on and below
`2 ^ 63`. If it is neither that nor `2 ^ 63`, it is resolved only if it is another float in JSON, which
no short literal is. -/
theorem resolves_self_masked_iff {t text target : String} {ruleSet : RuleSet} {rule : Rule}
    {sources : Sources} {n : Yaml.Number} {z : Json.Number}
    (written : Yaml.Scalar.value? none t true = some (.num n))
    (read : Json.parse t = .ok (.num z)) (hrules : parse text = .ok ruleSet)
    (masks : MasksNumber text target n) (hrule : ruleSet.get? target = some rule)
    (documents : ∀ document ∈ sources.documents, ∃ text, Json.parse text = .ok document.2)
    (found : .num z ∈ rule.found sources) :
    let resolves := Resolves ((ruleSet.evaluate sources).field? target) (.num z)
    (∀ inner, Json.Reading.ReadsAs (Json.Reading.readValueWith inner) t.toList (.num z)) ∧
    (resolves ↔ n.toJson ≠ .num z) ∧
    (∃ l : Literal, l.text = t) ∧ ∀ l : Literal, l.text = t →
      (l.IsWhole → (resolves ↔ l.IsNegativeZero)) ∧
      (¬ l.IsWhole → ∃ x, n = .float x ∧
        ((∃ k : Int, x.value = k ∧ -2 ^ 63 ≤ k ∧ k < 2 ^ 63) → resolves) ∧
        ((¬ ∃ k : Int, x.value = k ∧ -2 ^ 63 ≤ k ∧ k ≤ 2 ^ 63) →
          (resolves ↔ z ≠ .float x) ∧ (l.IsShort → ¬ resolves))) := by
  intro resolves
  obtain ⟨l, literal⟩ := Literal.exists_text_eq written read
  obtain ⟨mask, hmask⟩ : ∃ mask, n.toJson = .num mask := by
    subst literal
    exact l.exists_toJson_eq_num written
  have outcome : resolves ↔ n.toJson ≠ .num z :=
    resolves_iff_of_masksNumber hmask hrules masks hrule documents found
  rw [outcome]
  refine ⟨?_, Iff.rfl, ⟨l, literal⟩, ?_⟩
  · subst literal
    obtain ⟨_, hnumber, same⟩ := l.exists_number?_of_parse read
    obtain rfl := Json.num.inj same
    rw [Literal.text, String.toList_ofList]
    exact l.readsAs hnumber
  · rintro l rfl
    obtain ⟨_, hnumber, same⟩ := l.exists_number?_of_parse read
    obtain rfl := Json.num.inj same
    refine ⟨l.toJson_ne_iff_of_isWhole written hnumber, fun other => ?_⟩
    obtain ⟨x, float, whole, fraction⟩ := l.toJson_ne_of_not_isWhole written hnumber other
    exact ⟨x, float, whole, fun notWhole =>
      ⟨(fraction notWhole).1, fun short => not_not.2 ((fraction notWhole).2 short)⟩⟩

/-! ## Literals that mask themselves, and others -/

/-- A rule set text with one rule, which masks a literal. -/
def selfMaskingText (l : Literal) : String :=
  "rules:\n  t:\n    source: s.a\n    normalize:\n      - mask: [" ++ l.text ++ "]\n"

/-- A source document that lists the literal. -/
def selfListingText (l : Literal) : String :=
  "\x7b\"a\":[" ++ l.text ++ ",\"x\"]\x7d"

def maskingDocument (n : Yaml.Number) : Json :=
  .obj [("rules", .obj [("t", .obj [("source", .str "s.a"),
    ("normalize", (Yaml.Value.seq [.map [(.str "mask", .seq [.num n])]]).toJson)])])]

def maskingRule (n : Yaml.Number) : Rule :=
  (Rule.new "s.a").withSteps [.mask [n.toJson.stringForm]]

def maskingRules (n : Yaml.Number) : RuleSet :=
  ⟨none, [], [("t", maskingRule n)]⟩

def listing (z : Json.Number) : Json :=
  .obj [("a", .arr [.num z, .str "x"])]

def listed (z : Json.Number) : Sources :=
  Sources.empty.insert "s" (listing z)

/-- The texts of a literal are read with the numbers `n` and `z` in them. -/
def SelfMasked (l : Literal) (n : Yaml.Number) (z : Json.Number) : Prop :=
  Json.parse l.text = .ok (.num z) ∧ Yaml.parseJson (selfMaskingText l) = .ok (maskingDocument n) ∧
  Json.parse (selfListingText l) = .ok (listing z)

instance (l : Literal) (n : Yaml.Number) (z : Json.Number) : Decidable (SelfMasked l n z) :=
  inferInstanceAs (Decidable (_ ∧ _ ∧ _))

namespace SelfMasked

variable {l : Literal} {n : Yaml.Number} {z : Json.Number} (h : SelfMasked l n z)

include h

theorem parse_eq : parse (selfMaskingText l) = .ok (maskingRules n) := by
  rw [parse, h.2.1]
  rfl

theorem masksNumber : MasksNumber (selfMaskingText l) "t" n :=
  ⟨_, _, _, h.2.1, rfl, List.mem_singleton_self _, rfl⟩

theorem documents : ∀ document ∈ (listed z).documents, ∃ text, Json.parse text = .ok document.2 := by
  intro document mem
  obtain rfl := List.mem_singleton.1 mem
  exact ⟨_, h.2.2⟩

omit h in
theorem found : .num z ∈ (maskingRule n).found (listed z) :=
  List.mem_cons_self

end SelfMasked

/-- The literal `0.5`. -/
def half : Literal :=
  .ofParts false ['0'] ['5'] none (by decide)

/-- The literal `42`. -/
def fortyTwo : Literal :=
  .ofParts false ['4', '2'] [] none (by decide)

def halfFloat : Binary64 := ⟨false, 4602678819172646912, by decide⟩

theorem resolves_self_masked_iff_half :
    (SelfMasked half (.float halfFloat) (.float halfFloat) ∧
      ¬ Resolves (((maskingRules (.float halfFloat)).evaluate (listed (.float halfFloat))).field? "t")
        (.num (.float halfFloat))) ∧
    SelfMasked fortyTwo (.int 42) (.int 42) ∧
      ¬ Resolves (((maskingRules (.int 42)).evaluate (listed (.int 42))).field? "t")
        (.num (.int 42)) := by
  constructor
  · have masked : SelfMasked half (.float halfFloat) (.float halfFloat) := by decide +kernel
    have nearest : half.nearest? = some halfFloat := by decide +kernel
    have written := half.value?_of_nearest? (by decide) nearest
    have fraction : Yaml.wholeOf? halfFloat = none := by decide +kernel
    have short : half.IsShort := ⟨by decide, by decide, by decide⟩
    obtain ⟨-, -, -, literal⟩ := resolves_self_masked_iff written masked.1 masked.parse_eq
      masked.masksNumber rfl masked.documents SelfMasked.found
    obtain ⟨x, same, -, notWhole⟩ := (literal half rfl).2 (by decide)
    obtain rfl := Yaml.Number.float.inj same
    refine ⟨masked, (notWhole ?_).2 short⟩
    rw [← Yaml.exists_wholeOf?_iff, fraction]
    exact nofun
  · have masked : SelfMasked fortyTwo (.int 42) (.int 42) := by decide +kernel
    have whole : fortyTwo.IsWhole := by decide
    have written : Yaml.Scalar.value? none fortyTwo.text true = some (.num (.int 42)) :=
      fortyTwo.plainValue?_of_isWhole whole
    obtain ⟨-, -, -, literal⟩ := resolves_self_masked_iff written masked.1 masked.parse_eq
      masked.masksNumber rfl masked.documents SelfMasked.found
    exact ⟨masked, mt ((literal fortyTwo rfl).1 whole).1 (by decide)⟩

/-- The literal `1.0`. -/
def wholeFloat : Literal :=
  .ofParts false ['1'] ['0'] none (by decide)

/-- The literal `-0`. -/
def negativeZero : Literal :=
  .ofParts true ['0'] [] none (by decide)

/-- The literal `1.1e-25`, whose power of ten is not exact. -/
def roundedTwice : Literal :=
  .ofParts false ['1'] ['1'] (some ⟨'e', .minus, ['2', '5'], by decide, by decide, by decide⟩)
    (by decide)

def oneFloat : Binary64 := ⟨false, 4607182418800017408, by decide⟩

/-- The float that is nearest to `1.1e-25`. -/
def nearestFloat : Binary64 := ⟨false, 4233671225827142558, by decide⟩

/-- The float below it. -/
def floatBelow : Binary64 := ⟨false, 4233671225827142557, by decide⟩

/-- The literal is masked by the rule, and found and resolved all the same. -/
structure Survives (l : Literal) (n : Yaml.Number) (z : Json.Number) : Prop where
  written : Yaml.Scalar.value? none l.text true = some (.num n)
  read : Json.parse l.text = .ok (.num z)
  accepted : parse (selfMaskingText l) = .ok (maskingRules n)
  masks : MasksNumber (selfMaskingText l) "t" n
  document : Json.parse (selfListingText l) = .ok (listing z)
  found : .num z ∈ (maskingRule n).found (listed z)
  resolves : Resolves (((maskingRules n).evaluate (listed z)).field? "t") (.num z)

theorem SelfMasked.survives {l : Literal} {n : Yaml.Number} {z : Json.Number}
    (h : SelfMasked l n z) (written : Yaml.Scalar.value? none l.text true = some (.num n))
    (kept : ((maskingRules n).evaluate (listed z)).field? "t" =
      some ⟨"t", [.num z, .str "x"], .resolved⟩) : Survives l n z :=
  ⟨written, h.1, h.parse_eq, h.masksNumber, h.2.2, found,
    ⟨_, kept, rfl, _, List.mem_cons_self, Json.Equal.refl _⟩⟩

/-- Not every number masks itself: a whole float and negative zero are other numbers as masks, and
some fractions are rounded differently. -/
theorem self_masked_survivors :
    Survives wholeFloat (.float oneFloat) (.float oneFloat) ∧
    Survives negativeZero (.int 0) (.float (.zero true)) ∧
    Survives roundedTwice (.float nearestFloat) (.float floatBelow) := by
  refine ⟨?_, ?_, ?_⟩
  · have masked : SelfMasked wholeFloat (.float oneFloat) (.float oneFloat) := by decide +kernel
    have nearest : wholeFloat.nearest? = some oneFloat := by decide +kernel
    exact masked.survives (wholeFloat.value?_of_nearest? (by decide) nearest) (by decide +kernel)
  · have masked : SelfMasked negativeZero (.int 0) (.float (.zero true)) := by decide +kernel
    exact masked.survives (negativeZero.plainValue?_of_isWhole (by decide)) (by decide +kernel)
  · have masked : SelfMasked roundedTwice (.float nearestFloat) (.float floatBelow) := by
      decide +kernel
    have nearest : roundedTwice.nearest? = some nearestFloat := by decide +kernel
    exact masked.survives (roundedTwice.value?_of_nearest? (by decide) nearest) (by decide +kernel)

end RuleSet

end PrivacyMapping
