import PrivacyMapping.Proofs.Entries
import PrivacyMapping.Proofs.Text.SortedSet
import PrivacyMapping.Mapping
import Mathlib.Logic.Relation

/-!
# Bodies of rules

A rule can be written in several ways. Its body gives the rule that is built up from the same source,
entries and fallback, in whatever order its keys stand (`ofJson_eq_built`). Much of a body can be written
shorter: a single entry without a list around it, several steps in one entry, a mask or a fallback of one
value without a list. `Rephrases` is one such change at one place of a body, and bodies that are joined
by a chain of changes give the same rule (`ofJson_of_sameButWording`).
-/

namespace PrivacyMapping

/-! ## Entries of a rule -/

namespace Normalization

/-- The keys of an entry, in the order in which their steps are taken. -/
def stepKeys : List String :=
  ["mask", "map", "lowercase", "trim"]

/-- The entry with this key only, if it has the key. -/
def alone? (members : Entries Json) (key : String) : Option Json :=
  (members.get? key).map fun value => .obj [(key, value)]

/-- The entries with one key each that stand for an entry with several keys. -/
def singleEntries (members : Entries Json) : List Json :=
  stepKeys.filterMap (alone? members)

theorem stepsOf_obj (members : Entries Json) :
    stepsOf (.obj members) = stepKeys.flatMap fun key => (alone? members key).elim [] stepsOf := by
  simp only [stepsOf, stepKeys, alone?, List.flatMap_cons, List.flatMap_nil, List.append_nil,
    List.append_assoc]
  congr 1
  · cases Entries.get? members "mask" <;> simp [stepsOf, Entries.get?]
  congr 1
  · cases Entries.get? members "map" <;> simp [stepsOf, Entries.get?]
  congr 1
  · cases Entries.get? members "lowercase" <;> simp [stepsOf, Entries.get?]
  · cases Entries.get? members "trim" <;> simp [stepsOf, Entries.get?]

theorem stepsOf_singleEntries (members : Entries Json) :
    (singleEntries members).flatMap stepsOf = stepsOf (.obj members) := by
  rw [stepsOf_obj, singleEntries, List.filterMap_eq_flatMap_toList, List.flatMap_assoc]
  congr 1
  funext key
  cases alone? members key with
  | none => rfl
  | some entry => exact List.flatMap_singleton stepsOf entry

end Normalization

/-! ## Rules that are built up -/

namespace Rule

theorem withSteps_withSteps (rule : Rule) (steps more : List Normalization.Step) :
    (rule.withSteps steps).withSteps more = rule.withSteps (steps ++ more) := by
  rw [withSteps, withSteps, withSteps, List.append_assoc]

theorem foldl_withSteps (rule : Rule) (entries : List Json) :
    entries.foldl (fun rule entry => rule.withSteps (Normalization.stepsOf entry)) rule =
      rule.withSteps (entries.flatMap Normalization.stepsOf) := by
  induction entries generalizing rule with
  | nil => rw [List.flatMap_nil, withSteps, List.append_nil, List.foldl_nil]
  | cons entry rest ih => rw [List.foldl_cons, ih, withSteps_withSteps, List.flatMap_cons]

/-- **A body gives the rule that is built up from its parts.** A rule that is built up from a path, the
steps of entries and a fallback is the rule of every body with these under its keys, wherever the keys
stand, whatever other keys there are and whatever the entries and the fallback look like. The entries may
also be added one after the other. -/
theorem ofJson_eq_built {path : String} (nonempty : path ≠ "") {body fallback : Json}
    {entries : List Json} (source_eq : body.get? "source" = some (.str path))
    (normalize_eq : body.get? "normalize" = some (.arr entries))
    (fallback_eq : body.get? "fallback" = some fallback) :
    let built := ((new path).withSteps (entries.flatMap Normalization.stepsOf)).withFallback fallback
    ofJson body = built ∧
    ofJson body = (entries.foldl (fun rule entry => rule.withSteps (Normalization.stepsOf entry))
      (new path)).withFallback fallback ∧
    ∀ target sources, (ofJson body).evaluate target sources = built.evaluate target sources := by
  intro built
  have same : ofJson body = built := by
    cases body with
    | obj members =>
      rw [Json.get?] at source_eq normalize_eq fallback_eq
      simp [built, ofJson, source_eq, normalize_eq, fallback_eq, new, withSteps, withFallback, sourceOf?,
        nonempty, stepsOf]
    | _ => cases source_eq
  rw [foldl_withSteps]
  refine ⟨same, same, fun target sources => ?_⟩
  rw [same]

/-- Entries that are no objects, that have no table or a flag that is not set, and one with two keys that
ask for steps and one that does not. -/
def oddEntries : List Json :=
  [.str "trim", .obj [("map", .arr []), ("lowercase", .num (.int 1))], .arr [],
    .obj [("trim", .bool true), ("uppercase", .bool true), ("mask", .arr [.null, .str "x"])]]

/-- A body with its fallback first, a list in the fallback, and a key that no rule has. -/
def oddBody : Json :=
  .obj [("fallback", .arr [.arr [], .null]), ("normalize", .arr oddEntries), ("note", .null),
    ("source", .str ".units[*]")]

theorem ofJson_eq_built_odd_body :
    ".units[*]" ≠ "" ∧ oddBody.get? "source" = some (.str ".units[*]") ∧
    oddBody.get? "normalize" = some (.arr oddEntries) ∧
    oddBody.get? "fallback" = some (.arr [.arr [], .null]) ∧
    ofJson oddBody =
      ((new ".units[*]").withSteps [.mask ["", "x"], .trim]).withFallback (.arr [.arr [], .null]) := by
  have nonempty : ".units[*]" ≠ "" := by decide
  have source_eq : oddBody.get? "source" = some (.str ".units[*]") := rfl
  have normalize_eq : oddBody.get? "normalize" = some (.arr oddEntries) := rfl
  have fallback_eq : oddBody.get? "fallback" = some (.arr [.arr [], .null]) := rfl
  have steps : oddEntries.flatMap Normalization.stepsOf = [.mask ["", "x"], .trim] := rfl
  obtain ⟨same, -, -⟩ := ofJson_eq_built nonempty source_eq normalize_eq fallback_eq
  rw [steps] at same
  exact ⟨nonempty, source_eq, normalize_eq, fallback_eq, same⟩

/-! ## Shorthands -/

/-- The value that an object has under a key is changed as the relation says, and nothing else is. -/
inductive ChangedUnder (key : String) (R : Json → Json → Prop) : Json → Json → Prop
  | intro {members : Entries Json} {old new : Json} (found : members.get? key = some old)
      (change : R old new) : ChangedUnder key R (.obj members) (.obj (members.insert key new))

/-- A mask is written in another way that stands for the same set of texts. -/
inductive RephrasesMask : Json → Json → Prop
  | bool (b : Bool) : RephrasesMask (.bool b) (.arr [.bool b])
  | num (n : Json.Number) : RephrasesMask (.num n) (.arr [.num n])
  | str (s : String) : RephrasesMask (.str s) (.arr [.str s])
  | permuted {items others : List Json} (h : items.Perm others) :
      RephrasesMask (.arr items) (.arr others)
  | repeated {items : List Json} {item : Json} (h : item ∈ items) :
      RephrasesMask (.arr items) (.arr (item :: items))
  | respelled (front rest : List Json) {item other : Json} (h : item.stringForm = other.stringForm) :
      RephrasesMask (.arr (front ++ item :: rest)) (.arr (front ++ other :: rest))

/-- The entries of a rule are written in another way that asks for the same steps. -/
inductive RephrasesEntries : Json → Json → Prop
  | listed (members : Entries Json) : RephrasesEntries (.obj members) (.arr [.obj members])
  | split (front rest : List Json) (members : Entries Json) :
      RephrasesEntries (.arr (front ++ .obj members :: rest))
        (.arr (front ++ Normalization.singleEntries members ++ rest))
  | dropped (front rest : List Json) {entry : Json} (h : ∀ members, entry ≠ .obj members) :
      RephrasesEntries (.arr (front ++ entry :: rest)) (.arr (front ++ rest))
  | mask {entry other : Json} (change : ChangedUnder "mask" RephrasesMask entry other) :
      RephrasesEntries entry other
  | maskInList (front rest : List Json) {entry other : Json}
      (change : ChangedUnder "mask" RephrasesMask entry other) :
      RephrasesEntries (.arr (front ++ entry :: rest)) (.arr (front ++ other :: rest))

/-- A fallback of one value is written as a list. -/
inductive RephrasesFallback : Json → Json → Prop
  | listed {value : Json} (present : value ≠ .null) (single : ∀ items, value ≠ .arr items) :
      RephrasesFallback value (.arr [value])

/-- One place of a body is written in another way. -/
inductive Rephrases : Json → Json → Prop
  | entries {body other : Json} (change : ChangedUnder "normalize" RephrasesEntries body other) :
      Rephrases body other
  | fallback {body other : Json} (change : ChangedUnder "fallback" RephrasesFallback body other) :
      Rephrases body other

/-- Changes made and taken back turn one body into the other. -/
def SameButWording : Json → Json → Prop :=
  Relation.EqvGen Rephrases

theorem RephrasesMask.maskTexts?_eq {mask other : Json} (h : RephrasesMask mask other) :
    Normalization.maskTexts? other = Normalization.maskTexts? mask := by
  cases h with
  | bool | num | str => rfl
  | permuted h =>
    rw [Normalization.maskTexts?, Normalization.maskTexts?, Option.some.injEq, Text.sortedSet_eq_iff]
    exact fun text => (h.map Json.stringForm).symm.mem_iff
  | repeated h =>
    rw [Normalization.maskTexts?, Normalization.maskTexts?, Option.some.injEq, Text.sortedSet_eq_iff]
    intro text
    rw [List.map_cons, List.mem_cons, or_iff_right_iff_imp]
    rintro rfl
    exact List.mem_map_of_mem h
  | respelled front rest h =>
    simp only [Normalization.maskTexts?, List.map_append, List.map_cons, h]

theorem stepsOf_of_changedUnder {entry other : Json}
    (h : ChangedUnder "mask" RephrasesMask entry other) :
    Normalization.stepsOf other = Normalization.stepsOf entry := by
  obtain @⟨members, old, new, found, change⟩ := h
  rw [Normalization.stepsOf_obj, Normalization.stepsOf_obj]
  congr 1
  funext key
  by_cases hkey : key = "mask"
  · -- both masks stand for one set of texts
    subst hkey
    simp [Normalization.alone?, Entries.get?_insert_self, found, Normalization.stepsOf, Entries.get?,
      change.maskTexts?_eq]
  · rw [Normalization.alone?, Entries.get?_insert_of_ne members new hkey, ← Normalization.alone?]

theorem RephrasesEntries.stepsOf_eq {entries other : Json} (h : RephrasesEntries entries other) :
    stepsOf other = stepsOf entries := by
  cases h with
  | listed members => exact List.flatMap_singleton _ _
  | split front rest members =>
    simp only [stepsOf, List.flatMap_append, List.flatMap_cons, List.append_assoc,
      Normalization.stepsOf_singleEntries]
  | @dropped front rest entry h =>
    have nothing : Normalization.stepsOf entry = [] := by
      cases entry with
      | obj members => exact absurd rfl (h members)
      | _ => rfl
    simp only [stepsOf, List.flatMap_append, List.flatMap_cons, nothing, List.nil_append]
  | mask change =>
    have same := stepsOf_of_changedUnder change
    -- the changed entry is an object still, so that it is the only entry of the rule
    cases change
    exact same
  | maskInList front rest change =>
    simp only [stepsOf, List.flatMap_append, List.flatMap_cons, stepsOf_of_changedUnder change]

theorem RephrasesFallback.fallbackValues?_eq {value other : Json} (h : RephrasesFallback value other) :
    fallbackValues? other = fallbackValues? value := by
  obtain ⟨present, single⟩ := h
  cases value with
  | null => exact absurd rfl present
  | arr items => exact absurd rfl (single items)
  | _ => rfl

theorem Rephrases.ofJson_eq {body other : Json} (h : Rephrases body other) :
    ofJson other = ofJson body := by
  cases h with
  | entries change =>
    obtain @⟨members, old, new, found, change⟩ := change
    simp [ofJson, Entries.get?_insert_self, Entries.get?_insert_of_ne, found, change.stepsOf_eq]
  | fallback change =>
    obtain @⟨members, old, new, found, change⟩ := change
    simp [ofJson, Entries.get?_insert_self, Entries.get?_insert_of_ne, found, change.fallbackValues?_eq]

theorem SameButWording.ofJson_eq {body other : Json} (h : SameButWording body other) :
    ofJson other = ofJson body := by
  induction h with
  | rel body other change => exact change.ofJson_eq
  | refl body => rfl
  | symm body other _ ih => exact ih.symm
  | trans body between other _ _ first second => exact second.trans first

/-- **Shorthands mean their long forms.** Bodies that differ only in how their entries, masks and
fallbacks are written give the same rule, which fills its field alike from all source documents. -/
theorem ofJson_of_sameButWording {body other : Json} (h : SameButWording body other) :
    ofJson other = ofJson body ∧
    ∀ target sources, (ofJson other).evaluate target sources = (ofJson body).evaluate target sources := by
  refine ⟨h.ofJson_eq, fun target sources => ?_⟩
  rw [h.ofJson_eq]

/-- A body with these entries and this fallback. -/
def bodyWith (entries fallback : Json) : Json :=
  .obj [("normalize", entries), ("source", .str "plan.items"), ("fallback", fallback)]

/-- An entry with two keys that ask for steps, in the other order, and one that does not. -/
def mixedEntry : Json :=
  .obj [("trim", .bool true), ("note", .null), ("mask", .num (.int 7))]

/-- The entries of a mask and of a trim. -/
def maskThenTrim (mask : Json) : List Json :=
  [.obj [("mask", mask)], .obj [("trim", .bool true)]]

/-- The mixed entry, written with a list for each shorthand, with a repeated and respelled mask, and
behind an entry that asks for nothing. -/
def longEntries : List Json :=
  .null :: maskThenTrim (.arr [.num (.int 7), .str "7"])

theorem sameButWording_bodyWith :
    SameButWording (bodyWith mixedEntry (.str "none"))
      (bodyWith (.arr longEntries) (.arr [.str "none"])) := by
  have rephrases : ∀ {entries other : Json}, RephrasesEntries entries other →
      SameButWording (bodyWith entries (.str "none")) (bodyWith other (.str "none")) :=
    fun change => .rel _ _ (.entries (.intro rfl change))
  have masks : ∀ {mask other : Json}, RephrasesMask mask other →
      RephrasesEntries (.arr (maskThenTrim mask)) (.arr (maskThenTrim other)) :=
    fun change => .maskInList [] _ (.intro rfl change)
  have listed : RephrasesEntries mixedEntry (.arr [mixedEntry]) := .listed _
  have split : RephrasesEntries (.arr [mixedEntry]) (.arr (maskThenTrim (.num (.int 7)))) :=
    .split [] [] [("trim", .bool true), ("note", .null), ("mask", .num (.int 7))]
  have repeated : RephrasesMask (.arr [.num (.int 7)]) (.arr [.num (.int 7), .num (.int 7)]) :=
    .repeated List.mem_cons_self
  have respelled : RephrasesMask (.arr [.num (.int 7), .num (.int 7)])
      (.arr [.num (.int 7), .str "7"]) :=
    .respelled [.num (.int 7)] [] (by decide)
  have dropped : RephrasesEntries (.arr longEntries)
      (.arr (maskThenTrim (.arr [.num (.int 7), .str "7"]))) :=
    .dropped [] _ nofun
  have fallback : Rephrases (bodyWith (.arr longEntries) (.str "none"))
      (bodyWith (.arr longEntries) (.arr [.str "none"])) :=
    .fallback (.intro rfl (.listed nofun nofun))
  exact .trans _ _ _ (rephrases listed) <| .trans _ _ _ (rephrases split) <|
    .trans _ _ _ (rephrases (masks (.num (.int 7)))) <| .trans _ _ _ (rephrases (masks repeated)) <|
    .trans _ _ _ (rephrases (masks respelled)) <| .trans _ _ _ (.symm _ _ (rephrases dropped)) <|
    .rel _ _ fallback

theorem ofJson_of_sameButWording_mixed_entry :
    SameButWording (bodyWith mixedEntry (.str "none"))
      (bodyWith (.arr longEntries) (.arr [.str "none"])) ∧
    ofJson (bodyWith (.arr longEntries) (.arr [.str "none"])) =
      ofJson (bodyWith mixedEntry (.str "none")) ∧
    ofJson (bodyWith mixedEntry (.str "none")) =
      ⟨some ⟨"plan", [⟨"items", false⟩]⟩, [.mask ["7"], .trim], some [.str "none"]⟩ := by
  have sameBodies := sameButWording_bodyWith
  have rule : ofJson (bodyWith mixedEntry (.str "none")) =
      ⟨some ⟨"plan", [⟨"items", false⟩]⟩, [.mask ["7"], .trim], some [.str "none"]⟩ := rfl
  exact ⟨sameBodies, (ofJson_of_sameButWording sameBodies).1, rule⟩

end Rule

end PrivacyMapping
