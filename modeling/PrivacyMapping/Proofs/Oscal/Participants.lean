import PrivacyMapping.Oscal.Participants
import PrivacyMapping.Proofs.Text.Blank
import PrivacyMapping.Proofs.Text.SortedSet
import PrivacyMapping.Proofs.Yaml.Number

/-!
# Participants as sets of names

An item of a process counts by its flag and its name alone. The participants are the names of the
items that count, as a sorted set (`collect_isSetOf`), and such a set is determined by what belongs to
it (`IsSetOf.unique`). So the order of the items, their repetition and the items that do not count are
without effect (`ofProcess_sets`).
-/

namespace PrivacyMapping

/-! ## Flags -/

/-- A value that counts as true. Neither null nor false does. -/
inductive Json.Truthy : Json → Prop
  | yes : Truthy (.bool true)
  | number {n : Json.Number} (nonzero : n.value ≠ 0) : Truthy (.num n)
  | text {s : String} (nonempty : s ≠ "") : Truthy (.str s)
  | array {items : List Json} (nonempty : items ≠ []) : Truthy (.arr items)
  | object {members : List (String × Json)} (nonempty : members ≠ []) : Truthy (.obj members)

theorem Json.Number.isZero_iff {n : Json.Number} : n.isZero = true ↔ n.value = 0 := by
  cases n with
  | int n =>
    show (n == 0) = true ↔ (n : ℚ) = 0
    rw [beq_iff_eq, Int.cast_eq_zero]
  | float x => exact Binary64.isZero_iff.trans Binary64.value_eq_zero_iff.symm

theorem Json.isTruthy_iff {value : Json} : value.isTruthy = true ↔ value.Truthy := by
  constructor
  · intro h
    cases value with
    | null => simp [isTruthy] at h
    | bool b =>
      obtain rfl : b = true := h
      exact .yes
    | num n =>
      refine .number fun zero => ?_
      rw [isTruthy, Number.isZero_iff.2 zero] at h
      exact absurd h (by decide)
    | str s => exact .text (by simpa [isTruthy] using h)
    | arr items => exact .array (by simpa [isTruthy] using h)
    | obj members => exact .object (by simpa [isTruthy] using h)
  · intro h
    cases h with
    | yes => rfl
    | @number n nonzero =>
      have notZero : n.isZero = false := Bool.eq_false_iff.2 (mt Number.isZero_iff.1 nonzero)
      rw [isTruthy, notZero, Bool.not_false]
    | text nonempty => simpa [isTruthy] using nonempty
    | array nonempty => simpa [isTruthy] using nonempty
    | object nonempty => simpa [isTruthy] using nonempty

namespace Oscal.Participants

/-! ## Items of a process -/

/-- The process is an object that has an array with the item under the key. -/
def Lists (process : Json) (key : String) (item : Json) : Prop :=
  ∃ members items, process = .obj members ∧ Entries.get? members key = some (.arr items) ∧
    item ∈ items

/-- The item has a text under the key, and the name is what trimming leaves of it, if it leaves
anything. -/
def Gives (key : String) (item : Json) (name : String) : Prop :=
  ∃ text, item.get? key = some (.str text) ∧ Text.Trims text name ∧ name ≠ ""

/-- The lane says that it is not external, and has the name as its label. -/
def InnerLane (lane : Json) (name : String) : Prop :=
  lane.get? "external" = some (.bool false) ∧ Gives "label" lane name

/-- The flow says in some way that it is external, and goes to the pool of the name. -/
def OuterFlow (flow : Json) (name : String) : Prop :=
  (∃ flag, flow.get? "external" = some flag ∧ flag.Truthy) ∧ Gives "targetPool" flow name

theorem lists_iff {members : Entries Json} {key : String} {items : List Json} {item : Json}
    (h : members.get? key = some (.arr items)) : Lists (.obj members) key item ↔ item ∈ items := by
  constructor
  · rintro ⟨members', items', same, found, hitem⟩
    obtain rfl := Json.obj.inj same
    obtain rfl := Json.arr.inj (Option.some.inj (h.symm.trans found))
    exact hitem
  · intro hitem
    exact ⟨members, items, rfl, h, hitem⟩

theorem isInternalLane_iff {lane : Json} :
    isInternalLane lane = true ↔ lane.get? "external" = some (.bool false) := by
  unfold isInternalLane
  split
  · next h => simp [h]
  · next h => exact ⟨by simp, fun flag => absurd flag h⟩

theorem isExternalFlow_iff {flow : Json} :
    isExternalFlow flow = true ↔ ∃ flag, flow.get? "external" = some flag ∧ flag.Truthy := by
  rw [isExternalFlow, Option.any_eq_true]
  apply exists_congr
  intro flag
  rw [Json.isTruthy_iff]

theorem name?_eq_some_iff {key : String} {qualifies : Json → Bool} {item : Json} {name : String} :
    name? key qualifies item = some name ↔ qualifies item = true ∧ Gives key item name := by
  constructor
  · intro h
    unfold name? at h
    split at h
    · next qualified =>
      refine ⟨qualified, ?_⟩
      split at h
      · next text htext =>
        dsimp only at h
        split_ifs at h with empty
        obtain rfl := Option.some.inj h
        exact ⟨text, htext, Text.trim_eq_iff.1 rfl, empty⟩
      · cases h
    · cases h
  · rintro ⟨qualified, text, htext, trims, nonempty⟩
    obtain rfl := Text.trim_eq_iff.2 trims
    simp only [name?, qualified, htext, if_true, if_neg nonempty]

/-! ## Sorted sets of names -/

/-- The names are in strictly increasing order, and are those that belong. -/
structure IsSetOf (names : List String) (belongs : String → Prop) : Prop where
  increasing : names.Pairwise (· < ·)
  mem_iff : ∀ name, name ∈ names ↔ belongs name

theorem IsSetOf.unique {names others : List String} {belongs : String → Prop}
    (h : IsSetOf names belongs) (h' : IsSetOf others belongs) : names = others := by
  apply h.increasing.eq_of_mem_iff h'.increasing
  intro name
  rw [h.mem_iff, h'.mem_iff]

theorem IsSetOf.congr {names : List String} {belongs belongs' : String → Prop}
    (h : IsSetOf names belongs) (same : ∀ name, belongs name ↔ belongs' name) :
    IsSetOf names belongs' :=
  ⟨h.increasing, fun name => (h.mem_iff name).trans (same name)⟩

/-- What is collected are the names of the items that qualify. -/
theorem collect_isSetOf (process : Json) (array key : String) (qualifies : Json → Bool) :
    IsSetOf (collect process array key qualifies)
      fun name => ∃ item, Lists process array item ∧ qualifies item = true ∧ Gives key item name := by
  unfold collect
  split
  · next items found =>
    constructor
    case increasing => exact Text.pairwise_sortedSet _
    case mem_iff =>
      intro name
      obtain ⟨members, rfl⟩ : ∃ members, process = .obj members := by
        cases process with
        | obj members => exact ⟨members, rfl⟩
        | _ => cases found
      rw [Text.mem_sortedSet, List.mem_filterMap]
      apply exists_congr
      intro item
      rw [name?_eq_some_iff, lists_iff found]
  · next absent =>
    refine ⟨List.Pairwise.nil, fun name => ⟨by simp, ?_⟩⟩
    rintro ⟨item, ⟨members, items, rfl, found, -⟩, -⟩
    exact absurd found (absent items)

theorem internal_isSetOf (process : Json) :
    IsSetOf (ofProcess process).internal
      fun name => ∃ lane, Lists process "lanes" lane ∧ InnerLane lane name := by
  refine (collect_isSetOf process "lanes" "label" isInternalLane).congr fun name => ?_
  simp only [isInternalLane_iff, InnerLane]

theorem external_isSetOf (process : Json) :
    IsSetOf (ofProcess process).external
      fun name => ∃ flow, Lists process "messageFlows" flow ∧ OuterFlow flow name := by
  refine (collect_isSetOf process "messageFlows" "targetPool" isExternalFlow).congr fun name => ?_
  simp only [isExternalFlow_iff, OuterFlow]

theorem exists_lists_congr {process other : Json} {array : String}
    {counts : Json → String → Prop}
    (same : ∀ item name, counts item name → (Lists other array item ↔ Lists process array item))
    (name : String) :
    (∃ item, Lists other array item ∧ counts item name) ↔
      ∃ item, Lists process array item ∧ counts item name := by
  apply exists_congr
  intro item
  apply and_congr_left
  intro hcounts
  exact same item name hcounts

/-- **Participants are sorted sets.** The data subjects are the trimmed labels of the lanes that are
not external, and the recipients those of the pools to which external flows go, each name once and in
increasing order. Of two processes with the same lanes that count, in whatever order and number and
among whatever others, the data subjects are the same; and so are the recipients where the flows that
count are the same. -/
theorem ofProcess_sets (process : Json) :
    IsSetOf (ofProcess process).internal
      (fun name => ∃ lane, Lists process "lanes" lane ∧ InnerLane lane name) ∧
    IsSetOf (ofProcess process).external
      (fun name => ∃ flow, Lists process "messageFlows" flow ∧ OuterFlow flow name) ∧
    ∀ other : Json,
      ((∀ lane name, InnerLane lane name → (Lists other "lanes" lane ↔ Lists process "lanes" lane)) →
        (ofProcess other).internal = (ofProcess process).internal) ∧
      ((∀ flow name, OuterFlow flow name →
          (Lists other "messageFlows" flow ↔ Lists process "messageFlows" flow)) →
        (ofProcess other).external = (ofProcess process).external) := by
  refine ⟨internal_isSetOf process, external_isSetOf process, fun other => ⟨fun same => ?_, fun same => ?_⟩⟩
  · have others := (internal_isSetOf other).congr (exists_lists_congr same)
    exact others.unique (internal_isSetOf process)
  · have others := (external_isSetOf other).congr (exists_lists_congr same)
    exact others.unique (external_isSetOf process)

/-- A lane inside the organisation, with a no-break space before its label. -/
def kasseLane : Json :=
  .obj [("label", .str "\u00a0Kasse "), ("external", .bool false)]

def amtLane : Json :=
  .obj [("external", .bool false), ("label", .str "Amt")]

/-- A flow that leaves the organisation by a number. -/
def landFlow : Json :=
  .obj [("targetPool", .str "Land"), ("external", .num (.int 1))]

def bundFlow : Json :=
  .obj [("targetPool", .str "Bund"), ("external", .str "yes")]

/-- A flow that stays inside the organisation, since its flag is an empty array. -/
def closedFlow : Json :=
  .obj [("targetPool", .str "Kasse"), ("external", .arr [])]

def sampleProcess : Json :=
  .obj [("lanes", .arr [kasseLane, amtLane]), ("messageFlows", .arr [landFlow, bundFlow])]

/-- The sample process with its items in another order, repeated, and among items that do not count. -/
def rearrangedProcess : Json :=
  .obj [("messageFlows", .arr [closedFlow, bundFlow, landFlow, bundFlow]),
    ("lanes", .arr [amtLane, .null, kasseLane, amtLane])]

theorem ofProcess_sets_rearranged :
    (ofProcess sampleProcess).internal = ["Amt", "Kasse"] ∧
    (ofProcess sampleProcess).external = ["Bund", "Land"] ∧
    (∀ lane name, InnerLane lane name →
      (Lists rearrangedProcess "lanes" lane ↔ Lists sampleProcess "lanes" lane)) ∧
    (∀ flow name, OuterFlow flow name →
      (Lists rearrangedProcess "messageFlows" flow ↔ Lists sampleProcess "messageFlows" flow)) ∧
    (ofProcess rearrangedProcess).internal = (ofProcess sampleProcess).internal ∧
    (ofProcess rearrangedProcess).external = (ofProcess sampleProcess).external := by
  have lanes : ∀ lane name, InnerLane lane name →
      (Lists rearrangedProcess "lanes" lane ↔ Lists sampleProcess "lanes" lane) := by
    rintro lane name ⟨flag, -⟩
    have counts : lane ≠ .null := by
      rintro rfl
      cases flag
    rw [rearrangedProcess, sampleProcess, lists_iff rfl, lists_iff rfl]
    simp [counts, or_comm]
  have flows : ∀ flow name, OuterFlow flow name →
      (Lists rearrangedProcess "messageFlows" flow ↔ Lists sampleProcess "messageFlows" flow) := by
    rintro flow name ⟨⟨flag, hflag, truthy⟩, -⟩
    have counts : flow ≠ closedFlow := by
      rintro rfl
      obtain rfl : Json.arr [] = flag := Option.some.inj hflag
      cases truthy with
      | array nonempty => exact nonempty rfl
    rw [rearrangedProcess, sampleProcess, lists_iff rfl, lists_iff rfl]
    simp [counts, or_comm]
  obtain ⟨-, -, same⟩ := ofProcess_sets sampleProcess
  exact ⟨by decide +kernel, by decide +kernel, lanes, flows, (same rearrangedProcess).1 lanes,
    (same rearrangedProcess).2 flows⟩

end Oscal.Participants

end PrivacyMapping
