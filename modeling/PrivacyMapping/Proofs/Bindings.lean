import PrivacyMapping.Proofs.Config
import PrivacyMapping.Proofs.Json.Dictionary
import PrivacyMapping.Proofs.Json.Equality

/-!
# Runs of bindings

Bindings come about by calls that bind one target or several, from the built-in bindings on or from none
(`Bound`). What a run leaves can be read off its pairs: the last one of a target wins, over the binding at
the start. The bindings of a configuration are such a run over the built-in ones. A configuration
file lists each target once, so that the order in which it lists them does not matter.
-/

namespace PrivacyMapping

namespace Oscal.Bindings

/-! ## Calls one after the other -/

/-- The bindings are what a run of calls leaves that bind these pairs in this order. -/
inductive Bound (start : Bindings) : Entries String → Bindings → Prop
  | start : Bound start [] start
  | bind {pairs : Entries String} {bindings : Bindings} (run : Bound start pairs bindings)
      (target property : String) : Bound start (pairs ++ [(target, property)]) (bindings.bind target property)
  | override {pairs : Entries String} {bindings : Bindings} (run : Bound start pairs bindings)
      (more : Entries String) : Bound start (pairs ++ more) (bindings.override more)

variable {start bindings : Bindings} {pairs : Entries String}

theorem properties_override (bindings : Bindings) (pairs : Entries String) :
    (bindings.override pairs).properties = bindings.properties.insertAll pairs := by
  induction pairs generalizing bindings with
  | nil => rfl
  | cons pair rest ih => exact ih (bindings.bind pair.1 pair.2)

theorem Bound.overlays (distinct : start.properties.keys.Nodup) (h : Bound start pairs bindings) :
    Entries.Overlays start.properties pairs bindings.properties := by
  induction h with
  | start => exact .refl distinct
  | bind _ target property ih => exact ih.insert target property
  | override _ more ih =>
    rw [properties_override]
    exact ih.insertAll more

theorem nodup_keys_default : default.properties.keys.Nodup := by decide

theorem nodup_keys_of_start (h : start = default ∨ start = empty) : start.properties.keys.Nodup := by
  rcases h with rfl | rfl
  · exact nodup_keys_default
  · exact List.nodup_nil

end Oscal.Bindings

namespace Config

open Json (given_of_decode)
open Oscal (Bindings)

variable {read : FileReader} {path path' : String} {document document' : Json} {config config' : Config}

/-! ## Bindings in a document -/

/-- The members of an object that is given, or none. -/
def membersOr : Option Json → Entries Json
  | some (.obj members) => members
  | _ => []

/-- The bindings that a document lists. -/
def bindingsIn (document : Json) : Entries Json :=
  membersOr <| (document.part? 1 "props").bind (·.part? 1 "bindings")

theorem decode_membersOr {entries : Entries String} {given : Option Json}
    (h : match given with
      | none => entries = []
      | some value => Json.Format.dictionary.decode value = .ok entries) :
    Json.Format.dictionary.decode (.obj (membersOr given)) = .ok entries := by
  cases given with
  | none =>
    obtain rfl : entries = [] := h
    rfl
  | some value =>
    cases value with
    | obj members => exact h
    | _ => cases h

theorem nodup_keys_membersOr {given : Option Json} (h : ∀ value, given = some value → value.WellFormed) :
    (membersOr given).keys.Nodup := by
  unfold membersOr
  split
  · exact (Json.WellFormed.obj_iff.1 (h _ rfl)).1
  · exact List.nodup_nil

theorem nodup_keys_bindingsIn (wellFormed : document.WellFormed) :
    (bindingsIn document).keys.Nodup := by
  refine nodup_keys_membersOr fun value found => ?_
  obtain ⟨properties, hproperties, hvalue⟩ := Option.bind_eq_some_iff.1 found
  exact (wellFormed.of_part? hproperties).of_part? hvalue

theorem decode_bindingsIn (wellFormed : document.WellFormed)
    (h : format.decode document = .ok config) :
    Json.Format.dictionary.decode (.obj (bindingsIn document)) = .ok config.properties.bindings := by
  obtain ⟨-, hproperties, -⟩ := given_of_decode (by decide) wellFormed h
  simp only [Nat.zero_add] at hproperties
  unfold bindingsIn
  cases found : document.part? 1 "props" with
  | none =>
    rw [found] at hproperties
    obtain hproperties : config.properties = {} := hproperties
    rw [hproperties]
    rfl
  | some value =>
    rw [found] at hproperties
    obtain ⟨-, hbindings, -⟩ := given_of_decode (by decide) (wellFormed.of_part? found) hproperties
    exact decode_membersOr hbindings

theorem bindings_of_ofJson (wellFormed : document.WellFormed) (h : ofJson path document = .ok config) :
    Json.Format.dictionary.decode (.obj (bindingsIn document)) = .ok config.properties.bindings := by
  obtain ⟨rfl, rfl⟩ | ⟨hdecode, -⟩ := of_ofJson h
  · rfl
  · exact decode_bindingsIn wellFormed hdecode

/-! ## Bindings of an accepted configuration -/

theorem property?_bindings (once : config.properties.bindings.keys.Nodup) (target : String) :
    config.bindings.property? target =
      (config.properties.bindings.get? target).or (Bindings.default.property? target) := by
  have run : Bindings.Bound .default config.properties.bindings config.bindings :=
    .override .start config.properties.bindings
  exact (run.overlays Bindings.nodup_keys_default).get?_of_distinct once target

/-- A file lists no target twice, and an accepted configuration has the bindings that its file lists. -/
theorem bindings_of_load (hload : Document.loadYaml read path = .ok document)
    (accepted : load read (some path) = .ok config) :
    (bindingsIn document).keys.Nodup ∧
      Json.Format.dictionary.decode (.obj (bindingsIn document)) = .ok config.properties.bindings := by
  have wellFormed := wellFormed_of_loadYaml hload
  rw [load_some hload] at accepted
  exact ⟨nodup_keys_bindingsIn wellFormed, bindings_of_ofJson wellFormed accepted⟩

theorem nodup_keys_of_load {source : Option String} (accepted : load read source = .ok config) :
    config.properties.bindings.keys.Nodup := by
  cases source with
  | none =>
    obtain rfl := Except.ok.inj accepted
    exact List.nodup_nil
  | some path =>
    cases hload : Document.loadYaml read path with
    | error e => simp [load, hload] at accepted
    | ok document =>
      obtain ⟨distinct, decoded⟩ := bindings_of_load hload accepted
      exact Json.nodup_keys_of_decode_dictionary distinct decoded

section Listed

variable (hload : Document.loadYaml read path = .ok document)
  (accepted : load read (some path) = .ok config)

include hload accepted

theorem get?_bindingsIn (target : String) :
    (bindingsIn document).get? target = (config.properties.bindings.get? target).map .str := by
  obtain ⟨distinct, decoded⟩ := bindings_of_load hload accepted
  exact Json.get?_of_decode_dictionary distinct decoded target

theorem property?_of_listed {target : String} {value : Json}
    (listed : (bindingsIn document).get? target = some value) :
    ∃ property, value = .str property ∧ config.bindings.property? target = some property := by
  rw [get?_bindingsIn hload accepted, Option.map_eq_some_iff] at listed
  obtain ⟨property, found, rfl⟩ := listed
  refine ⟨property, rfl, ?_⟩
  rw [property?_bindings (nodup_keys_of_load accepted), found, Option.some_or]

theorem property?_of_unlisted {target : String}
    (unlisted : (bindingsIn document).get? target = none) :
    config.bindings.property? target = Bindings.default.property? target := by
  rw [get?_bindingsIn hload accepted, Option.map_eq_none_iff] at unlisted
  rw [property?_bindings (nodup_keys_of_load accepted), unlisted, Option.none_or]

theorem bindings_eq_of_perm (hload' : Document.loadYaml read path' = .ok document')
    (accepted' : load read (some path') = .ok config')
    (same : (bindingsIn document).Perm (bindingsIn document')) :
    config.bindings = config'.bindings := by
  obtain ⟨distinct, decoded⟩ := bindings_of_load hload accepted
  obtain ⟨-, decoded'⟩ := bindings_of_load hload' accepted'
  rw [bindings, bindings, Json.decode_dictionary_eq_of_perm distinct same decoded decoded']

end Listed

/-! ## The last binding wins -/

/-- **The last binding of a target wins, over the built-in one.** After any run of calls from the built-in
bindings or from none, no target stands twice, and a target has the property that was last bound to it, or
else what it had at the start; binding one target changes no other. So with an accepted configuration a
target has the property that the configuration gives, or else the built-in one, and the order in which the
configuration file lists the bindings does not matter. -/
theorem bound_last_wins (reader : FileReader) :
    (∀ start pairs bindings, start = Bindings.default ∨ start = Bindings.empty →
      Bindings.Bound start pairs bindings →
        bindings.properties.keys.Nodup ∧
        (∀ front target property back, pairs = front ++ (target, property) :: back →
          target ∉ Entries.keys back → bindings.property? target = some property) ∧
        (∀ target, target ∉ Entries.keys pairs →
          bindings.property? target = start.property? target) ∧
        ∀ target property other, other ≠ target →
          (bindings.bind target property).property? other = bindings.property? other) ∧
    (∀ target, Bindings.empty.property? target = none) ∧
    (∀ source config, load reader source = .ok config → ∀ target,
      config.bindings.property? target =
        (config.properties.bindings.get? target).or (Bindings.default.property? target)) ∧
    ∀ path document config, Document.loadYaml reader path = .ok document →
      load reader (some path) = .ok config →
        (∀ target value, (bindingsIn document).get? target = some value →
          ∃ property, value = .str property ∧ config.bindings.property? target = some property) ∧
        (∀ target, (bindingsIn document).get? target = none →
          config.bindings.property? target = Bindings.default.property? target) ∧
        ∀ path' document' config', Document.loadYaml reader path' = .ok document' →
          load reader (some path') = .ok config' →
            (bindingsIn document).Perm (bindingsIn document') → config.bindings = config'.bindings := by
  refine ⟨?runs, fun _ => rfl, ?configs, ?documents⟩
  case runs =>
    intro start pairs bindings hstart run
    have left := run.overlays (Bindings.nodup_keys_of_start hstart)
    exact ⟨left.distinct, left.last, left.other, fun target property other differs =>
      Entries.get?_insert_of_ne bindings.properties property differs⟩
  case configs =>
    exact fun source config accepted => property?_bindings (nodup_keys_of_load accepted)
  case documents =>
    intro path document config hload accepted
    exact ⟨fun _ _ => property?_of_listed hload accepted, fun _ => property?_of_unlisted hload accepted,
      fun _ _ _ => bindings_eq_of_perm hload accepted⟩

/-- A target that is bound twice, another one between. -/
def reboundPairs : Entries String :=
  [("purposes", "ropa:zweck"), ("units", "ropa:units"), ("purposes", "ropa:ziel")]

def reboundBindings : Bindings :=
  (Bindings.default.bind "purposes" "ropa:zweck").override
    [("units", "ropa:units"), ("purposes", "ropa:ziel")]

/-- A built-in target and another one. -/
def listedText : String :=
  "props:\n  bindings:\n    purposes: ropa:zweck\n    units: ropa:units\n"

def relistedText : String :=
  "props:\n  bindings:\n    units: ropa:units\n    purposes: ropa:zweck\n"

/-- A working directory with both configurations. -/
def listedFiles : Files where
  nodes := [("listed.yaml", .file listedText.toUTF8), ("relisted.yaml", .file relistedText.toUTF8)]

def listedDocument (members : Entries Json) : Json :=
  .obj [("props", .obj [("bindings", .obj members)])]

def listedMembers : Entries Json :=
  [("purposes", .str "ropa:zweck"), ("units", .str "ropa:units")]

def listedConfig : Config where
  properties := { bindings := [("purposes", "ropa:zweck"), ("units", "ropa:units")] }

theorem loadYaml_listedText :
    Document.loadYaml listedFiles.read "listed.yaml" = .ok (listedDocument listedMembers) := by
  have hread : listedFiles.read "listed.yaml" = .ok listedText.toUTF8 := rfl
  exact Document.loadYaml_eq_ok hread (by decide +kernel)

theorem loadYaml_relistedText :
    Document.loadYaml listedFiles.read "relisted.yaml" =
      .ok (listedDocument listedMembers.reverse) := by
  have hread : listedFiles.read "relisted.yaml" = .ok relistedText.toUTF8 := rfl
  exact Document.loadYaml_eq_ok hread (by decide +kernel)

theorem bound_last_wins_rebound_target :
    (Bindings.Bound .default reboundPairs reboundBindings ∧
      reboundBindings.property? "purposes" = some "ropa:ziel" ∧
      reboundBindings.property? "retention" = some "ropa:retention" ∧
      reboundBindings.property? "others" = none) ∧
    load listedFiles.read (some "listed.yaml") = .ok listedConfig ∧
    load listedFiles.read (some "relisted.yaml") = .ok listedConfig ∧
    listedConfig.bindings.property? "purposes" = some "ropa:zweck" ∧
    listedConfig.bindings.property? "retention" = some "ropa:retention" ∧
    (bindingsIn (listedDocument listedMembers)).Perm
      (bindingsIn (listedDocument listedMembers.reverse)) := by
  have run : Bindings.Bound .default reboundPairs reboundBindings :=
    (Bindings.Bound.start.bind "purposes" "ropa:zweck").override _
  have accepted : load listedFiles.read (some "listed.yaml") = .ok listedConfig := by
    rw [load_some loadYaml_listedText]
    rfl
  have accepted' : load listedFiles.read (some "relisted.yaml") = .ok listedConfig := by
    rw [load_some loadYaml_relistedText]
    rfl
  obtain ⟨runs, -, configs, documents⟩ := bound_last_wins listedFiles.read
  obtain ⟨-, last, other, -⟩ := runs _ _ _ (.inl rfl) run
  obtain ⟨listed, unlisted, -⟩ := documents _ _ _ loadYaml_listedText accepted
  obtain ⟨property, same, bound⟩ := listed "purposes" (.str "ropa:zweck") rfl
  obtain rfl := Json.str.inj same
  refine ⟨⟨run, last (reboundPairs.take 2) _ _ [] rfl (by decide), other "retention" (by decide),
    other "others" (by decide)⟩, accepted, accepted', bound, ?_, ?_⟩
  · exact unlisted "retention" rfl
  · exact (List.reverse_perm listedMembers).symm

end Config

end PrivacyMapping
