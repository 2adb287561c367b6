import PrivacyMapping.Command.Program
import PrivacyMapping.Proofs.Json.Reading
import PrivacyMapping.Proofs.RuleSet

/-!
# What commands decide on

A command decides on its effect after it has read everything that it needs. `Loads` and `Prepares` say
what has been read by then, `Applied` what an `apply` comes to. Where the output goes plays no part
until the end, so the effect of a command is given by what it comes to and by its output path
(`mapEffect_eq_ok_iff`, `applyEffect_eq_ok_iff`).
-/

namespace PrivacyMapping.Command

open Json (bind_eq_ok_iff mapError_eq_ok_iff)
open Sources (map_eq_error_iff map_eq_ok_iff)

variable {read : FileReader} {config : Config} {now : Timestamp} {inputs : MappingInputs}
  {out : Option String} {effect : Effect}

/-! ## Inputs -/

/-- What a mapping run needs has been read: two source documents and the text of a rule set. -/
structure Loads (read : FileReader) (inputs : MappingInputs) (first second : Json)
    (rules : String) : Prop where
  first_eq : Document.loadSource read inputs.first = .ok first
  second_eq : Document.loadSource read inputs.second = .ok second
  rules_eq : read.text inputs.rules = .ok rules

/-- Two source documents under their configured names. -/
def sourcesOf (config : Config) (first second : Json) : Sources :=
  Sources.namedPair config.sources.first first config.sources.second second

theorem loadSources_eq_ok_iff {sources : Sources} :
    loadSources read config.sources inputs = .ok sources ↔
      ∃ first second, Document.loadSource read inputs.first = .ok first ∧
        Document.loadSource read inputs.second = .ok second ∧
        sources = sourcesOf config first second := by
  simp only [loadSources, bind_eq_ok_iff, mapError_eq_ok_iff, pure, Except.pure, Except.ok.injEq,
    sourcesOf]
  constructor
  · rintro ⟨first, hfirst, second, hsecond, rfl⟩
    exact ⟨first, second, hfirst, hsecond, rfl⟩
  · rintro ⟨first, second, hfirst, hsecond, rfl⟩
    exact ⟨first, hfirst, second, hsecond, rfl⟩

/-! ## Mapping -/

/-- How a mapping run with this outcome ends. -/
def statusOf : Outcome → Status
  | .ok _ => .done
  | .error _ => .rejected

theorem mapEffect_eq_ok_iff :
    mapEffect read config inputs out = .ok effect ↔
      ∃ first second rules, Loads read inputs first second rules ∧
        effect = deliver out ((sourcesOf config first second).map rules).toJson ""
          (statusOf ((sourcesOf config first second).map rules)) := by
  simp only [mapEffect, readRules, bind_eq_ok_iff, mapError_eq_ok_iff, loadSources_eq_ok_iff, pure,
    Except.pure, Except.ok.injEq]
  constructor
  · rintro ⟨_, ⟨first, second, hfirst, hsecond, rfl⟩, rules, hrules, rfl⟩
    exact ⟨first, second, rules, ⟨hfirst, hsecond, hrules⟩, rfl⟩
  · rintro ⟨first, second, rules, ⟨hfirst, hsecond, hrules⟩, rfl⟩
    exact ⟨_, ⟨first, second, hfirst, hsecond, rfl⟩, rules, hrules, rfl⟩

/-! ## Filling a security plan -/

/-- What an `apply` needs has been read: the time is the given one, or else the current one, and the
plan and the inputs of the mapping have been loaded. -/
structure Prepares (read : FileReader) (now : Timestamp) (plan : String) (inputs : MappingInputs)
    (time : Option String) (instant : Timestamp) (document first second : Json)
    (rules : String) : Prop where
  time_eq : match time with
    | some text => Timestamp.parse text = .ok instant
    | none => instant = now
  document_eq : Document.loadJson read plan = .ok document
  inputs : Loads read inputs first second rules

theorem Prepares.unique {plan : String} {time : Option String} {instant instant' : Timestamp}
    {document document' first first' second second' : Json} {rules rules' : String}
    (h : Prepares read now plan inputs time instant document first second rules)
    (h' : Prepares read now plan inputs time instant' document' first' second' rules') :
    instant = instant' ∧ document = document' ∧ first = first' ∧ second = second' ∧
      rules = rules' := by
  have times : instant = instant' := by
    cases time with
    | none => exact h.time_eq.trans h'.time_eq.symm
    | some text => exact Except.ok.inj (h.time_eq.symm.trans h'.time_eq)
  exact ⟨times, Except.ok.inj (h.document_eq.symm.trans h'.document_eq),
    Except.ok.inj (h.inputs.first_eq.symm.trans h'.inputs.first_eq),
    Except.ok.inj (h.inputs.second_eq.symm.trans h'.inputs.second_eq),
    Except.ok.inj (h.inputs.rules_eq.symm.trans h'.inputs.rules_eq)⟩

/-- The values that a rule set makes of two source documents, waiting to be written. -/
def valuesOf (config : Config) (first second : Json) (ruleSet : RuleSet) : Oscal.Pending :=
  pendingValues config (sourcesOf config first second)
    (ruleSet.evaluate (sourcesOf config first second))

/-- What an `apply` comes to: nothing if its rule set is refused, or else the plan that has been filled
with what was written. -/
inductive Applied (read : FileReader) (config : Config) (now : Timestamp) (plan : String)
    (inputs : MappingInputs) (time : Option String) : Option (Json × Oscal.Report) → Prop
  | rejected {instant : Timestamp} {document first second : Json} {rules : String}
      {e : RuleSet.Error}
      (prepares : Prepares read now plan inputs time instant document first second rules)
      (refused : RuleSet.parse rules = .error e) : Applied read config now plan inputs time none
  | filled {instant : Timestamp} {document first second written : Json} {rules : String}
      {ruleSet : RuleSet} {report : Oscal.Report}
      (prepares : Prepares read now plan inputs time instant document first second rules)
      (accepted : RuleSet.parse rules = .ok ruleSet)
      (write_eq : Oscal.write document (valuesOf config first second ruleSet) instant =
        .ok (written, report)) : Applied read config now plan inputs time (some (written, report))

/-- How an `apply` ends that comes to this. -/
def applyEnd (out : Option String) : Option (Json × Oscal.Report) → Effect
  | none => { status := .rejected }
  | some (written, report) => deliver out written (reportText (out.getD "") report) .done

/-- The time of an `apply`: the given one, or else the current one. -/
def instantOf (now : Timestamp) : Option String → Except Error Timestamp
  | some text => (Timestamp.parse text).mapError .timestamp
  | none => .ok now

theorem instantOf_eq_ok_iff {time : Option String} {instant : Timestamp} :
    instantOf now time = .ok instant ↔
      match time with
      | some text => Timestamp.parse text = .ok instant
      | none => instant = now := by
  cases time with
  | none => simp [instantOf, eq_comm]
  | some text => exact mapError_eq_ok_iff

theorem applyEffect_eq_bind (plan : String) (time : Option String) :
    applyEffect read config now plan inputs out time =
      instantOf now time >>= fun instant => applyEffect read config instant plan inputs out none := by
  cases time <;> rfl

theorem applyEffect_eq_ok_iff {plan : String} {time : Option String} :
    applyEffect read config now plan inputs out time = .ok effect ↔
      ∃ result, Applied read config now plan inputs time result ∧ effect = applyEnd out result := by
  rw [applyEffect_eq_bind, bind_eq_ok_iff]
  simp only [applyEffect, readRules, bind_eq_ok_iff, mapError_eq_ok_iff, loadSources_eq_ok_iff,
    instantOf_eq_ok_iff, pure_bind]
  constructor
  · rintro ⟨instant, htime, document, hdocument, _, ⟨first, second, hfirst, hsecond, rfl⟩, rules,
      hrules, h⟩
    have prepares : Prepares read now plan inputs time instant document first second rules :=
      ⟨htime, hdocument, hfirst, hsecond, hrules⟩
    cases houtcome : (sourcesOf config first second).map rules with
    | error e =>
      rw [houtcome] at h
      exact ⟨none, .rejected prepares (map_eq_error_iff.1 houtcome), (Except.ok.inj h).symm⟩
    | ok result =>
      rw [houtcome] at h
      obtain ⟨ruleSet, hparse, rfl⟩ := map_eq_ok_iff.1 houtcome
      obtain ⟨⟨written, report⟩, hwrite, h⟩ := bind_eq_ok_iff.1 h
      exact ⟨some (written, report), .filled prepares hparse (mapError_eq_ok_iff.1 hwrite),
        (Except.ok.inj h).symm⟩
  · rintro ⟨result, applied, rfl⟩
    cases applied with
    | @rejected instant document first second rules e prepares refused =>
      obtain ⟨htime, hdocument, hfirst, hsecond, hrules⟩ := prepares
      refine ⟨instant, htime, document, hdocument, _, ⟨first, second, hfirst, hsecond, rfl⟩, rules,
        hrules, ?_⟩
      rw [map_eq_error_iff.2 refused]
      rfl
    | @filled instant document first second written rules ruleSet report prepares accepted write_eq =>
      obtain ⟨htime, hdocument, hfirst, hsecond, hrules⟩ := prepares
      refine ⟨instant, htime, document, hdocument, _, ⟨first, second, hfirst, hsecond, rfl⟩, rules,
        hrules, ?_⟩
      rw [map_eq_ok_iff.2 ⟨ruleSet, accepted, rfl⟩]
      exact bind_eq_ok_iff.2 ⟨_, mapError_eq_ok_iff.2 write_eq, rfl⟩

end PrivacyMapping.Command
