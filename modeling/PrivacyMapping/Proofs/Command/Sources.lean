import PrivacyMapping.Proofs.Command.Persistence
import PrivacyMapping.Proofs.Config

/-!
# The two sources of a run

Registering a document under a name that is already there replaces the earlier one without any error, so
the two source documents of a run stay apart only because their names differ. An accepted configuration
sees to that: the selectors of a rule set reach each document under its own name, and the participants
that an `apply` writes are those of the second one (`load_keeps_apart`).
-/

namespace PrivacyMapping

/-! ## Two documents under their names -/

namespace Sources

/-- Two documents and no other, each under its own name. -/
structure Apart (sources : Sources) (names : SourceNames) (first second : Json) : Prop where
  names_eq : sources.names = [names.first, names.second]
  size_eq : sources.size = 2
  first_eq : sources.get? names.first = some first
  second_eq : sources.get? names.second = some second

theorem apart_namedPair {names : SourceNames} (differ : names.first ≠ names.second)
    (first second : Json) :
    (namedPair names.first first names.second second).Apart names first second := by
  have documents : (namedPair names.first first names.second second).documents =
      [(names.first, first), (names.second, second)] := by
    simp [namedPair, insert, empty, Entries.insert, differ]
  constructor
  · rw [Sources.names, documents]
    rfl
  · rw [size, documents]
    rfl
  · rw [get?, documents, Entries.get?, if_pos rfl]
  · exact Entries.get?_insert_self _ _ _

end Sources

namespace Command

variable {read : FileReader} {config : Config} {inputs : MappingInputs} {first second : Json}

theorem exists_loadSources (differ : config.sources.first ≠ config.sources.second)
    (hfirst : Document.loadSource read inputs.first = .ok first)
    (hsecond : Document.loadSource read inputs.second = .ok second) :
    ∃ sources, loadSources read config.sources inputs = .ok sources ∧
      sources.Apart config.sources first second :=
  ⟨sourcesOf config first second, loadSources_eq_ok_iff.2 ⟨first, second, hfirst, hsecond, rfl⟩,
    Sources.apart_namedPair differ first second⟩

/-! ## Participants -/

/-- The values of a mapping, with the participants of a process. -/
def withParticipants (config : Config) (process : Json) (result : MappingResult) : Oscal.Pending :=
  (Oscal.Participants.ofProcess process).merge
    (Oscal.Pending.ofMapping result config.bindings config.properties.separator) config.bindings
    config.properties.separator

theorem pendingValues_of_apart {sources : Sources} (h : sources.Apart config.sources first second)
    (result : MappingResult) :
    pendingValues config sources result = withParticipants config second result := by
  rw [pendingValues, h.second_eq]
  rfl

/-- The effect of an `apply` that delivers its plan, filled with the values of the mapping over these
sources and with the participants of this process. -/
inductive Delivers (read : FileReader) (config : Config) (now : Timestamp) (plan : String)
    (inputs : MappingInputs) (out time : Option String) (sources : Sources) (process : Json) :
    Effect → Prop
  | filled {instant : Timestamp} {document first second written : Json} {rules : String}
      {ruleSet : RuleSet} {report : Oscal.Report}
      (prepares : Prepares read now plan inputs time instant document first second rules)
      (accepted : RuleSet.parse rules = .ok ruleSet)
      (write_eq : Oscal.write document (withParticipants config process (ruleSet.evaluate sources))
        instant = .ok (written, report)) :
      Delivers read config now plan inputs out time sources process
        (deliver out written (reportText (out.getD "") report) .done)

/-- An `apply` succeeds exactly if it delivers the plan with the participants of the second document. -/
theorem applyEffect_done_iff (hfirst : Document.loadSource read inputs.first = .ok first)
    (hsecond : Document.loadSource read inputs.second = .ok second) {sources : Sources}
    (hsources : loadSources read config.sources inputs = .ok sources)
    (apart : sources.Apart config.sources first second) {now : Timestamp} {plan : String}
    {out time : Option String} {effect : Effect} :
    applyEffect read config now plan inputs out time = .ok effect ∧ effect.status = .done ↔
      Delivers read config now plan inputs out time sources second effect := by
  have sources_eq : sources = sourcesOf config first second := by
    obtain ⟨first', second', hfirst', hsecond', rfl⟩ := loadSources_eq_ok_iff.1 hsources
    rw [Except.ok.inj (hfirst.symm.trans hfirst'), Except.ok.inj (hsecond.symm.trans hsecond')]
  have values_eq : ∀ ruleSet : RuleSet, valuesOf config first second ruleSet =
      withParticipants config second (ruleSet.evaluate sources) := by
    intro ruleSet
    rw [valuesOf, ← sources_eq, pendingValues_of_apart apart]
  rw [applyEffect_eq_ok_iff]
  constructor
  · rintro ⟨⟨result, applied, rfl⟩, done⟩
    cases applied with
    | rejected => cases done
    | @filled instant document first' second' written rules ruleSet report prepares accepted write_eq =>
      -- the documents that the run has read are those that are loaded from its inputs
      obtain rfl := Except.ok.inj (hfirst.symm.trans prepares.inputs.first_eq)
      obtain rfl := Except.ok.inj (hsecond.symm.trans prepares.inputs.second_eq)
      rw [values_eq] at write_eq
      exact .filled prepares accepted write_eq
  · rintro ⟨prepares, accepted, write_eq⟩
    obtain rfl := Except.ok.inj (hfirst.symm.trans prepares.inputs.first_eq)
    obtain rfl := Except.ok.inj (hsecond.symm.trans prepares.inputs.second_eq)
    rw [← values_eq] at write_eq
    refine ⟨⟨some (_, _), .filled prepares accepted write_eq, rfl⟩, ?_⟩
    cases out <;> rfl

/-! ## Accepted configurations -/

/-- **An accepted configuration keeps the two sources apart.** With it, whatever two documents are loaded
stand under the two names of the configuration, each under its own, and an `apply` that succeeds has
written the participants of the second document. The names are those that the configuration file gives,
or their defaults; a file in which they coincide is refused. -/
theorem load_keeps_apart (reader : FileReader) :
    (∀ source config, Config.load reader source = .ok config →
      ∀ (read : FileReader) (inputs : MappingInputs) (first second : Json),
        Document.loadSource read inputs.first = .ok first →
        Document.loadSource read inputs.second = .ok second →
        ∃ sources, loadSources read config.sources inputs = .ok sources ∧
          sources.Apart config.sources first second ∧
          ∀ now plan out time effect,
            applyEffect read config now plan inputs out time = .ok effect ∧ effect.status = .done ↔
              Delivers read config now plan inputs out time sources second effect) ∧
    ∀ path document, Document.loadYaml reader path = .ok document →
      (∀ config, Config.load reader (some path) = .ok config →
        config.sources = Config.namesIn document) ∧
      ((Config.namesIn document).first = (Config.namesIn document).second →
        ∃ e, Config.load reader (some path) = .error e ∧
          ∀ config, Config.format.decode document = .ok config →
            e = .sameNames path (Config.namesIn document).first) := by
  constructor
  · intro source config accepted read inputs first second hfirst hsecond
    have differ := Config.names_ne_of_load accepted
    obtain ⟨sources, hsources, apart⟩ := exists_loadSources differ hfirst hsecond
    exact ⟨sources, hsources, apart, fun _ _ _ _ _ =>
      applyEffect_done_iff hfirst hsecond hsources apart⟩
  · intro path document hdocument
    have wellFormed := Config.wellFormed_of_loadYaml hdocument
    rw [Config.load_some hdocument]
    exact ⟨fun config accepted => (Config.names_of_ofJson wellFormed accepted).1,
      Config.ofJson_of_sameNames wellFormed⟩

/-- Names of which the first is the default of the second. -/
def crossedText : String :=
  "sources:\n  first: bpmn\n  second: akte\n"

def crossedConfig : Config where
  sources := ⟨"bpmn", "akte"⟩

/-- The first of these names alone, so that the second has its default. -/
def halfText : String :=
  "sources:\n  first: bpmn\n"

def halfDocument : Json :=
  .obj [("sources", .obj [("first", .str "bpmn")])]

/-- A process with one lane inside the organisation. -/
def processOf (lane : String) : Json :=
  .obj [("lanes", .arr [.obj [("external", .bool false), ("label", .str lane)]])]

def laneText : String :=
  "rules:\n  purposes:\n    source: akte.lanes.0.label\n"

def laneRules : RuleSet where
  version := none
  priorities := []
  rules := [("purposes",
    { source := some ⟨"akte", [⟨"lanes", false⟩, ⟨"0", false⟩, ⟨"label", false⟩]⟩ })]

def lanePlan : Json :=
  .obj [(Oscal.planKey, .obj [])]

/-- A working directory with two configurations and with a process for each source. -/
def crossedFiles : Files where
  nodes := [("ogp.yaml", .file crossedText.toUTF8), ("half.yaml", .file halfText.toUTF8),
    ("plan.json", .file (documentText lanePlan).toUTF8),
    ("first.json", .file (documentText (processOf "Amt")).toUTF8),
    ("second.json", .file (documentText (processOf "Kasse")).toUTF8),
    ("rules.yaml", .file laneText.toUTF8)]

/-- The plan with the lane of the second process, as the rule finds it and as a data subject. -/
def laneWritten : Json :=
  .obj [(Oscal.planKey, .obj [
    (Oscal.characteristicsKey, .obj [("props", .arr [Oscal.newProperty "ropa:purpose" "Kasse",
      Oscal.newProperty "ropa:data-subjects" "Kasse"])]),
    ("metadata", .obj [("last-modified", .str "2026-10-18T09:30:00Z")])])]

theorem load_crossedText : Config.load crossedFiles.read (some "ogp.yaml") = .ok crossedConfig := by
  have hread : crossedFiles.read "ogp.yaml" = .ok crossedText.toUTF8 := rfl
  have parsed : Yaml.parseJson crossedText =
      .ok (.obj [("sources", .obj [("first", .str "bpmn"), ("second", .str "akte")])]) := by
    decide +kernel
  rw [Config.load_some (Document.loadYaml_eq_ok hread parsed)]
  rfl

theorem loadYaml_halfText : Document.loadYaml crossedFiles.read "half.yaml" = .ok halfDocument := by
  have hread : crossedFiles.read "half.yaml" = .ok halfText.toUTF8 := rfl
  have parsed : Yaml.parseJson halfText = .ok halfDocument := by decide +kernel
  exact Document.loadYaml_eq_ok hread parsed

theorem prepares_lanePlan :
    Prepares crossedFiles.read Oscal.sampleTime "plan.json" numberedInputs none Oscal.sampleTime
      lanePlan (processOf "Amt") (processOf "Kasse") laneText where
  time_eq := rfl
  document_eq := loadJson_of_written rfl (by
    simp [lanePlan, Json.Reading.levels, Json.Fits.obj_iff, Entries.keys])
  inputs := by
    have fits : ∀ lane, (processOf lane).Fits Json.Number.ReadsBack Json.Reading.levels := by
      simp [processOf, Json.Reading.levels, Json.Fits.obj_iff, Json.Fits.arr_iff, Json.Fits.str,
        Json.Fits.bool, Entries.keys]
    exact ⟨Document.loadSource_eq_ok (loadJson_of_written rfl (fits "Amt")),
      Document.loadSource_eq_ok (loadJson_of_written rfl (fits "Kasse")), FileReader.text_eq_ok rfl⟩

theorem load_keeps_apart_crossed_names :
    Config.load crossedFiles.read (some "ogp.yaml") = .ok crossedConfig ∧
    (∃ sources,
      loadSources crossedFiles.read crossedConfig.sources numberedInputs = .ok sources ∧
      sources.Apart crossedConfig.sources (processOf "Amt") (processOf "Kasse") ∧
      Delivers crossedFiles.read crossedConfig Oscal.sampleTime "plan.json" numberedInputs none none
        sources (processOf "Kasse") { printed := documentText laneWritten }) ∧
    Config.load crossedFiles.read (some "half.yaml") = .error (.sameNames "half.yaml" "bpmn") := by
  have prepares := prepares_lanePlan
  have accepted : RuleSet.parse laneText = .ok laneRules := by decide +kernel
  have write_eq : Oscal.write lanePlan
      (valuesOf crossedConfig (processOf "Amt") (processOf "Kasse") laneRules) Oscal.sampleTime =
      .ok (laneWritten, { added := ["ropa:purpose", "ropa:data-subjects"] }) := rfl
  have applied : applyEffect crossedFiles.read crossedConfig Oscal.sampleTime "plan.json"
      numberedInputs none none = .ok { printed := documentText laneWritten } :=
    applyEffect_eq_ok_iff.2 ⟨some (_, _), .filled prepares accepted write_eq, rfl⟩
  obtain ⟨kept, given⟩ := load_keeps_apart crossedFiles.read
  obtain ⟨sources, loaded, apart, delivers⟩ := kept _ _ load_crossedText _ _ _ _
    prepares.inputs.first_eq prepares.inputs.second_eq
  obtain ⟨e, refused, reason⟩ := (given _ _ loadYaml_halfText).2 rfl
  have decoded : Config.format.decode halfDocument = .ok ⟨⟨"bpmn", "bpmn"⟩, {}⟩ := rfl
  rw [reason _ decoded] at refused
  exact ⟨load_crossedText, ⟨sources, loaded, apart, (delivers _ _ _ _ _).1 ⟨applied, rfl⟩⟩, refused⟩

end Command

end PrivacyMapping
