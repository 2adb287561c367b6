import PrivacyMapping.Proofs.Command.Confinement
import PrivacyMapping.Proofs.Json.RoundTrip
import PrivacyMapping.Proofs.Oscal.Limits
import PrivacyMapping.Proofs.Oscal.Writing
import PrivacyMapping.Proofs.RuleSet

/-!
# Plans that are read again

The plan that an `apply` leaves in its output file is the plan that it has filled: whoever loads the
file gets the same document. A plan that has been loaded is within the limits of the reader and leaves
room there for all that is written into it, so a written plan never lies too deep to be read.
-/

namespace PrivacyMapping

open Json (Fits Number bind_eq_ok_iff)
open Oscal (planKey characteristicsKey sampleTime)

/-! ## Documents in files -/

namespace Document

variable {read : FileReader} {path text : String} {document : Json}

theorem loadJson_eq_ok (hread : read path = .ok text.toUTF8)
    (hparse : Json.parse text = .ok document) : loadJson read path = .ok document := by
  rw [loadJson, loadText, FileReader.text_eq_ok hread]
  exact Json.mapError_eq_ok_iff.2 hparse

theorem loadSource_eq_ok (h : loadJson read path = .ok document) :
    loadSource read path = .ok document := by
  rw [loadSource, h]

theorem fits_of_loadJson (h : loadJson read path = .ok document) :
    document.Fits Number.InRange Json.Reading.levels := by
  obtain ⟨text, -, h⟩ := bind_eq_ok_iff.1 h
  exact Json.fits_of_parse (Json.mapError_eq_ok_iff.1 h)

end Document

namespace Command

theorem parse_documentText {document : Json}
    (h : document.Fits Number.ReadsBack Json.Reading.levels) :
    Json.parse (documentText document) = .ok document :=
  Json.parse_write Json.Layout.gapped_indented h (by simp [Json.Blank, Json.Reading.isGap])

theorem loadJson_of_written {read : FileReader} {path : String} {document : Json}
    (hread : read path = .ok (documentText document).toUTF8)
    (h : document.Fits Number.ReadsBack Json.Reading.levels) :
    Document.loadJson read path = .ok document :=
  Document.loadJson_eq_ok hread (parse_documentText h)

/-! ## The output of a filled plan -/

variable {files : Files} {config : Config} {now : Timestamp} {plan path : String}
  {inputs : MappingInputs} {time : Option String} {document : Json}

theorem readsBack_written {read : FileReader} {pending : Oscal.Pending} {instant : Timestamp}
    {written : Json} {report : Oscal.Report} (loaded : Document.loadJson read plan = .ok document)
    (numbers : ∀ n ∈ document.numbers, (∃ i, n = .int i) ∨ n.ReadsBack)
    (h : Oscal.write document pending instant = .ok (written, report)) :
    written.Fits Number.ReadsBack Json.Reading.levels := by
  have back : document.Fits Number.ReadsBack Json.Reading.levels := by
    refine (Document.fits_of_loadJson loaded).mono (fun n hn inRange => ?_) (Nat.le_refl _)
    rcases numbers n hn with ⟨i, rfl⟩ | back
    · exact inRange.readsBack
    · exact back
  -- a write goes down five levels, and the reader goes further
  have deep : 5 ≤ Json.Reading.levels := by decide
  obtain ⟨room, hroom⟩ := Nat.exists_eq_add_of_le' deep
  rw [hroom] at back ⊢
  exact Oscal.fits_of_write h back

/-- **The plan in the output file is the plan in memory.** A plan whose numbers are whole, or else
are read back, is filled, and whoever loads the output file of the run gets the filled plan: the same
members in the same order, the same texts and the same numbers. -/
theorem loadJson_of_apply
    (done : (answer files config now (.apply plan inputs (some path) time)).code = 0)
    (loaded : Document.loadJson files.read plan = .ok document)
    (numbers : ∀ n ∈ document.numbers, (∃ i, n = .int i) ∨ n.ReadsBack) :
    ∃ instant first second rules ruleSet written report,
      Prepares files.read now plan inputs time instant document first second rules ∧
      RuleSet.parse rules = .ok ruleSet ∧
      Oscal.write document (valuesOf config first second ruleSet) instant = .ok (written, report) ∧
      Document.loadJson (answer files config now (.apply plan inputs (some path) time)).files.read
        path = .ok written := by
  rcases answer_apply_cases files config now plan inputs time (some path) with
    ⟨code, -⟩ | ⟨code, -⟩ | ⟨-, written, report, applied, emits⟩
  · simp [done] at code
  · simp [done] at code
  · cases applied with
    | @filled instant document' first second _ rules ruleSet _ prepares accepted write_eq =>
      obtain rfl := Except.ok.inj (prepares.document_eq.symm.trans loaded)
      have fits := readsBack_written loaded numbers write_eq
      exact ⟨instant, first, second, rules, ruleSet, written, report, prepares, accepted, write_eq,
        loadJson_of_written emits.read_eq fits⟩

/-- A plan with a text that is written with escapes, and with the extreme whole numbers. -/
def numberedPlan : Json :=
  .obj [(planKey, .obj [(characteristicsKey, .obj []), ("title", .str "\"Kasse\" \\ \x07 𝄞"),
    ("sizes", .arr [.num (.int (-9223372036854775808)), .num (.int 18446744073709551615)])])]

/-- A source for the only rule. -/
def retentionSource : Json :=
  .obj [("period", .str "1 year")]

def retentionText : String :=
  "rules:\n  retention:\n    source: xdomea.period\n"

def retentionRules : RuleSet where
  version := none
  priorities := []
  rules := [("retention", { source := some ⟨"xdomea", [⟨"period", false⟩]⟩ })]

/-- A working directory with the inputs of an `apply`. It stands in the root under the name `work`. -/
def numberedFiles : Files where
  nodes := [("plan.json", .file (documentText numberedPlan).toUTF8),
    ("first.json", .file (documentText retentionSource).toUTF8),
    ("second.json", .file (documentText (.obj [])).toUTF8),
    ("rules.yaml", .file retentionText.toUTF8)]

def numberedInputs : MappingInputs :=
  ⟨"first.json", "second.json", "rules.yaml"⟩

/-- The plan with the value that the rule makes of the source. -/
def numberedWritten : Json :=
  .obj [(planKey, .obj [
    (characteristicsKey, .obj [("props", .arr [Oscal.newProperty "ropa:retention" "1 year"])]),
    ("title", .str "\"Kasse\" \\ \x07 𝄞"),
    ("sizes", .arr [.num (.int (-9223372036854775808)), .num (.int 18446744073709551615)]),
    ("metadata", .obj [("last-modified", .str "2026-10-18T09:30:00Z")])])]

theorem prepares_numberedPlan :
    Prepares numberedFiles.read sampleTime "/work/plan.json" numberedInputs none sampleTime
      numberedPlan retentionSource (.obj []) retentionText where
  time_eq := rfl
  document_eq := by
    have least : (Number.int (-9223372036854775808)).ReadsBack :=
      Number.InRange.readsBack ⟨by decide, by decide⟩
    have greatest : (Number.int 18446744073709551615).ReadsBack :=
      Number.InRange.readsBack ⟨by decide, by decide⟩
    refine loadJson_of_written rfl ?_
    simp [numberedPlan, Json.Reading.levels, Fits.obj_iff, Fits.arr_iff, Fits.str, Fits.num, least,
      greatest, Entries.keys, planKey, characteristicsKey]
  inputs := by
    refine ⟨Document.loadSource_eq_ok (loadJson_of_written rfl ?_),
      Document.loadSource_eq_ok (loadJson_of_written rfl Fits.obj_nil), FileReader.text_eq_ok rfl⟩
    simp [retentionSource, Json.Reading.levels, Fits.obj_iff, Fits.str, Entries.keys]

theorem loadJson_of_apply_numbered_plan :
    let answer := answer numberedFiles {} sampleTime
      (.apply "/work/plan.json" numberedInputs (some "/out/plan.json") none)
    answer.code = 0 ∧
    Document.loadJson numberedFiles.read "/work/plan.json" = .ok numberedPlan ∧
    (∀ n ∈ numberedPlan.numbers, (∃ i, n = .int i) ∨ n.ReadsBack) ∧
    Document.loadJson answer.files.read "/out/plan.json" = .ok numberedWritten := by
  have prepares := prepares_numberedPlan
  have accepted : RuleSet.parse retentionText = .ok retentionRules := by decide +kernel
  have write_eq : Oscal.write numberedPlan (valuesOf {} retentionSource (.obj []) retentionRules)
      sampleTime = .ok (numberedWritten, { added := ["ropa:retention"] }) := rfl
  have applied := Applied.filled prepares accepted write_eq
  have done : (answer numberedFiles {} sampleTime
      (.apply "/work/plan.json" numberedInputs (some "/out/plan.json") none)).code = 0 := by
    rw [answer_apply_of_applied applied]
    rfl
  have numbers : ∀ n ∈ numberedPlan.numbers, (∃ i, n = .int i) ∨ n.ReadsBack := by
    simp [numberedPlan, Json.numbers, Json.itemNumbers, Json.memberNumbers]
  obtain ⟨instant, first, second, rules, ruleSet, written, report, prepares', accepted', write_eq',
    reloaded⟩ := loadJson_of_apply done prepares.document_eq numbers
  obtain ⟨rfl, -, rfl, rfl, rfl⟩ := prepares.unique prepares'
  obtain rfl := Except.ok.inj (accepted.symm.trans accepted')
  obtain ⟨rfl, -⟩ := Prod.mk.inj (Except.ok.inj (write_eq.symm.trans write_eq'))
  exact ⟨done, prepares.document_eq, numbers, reloaded⟩

end Command

end PrivacyMapping
