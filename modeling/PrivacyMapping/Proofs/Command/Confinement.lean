import PrivacyMapping.Proofs.Command.Effect
import PrivacyMapping.Proofs.Files

/-!
# Runs and the files that they leave

A run that does not succeed leaves every file as it was, and a run that succeeds changes at most the
file that its output path names, which may well be one of its inputs. Whether a run ends with a refused
rule set is known from what it reads, and the text that it prints without an output path is the text
that it writes with one. All of this is stated for the answer of a run, which is what the program
answers (`Program.run_eq`), in `ApplyConfined`, `MapConfined` and `confined`.
-/

namespace PrivacyMapping.Command

open Files (FileWritten)
open Json (bind_eq_ok_iff)
open Sources (map_eq_error_iff)

variable {files : Files} {config : Config} {now : Timestamp} {out : Option String} {path text : String}

/-! ## Answers -/

/-- The answer of the program to what a run ends with. -/
def answerOf : Except Error Effect × Files → Program.Answer
  | (.error _, files) => ⟨failureCode, "", files⟩
  | (.ok effect, files) => ⟨effect.status.code, effect.printed, files⟩

/-- The answer of the program to a command, run with a configuration. -/
def answer (files : Files) (config : Config) (now : Timestamp) (command : Command) : Program.Answer :=
  answerOf (run files config now command)

theorem Program.run_eq (files : Files) (now : Timestamp) (arguments : List String) :
    Program.run files now arguments =
      match Line.parse arguments with
      | .error stop => ⟨Program.stopCode stop, Program.stopText stop, files⟩
      | .ok request => answerOf (Program.runRequest files now request) := by
  rw [Program.run]
  cases Line.parse arguments with
  | error stop => rfl
  | ok request =>
    dsimp only
    generalize Program.runRequest files now request = ending
    obtain ⟨outcome, left⟩ := ending
    cases outcome <;> rfl

/-! ## Texts that are stored -/

/-- The text can be written to the file that the output path names, if there is one. -/
def CanStore (files : Files) (out : Option String) (text : String) : Prop :=
  ∀ path, out = some path → (store files path text).1 = .ok ()

theorem canStore_none (files : Files) (text : String) : CanStore files none text := nofun

theorem canStore_some_iff : CanStore files (some path) text ↔ (store files path text).1 = .ok () := by
  simp [CanStore]

theorem contents_storeText_of_error {e : Error} (h : (storeText files path text).1 = .error e) :
    (storeText files path text).2.contents = files.contents := by
  unfold storeText at h ⊢
  cases hwrite : files.write path text.toUTF8 with
  | error fault => rfl
  | ok left =>
    rw [hwrite] at h
    cases h

theorem fileWritten_storeText (h : (storeText files path text).1 = .ok ()) :
    FileWritten path text.toUTF8 files (storeText files path text).2 := by
  unfold storeText at h ⊢
  cases hwrite : files.write path text.toUTF8 with
  | error fault =>
    rw [hwrite] at h
    cases h
  | ok left => exact Files.fileWritten_of_write hwrite

theorem store_eq (files : Files) (path text : String) :
    (∃ e left, store files path text = (.error e, left) ∧ left.contents = files.contents) ∨
      ∃ left, left.contents = files.contents ∧ store files path text = storeText left path text := by
  unfold store
  cases FilePath.parent? path with
  | none => exact .inr ⟨files, rfl, rfl⟩
  | some parent =>
    have contents := Files.contents_createDirectories files parent
    dsimp only
    generalize files.createDirectories parent = made at contents
    obtain ⟨outcome, left⟩ := made
    cases outcome with
    | error fault => exact .inl ⟨_, left, rfl, contents⟩
    | ok _ => exact .inr ⟨left, contents, rfl⟩

theorem contents_store_of_error {e : Error} (h : (store files path text).1 = .error e) :
    (store files path text).2.contents = files.contents := by
  rcases store_eq files path text with ⟨e, left, hstore, contents⟩ | ⟨left, contents, hstore⟩
  · rw [hstore]
    exact contents
  · rw [hstore] at h ⊢
    rw [contents_storeText_of_error h, contents]

theorem fileWritten_store (h : (store files path text).1 = .ok ()) :
    FileWritten path text.toUTF8 files (store files path text).2 := by
  rcases store_eq files path text with ⟨e, left, hstore, -⟩ | ⟨left, contents, hstore⟩
  · simp [hstore] at h
  · rw [hstore] at h ⊢
    obtain ⟨read, place, target, changed⟩ := fileWritten_storeText h
    exact ⟨read, place, target, contents ▸ changed⟩

/-! ## Documents that are delivered -/

/-- The text has been printed, and no file has changed; or, with an output path, it has been written to
the file that the path names, and no other file has changed. -/
def Emits (files : Files) (text : String) : Option String → Program.Answer → Prop
  | none, answer => answer.printed = text ∧ answer.files = files
  | some path, answer => FileWritten path text.toUTF8 files answer.files

/-- At most the file that the output path names has changed. -/
def ChangesOnly (out : Option String) (before after : Files) : Prop :=
  after.contents = before.contents ∨
    ∃ path content, out = some path ∧ FileWritten path content before after

theorem Emits.changesOnly {answer : Program.Answer} (h : Emits files text out answer) :
    ChangesOnly out files answer.files := by
  cases out with
  | none => exact .inl (by rw [h.2])
  | some path => exact .inr ⟨path, _, rfl, h⟩

/-- Nothing has been printed, and no file has changed. -/
def Quiet (files : Files) (answer : Program.Answer) : Prop :=
  answer.files.contents = files.contents ∧ answer.printed = ""

theorem answerOf_deliver (files : Files) (out : Option String) (document : Json) (report : String)
    (status : Status) :
    let answer := answerOf (conclude files (.ok (deliver out document report status)))
    (CanStore files out (documentText document) → answer.code = status.code ∧
      Emits files (documentText document) out answer) ∧
    (¬ CanStore files out (documentText document) → answer.code = failureCode ∧ Quiet files answer) := by
  cases out with
  | none => exact ⟨fun _ => ⟨rfl, rfl, rfl⟩, fun h => absurd (canStore_none _ _) h⟩
  | some path =>
    rw [canStore_some_iff]
    have written := @fileWritten_store files path (documentText document)
    have unchanged := @contents_store_of_error files path (documentText document)
    cases hstore : store files path (documentText document) with
    | mk outcome left =>
      rw [hstore] at written unchanged
      cases outcome with
      | error e =>
        have failed : conclude files (.ok (deliver (some path) document report status)) =
            (.error e, left) := by
          simp only [conclude, Effect.perform, deliver, hstore]
        rw [failed]
        exact ⟨nofun, fun _ => ⟨rfl, unchanged rfl, rfl⟩⟩
      | ok _ =>
        have performed : conclude files (.ok (deliver (some path) document report status)) =
            (.ok (deliver (some path) document report status), left) := by
          simp only [conclude, Effect.perform, deliver, hstore]
        rw [performed]
        exact ⟨fun _ => ⟨rfl, written rfl⟩, fun h => absurd rfl h⟩

/-- What is printed without an output path is the text that is written with one. -/
def PrintsWhatItWrites (files : Files) (answerTo : Option String → Program.Answer) : Prop :=
  ∀ path, CanStore files (some path) (answerTo none).printed →
    (answerTo (some path)).code = (answerTo none).code ∧
      Emits files (answerTo none).printed (some path) (answerTo (some path))

theorem printsWhatItWrites_deliver {answerTo : Option String → Program.Answer} {document : Json}
    {report : Option String → String} {status : Status}
    (h : ∀ out, answerTo out =
      answerOf (conclude files (.ok (deliver out document (report out) status)))) :
    PrintsWhatItWrites files answerTo := by
  intro path storable
  have printed : (answerTo none).printed = documentText document := by rw [h none]; rfl
  have code : (answerTo none).code = status.code := by rw [h none]; rfl
  rw [printed] at storable ⊢
  rw [code, h (some path)]
  exact (answerOf_deliver files (some path) document _ status).1 storable

/-! ## Filling a security plan -/

section apply

variable {plan : String} {inputs : MappingInputs} {time : Option String}
  {result : Option (Json × Oscal.Report)}

theorem answer_apply_of_applied (h : Applied files.read config now plan inputs time result)
    (out : Option String) :
    answer files config now (.apply plan inputs out time) =
      answerOf (conclude files (.ok (applyEnd out result))) := by
  have effect : applyEffect files.read config now plan inputs out time = .ok (applyEnd out result) :=
    applyEffect_eq_ok_iff.2 ⟨result, h, rfl⟩
  exact congrArg (fun effect => answerOf (conclude files effect)) effect

theorem answer_apply_of_not_applied
    (h : ∀ result, ¬ Applied files.read config now plan inputs time result) (out : Option String) :
    answer files config now (.apply plan inputs out time) = ⟨failureCode, "", files⟩ := by
  cases heffect : applyEffect files.read config now plan inputs out time with
  | error e => exact congrArg (fun effect => answerOf (conclude files effect)) heffect
  | ok effect =>
    obtain ⟨result, applied, -⟩ := applyEffect_eq_ok_iff.1 heffect
    exact absurd applied (h result)

/-- An `apply` fails or is rejected without a trace, or its plan is delivered. -/
theorem answer_apply_cases (files : Files) (config : Config) (now : Timestamp) (plan : String)
    (inputs : MappingInputs) (time out : Option String) :
    let answer := answer files config now (.apply plan inputs out time)
    (answer.code = 1 ∧ Quiet files answer) ∨
      (answer.code = 2 ∧ Quiet files answer ∧ Applied files.read config now plan inputs time none) ∨
      (answer.code = 0 ∧ ∃ written report,
        Applied files.read config now plan inputs time (some (written, report)) ∧
          Emits files (documentText written) out answer) := by
  by_cases h : ∃ result, Applied files.read config now plan inputs time result
  · obtain ⟨result, applied⟩ := h
    rw [answer_apply_of_applied applied out]
    cases result with
    | none => exact .inr (.inl ⟨rfl, ⟨rfl, rfl⟩, applied⟩)
    | some filled =>
      obtain ⟨written, report⟩ := filled
      obtain ⟨stored, unstored⟩ :=
        answerOf_deliver files out written (reportText (out.getD "") report) .done
      by_cases storable : CanStore files out (documentText written)
      · obtain ⟨code, emits⟩ := stored storable
        exact .inr (.inr ⟨code, written, report, applied, emits⟩)
      · exact .inl (unstored storable)
  · rw [answer_apply_of_not_applied (not_exists.1 h) out]
    exact .inl ⟨rfl, rfl, rfl⟩

/-- What an `apply` leaves: an unsuccessful one leaves all files and prints nothing, a successful one
changes at most the output file, and prints without an output path what it writes with one. It ends
with a refused rule set exactly if everything that it reads is there and the rule set is refused. -/
structure ApplyConfined (files : Files) (config : Config) (now : Timestamp) (plan : String)
    (inputs : MappingInputs) (time : Option String) : Prop where
  unsuccessful : ∀ out, (answer files config now (.apply plan inputs out time)).code ≠ 0 →
    Quiet files (answer files config now (.apply plan inputs out time))
  successful : ∀ out, (answer files config now (.apply plan inputs out time)).code = 0 →
    ChangesOnly out files (answer files config now (.apply plan inputs out time)).files
  rejected_iff : ∀ out, (answer files config now (.apply plan inputs out time)).code = 2 ↔
    ∃ instant document first second rules e,
      Prepares files.read now plan inputs time instant document first second rules ∧
        RuleSet.parse rules = .error e
  same_text : (answer files config now (.apply plan inputs none time)).code = 0 →
    PrintsWhatItWrites files fun out => answer files config now (.apply plan inputs out time)

theorem applyConfined (files : Files) (config : Config) (now : Timestamp) (plan : String)
    (inputs : MappingInputs) (time : Option String) :
    ApplyConfined files config now plan inputs time := by
  have cases := answer_apply_cases files config now plan inputs time
  constructor
  case unsuccessful =>
    intro out hcode
    rcases cases out with ⟨-, quiet⟩ | ⟨-, quiet, -⟩ | ⟨code, -⟩
    · exact quiet
    · exact quiet
    · exact absurd code hcode
  case successful =>
    intro out hcode
    rcases cases out with ⟨code, -⟩ | ⟨code, -⟩ | ⟨-, written, report, -, emits⟩
    · simp [hcode] at code
    · simp [hcode] at code
    · exact emits.changesOnly
  case rejected_iff =>
    intro out
    constructor
    · intro hcode
      rcases cases out with ⟨code, -⟩ | ⟨-, -, applied⟩ | ⟨code, -⟩
      · simp [hcode] at code
      · cases applied with
        | rejected prepares refused => exact ⟨_, _, _, _, _, _, prepares, refused⟩
      · simp [hcode] at code
    · rintro ⟨instant, document, first, second, rules, e, prepares, refused⟩
      rw [answer_apply_of_applied (.rejected prepares refused) out]
      rfl
  case same_text =>
    intro hcode
    rcases cases none with ⟨code, -⟩ | ⟨code, -⟩ | ⟨-, written, report, applied, -⟩
    · simp [hcode] at code
    · simp [hcode] at code
    · exact printsWhatItWrites_deliver fun out => answer_apply_of_applied applied out

end apply

/-! ## Mapping -/

section map

variable {inputs : MappingInputs} {first second : Json} {rules : String}

theorem answer_map_of_loads (h : Loads files.read inputs first second rules) (out : Option String) :
    answer files config now (.map inputs out) =
      answerOf (conclude files (.ok (deliver out ((sourcesOf config first second).map rules).toJson ""
        (statusOf ((sourcesOf config first second).map rules))))) := by
  have effect : mapEffect files.read config inputs out = .ok _ :=
    mapEffect_eq_ok_iff.2 ⟨first, second, rules, h, rfl⟩
  exact congrArg (fun effect => answerOf (conclude files effect)) effect

theorem answer_map_of_not_loads
    (h : ∀ first second rules, ¬ Loads files.read inputs first second rules) (out : Option String) :
    answer files config now (.map inputs out) = ⟨failureCode, "", files⟩ := by
  cases heffect : mapEffect files.read config inputs out with
  | error e => exact congrArg (fun effect => answerOf (conclude files effect)) heffect
  | ok effect =>
    obtain ⟨first, second, rules, loads, -⟩ := mapEffect_eq_ok_iff.1 heffect
    exact absurd loads (h first second rules)

/-- What a `map` leaves: a failed one leaves all files and prints nothing, any other changes at most the
output file, and prints without an output path what it writes with one. It ends with a refused rule set
exactly if everything that it reads is there, the rule set is refused and the error can be given, which
it then is. -/
structure MapConfined (files : Files) (config : Config) (now : Timestamp)
    (inputs : MappingInputs) : Prop where
  failed : ∀ out, (answer files config now (.map inputs out)).code = 1 →
    Quiet files (answer files config now (.map inputs out))
  changes : ∀ out, ChangesOnly out files (answer files config now (.map inputs out)).files
  rejected_iff : ∀ out, (answer files config now (.map inputs out)).code = 2 ↔
    ∃ first second rules e, Loads files.read inputs first second rules ∧
      RuleSet.parse rules = .error e ∧
      CanStore files out (documentText (.obj [("error", .str e.message)]))
  rejection_emitted : ∀ out first second rules e, Loads files.read inputs first second rules →
    RuleSet.parse rules = .error e → (answer files config now (.map inputs out)).code = 2 →
      Emits files (documentText (.obj [("error", .str e.message)])) out
        (answer files config now (.map inputs out))
  same_text : (answer files config now (.map inputs none)).code ≠ 1 →
    PrintsWhatItWrites files fun out => answer files config now (.map inputs out)

theorem answer_map_cases (files : Files) (config : Config) (now : Timestamp) (inputs : MappingInputs)
    (out : Option String) :
    let answer := answer files config now (.map inputs out)
    (answer.code = 1 ∧ Quiet files answer) ∨
      ∃ first second rules, Loads files.read inputs first second rules ∧
        CanStore files out (documentText ((sourcesOf config first second).map rules).toJson) ∧
        answer.code = (statusOf ((sourcesOf config first second).map rules)).code ∧
        Emits files (documentText ((sourcesOf config first second).map rules).toJson) out answer := by
  by_cases h : ∃ first second rules, Loads files.read inputs first second rules
  · obtain ⟨first, second, rules, loads⟩ := h
    rw [answer_map_of_loads loads out]
    obtain ⟨stored, unstored⟩ :=
      answerOf_deliver files out ((sourcesOf config first second).map rules).toJson ""
        (statusOf ((sourcesOf config first second).map rules))
    by_cases storable :
        CanStore files out (documentText ((sourcesOf config first second).map rules).toJson)
    · exact .inr ⟨first, second, rules, loads, storable, stored storable⟩
    · exact .inl (unstored storable)
  · have none : ∀ first second rules, ¬ Loads files.read inputs first second rules :=
      fun first second rules loads => h ⟨first, second, rules, loads⟩
    rw [answer_map_of_not_loads none out]
    exact .inl ⟨rfl, rfl, rfl⟩

theorem code_statusOf_ne_one (outcome : Outcome) : (statusOf outcome).code ≠ 1 := by
  cases outcome <;> simp [statusOf, Status.code]

theorem code_statusOf_eq_two_iff {outcome : Outcome} :
    (statusOf outcome).code = 2 ↔ ∃ e, outcome = .error e := by
  cases outcome <;> simp [statusOf, Status.code]

theorem mapConfined (files : Files) (config : Config) (now : Timestamp) (inputs : MappingInputs) :
    MapConfined files config now inputs := by
  have cases := answer_map_cases files config now inputs
  constructor
  case failed =>
    intro out hcode
    rcases cases out with ⟨-, quiet⟩ | ⟨first, second, rules, -, -, code, -⟩
    · exact quiet
    · exact absurd (code ▸ hcode) (code_statusOf_ne_one _)
  case changes =>
    intro out
    rcases cases out with ⟨-, quiet, -⟩ | ⟨first, second, rules, -, -, -, emits⟩
    · exact .inl quiet
    · exact emits.changesOnly
  case rejected_iff =>
    intro out
    constructor
    · intro hcode
      rcases cases out with ⟨code, -⟩ | ⟨first, second, rules, loads, storable, code, -⟩
      · simp [hcode] at code
      · obtain ⟨e, outcome⟩ := code_statusOf_eq_two_iff.1 (code ▸ hcode)
        rw [outcome] at storable
        exact ⟨first, second, rules, e, loads, map_eq_error_iff.1 outcome, storable⟩
    · rintro ⟨first, second, rules, e, loads, refused, storable⟩
      rw [answer_map_of_loads loads out, map_eq_error_iff.2 refused]
      exact ((answerOf_deliver files out _ "" .rejected).1 storable).1
  case rejection_emitted =>
    intro out first second rules e loads refused hcode
    rw [answer_map_of_loads loads out, map_eq_error_iff.2 refused] at hcode ⊢
    obtain ⟨stored, unstored⟩ :=
      answerOf_deliver files out (.obj [("error", .str e.message)]) "" .rejected
    by_cases storable : CanStore files out (documentText (.obj [("error", .str e.message)]))
    · exact (stored storable).2
    · have code := (unstored storable).1
      exact absurd (hcode.symm.trans code) (by decide)
  case same_text =>
    intro hcode
    rcases cases none with ⟨code, -⟩ | ⟨first, second, rules, loads, -⟩
    · exact absurd code hcode
    · exact printsWhatItWrites_deliver fun out => answer_map_of_loads loads out

end map

/-! ## Inspection -/

theorem files_answerOf_conclude {effect : Except Error Effect}
    (h : ∀ decided, effect = .ok decided → decided.file = none) :
    (answerOf (conclude files effect)).files = files := by
  cases effect with
  | error e => rfl
  | ok decided =>
    rw [conclude, Effect.perform, h decided rfl]
    rfl

theorem files_answer_inspect (files : Files) (config : Config) (now : Timestamp) (path : String)
    (json : Bool) :
    (answer files config now (.inspectSecurityPlan path json)).files = files ∧
      (answer files config now (.inspectActionPlan path json)).files = files := by
  constructor
  · refine files_answerOf_conclude fun decided h => ?_
    obtain ⟨_, -, h⟩ := bind_eq_ok_iff.1 h
    obtain ⟨_, -, h⟩ := bind_eq_ok_iff.1 h
    cases h
    rfl
  · refine files_answerOf_conclude fun decided h => ?_
    obtain ⟨_, -, h⟩ := bind_eq_ok_iff.1 h
    obtain ⟨_, -, h⟩ := bind_eq_ok_iff.1 h
    cases h
    rfl

/-! ## All commands -/

/-- **Runs keep to their output file.** Whatever the files, the configuration and the arguments are, an
unsuccessful run leaves every file as it was, and a successful one changes at most its output file;
inspections change nothing. -/
theorem runs_confined (files : Files) (config : Config) (now : Timestamp) :
    (∀ plan inputs time, ApplyConfined files config now plan inputs time) ∧
    (∀ inputs, MapConfined files config now inputs) ∧
    ∀ path json, (answer files config now (.inspectSecurityPlan path json)).files = files ∧
      (answer files config now (.inspectActionPlan path json)).files = files :=
  ⟨applyConfined files config now, mapConfined files config now, files_answer_inspect files config now⟩

end PrivacyMapping.Command
