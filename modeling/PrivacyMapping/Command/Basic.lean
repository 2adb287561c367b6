import PrivacyMapping.Command.Error
import PrivacyMapping.Oscal.Participants
import PrivacyMapping.Oscal.Summary
import PrivacyMapping.Oscal.Writing
import PrivacyMapping.RuleSet

/-!
# Commands

What the program can be asked to do. A command reads files and ends with an effect: an exit status,
a text to be printed, and at most one file to be written. Nothing is printed or written before all
that can fail in reading has succeeded, so a command that fails leaves every file as it was.

* `map` evaluates a rule set over two sources and gives the outcome.
* `apply` evaluates a rule set and gives the security plan with its properties filled in.
* `inspectSecurityPlan` and `inspectActionPlan` summarize a document.
-/

namespace PrivacyMapping

/-- The paths of the files that a mapping run needs. -/
structure MappingInputs where
  first : String
  second : String
  rules : String
  deriving DecidableEq, Repr

/-- What the program is asked to do. -/
inductive Command where
  | map (inputs : MappingInputs) (out : Option String)
  | apply (plan : String) (inputs : MappingInputs) (out time : Option String)
  | inspectSecurityPlan (path : String) (json : Bool)
  | inspectActionPlan (path : String) (json : Bool)
  deriving DecidableEq, Repr

namespace Command

/-- The paths of the files that a command reads. -/
def paths : Command → List String
  | .map inputs _ => [inputs.first, inputs.second, inputs.rules]
  | .apply plan inputs _ _ => [plan, inputs.first, inputs.second, inputs.rules]
  | .inspectSecurityPlan path _ | .inspectActionPlan path _ => [path]

/-- How a command ends that does not fail: it has done what it was asked to do, or its rule set was
refused. -/
inductive Status where
  | done
  | rejected
  deriving DecidableEq, Repr, Inhabited

/-- What a command does in the end. The file is written first, and nothing is printed if that
fails. -/
structure Effect where
  status : Status := .done
  file : Option (String × String) := none
  printed : String := ""
  deriving DecidableEq, Repr, Inhabited

/-- The text of a document in a file or on the terminal. -/
def documentText (document : Json) : String :=
  document.pretty ++ "\n"

/-- Give a document: in a file, with a report being printed, or on the terminal. -/
def deliver (out : Option String) (document : Json) (report : String) (status : Status) : Effect :=
  match out with
  | some path => ⟨status, some (path, documentText document), report⟩
  | none => ⟨status, none, documentText document⟩

/-! ## Inputs -/

/-- The two source documents under their configured names. -/
def loadSources (read : FileReader) (names : SourceNames) (inputs : MappingInputs) :
    Except Error Sources := do
  let first ← (Document.loadSource read inputs.first).mapError .document
  let second ← (Document.loadSource read inputs.second).mapError .document
  pure (Sources.namedPair names.first first names.second second)

def readRules (read : FileReader) (inputs : MappingInputs) : Except Error String :=
  (read.text inputs.rules).mapError (.unreadableRules inputs.rules)

/-! ## Mapping -/

/-- Evaluate a rule set. The outcome is given even if the rule set is refused. -/
def mapEffect (read : FileReader) (config : Config) (inputs : MappingInputs)
    (out : Option String) : Except Error Effect := do
  let sources ← loadSources read config.sources inputs
  let rules ← readRules read inputs
  let outcome := sources.map rules
  let status := match outcome with
    | .ok _ => Status.done
    | .error _ => Status.rejected
  pure (deliver out outcome.toJson "" status)

/-! ## Filling a security plan -/

/-- The values to be written: those of the mapping result, with the participants of the process that
the second source describes. -/
def pendingValues (config : Config) (sources : Sources) (result : MappingResult) : Oscal.Pending :=
  let separator := config.properties.separator
  let pending := Oscal.Pending.ofMapping result config.bindings separator
  match sources.get? config.sources.second with
  | some process =>
    (Oscal.Participants.ofProcess process).merge pending config.bindings separator
  | none => pending

def reportText (path : String) (report : Oscal.Report) : String :=
  Oscal.joinLines <| [
    "  ssp:     " ++ path,
    "  updated: " ++ ", ".intercalate report.updated,
    "  added:   " ++ ", ".intercalate report.added] ++
    if report.skipped.isEmpty then []
    else ["  skipped: " ++ ", ".intercalate report.skipped]

/-- Fill the properties of a security plan, at the given time or else now. Nothing is written if the
rule set is refused. -/
def applyEffect (read : FileReader) (config : Config) (now : Timestamp) (plan : String)
    (inputs : MappingInputs) (out time : Option String) : Except Error Effect := do
  let time ← match time with
    | some text => (Timestamp.parse text).mapError .timestamp
    | none => pure now
  let document ← (Document.loadJson read plan).mapError .document
  let sources ← loadSources read config.sources inputs
  let rules ← readRules read inputs
  match sources.map rules with
  | .error _ => pure { status := .rejected }
  | .ok result =>
    let pending := pendingValues config sources result
    let (document, report) ← (Oscal.write document pending time).mapError (.notFilled plan)
    pure (deliver out document (reportText (out.getD "") report) .done)

/-! ## Inspection -/

def inspectSecurityPlanEffect (read : FileReader) (path : String) (json : Bool) :
    Except Error Effect := do
  let document ← (Document.loadJson read path).mapError .document
  let plan ← (Oscal.SecurityPlan.ofJson document).mapError (.notSecurityPlan path)
  let summary := plan.summary
  pure { printed := if json then documentText summary.toJson else summary.text }

def inspectActionPlanEffect (read : FileReader) (path : String) (json : Bool) :
    Except Error Effect := do
  let document ← (Document.loadJson read path).mapError .document
  let plan ← (Oscal.ActionPlan.ofJson document).mapError (.notActionPlan path)
  let summary := plan.summary
  pure { printed := if json then documentText summary.toJson else summary.text }

/-! ## Running -/

/-- What a command does in the end. -/
def effect (read : FileReader) (config : Config) (now : Timestamp) : Command → Except Error Effect
  | .map inputs out => mapEffect read config inputs out
  | .apply plan inputs out time => applyEffect read config now plan inputs out time
  | .inspectSecurityPlan path json => inspectSecurityPlanEffect read path json
  | .inspectActionPlan path json => inspectActionPlanEffect read path json

/-- Write a file into a directory that is there. -/
def storeText (files : Files) (path text : String) : Except Error Unit × Files :=
  match files.write path text.toUTF8 with
  | .error fault => (.error (.unwritable path fault), files)
  | .ok files => (.ok (), files)

/-- Write a file, after making the directories on the way to it, and answer with the files that are
left. -/
def store (files : Files) (path text : String) : Except Error Unit × Files :=
  match FilePath.parent? path with
  | none => storeText files path text
  | some parent =>
    match files.createDirectories parent with
    | (.error fault, files) => (.error (.noDirectory parent fault), files)
    | (.ok (), files) => storeText files path text

/-- Perform an effect, which may still fail. -/
def Effect.perform (effect : Effect) (files : Files) : Except Error Effect × Files :=
  match effect.file with
  | none => (.ok effect, files)
  | some (path, text) =>
    match store files path text with
    | (.error e, files) => (.error e, files)
    | (.ok (), files) => (.ok effect, files)

/-- Perform the effect that has been decided on, if there is one. -/
def conclude (files : Files) : Except Error Effect → Except Error Effect × Files
  | .error e => (.error e, files)
  | .ok effect => effect.perform files

def run (files : Files) (config : Config) (now : Timestamp) (command : Command) :
    Except Error Effect × Files :=
  conclude files (command.effect files.read config now)

end Command

end PrivacyMapping
