import PrivacyMapping.Mapping
import PrivacyMapping.Yaml.Json

/-!
# Rule sets

A rule set is a YAML document whose `rules` key holds the rules by target field, in the order in
which they are evaluated. Only two things refuse a rule set: a text that is no YAML document, and
rules that are missing or empty. Everything else is read leniently: a sequence gives its elements
the targets `0`, `1` and so on, any other value gives no rules, and a rule whose body makes no sense
is a rule without a source.
-/

namespace PrivacyMapping

/-- The rules of a document with their targets, and what else the document says. -/
structure RuleSet where
  version : Option String
  priorities : List String
  rules : List (String × Rule)
  deriving Inhabited

namespace RuleSet

/-- Why a text is no rule set. -/
inductive Error where
  | yaml (e : Yaml.Error)
  | missingRules
  deriving DecidableEq, Repr

def Error.message : Error → String
  | .yaml e => "YAML parse error: " ++ e.message
  | .missingRules => "No rules in YAML"

/-- Whether a value counts as no rules at all: null, false, zero, or the empty string. -/
def isEmptyValue : Json → Bool
  | .null => true
  | .bool b => !b
  | .num n => n.isZero
  | .str s => s = ""
  | _ => false

/-- The bodies of the rules in a value, with their targets. -/
def bodies : Json → List (String × Json)
  | .obj members => members
  | .arr items => items.mapIdx fun i body => (toString i, body)
  | _ => []

def ofJson (document : Json) : Except Error RuleSet :=
  match document.get? "rules" with
  | none => .error .missingRules
  | some value =>
    if isEmptyValue value then .error .missingRules
    else .ok {
      version :=
        match document.get? "version" with
        | none | some .null => none
        | some version => some version.stringForm
      priorities :=
        match document.get? "priorities" with
        | some (.arr names) => names.map (·.stringForm)
        | _ => []
      rules := (bodies value).map fun body => (body.1, Rule.ofJson body.2) }

def parse (text : String) : Except Error RuleSet :=
  match Yaml.parseJson text with
  | .error e => .error (.yaml e)
  | .ok document => ofJson document

def get? (ruleSet : RuleSet) (target : String) : Option Rule :=
  Entries.get? ruleSet.rules target

def size (ruleSet : RuleSet) : Nat :=
  ruleSet.rules.length

def isEmpty (ruleSet : RuleSet) : Bool :=
  ruleSet.rules.isEmpty

/-- The fields that the rules fill from the sources, in the order of the rules. -/
def evaluate (ruleSet : RuleSet) (sources : Sources) : MappingResult :=
  ⟨ruleSet.rules.filterMap fun rule => rule.2.evaluate rule.1 sources⟩

end RuleSet

/-! ## Mapping runs -/

/-- What a mapping run ends with: a result, or the reason why its rule set is refused. -/
abbrev Outcome := Except RuleSet.Error MappingResult

def Sources.map (sources : Sources) (rules : String) : Outcome :=
  (RuleSet.parse rules).map (·.evaluate sources)

namespace Outcome

/-- The outcome as an object with the result or the error. -/
def toJson : Outcome → Json
  | .ok result => .obj [("result", result.toJson)]
  | .error e => .obj [("error", .str e.message)]

/-- The outcome written field by field, without an object in between. -/
def write (outcome : Outcome) (layout : Json.Layout) : List Char :=
  let entry :=
    match outcome with
    | .ok result => Json.stringText "result" ++ layout.colon ++ result.write layout 1
    | .error e => Json.stringText "error" ++ layout.colon ++ Json.stringText e.message
  layout.enclose 0 '{' '}' [entry]

def compact (outcome : Outcome) : String :=
  String.ofList (outcome.write .compact)

end Outcome

end PrivacyMapping
