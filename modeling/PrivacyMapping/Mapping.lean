import PrivacyMapping.Rule

/-!
# Evaluation of rules

Every rule with a source is resolved, its values are normalized, and repeated values are dropped.
Values that remain fill the target field; without any, the fallback fills it; without a fallback the
field is left out. The fields of a result come in the order of the rules.
-/

namespace PrivacyMapping

/-- Whether the values of a field were found in the sources or stand in for them. -/
inductive Origin where
  | resolved
  | fallback
  deriving DecidableEq, Repr, Inhabited

structure Field where
  target : String
  values : List Json
  origin : Origin
  deriving Inhabited

/-- The values without those that equal an earlier one. -/
def distinct (values : List Json) : List Json :=
  values.foldl (fun kept value => if kept.any (·.same value) then kept else kept ++ [value]) []

/-- The field that a rule fills for a target. -/
def Rule.evaluate (rule : Rule) (target : String) (sources : Sources) : Option Field :=
  rule.source.bind fun selector =>
    match distinct (Normalization.normalize (selector.resolve sources) rule.steps) with
    | [] => rule.fallback.map fun values => ⟨target, values, .fallback⟩
    | values => some ⟨target, values, .resolved⟩

structure MappingResult where
  fields : List Field
  deriving Inhabited

namespace MappingResult

def field? (result : MappingResult) (target : String) : Option Field :=
  result.fields.find? (·.target == target)

def get? (result : MappingResult) (target : String) : Option (List Json) :=
  (result.field? target).map (·.values)

def size (result : MappingResult) : Nat :=
  result.fields.length

def isEmpty (result : MappingResult) : Bool :=
  result.fields.isEmpty

/-- The result as an object of target fields with their values. -/
def toJson (result : MappingResult) : Json :=
  .obj (Entries.insertAll [] (result.fields.map fun field => (field.target, .arr field.values)))

/-- The result written field by field, without an object in between. -/
def write (result : MappingResult) (layout : Json.Layout) (depth : Nat) : List Char :=
  layout.enclose depth '{' '}' <| result.fields.map fun field =>
    Json.stringText field.target ++ layout.colon ++ (Json.arr field.values).write layout (depth + 1)

end MappingResult

end PrivacyMapping
