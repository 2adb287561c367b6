import PrivacyMapping.Yaml.Document
import PrivacyMapping.Json.Printer

/-!
# YAML values as JSON values

Tags are dropped. A floating-point number that is whole becomes a whole number, the infinities and
the not-a-number become their words, and every key becomes a text: a string its own, and any other
key the JSON text of its value. Pairs whose keys become the same text fall together, the last one
giving the value.
-/

namespace PrivacyMapping.Yaml

/-- The least whole number that a floating-point number becomes. -/
def leastWhole : Int := -Int.pow 2 63

/-- The greatest whole number that a floating-point number becomes. The first number above it
becomes it too. -/
def greatestWhole : Int := Int.pow 2 63 - 1

/-- The whole number that a floating-point number becomes, if it is whole and in range. -/
def wholeOf? (x : Binary64) : Option Int :=
  match x.toInt? with
  | some n => if leastWhole ≤ n ∧ n ≤ greatestWhole + 1 then some (min n greatestWhole) else none
  | none => none

def Number.toJson : Number → PrivacyMapping.Json
  | .int n => .num (.int n)
  | .float x =>
    match wholeOf? x with
    | some n => .num (.int n)
    | none => .num (.float x)
  | .infinity false => .str ".inf"
  | .infinity true => .str "-.inf"
  | .nan => .str ".nan"

/-- The text of a key, given its JSON value. -/
def keyText : PrivacyMapping.Json → String
  | .str s => s
  | value => value.compact

namespace Value

/-- The name that a pair is put under, given the JSON value of its key. A string is its own name,
and null and the truth values are named by their words before the JSON value is asked. -/
def nameOf (key : Value) (converted : PrivacyMapping.Json) : String :=
  match key with
  | .str s => s
  | .null => "null"
  | .bool b => if b then "true" else "false"
  | _ => keyText converted

mutual

def toJson : Value → PrivacyMapping.Json
  | .null => .null
  | .bool b => .bool b
  | .num n => n.toJson
  | .str s => .str s
  | .seq items => .arr (toJsonItems items)
  | .map pairs => .obj (toJsonPairs [] pairs)
  | .tagged _ value => toJson value

def toJsonItems : List Value → List PrivacyMapping.Json
  | [] => []
  | item :: rest => toJson item :: toJsonItems rest

/-- The members of an object after the pairs of a mapping have been put into it in turn. -/
def toJsonPairs (members : Entries PrivacyMapping.Json) :
    List (Value × Value) → Entries PrivacyMapping.Json
  | [] => members
  | (key, value) :: rest =>
    toJsonPairs (members.insert (nameOf key (toJson key)) (toJson value)) rest

end

end Value

def parseJson (text : String) : Except Error PrivacyMapping.Json :=
  (parse text).map Value.toJson

end PrivacyMapping.Yaml
