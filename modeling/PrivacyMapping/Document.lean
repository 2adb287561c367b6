import PrivacyMapping.Files
import PrivacyMapping.Json.Reader
import PrivacyMapping.Yaml.Json

/-!
# Documents in files

JSON and YAML documents read from files. A source document that is there but is no JSON text counts
as an empty object.
-/

namespace PrivacyMapping.Document

/-- Why a document cannot be loaded from a path. -/
inductive Error where
  | notFound (path : String)
  | unreadable (path : String) (fault : FileFault)
  | notYaml (path : String) (e : Yaml.Error)
  | notJson (path : String) (e : Json.ReadError)
  deriving DecidableEq, Repr

namespace Error

def path : Error → String
  | .notFound path | .unreadable path _ | .notYaml path _ | .notJson path _ => path

/-- The wording of what lies behind an error, if there is something. -/
def cause? : Error → Option String
  | .notFound _ => none
  | .unreadable _ fault => some fault.message
  | .notYaml _ e => some e.message
  | .notJson _ e => some e.message

def message : Error → String
  | .notFound path => "required file not found: " ++ path
  | .unreadable path fault => "failed to read " ++ path ++ ": " ++ fault.message
  | .notYaml path e => "failed to parse YAML at " ++ path ++ ": " ++ e.message
  | .notJson path e => "failed to parse JSON at " ++ path ++ ": " ++ e.message

/-- The wordings of an error and of what lies behind it. -/
def chain (e : Error) : List String :=
  e.message :: e.cause?.toList

end Error

def loadText (read : FileReader) (path : String) : Except Error String :=
  match read.text path with
  | .ok text => .ok text
  | .error .notFound => .error (.notFound path)
  | .error fault => .error (.unreadable path fault)

def loadJson (read : FileReader) (path : String) : Except Error Json := do
  let text ← loadText read path
  (Json.parse text).mapError (.notJson path)

def loadYaml (read : FileReader) (path : String) : Except Error Json := do
  let text ← loadText read path
  (Yaml.parseJson text).mapError (.notYaml path)

def loadSource (read : FileReader) (path : String) : Except Error Json :=
  match loadJson read path with
  | .error (.notJson _ _) => .ok (.obj [])
  | result => result

end PrivacyMapping.Document
