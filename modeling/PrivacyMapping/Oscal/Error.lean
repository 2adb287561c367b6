import PrivacyMapping.Json.Format

/-!
# Errors about security documents
-/

namespace PrivacyMapping.Oscal

/-- Why a document does not have the shape that an operation needs. -/
inductive Error where
  | missingPlan
  | notObject (path : String)
  | notArray (path : String)
  | malformed (e : Json.FormatError)

def Error.message : Error → String
  | .missingPlan => "document has no system-security-plan object"
  | .notObject path => path ++ " must be an object"
  | .notArray path => path ++ " must be an array"
  | .malformed e => "malformed OSCAL document: " ++ e.message

/-- The wordings of an error and of what lies behind it. -/
def Error.chain : Error → List String
  | .malformed e => [Error.message (.malformed e), e.message]
  | e => [e.message]

end PrivacyMapping.Oscal
