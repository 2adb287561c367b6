import PrivacyMapping.Config
import PrivacyMapping.Oscal.Error
import PrivacyMapping.Timestamp

/-!
# Errors of commands

Why a command ends without a result. An error is shown with everything that lies behind it, from the
outside to the inside.
-/

namespace PrivacyMapping.Command

/-- Why a command fails. -/
inductive Error where
  | config (e : Config.Error)
  | timestamp (e : Timestamp.Error)
  | document (e : Document.Error)
  | unreadableRules (path : String) (fault : FileFault)
  | notFilled (path : String) (e : Oscal.Error)
  | notSecurityPlan (path : String) (e : Oscal.Error)
  | notActionPlan (path : String) (e : Oscal.Error)
  | noDirectory (path : String) (fault : FileFault)
  | unwritable (path : String) (fault : FileFault)

namespace Error

/-- The wordings of an error and of what lies behind it. -/
def chain : Error → List String
  | .config e => e.chain
  | .timestamp e => [e.message]
  | .document e => e.chain
  | .unreadableRules path fault => ["failed to read rule set: " ++ path, fault.message]
  | .notFilled path e => ("cannot fill props in " ++ path) :: e.chain
  | .notSecurityPlan path e => ("not an SSP: " ++ path) :: e.chain
  | .notActionPlan path e => ("not a POA&M: " ++ path) :: e.chain
  | .noDirectory path fault => ["failed to create directory: " ++ path, fault.message]
  | .unwritable path fault => ["failed to write " ++ path, fault.message]

/-- The wording of an error with all that lies behind it. -/
def message (e : Error) : String :=
  ": ".intercalate e.chain

end Error

end PrivacyMapping.Command
