import PrivacyMapping.Json.Format
import PrivacyMapping.Timestamp

/-!
# Timestamps as JSON values

An instant is held as a string with its written form.
-/

namespace PrivacyMapping.Timestamp

/-- Why a JSON value is no instant. -/
inductive FormatError where
  | notString (e : Json.FormatError)
  | notInstant (e : Error)

def FormatError.message : FormatError → String
  | .notString e => e.message
  | .notInstant e => e.message

def toJson (t : Timestamp) : Json :=
  .str t.text

def ofJson (value : Json) : Except FormatError Timestamp :=
  match Json.Format.text.decode value with
  | .error e => .error (.notString e)
  | .ok text =>
    match parse text with
    | .error e => .error (.notInstant e)
    | .ok t => .ok t

end PrivacyMapping.Timestamp
