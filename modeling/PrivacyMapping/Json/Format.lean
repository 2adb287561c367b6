import PrivacyMapping.Json.Numeral
import PrivacyMapping.Text.Quoted

/-!
# Formats of typed values

How a value of a Lean type is held as a JSON value. A format is data, read in both directions:
`decode` takes a JSON value apart and `encode` builds one. A record is held as an object under its
field names, in any order, and lacking fields take their defaults; members that are no fields are
passed over. An array is accepted in place of the object and gives the fields by position. Where
several parts of a document do not fit, the first one in the order of the document is reported.
-/

namespace PrivacyMapping.Json

/-! ## Faults -/

/-- What a format asks for. -/
inductive Expected where
  | string
  | sequence
  | map
  | record (name : String)
  deriving DecidableEq, Repr

def Expected.message : Expected → String
  | .string => "a string"
  | .sequence => "a sequence"
  | .map => "a map"
  | .record name => "struct " ++ name

/-- Why a JSON value does not have a format. -/
inductive FormatError where
  /-- A value of another kind stands where one is asked for. -/
  | mismatch (found : Json) (expected : Expected)
  /-- An array has more items than the record that it stands for has fields. -/
  | tooMany (length : Nat)
  deriving Inhabited

/-- A value as it is named in an error. -/
def foundText : Json → String
  | .null => "null"
  | .bool b => "boolean `" ++ (if b then "true" else "false") ++ "`"
  | .num (.int n) => "integer `" ++ String.ofList (intText n) ++ "`"
  | .num (.float x) => "floating point `" ++ String.ofList (floatText x) ++ "`"
  | .str s => "string " ++ Text.quoted s
  | .arr _ => "sequence"
  | .obj _ => "map"

def FormatError.message : FormatError → String
  | .mismatch found expected =>
    "invalid type: " ++ foundText found ++ ", expected " ++ expected.message
  | .tooMany length =>
    "invalid length " ++ toString length ++ ", expected fewer elements in array"

/-! ## Formats -/

/-- A record type and the tuple of its fields, each made from the other. -/
structure Tuple (ρ α : Type) where
  make : ρ → α
  parts : α → ρ
  make_parts (a : α) : make (parts a) = a
  parts_make (r : ρ) : parts (make r) = r

mutual

/-- How values of a type are held. -/
inductive Format : Type → Type 1 where
  /-- A string. -/
  | text : Format String
  /-- Null, or a value. -/
  | optional {α : Type} (format : Format α) : Format (Option α)
  /-- An array of values. -/
  | list {α : Type} (format : Format α) : Format (List α)
  /-- An object of strings, held in the order of its keys. -/
  | dictionary : Format (Entries String)
  /-- A record with a name. -/
  | record {ρ α : Type} (name : String) (fields : Fields ρ) (tuple : Tuple ρ α) : Format α

/-- How the fields of a record are held, each under its key and with the value that it takes when it
is lacking. -/
inductive Fields : Type → Type 1 where
  | nil : Fields Unit
  | cons {α ρ : Type} (key : String) (format : Format α) (default : α) (rest : Fields ρ) :
    Fields (α × ρ)

end

namespace Fields

/-- The fields of a record of which nothing is given. -/
def defaults {ρ : Type} : Fields ρ → ρ
  | nil => ()
  | cons _ _ default rest => (default, rest.defaults)

def keys {ρ : Type} : Fields ρ → List String
  | nil => []
  | cons key _ _ rest => key :: rest.keys

end Fields

/-! ## Decoding -/

/-- The strings of an object in the order of their keys. -/
def readDictionary (members : List (String × Json)) : Except FormatError (Entries String) :=
  members.foldlM (fun entries member =>
    match member.2 with
    | .str s => .ok (entries.insertSorted member.1 s)
    | value => .error (.mismatch value .string)) ([] : Entries String)

mutual

def Format.decode {α : Type} : Format α → Json → Except FormatError α
  | .text, .str s => .ok s
  | .text, value => .error (.mismatch value .string)
  | .optional _, .null => .ok none
  | .optional format, value => (format.decode value).map some
  | .list format, .arr items => items.mapM format.decode
  | .list _, value => .error (.mismatch value .sequence)
  | .dictionary, .obj members => readDictionary members
  | .dictionary, value => .error (.mismatch value .map)
  | .record _ fields tuple, .obj members =>
    (members.foldlM (fun parts member => fields.put member.1 member.2 parts)
      fields.defaults).map tuple.make
  | .record _ fields tuple, .arr items => do
    let parts ← fields.take items
    if items.length ≤ fields.keys.length then .ok (tuple.make parts)
    else .error (.tooMany items.length)
  | .record name _ _, value => .error (.mismatch value (.record name))

/-- Give the field of a key the value that is held under it. -/
def Fields.put {ρ : Type} : Fields ρ → String → Json → ρ → Except FormatError ρ
  | .nil, _, _, parts => .ok parts
  | .cons key format _ rest, name, value, (first, parts) =>
    if key = name then (format.decode value).map fun first => (first, parts)
    else (rest.put name value parts).map fun parts => (first, parts)

def Fields.take {ρ : Type} : Fields ρ → List Json → Except FormatError ρ
  | .nil, _ => .ok ()
  | .cons _ _ default rest, [] => .ok (default, rest.defaults)
  | .cons _ format _ rest, value :: values => do
    let first ← format.decode value
    let parts ← rest.take values
    pure (first, parts)

end

/-! ## Encoding -/

mutual

def Format.encode {α : Type} : Format α → α → Json
  | .text, s => .str s
  | .optional _, none => .null
  | .optional format, some a => format.encode a
  | .list format, items => .arr (items.map format.encode)
  | .dictionary, entries => .obj (entries.map fun entry => (entry.1, .str entry.2))
  | .record _ fields tuple, a => .obj (fields.members (tuple.parts a))

def Fields.members {ρ : Type} : Fields ρ → ρ → List (String × Json)
  | .nil, _ => []
  | .cons key format _ rest, (first, parts) =>
    (key, format.encode first) :: rest.members parts

end

end PrivacyMapping.Json
