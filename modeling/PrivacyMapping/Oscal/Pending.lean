import PrivacyMapping.Mapping
import PrivacyMapping.Oscal.Bindings

/-!
# Pending property values

What a mapping result will write into a security plan: the values of each bound field joined into
one text, in the order of the fields. Several fields may be bound to one property; what counts for
it is the last of its entries.
-/

namespace PrivacyMapping.Oscal

/-- The text between the values of a field unless another is configured. -/
def defaultSeparator : String := ", "

/-- Property values waiting to be written, and the target fields that are bound to no property. -/
structure Pending where
  entries : List (String × String) := []
  skipped : List String := []
  deriving DecidableEq, Inhabited

namespace Pending

def joined (values : List Json) (separator : String) : String :=
  separator.intercalate (values.map (·.stringForm))

def ofMapping (result : MappingResult) (bindings : Bindings) (separator : String) : Pending where
  entries := result.fields.filterMap fun field =>
    (bindings.property? field.target).map fun property => (property, joined field.values separator)
  skipped := (result.fields.map (·.target)).filter fun target =>
    (bindings.property? target).isNone

/-- The value that a property will have, which is that of its last entry. -/
def get? (pending : Pending) (name : String) : Option String :=
  (pending.entries.reverse.find? (·.1 == name)).map (·.2)

/-- The entries with another value for the last one of a property, or with a new entry at the end.
-/
def setLast (name value : String) : List (String × String) → List (String × String)
  | [] => [(name, value)]
  | entry :: rest =>
    if entry.1 = name ∧ rest.all (·.1 != name) then (name, value) :: rest
    else entry :: setLast name value rest

/-- Replace the value that a property will have, or add one. -/
def set (pending : Pending) (name value : String) : Pending :=
  { pending with entries := setLast name value pending.entries }

def isEmpty (pending : Pending) : Bool :=
  pending.entries.isEmpty

end Pending

end PrivacyMapping.Oscal
