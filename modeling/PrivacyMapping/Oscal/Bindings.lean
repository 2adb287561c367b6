import PrivacyMapping.Entries

/-!
# Bindings of target fields to properties

Which property of a security plan each target field is written to. Binding a field again replaces
its property.
-/

namespace PrivacyMapping.Oscal

structure Bindings where
  properties : Entries String
  deriving DecidableEq, Inhabited

namespace Bindings

def empty : Bindings := ⟨[]⟩

/-- The bindings of the fields of a record of processing activities. -/
def default : Bindings := ⟨[
  ("purposes", "ropa:purpose"),
  ("data-categories", "ropa:data-categories"),
  ("data-subjects", "ropa:data-subjects"),
  ("recipients", "ropa:recipients"),
  ("retention", "ropa:retention"),
  ("legal-basis", "ropa:legal-basis")]⟩

def bind (bindings : Bindings) (target property : String) : Bindings :=
  ⟨bindings.properties.insert target property⟩

def override (bindings : Bindings) (pairs : List (String × String)) : Bindings :=
  pairs.foldl (fun bindings pair => bindings.bind pair.1 pair.2) bindings

def property? (bindings : Bindings) (target : String) : Option String :=
  bindings.properties.get? target

end Bindings

end PrivacyMapping.Oscal
