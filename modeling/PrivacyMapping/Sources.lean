import PrivacyMapping.Json.Basic

/-!
# Named source documents

The documents that selectors read from, each under a name, in the order in which the names were
first registered. Registering a name again replaces its document.
-/

namespace PrivacyMapping

structure Sources where
  documents : Entries Json
  deriving Inhabited

namespace Sources

/-- The name of the first source unless another is configured. -/
def defaultFirst : String := "xdomea"

/-- The name of the second source unless another is configured. -/
def defaultSecond : String := "bpmn"

def empty : Sources := ⟨[]⟩

def insert (sources : Sources) (name : String) (document : Json) : Sources :=
  ⟨Entries.insert sources.documents name document⟩

def get? (sources : Sources) (name : String) : Option Json :=
  Entries.get? sources.documents name

/-- The names in the order of their first registration. -/
def names (sources : Sources) : List String :=
  Entries.keys sources.documents

def size (sources : Sources) : Nat :=
  sources.documents.length

def isEmpty (sources : Sources) : Bool :=
  sources.documents.isEmpty

def namedPair (firstName : String) (first : Json) (secondName : String) (second : Json) :
    Sources :=
  (empty.insert firstName first).insert secondName second

def pair (first second : Json) : Sources :=
  namedPair defaultFirst first defaultSecond second

end Sources

end PrivacyMapping
