import PrivacyMapping.Json.Format

/-!
# Metadata and properties

The parts that security plans and action plans have in common.
-/

namespace PrivacyMapping.Oscal

open Json (Format Fields)

structure Metadata where
  title : Option String := none
  version : Option String := none
  oscalVersion : Option String := none
  lastModified : Option String := none
  deriving DecidableEq, Inhabited

def Metadata.format : Format Metadata :=
  .record "Metadata"
    (.cons "title" (.optional .text) none <|
      .cons "version" (.optional .text) none <|
      .cons "oscal-version" (.optional .text) none <|
      .cons "last-modified" (.optional .text) none .nil)
    ⟨fun (title, version, oscalVersion, lastModified, _) =>
        ⟨title, version, oscalVersion, lastModified⟩,
      fun m => (m.title, m.version, m.oscalVersion, m.lastModified, ()),
      fun _ => rfl, fun _ => rfl⟩

structure Property where
  name : String := ""
  value : String := ""
  deriving DecidableEq, Inhabited

def Property.format : Format Property :=
  .record "Property" (.cons "name" .text "" <| .cons "value" .text "" .nil)
    ⟨fun (name, value, _) => ⟨name, value⟩, fun p => (p.name, p.value, ()),
      fun _ => rfl, fun _ => rfl⟩

/-- The value of the first property of a name. -/
def propertyValue? (properties : List Property) (name : String) : Option String :=
  (properties.find? (·.name == name)).map (·.value)

end PrivacyMapping.Oscal
