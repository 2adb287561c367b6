import PrivacyMapping.Document
import PrivacyMapping.Json.Format
import PrivacyMapping.Oscal.Pending
import PrivacyMapping.Sources

/-!
# Configuration

An optional YAML document that names the two sources, the separator of joined values, and further
bindings of target fields to properties. Every part has a default, so an empty document will do. The
two sources must have different names, because selectors tell them apart by name.
-/

namespace PrivacyMapping

open Json (Format Fields)

/-- The names under which the two source documents are registered. -/
structure SourceNames where
  first : String := Sources.defaultFirst
  second : String := Sources.defaultSecond
  deriving DecidableEq, Inhabited

def SourceNames.format : Format SourceNames :=
  .record "SourceNames"
    (.cons "first" .text Sources.defaultFirst <| .cons "second" .text Sources.defaultSecond .nil)
    ⟨fun (first, second, _) => ⟨first, second⟩, fun n => (n.first, n.second, ()),
      fun _ => rfl, fun _ => rfl⟩

/-- How values become properties. -/
structure PropertySettings where
  separator : String := Oscal.defaultSeparator
  bindings : Entries String := []
  deriving DecidableEq, Inhabited

def PropertySettings.format : Format PropertySettings :=
  .record "PropsConfig"
    (.cons "separator" .text Oscal.defaultSeparator <| .cons "bindings" .dictionary [] .nil)
    ⟨fun (separator, bindings, _) => ⟨separator, bindings⟩,
      fun p => (p.separator, p.bindings, ()), fun _ => rfl, fun _ => rfl⟩

structure Config where
  sources : SourceNames := {}
  properties : PropertySettings := {}
  deriving DecidableEq, Inhabited

namespace Config

def format : Format Config :=
  .record "CliConfig"
    (.cons "sources" SourceNames.format {} <| .cons "props" PropertySettings.format {} .nil)
    ⟨fun (sources, properties, _) => ⟨sources, properties⟩,
      fun c => (c.sources, c.properties, ()), fun _ => rfl, fun _ => rfl⟩

/-- Why a configuration is refused. -/
inductive Error where
  | document (e : Document.Error)
  | malformed (path : String) (e : Json.FormatError)
  | sameNames (path name : String)

/-- The wordings of an error and of what lies behind it. -/
def Error.chain : Error → List String
  | .document e => "failed to load config file" :: e.chain
  | .malformed path e => ["invalid config file: " ++ path, e.message]
  | .sameNames path name =>
    ["invalid config file: " ++ path ++ ": sources.first and sources.second are both " ++
      Text.quoted name]

/-- The configuration in a document, which was found at a path. -/
def ofJson (path : String) : Json → Except Error Config
  | .null => .ok {}
  | document =>
    match format.decode document with
    | .error e => .error (.malformed path e)
    | .ok config =>
      if config.sources.first = config.sources.second then
        .error (.sameNames path config.sources.first)
      else .ok config

/-- The configuration at a path, or the default one if there is no path. -/
def load (read : FileReader) : Option String → Except Error Config
  | none => .ok {}
  | some path =>
    match Document.loadYaml read path with
    | .error e => .error (.document e)
    | .ok document => ofJson path document

/-- The bindings with those of the configuration over the built-in ones. -/
def bindings (config : Config) : Oscal.Bindings :=
  Oscal.Bindings.default.override config.properties.bindings

end Config

end PrivacyMapping
