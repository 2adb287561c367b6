import PrivacyMapping.Oscal.Error
import PrivacyMapping.Oscal.Metadata

/-!
# System security plans

The parts of a security plan that a reviewer looks at: metadata, properties, components, implemented
requirements with their statements, and the resources of the back matter. Reading is lenient:
whatever is lacking takes a default, and what is not known is passed over.
-/

namespace PrivacyMapping.Oscal

open Json (Format Fields)

/-! ## Characteristics and components -/

/-- The section with the properties of the system. -/
structure SystemCharacteristics where
  systemName : Option String := none
  properties : List Property := []
  deriving DecidableEq, Inhabited

def SystemCharacteristics.format : Format SystemCharacteristics :=
  .record "SystemCharacteristics"
    (.cons "system-name" (.optional .text) none <| .cons "props" (.list Property.format) [] .nil)
    ⟨fun (systemName, properties, _) => ⟨systemName, properties⟩,
      fun c => (c.systemName, c.properties, ()), fun _ => rfl, fun _ => rfl⟩

structure ComponentStatus where
  state : Option String := none
  deriving DecidableEq, Inhabited

def ComponentStatus.format : Format ComponentStatus :=
  .record "ComponentStatus" (.cons "state" (.optional .text) none .nil)
    ⟨fun (state, _) => ⟨state⟩, fun s => (s.state, ()), fun _ => rfl, fun _ => rfl⟩

structure Component where
  uuid : Option String := none
  kind : Option String := none
  title : Option String := none
  description : Option String := none
  status : Option ComponentStatus := none
  deriving DecidableEq, Inhabited

namespace Component

def format : Format Component :=
  .record "Component"
    (.cons "uuid" (.optional .text) none <|
      .cons "type" (.optional .text) none <|
      .cons "title" (.optional .text) none <|
      .cons "description" (.optional .text) none <|
      .cons "status" (.optional ComponentStatus.format) none .nil)
    ⟨fun (uuid, kind, title, description, status, _) => ⟨uuid, kind, title, description, status⟩,
      fun c => (c.uuid, c.kind, c.title, c.description, c.status, ()),
      fun _ => rfl, fun _ => rfl⟩

/-- The state of a component, `unknown` unless it is given. -/
def state (component : Component) : String :=
  (component.status.bind (·.state)).getD "unknown"

end Component

structure SystemImplementation where
  components : List Component := []
  deriving DecidableEq, Inhabited

def SystemImplementation.format : Format SystemImplementation :=
  .record "SystemImplementation" (.cons "components" (.list Component.format) [] .nil)
    ⟨fun (components, _) => ⟨components⟩, fun s => (s.components, ()), fun _ => rfl, fun _ => rfl⟩

/-! ## Requirements and statements -/

structure ByComponent where
  uuid : Option String := none
  componentUuid : String := ""
  description : Option String := none
  deriving DecidableEq, Inhabited

def ByComponent.format : Format ByComponent :=
  .record "ByComponent"
    (.cons "uuid" (.optional .text) none <|
      .cons "component-uuid" .text "" <|
      .cons "description" (.optional .text) none .nil)
    ⟨fun (uuid, componentUuid, description, _) => ⟨uuid, componentUuid, description⟩,
      fun b => (b.uuid, b.componentUuid, b.description, ()), fun _ => rfl, fun _ => rfl⟩

structure RelatedResource where
  resourceUuid : String := ""
  deriving DecidableEq, Inhabited

def RelatedResource.format : Format RelatedResource :=
  .record "RelatedResource" (.cons "resource-uuid" .text "" .nil)
    ⟨fun (resourceUuid, _) => ⟨resourceUuid⟩, fun r => (r.resourceUuid, ()),
      fun _ => rfl, fun _ => rfl⟩

structure Statement where
  uuid : Option String := none
  statementId : String := ""
  description : Option String := none
  byComponents : List ByComponent := []
  relatedResources : List RelatedResource := []
  deriving DecidableEq, Inhabited

def Statement.format : Format Statement :=
  .record "Statement"
    (.cons "uuid" (.optional .text) none <|
      .cons "statement-id" .text "" <|
      .cons "description" (.optional .text) none <|
      .cons "by-components" (.list ByComponent.format) [] <|
      .cons "related-resources" (.list RelatedResource.format) [] .nil)
    ⟨fun (uuid, statementId, description, byComponents, relatedResources, _) =>
        ⟨uuid, statementId, description, byComponents, relatedResources⟩,
      fun s => (s.uuid, s.statementId, s.description, s.byComponents, s.relatedResources, ()),
      fun _ => rfl, fun _ => rfl⟩

structure ImplementedRequirement where
  uuid : Option String := none
  controlId : String := ""
  statements : List Statement := []
  deriving DecidableEq, Inhabited

def ImplementedRequirement.format : Format ImplementedRequirement :=
  .record "ImplementedRequirement"
    (.cons "uuid" (.optional .text) none <|
      .cons "control-id" .text "" <|
      .cons "statements" (.list Statement.format) [] .nil)
    ⟨fun (uuid, controlId, statements, _) => ⟨uuid, controlId, statements⟩,
      fun r => (r.uuid, r.controlId, r.statements, ()), fun _ => rfl, fun _ => rfl⟩

structure ControlImplementation where
  requirements : List ImplementedRequirement := []
  deriving DecidableEq, Inhabited

def ControlImplementation.format : Format ControlImplementation :=
  .record "ControlImplementation"
    (.cons "implemented-requirements" (.list ImplementedRequirement.format) [] .nil)
    ⟨fun (requirements, _) => ⟨requirements⟩, fun c => (c.requirements, ()),
      fun _ => rfl, fun _ => rfl⟩

/-! ## Back matter -/

structure ResourceLink where
  href : String := ""
  mediaType : Option String := none
  deriving DecidableEq, Inhabited

def ResourceLink.format : Format ResourceLink :=
  .record "Rlink" (.cons "href" .text "" <| .cons "media-type" (.optional .text) none .nil)
    ⟨fun (href, mediaType, _) => ⟨href, mediaType⟩, fun l => (l.href, l.mediaType, ()),
      fun _ => rfl, fun _ => rfl⟩

structure ResourceHash where
  algorithm : String := ""
  value : String := ""
  deriving DecidableEq, Inhabited

def ResourceHash.format : Format ResourceHash :=
  .record "ResourceHash" (.cons "algorithm" .text "" <| .cons "value" .text "" .nil)
    ⟨fun (algorithm, value, _) => ⟨algorithm, value⟩, fun h => (h.algorithm, h.value, ()),
      fun _ => rfl, fun _ => rfl⟩

structure Resource where
  uuid : String := ""
  title : Option String := none
  links : List ResourceLink := []
  hashes : List ResourceHash := []
  deriving DecidableEq, Inhabited

def Resource.format : Format Resource :=
  .record "Resource"
    (.cons "uuid" .text "" <|
      .cons "title" (.optional .text) none <|
      .cons "rlinks" (.list ResourceLink.format) [] <|
      .cons "hashes" (.list ResourceHash.format) [] .nil)
    ⟨fun (uuid, title, links, hashes, _) => ⟨uuid, title, links, hashes⟩,
      fun r => (r.uuid, r.title, r.links, r.hashes, ()), fun _ => rfl, fun _ => rfl⟩

structure BackMatter where
  resources : List Resource := []
  deriving DecidableEq, Inhabited

def BackMatter.format : Format BackMatter :=
  .record "BackMatter" (.cons "resources" (.list Resource.format) [] .nil)
    ⟨fun (resources, _) => ⟨resources⟩, fun b => (b.resources, ()), fun _ => rfl, fun _ => rfl⟩

/-! ## Plans -/

structure SecurityPlan where
  uuid : Option String := none
  metadata : Metadata := {}
  characteristics : SystemCharacteristics := {}
  implementation : SystemImplementation := {}
  controls : ControlImplementation := {}
  backMatter : BackMatter := {}
  deriving DecidableEq, Inhabited

structure StatementRef where
  controlId : String
  statementId : String
  deriving DecidableEq, Inhabited

structure PlanSummary where
  title : String
  version : String
  oscalVersion : String
  lastModified : Option String
  requirements : Nat
  components : Nat
  statements : List StatementRef
  resources : Nat
  deriving DecidableEq, Inhabited

namespace SecurityPlan

def format : Format SecurityPlan :=
  .record "SystemSecurityPlan"
    (.cons "uuid" (.optional .text) none <|
      .cons "metadata" Metadata.format {} <|
      .cons "system-characteristics" SystemCharacteristics.format {} <|
      .cons "system-implementation" SystemImplementation.format {} <|
      .cons "control-implementation" ControlImplementation.format {} <|
      .cons "back-matter" BackMatter.format {} .nil)
    ⟨fun (uuid, metadata, characteristics, implementation, controls, backMatter, _) =>
        ⟨uuid, metadata, characteristics, implementation, controls, backMatter⟩,
      fun p => (p.uuid, p.metadata, p.characteristics, p.implementation, p.controls, p.backMatter,
        ()),
      fun _ => rfl, fun _ => rfl⟩

def documentFormat : Format SecurityPlan :=
  .record "SspDocument" (.cons "system-security-plan" format {} .nil)
    ⟨fun (plan, _) => plan, fun plan => (plan, ()), fun _ => rfl, fun _ => rfl⟩

def ofJson (document : Json) : Except Error SecurityPlan :=
  (documentFormat.decode document).mapError .malformed

/-- The document with a plan, all defaults being filled in. -/
def toJson (plan : SecurityPlan) : Json :=
  documentFormat.encode plan

/-- The version of the document format that a plan has unless it says otherwise. -/
def defaultOscalVersion : String := "1.1.2"

/-- The value of the first property of a name. -/
def property? (plan : SecurityPlan) (name : String) : Option String :=
  propertyValue? plan.characteristics.properties name

/-- The statements of all requirements in the order of the document. -/
def statements (plan : SecurityPlan) : List StatementRef :=
  plan.controls.requirements.flatMap fun requirement =>
    requirement.statements.map fun statement => ⟨requirement.controlId, statement.statementId⟩

def summary (plan : SecurityPlan) : PlanSummary where
  title := plan.metadata.title.getD "SSP"
  version := plan.metadata.version.getD "-"
  oscalVersion := plan.metadata.oscalVersion.getD defaultOscalVersion
  lastModified := plan.metadata.lastModified
  requirements := plan.controls.requirements.length
  components := plan.implementation.components.length
  statements := plan.statements
  resources := plan.backMatter.resources.length

end SecurityPlan

end PrivacyMapping.Oscal
