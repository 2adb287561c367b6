import PrivacyMapping.Text.Blank
import PrivacyMapping.Text.Casing
import PrivacyMapping.Text.Quoted
import PrivacyMapping.Binary64.Rounding
import PrivacyMapping.Binary64.Shortest
import PrivacyMapping.Json.Printer
import PrivacyMapping.Json.Reader
import PrivacyMapping.Json.Format
import PrivacyMapping.RuleSet
import PrivacyMapping.Yaml.Json
import PrivacyMapping.Timestamp.Json
import PrivacyMapping.Oscal.Participants
import PrivacyMapping.Oscal.Writing
import PrivacyMapping.Oscal.Summary
import PrivacyMapping.Main
import PrivacyMapping.Proofs.Masking
import PrivacyMapping.Proofs.SelfMask
import PrivacyMapping.Proofs.Pointwise
import PrivacyMapping.Proofs.Independence
import PrivacyMapping.Proofs.Rendering
import PrivacyMapping.Proofs.Projection
import PrivacyMapping.Proofs.NestedMarks
import PrivacyMapping.Proofs.Respelling
import PrivacyMapping.Proofs.Growth
import PrivacyMapping.Proofs.RuleBody
import PrivacyMapping.Proofs.Selector.Index
import PrivacyMapping.Proofs.Selector.Written
import PrivacyMapping.Proofs.Sources
import PrivacyMapping.Proofs.Bindings
import PrivacyMapping.Proofs.Refusal
import PrivacyMapping.Proofs.Yaml.Number
import PrivacyMapping.Proofs.Yaml.Structure
import PrivacyMapping.Proofs.Timestamp.Order
import PrivacyMapping.Proofs.Oscal.Participants
import PrivacyMapping.Proofs.Oscal.Merging
import PrivacyMapping.Proofs.Oscal.Rendered
import PrivacyMapping.Proofs.Oscal.ReadModels
import PrivacyMapping.Proofs.Oscal.Reading
import PrivacyMapping.Proofs.Oscal.WritingAgain
import PrivacyMapping.Proofs.Oscal.WrittenPlan
import PrivacyMapping.Proofs.Command.Confinement
import PrivacyMapping.Proofs.Command.Sources
