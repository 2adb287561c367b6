import PrivacyMapping.Config
import PrivacyMapping.Proofs.Files
import PrivacyMapping.Proofs.Json.Record
import PrivacyMapping.Proofs.Yaml.Json

/-!
# Accepted configurations

The names of the two sources can be read off the document of a configuration: each is the string that
the document gives, or its default (`namesIn`). A configuration that is accepted has these names, and
they differ; a document in which they coincide is refused, even if it gives only one of them and the
other is a default.
-/

namespace PrivacyMapping

theorem Document.loadYaml_eq_ok {read : FileReader} {path text : String} {document : Json}
    (hread : read path = .ok text.toUTF8) (hparse : Yaml.parseJson text = .ok document) :
    loadYaml read path = .ok document := by
  rw [loadYaml, loadText, FileReader.text_eq_ok hread]
  exact Json.mapError_eq_ok_iff.2 hparse

namespace Config

open Json (decode_text_eq_ok_iff given_of_decode)

variable {read : FileReader} {path : String} {document : Json} {config : Config}

/-! ## Names in a document -/

/-- The text that is given for a name, or else the default. -/
def nameOr (default : String) : Option Json → String
  | some (.str name) => name
  | _ => default

/-- The names of the sources in a document, with defaults for those that it does not give. -/
def namesIn (document : Json) : SourceNames where
  first := nameOr Sources.defaultFirst <| (document.part? 0 "sources").bind (·.part? 0 "first")
  second := nameOr Sources.defaultSecond <| (document.part? 0 "sources").bind (·.part? 1 "second")

theorem eq_nameOr {default name : String} {given : Option Json}
    (h : match given with
      | none => name = default
      | some value => Json.Format.text.decode value = .ok name) :
    name = nameOr default given := by
  cases given with
  | none => exact h
  | some value =>
    obtain rfl := decode_text_eq_ok_iff.1 h
    rfl

theorem sources_eq_namesIn (wellFormed : document.WellFormed)
    (h : format.decode document = .ok config) : config.sources = namesIn document := by
  obtain ⟨hsources, -, -⟩ := given_of_decode (by decide) wellFormed h
  unfold namesIn
  cases found : document.part? 0 "sources" with
  | none =>
    rw [found] at hsources
    exact hsources
  | some value =>
    rw [found] at hsources
    obtain ⟨hfirst, hsecond, -⟩ := given_of_decode (by decide) (wellFormed.of_part? found) hsources
    rw [Option.bind_some, Option.bind_some, ← eq_nameOr hfirst, ← eq_nameOr hsecond]

/-! ## Acceptance -/

theorem default_names_ne : ({} : SourceNames).first ≠ ({} : SourceNames).second := by decide

theorem of_ofJson (h : ofJson path document = .ok config) :
    document = .null ∧ config = {} ∨
      format.decode document = .ok config ∧ config.sources.first ≠ config.sources.second := by
  unfold ofJson at h
  split at h
  · exact .inl ⟨rfl, (Except.ok.inj h).symm⟩
  · split at h
    · cases h
    · next decoded hdecode =>
      split_ifs at h with same
      obtain rfl := Except.ok.inj h
      exact .inr ⟨hdecode, same⟩

theorem names_of_ofJson (wellFormed : document.WellFormed) (h : ofJson path document = .ok config) :
    config.sources = namesIn document ∧ config.sources.first ≠ config.sources.second := by
  obtain ⟨rfl, rfl⟩ | ⟨hdecode, differ⟩ := of_ofJson h
  · exact ⟨rfl, default_names_ne⟩
  · exact ⟨sources_eq_namesIn wellFormed hdecode, differ⟩

theorem ofJson_of_sameNames (wellFormed : document.WellFormed)
    (same : (namesIn document).first = (namesIn document).second) :
    ∃ e, ofJson path document = .error e ∧ ∀ config, format.decode document = .ok config →
      e = .sameNames path (namesIn document).first := by
  unfold ofJson
  split
  · -- an empty document has the default names, which never coincide
    exact absurd same default_names_ne
  · cases hdecode : format.decode document with
    | error e => exact ⟨_, rfl, nofun⟩
    | ok decoded =>
      have names := sources_eq_namesIn wellFormed hdecode
      rw [← names] at same ⊢
      dsimp only
      rw [if_pos same]
      exact ⟨_, rfl, fun _ _ => rfl⟩

/-! ## Files -/

theorem wellFormed_of_loadYaml (h : Document.loadYaml read path = .ok document) :
    document.WellFormed := by
  obtain ⟨text, -, h⟩ := Json.bind_eq_ok_iff.1 h
  exact Yaml.wellFormed_of_parseJson (Json.mapError_eq_ok_iff.1 h)

theorem load_some (h : Document.loadYaml read path = .ok document) :
    load read (some path) = ofJson path document := by
  rw [load, h]

theorem names_ne_of_load {source : Option String} (h : load read source = .ok config) :
    config.sources.first ≠ config.sources.second := by
  cases source with
  | none =>
    obtain rfl := Except.ok.inj h
    exact default_names_ne
  | some path =>
    cases hload : Document.loadYaml read path with
    | error e => simp [load, hload] at h
    | ok document =>
      rw [load_some hload] at h
      exact (names_of_ofJson (wellFormed_of_loadYaml hload) h).2

end Config

end PrivacyMapping
