import TelemetryExporter.Model.Service
import TelemetryExporter.Verify.JsonValues

/-!
# The body of a function log

The exporter's metadata and the text share one object. `serde` writes the struct's own fields first
and then the flattened ones, so a text that is an object with a `cx_metadata` of its own overrides
the exporter's, and an extra attribute with the key of another field overrides that one.
-/

namespace TelemetryExporter

open Entries

/-! ## What is supplied -/

namespace LogMetadata

/-- The texts of the metadata with their names: the struct's own fields that are present, and the extra
attributes. -/
def texts (m : LogMetadata) : List (String × String) :=
  [("trace_id", m.traceId), ("span_id", m.spanId), ("cloud_provider", m.cloudProvider),
    ("cloud_account_id", m.cloudAccountId), ("cloud_region", m.cloudRegion), ("faas_name", m.faasName),
    ("faas_id", m.faasId), ("faas_instance_cx_id", m.faasInstanceCxId),
    ("faas_execution", m.faasExecution), ("faas_invocation_id", m.faasInvocationId)].filterMap
      (fun (name, text) => text.map fun text => (name, text)) ++
    m.extraAttributes

end LogMetadata

/-- The object has exactly these texts, with each key once. -/
def HoldsTexts (texts : List (String × String)) (entries : List (String × Json)) : Prop :=
  (entries.map Prod.fst).Nodup ∧
    ∀ k v, (k, v) ∈ entries ↔ ∃ text, v = .string text ∧ (k, text) ∈ texts

namespace LogMetadata

/-- The object has exactly the supplied metadata, with each key once. -/
structure IsHeldBy (m : LogMetadata) (entries : List (String × Json)) : Prop where
  keys : (entries.map Prod.fst).Nodup
  texts : ∀ k text, (k, text) ∈ m.texts → (k, .string text) ∈ entries
  tags : ∀ tags, m.tags = some tags →
    ∃ inner, ("tags", .object inner) ∈ entries ∧ HoldsTexts tags inner
  only : ∀ k v, (k, v) ∈ entries → (∃ text, v = .string text ∧ (k, text) ∈ m.texts) ∨
    ∃ tags inner, m.tags = some tags ∧ k = "tags" ∧ v = .object inner ∧ HoldsTexts tags inner

end LogMetadata

/-- What the body holds besides the metadata: the fields of the text if it is an object, else the text
as a message. -/
def textFields [External] (logText : String) : List (String × Json) :=
  match External.jsonFromStr logText with
  | some (.object json) => json.filter fun e => e.1 ≠ "cx_metadata"
  | _ => [("message", .string logText)]

/-- The entry of the metadata, if there is any. -/
def IsSupplied : Option LogMetadata → List (String × Json) → Prop
  | none, fields => fields = []
  | some m, fields => ∃ entries, fields = [("cx_metadata", .object entries)] ∧ m.IsHeldBy entries

/-- The body has the metadata, the text and nothing else. -/
def KeepsMetadata [External] (messageSizeLimit : Nat) (logText : String)
    (metadata : Option LogMetadata) (body : Option AnyValue) : Prop :=
  ∃ entries supplied, body = some ⟨some (.kvlistValue entries)⟩ ∧ IsSupplied metadata supplied ∧
    entries.Perm (fromJsonObject (supplied ++
      textFields (truncateWithAnnotationIfTooLong logText messageSizeLimit)))

/-- Texts are no numbers. -/
theorem HoldsTexts.objectNumbers {texts : List (String × String)} {entries : List (String × Json)}
    (h : HoldsTexts texts entries) (p : Number → Bool) : objectNumbers p entries = true := by
  refine objectNumbers_iff.2 ?_
  rintro ⟨k, v⟩ he
  obtain ⟨text, rfl, -⟩ := (h.2 k v).1 he
  rfl

/-! ## Metadata -/

namespace LogMetadata

variable {m : LogMetadata} {entries : List (String × Json)}

/-- There are no numbers in the metadata. -/
theorem IsHeldBy.objectNumbers (h : m.IsHeldBy entries) (p : Number → Bool) :
    objectNumbers p entries = true := by
  refine objectNumbers_iff.2 ?_
  rintro ⟨k, v⟩ he
  rcases h.only k v he with ⟨text, rfl, -⟩ | ⟨tags, inner, -, -, rfl, hinner⟩
  · rfl
  · exact hinner.objectNumbers p

end LogMetadata

/-! ## The body -/

section

variable [External] {messageSizeLimit : Nat} {logText : String} {metadata : Option LogMetadata}
  {timestamp : Nat} {spanRef : SpanRef} {source : LogSource}

end

end TelemetryExporter
