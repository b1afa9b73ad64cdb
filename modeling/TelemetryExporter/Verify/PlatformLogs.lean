import TelemetryExporter.Model.Service
import TelemetryExporter.Verify.JsonValues

/-!
# Compact platform logs

With `hide_default_values` a platform log is the full one without the fields that have no value, and
without `out_of_memory` when false: in the event and in its metrics, and nowhere else. This holds of
durations that are numbers: an infinite one is `null` in both logs, and the compact one keeps it.
-/

namespace TelemetryExporter

/-! ## Without default values -/

/-- The entry has no value, or says that the function did not run out of memory. -/
def isDefaultEntry : KeyValue → Bool
  | ⟨_, some ⟨none⟩⟩ => true
  | ⟨key, some ⟨some (.boolValue false)⟩⟩ => key = "out_of_memory"
  | _ => false

/-- The entries that are not default values. -/
def dropDefaults (entries : List KeyValue) : List KeyValue :=
  entries.filter fun e => !isDefaultEntry e

/-- An object, with its entries changed. -/
def onEntries (f : List KeyValue → List KeyValue) : AnyValue → AnyValue
  | ⟨some (.kvlistValue entries)⟩ => ⟨some (.kvlistValue (f entries))⟩
  | value => value

/-- The entries, with the value of one key changed. -/
def onKey (key : String) (f : AnyValue → AnyValue) (entries : List KeyValue) : List KeyValue :=
  entries.map fun e => if e.key = key then { e with value := e.value.map f } else e

/-- An event without the default values, at both levels. -/
def compactEvent (entries : List KeyValue) : List KeyValue :=
  dropDefaults (onKey "metrics" (onEntries dropDefaults) entries)

/-- A body in which only the event is changed. -/
def compactBody (body : Option AnyValue) : Option AnyValue :=
  body.map (onEntries (onKey "event" (onEntries compactEvent)))

/-- What is made with `hide_default_values` is the same but for the event. -/
def AgreesCompactly {S : Type} (full compact : LogRecord × S) : Prop :=
  compact.1 = { full.1 with body := compactBody full.1.body } ∧ compact.2 = full.2

/-! ## The same, of JSON -/

/-- A default value. -/
def isDefaultField : String × Json → Bool
  | (_, .null) => true
  | (key, .bool false) => key = "out_of_memory"
  | _ => false

/-- The fields that are not default values. -/
def dropDefaultFields (o : List (String × Json)) : List (String × Json) :=
  o.filter fun e => !isDefaultField e

/-- An object, with its fields changed. -/
def onFields (f : List (String × Json) → List (String × Json)) : Json → Json
  | .object o => .object (f o)
  | v => v

/-- The fields, with the value of one key changed. -/
def onField (key : String) (f : Json → Json) (o : List (String × Json)) : List (String × Json) :=
  o.map fun e => (e.1, if e.1 = key then f e.2 else e.2)

theorem isDefaultEntry_fromJson (e : String × Json) :
    isDefaultEntry ⟨e.1, some (.fromJson e.2)⟩ = isDefaultField e := by
  obtain ⟨k, v⟩ := e
  cases v with
  | bool b => cases b <;> rfl
  | number n =>
    cases n with
    | posInt n =>
      by_cases h : n < 0x8000000000000000
      · rw [fromJson_posInt h]
        rfl
      · rw [fromJson_posInt_large (Nat.not_lt.1 h)]
        rfl
    | negInt n => rfl
    | float f => rfl
  | _ => rfl

theorem dropDefaults_fromJsonObject (o : List (String × Json)) :
    dropDefaults (fromJsonObject o) = fromJsonObject (dropDefaultFields o) := by
  rw [fromJsonObject_eq_map, fromJsonObject_eq_map, dropDefaults, dropDefaultFields, List.filter_map]
  congr 1
  apply List.filter_congr
  intro e _
  rw [Function.comp_apply, isDefaultEntry_fromJson]

theorem onEntries_fromJson {f : List KeyValue → List KeyValue}
    {g : List (String × Json) → List (String × Json)}
    (hfg : ∀ o, f (fromJsonObject o) = fromJsonObject (g o)) (v : Json) :
    onEntries f (.fromJson v) = .fromJson (onFields g v) := by
  cases v with
  | object o =>
    refine Eq.trans (b := ⟨some (.kvlistValue (f (fromJsonObject o)))⟩) rfl ?_
    rw [hfg]
    rfl
  | number n =>
    cases n with
    | posInt n =>
      have hsame : onFields g (.number (.posInt n)) = .number (.posInt n) := rfl
      by_cases h : n < 0x8000000000000000
      · rw [hsame, fromJson_posInt h]
        rfl
      · rw [hsame, fromJson_posInt_large (Nat.not_lt.1 h)]
        rfl
    | negInt n => rfl
    | float f => rfl
  | _ => rfl

theorem onKey_fromJsonObject {f : AnyValue → AnyValue} {g : Json → Json}
    (hfg : ∀ v, f (.fromJson v) = .fromJson (g v)) (key : String) (o : List (String × Json)) :
    onKey key f (fromJsonObject o) = fromJsonObject (onField key g o) := by
  rw [fromJsonObject_eq_map, fromJsonObject_eq_map, onKey, onField, List.map_map, List.map_map]
  apply List.map_congr_left
  intro e _
  simp only [Function.comp_apply]
  split
  · rw [Option.map_some, hfg]
  · rfl

/-- An event's fields without the default values, at both levels. -/
def compactFields (o : List (String × Json)) : List (String × Json) :=
  dropDefaultFields (onField "metrics" (onFields dropDefaultFields) o)

theorem compactBody_fromJson (o : List (String × Json)) :
    compactBody (some (.fromJson (.object o))) =
      some (.fromJson (.object (onField "event" (onFields compactFields) o))) := by
  have event (o : List (String × Json)) :
      compactEvent (fromJsonObject o) = fromJsonObject (compactFields o) := by
    rw [compactEvent, onKey_fromJsonObject (onEntries_fromJson dropDefaults_fromJsonObject),
      dropDefaults_fromJsonObject, compactFields]
  rw [compactBody, Option.map_some,
    onEntries_fromJson (onKey_fromJsonObject (onEntries_fromJson event) "event")]
  rfl

/-! ## Fields before they are inserted -/

/-- The field, skipped if it is a default value. -/
def dropField (field : String × Option Json) : String × Option Json :=
  (field.1, field.2.filter fun v => !isDefaultField (field.1, v))

/-- The field, with the value of one key changed. -/
def changeField (key : String) (f : Json → Json) (field : String × Option Json) :
    String × Option Json :=
  (field.1, field.2.map fun v => if field.1 = key then f v else v)

theorem presentFields_keys (fields : List (String × Option Json)) :
    ((presentFields fields).map Prod.fst).Sublist (fields.map Prod.fst) := by
  unfold presentFields
  induction fields with
  | nil => exact .refl _
  | cons field fields ih =>
    obtain ⟨k, v⟩ := field
    cases v with
    | none => exact ih.cons k
    | some v => exact ih.cons_cons k

theorem ofFields_dropField {fields : List (String × Option Json)}
    (hn : (fields.map Prod.fst).Nodup) :
    Json.ofFields (fields.map dropField) = dropDefaultFields (Json.ofFields fields) := by
  have hpresent : presentFields (fields.map dropField) =
      (presentFields fields).filter fun e => !isDefaultField e := by
    unfold presentFields
    rw [List.filterMap_map, List.filter_filterMap]
    apply List.filterMap_congr
    intro field _
    obtain ⟨k, v⟩ := field
    cases v with
    | none => rfl
    | some v =>
      simp only [Function.comp_apply, dropField, Option.filter_some, Option.map_some]
      split <;> simp_all
  rw [ofFields_eq, ofFields_eq, hpresent]
  exact Entries.insertAll_filter _ (hn.sublist (presentFields_keys fields))

theorem ofFields_changeField (key : String) (f : Json → Json)
    (fields : List (String × Option Json)) :
    Json.ofFields (fields.map (changeField key f)) = onField key f (Json.ofFields fields) := by
  have hpresent : presentFields (fields.map (changeField key f)) =
      (presentFields fields).map fun e => (e.1, if e.1 = key then f e.2 else e.2) := by
    unfold presentFields
    rw [List.filterMap_map, List.map_filterMap]
    apply List.filterMap_congr
    intro field _
    obtain ⟨k, v⟩ := field
    cases v with
    | none => rfl
    | some v => rfl
  rw [ofFields_eq, ofFields_eq, hpresent]
  exact Entries.insertAll_map (fun k v => if k = key then f v else v) [] (presentFields fields)

/-! ## The two families of events -/

theorem dropField_text (key text : String) :
    dropField (key, some (.string text)) = (key, some (.string text)) := rfl

theorem dropField_optionString (key : String) (text : Option String) :
    dropField (key, some (Json.ofOptionString text)) = (key, text.map .string) := by
  cases text <;> rfl

/-- A field that `skip_serializing_if` has already left out. -/
theorem dropField_skipped (key : String) (text : Option String) :
    dropField (key, text.map .string) = (key, text.map .string) := by
  cases text <;> rfl

theorem dropField_optionNat (key : String) (n : Option Nat) :
    dropField (key, some (Json.ofOptionNat n)) = (key, n.map fun n => .number (.posInt n)) := by
  cases n <;> rfl

theorem dropField_float (key : String) {f : Float} (hf : f.isFinite = true) :
    dropField (key, some (Json.ofFloat f)) = (key, some (Json.ofFloat f)) := by
  rw [Json.ofFloat, if_pos hf]
  rfl

theorem dropField_optionFloat (key : String) {f : Option Float}
    (hf : ∀ x, f = some x → x.isFinite = true) :
    dropField (key, some (Json.ofOptionFloat f)) = (key, f.map Json.ofFloat) := by
  cases f with
  | none => rfl
  | some x => exact dropField_float key (hf x rfl)

/-- The durations of an event are numbers. -/
def PlatformEventLog.HasFiniteDurations : PlatformEventLog → Prop
  | .start _ _ => True
  | .runtimeDone _ _ _ _ _ metrics => ∀ x, metrics.durationMs = some x → x.isFinite = true
  | .report _ _ _ _ metrics =>
    metrics.durationMs.isFinite = true ∧
      (∀ x, metrics.initDurationMs = some x → x.isFinite = true) ∧
      ∀ x, metrics.restoreDurationMs = some x → x.isFinite = true

/-- Of a list of fields, those that are not default values. -/
theorem ofFields_compact {fields compact : List (String × Option Json)}
    (hn : (fields.map Prod.fst).Nodup) (hfields : fields.map dropField = compact) :
    Json.ofFields compact = dropDefaultFields (Json.ofFields fields) := by
  rw [← hfields, ofFields_dropField hn]

theorem changeField_ne {key k : String} (h : k ≠ key) (f : Json → Json) (v : Option Json) :
    changeField key f (k, v) = (k, v) := by
  cases v with
  | none => rfl
  | some v =>
    simp only [changeField, Option.map_some]
    rw [if_neg h]

/-- The metrics lose their default values, and stay. -/
theorem dropField_metrics (o : List (String × Json)) :
    dropField (changeField "metrics" (onFields dropDefaultFields) ("metrics", some (.object o))) =
      ("metrics", some (.object (dropDefaultFields o))) := rfl

/-- The metrics of the compact log. -/
def RuntimeDoneLogMetrics.toV2 (metrics : RuntimeDoneLogMetrics) : RuntimeDoneLogMetricsV2 :=
  ⟨metrics.durationMs, metrics.producedBytes⟩

/-- The metrics of the compact log. -/
def ReportLogMetrics.toV2 (metrics : ReportLogMetrics) : ReportLogMetricsV2 :=
  ⟨metrics.durationMs, metrics.billedDurationMs, metrics.memorySizeMb, metrics.maxMemoryUsedMb,
    metrics.initDurationMs, metrics.restoreDurationMs, metrics.producedBytes⟩

/-- The event of the compact log. -/
def PlatformEventLog.toV2 : PlatformEventLog → PlatformEventLogV2
  | .start requestId version => .start requestId version
  | .runtimeDone requestId awsStatus awsErrorType handlerStatus handlerStatusDescription metrics =>
    .runtimeDone requestId awsStatus awsErrorType handlerStatus handlerStatusDescription metrics.toV2
  | .report requestId status errorType outOfMemory metrics =>
    .report requestId status errorType outOfMemory metrics.toV2

theorem runtimeDoneLogMetrics_compact {metrics : RuntimeDoneLogMetrics}
    (hduration : ∀ x, metrics.durationMs = some x → x.isFinite = true) :
    dropField (changeField "metrics" (onFields dropDefaultFields)
        ("metrics", some metrics.toValue)) = ("metrics", some metrics.toV2.toValue) := by
  have hfields := @ofFields_compact [
      ("duration_ms", some (Json.ofOptionFloat metrics.durationMs)),
      ("produced_bytes", some (Json.ofOptionNat metrics.producedBytes))] _
    (show ["duration_ms", "produced_bytes"].Nodup by decide) rfl
  simp only [List.map_cons, List.map_nil, dropField_optionFloat _ hduration,
    dropField_optionNat] at hfields
  unfold RuntimeDoneLogMetrics.toValue RuntimeDoneLogMetricsV2.toValue
  rw [dropField_metrics, ← hfields]
  rfl

theorem reportLogMetrics_compact {metrics : ReportLogMetrics}
    (hduration : metrics.durationMs.isFinite = true)
    (hinit : ∀ x, metrics.initDurationMs = some x → x.isFinite = true)
    (hrestore : ∀ x, metrics.restoreDurationMs = some x → x.isFinite = true) :
    dropField (changeField "metrics" (onFields dropDefaultFields)
        ("metrics", some metrics.toValue)) = ("metrics", some metrics.toV2.toValue) := by
  have hfields := @ofFields_compact [
      ("duration_ms", some (Json.ofFloat metrics.durationMs)),
      ("billed_duration_ms", some (.number (.posInt metrics.billedDurationMs))),
      ("memory_size_mb", some (.number (.posInt metrics.memorySizeMb))),
      ("max_memory_used_mb", some (.number (.posInt metrics.maxMemoryUsedMb))),
      ("init_duration_ms", some (Json.ofOptionFloat metrics.initDurationMs)),
      ("restore_duration_ms", some (Json.ofOptionFloat metrics.restoreDurationMs)),
      ("produced_bytes", some (Json.ofOptionNat metrics.producedBytes))] _
    (show ["duration_ms", "billed_duration_ms", "memory_size_mb", "max_memory_used_mb",
      "init_duration_ms", "restore_duration_ms", "produced_bytes"].Nodup by decide) rfl
  have hnat (key : String) (n : Nat) : dropField (key, some (.number (.posInt n))) =
      (key, some (.number (.posInt n))) := rfl
  simp only [List.map_cons, List.map_nil, dropField_float _ hduration, hnat,
    dropField_optionFloat _ hinit, dropField_optionFloat _ hrestore, dropField_optionNat]
    at hfields
  unfold ReportLogMetrics.toValue ReportLogMetricsV2.toValue
  rw [dropField_metrics, ← hfields]
  rfl

theorem dropField_outOfMemory (outOfMemory : Bool) :
    dropField ("out_of_memory", some (.bool outOfMemory)) =
      ("out_of_memory", if isFalse outOfMemory then none else some (.bool outOfMemory)) := by
  cases outOfMemory <;> rfl

/-- The fields of the compact log are those of the full one, without the default values of the
event. -/
theorem toV2_toFields {event : PlatformEventLog} (hevent : event.HasFiniteDurations) :
    event.toV2.toFields = event.toFields.map (changeField "event" (onFields compactFields)) := by
  have changed (tag : String) {fields compact : List (String × Option Json)}
      (hn : (fields.map Prod.fst).Nodup)
      (hfields : (fields.map (changeField "metrics" (onFields dropDefaultFields))).map dropField =
        compact) :
      [("platform_event_type", some (Json.string tag)),
        ("event", some (.object (Json.ofFields compact)))] =
      [("platform_event_type", some (Json.string tag)),
        ("event", some (.object (Json.ofFields fields)))].map
          (changeField "event" (onFields compactFields)) := by
    have hkeys : (fields.map (changeField "metrics" (onFields dropDefaultFields))).map Prod.fst =
        fields.map Prod.fst := by
      rw [List.map_map]
      rfl
    rw [ofFields_compact (hkeys ▸ hn) hfields, ofFields_changeField]
    rfl
  cases event with
  | start requestId version =>
    refine changed "start" (show ["request_id", "version"].Nodup by decide) ?_
    simp only [List.map_cons, List.map_nil, changeField_ne, ne_eq, String.reduceEq,
      not_false_eq_true, dropField_skipped, dropField_optionString]
  | runtimeDone requestId awsStatus awsErrorType handlerStatus description metrics =>
    refine changed "runtime_done" (show ["request_id", "aws_status", "aws_error_type",
      "handler_status", "handler_status_description", "metrics"].Nodup by decide) ?_
    have hmetrics := runtimeDoneLogMetrics_compact hevent
    simp only [List.map_cons, List.map_nil, changeField_ne, ne_eq, String.reduceEq,
      not_false_eq_true, dropField_skipped, dropField_optionString, dropField_text, hmetrics]
  | report requestId status errorType outOfMemory metrics =>
    obtain ⟨hduration, hinit, hrestore⟩ := hevent
    refine changed "report" (show ["request_id", "status", "error_type", "out_of_memory",
      "metrics"].Nodup by decide) ?_
    have hmetrics := reportLogMetrics_compact hduration hinit hrestore
    simp only [List.map_cons, List.map_nil, changeField_ne, ne_eq, String.reduceEq,
      not_false_eq_true, dropField_skipped, dropField_optionString, dropField_text,
      dropField_outOfMemory, hmetrics]

/-! ## The logs -/

/-- What a platform log is made from. -/
inductive PlatformLogData where
  | start (data : PlatformStartData)
  | runtimeDone (data : PlatformRuntimeDoneData)
      (handlerStatus handlerStatusDescription : Option String)
  | report (data : PlatformReportData)

namespace PlatformLogData

/-- The function that makes the log. -/
def makeLog {S : Type} [ProcessingState S] (config : TelemetryProcessorConfig) (state : S) :
    PlatformLogData → LogRecord × S
  | start data => makePlatformStartLog config state data
  | runtimeDone data handlerStatus handlerStatusDescription =>
    makePlatformRuntimeDoneLog config state data handlerStatus handlerStatusDescription
  | report data => makePlatformReportLog config state data

/-- The durations are numbers. -/
def HasFiniteDurations : PlatformLogData → Prop
  | start _ => True
  | runtimeDone data _ _ => ∀ m, data.metrics = some m → m.durationMs.isFinite = true
  | report data =>
    data.metrics.durationMs.isFinite = true ∧
      (∀ x, data.metrics.initDurationMs = some x → x.isFinite = true) ∧
      ∀ x, data.metrics.restoreDurationMs = some x → x.isFinite = true

end PlatformLogData

/-- The configuration, with this setting of `hide_default_values`. -/
def TelemetryProcessorConfig.hiding (config : TelemetryProcessorConfig)
    (hideDefaultValues : Bool) : TelemetryProcessorConfig :=
  { config with platformLogs := { config.platformLogs with hideDefaultValues } }

theorem makePlatformLogRecord_compact {event : PlatformEventLog} (hevent : event.HasFiniteDurations)
    (severity : SeverityNumber) (metadata : Option LogMetadata) (timestamp : Nat)
    (spanRef : SpanRef) (source : LogSource) :
    makePlatformLogRecordV2 event.toV2 severity metadata timestamp spanRef source =
      { makePlatformLogRecord event severity metadata timestamp spanRef source with
        body := compactBody
          (makePlatformLogRecord event severity metadata timestamp spanRef source).body } := by
  have hmetadata : changeField "event" (onFields compactFields)
      ("cx_metadata", metadata.map LogMetadata.toValue) =
        ("cx_metadata", metadata.map LogMetadata.toValue) := changeField_ne (by decide) _ _
  have hfields : Json.ofFields (("cx_metadata", metadata.map LogMetadata.toValue) ::
        event.toV2.toFields) =
      onField "event" (onFields compactFields)
        (Json.ofFields (("cx_metadata", metadata.map LogMetadata.toValue) :: event.toFields)) := by
    rw [← ofFields_changeField, List.map_cons, hmetadata, toV2_toFields hevent]
  simp only [makePlatformLogRecord, makePlatformLogRecordV2, platformLogRecord, hfields,
    compactBody_fromJson]

/-- A compact platform log is the full one without the default values of its event, for durations
that are numbers. -/
theorem compact_log_agrees {S : Type} [ProcessingState S] {data : PlatformLogData}
    (hdata : data.HasFiniteDurations) (config : TelemetryProcessorConfig) (state : S) :
    AgreesCompactly (data.makeLog (config.hiding false) state)
      (data.makeLog (config.hiding true) state) := by
  cases data with
  | start data =>
    refine ⟨@makePlatformLogRecord_compact (.start _ _) ?_ _ _ _ _ _, rfl⟩
    exact trivial
  | runtimeDone data handlerStatus handlerStatusDescription =>
    refine ⟨@makePlatformLogRecord_compact (.runtimeDone _ _ _ _ _ ⟨_, _⟩) ?_ _ _ _ _ _, rfl⟩
    intro x hx
    obtain ⟨m, hm, rfl⟩ := Option.map_eq_some_iff.1 hx
    exact hdata m hm
  | report data =>
    refine ⟨@makePlatformLogRecord_compact (.report _ _ _ _ ⟨_, _, _, _, _, _, _⟩) ?_ _ _ _ _ _, rfl⟩
    exact hdata

/-- A report with this duration. -/
def reportOfDuration (durationMs : Float) : PlatformLogData :=
  .report ⟨0, "r", .success, none, ⟨durationMs, 1, 128, 64, none, none⟩, [], none⟩

/-- A state without events. -/
def emptyDegradedState : DegradedProcessingState :=
  { functionContext := sampleContext, traceId := [], spanId := [] }

theorem compact_log_agrees_report :
    AgreesCompactly
      ((reportOfDuration 1.5).makeLog
        ((sampleConfig .lowOverhead .disabled).processorConfig.hiding false) emptyDegradedState)
      ((reportOfDuration 1.5).makeLog
        ((sampleConfig .lowOverhead .disabled).processorConfig.hiding true) emptyDegradedState) := by
  have hdata : (reportOfDuration 1.5).HasFiniteDurations := by
    refine ⟨by decide +kernel, ?_, ?_⟩
    · intro x hx
      cases hx
    · intro x hx
      cases hx
  exact compact_log_agrees hdata _ _

/-- The value of a key. -/
def valueOf (key : String) : AnyValue → Option AnyValue
  | ⟨some (.kvlistValue entries)⟩ => (entries.find? fun e => e.key = key).bind (·.value)
  | _ => none

/-- The metrics of the event have a duration, or `null` for it. -/
def hasDuration (body : Option AnyValue) : Bool :=
  (((body.bind (valueOf "event")).bind (valueOf "metrics")).bind (valueOf "duration_ms")).isSome

/-- A duration that is not a number is `null`, and the compact log keeps it. -/
theorem compact_log_keeps_nan :
    ¬ AgreesCompactly
      ((reportOfDuration (0.0 / 0.0)).makeLog
        ((sampleConfig .lowOverhead .disabled).processorConfig.hiding false) emptyDegradedState)
      ((reportOfDuration (0.0 / 0.0)).makeLog
        ((sampleConfig .lowOverhead .disabled).processorConfig.hiding true) emptyDegradedState) := by
  rintro ⟨hrecord, -⟩
  have hsome : hasDuration ((reportOfDuration (0.0 / 0.0)).makeLog
      ((sampleConfig .lowOverhead .disabled).processorConfig.hiding true)
        emptyDegradedState).1.body = true := by decide +kernel
  have hnone : hasDuration (compactBody ((reportOfDuration (0.0 / 0.0)).makeLog
      ((sampleConfig .lowOverhead .disabled).processorConfig.hiding false)
        emptyDegradedState).1.body) = false := by decide +kernel
  rw [hrecord, hnone] at hsome
  cases hsome

end TelemetryExporter
