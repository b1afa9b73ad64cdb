import TelemetryExporter.Model.Lowercase
import TelemetryExporter.Model.State

/-!
# Making log records

`epsagon_trace_processor.rs`, `log_maker.rs` and `log_processor.rs`. The bodies are built as
`serde_json::to_value` builds them: the struct's fields in declaration order, with a flattened field
expanded in place, inserted one after the other into a map. None of the serialized types has a case
in which serialization fails, so the `Result` of `to_value` is left out.
-/

namespace TelemetryExporter

/-! ## `epsagon_trace_processor.rs` -/

/-- `EpsagonTraceDetectionResult`. -/
inductive EpsagonTraceDetectionResult where
  | regularLog (logText : String)
  | epsagonTraceJson (trace : String)

/-- `EPSAGON_TRACE_PREFIX`. -/
def epsagonTracePrefix : String := "EPSAGON_TRACE: "

/-- `decode_base64_to_string`, with `none` for its errors. -/
def decodeBase64ToString [External] (base64String : String) : Option String :=
  (External.base64Decode (trim base64String)).bind fun bytes =>
    String.fromUTF8? ⟨bytes.toArray⟩

/-- `detect_epsagon_trace`. -/
def detectEpsagonTrace [External] (logText : String) : EpsagonTraceDetectionResult :=
  match stripPrefix logText epsagonTracePrefix with
  | some base64String =>
    match decodeBase64ToString (trim base64String) with
    | some traceString => .epsagonTraceJson traceString
    | none => .regularLog logText
  | none => .regularLog logText

/-! ## `serde_json::to_value` -/

namespace Json

/-- A struct or map: the entries that are not skipped, inserted in order. -/
def ofFields (fields : List (String × Option Json)) : List (String × Json) :=
  fields.foldl (fun m (k, v) => match v with | some v => insertEntry k v m | none => m) []

/-- An `Option<String>` that is not skipped. -/
def ofOptionString : Option String → Json
  | some s => .string s
  | none => .null

/-- An `f64`: JSON has no infinities and no NaN. -/
def ofFloat (f : Float) : Json := if f.isFinite then .number (.float f) else .null

/-- An `Option<f64>` that is not skipped. -/
def ofOptionFloat : Option Float → Json
  | some f => ofFloat f
  | none => .null

/-- An `Option<u64>` that is not skipped. -/
def ofOptionNat : Option Nat → Json
  | some n => .number (.posInt n)
  | none => .null

/-- A `HashMap<String, String>`. -/
def ofStringMap (entries : List (String × String)) : Json :=
  .object (ofFields (entries.map fun (k, v) => (k, some (.string v))))

end Json

/-- `LogMetadata`. -/
structure LogMetadata where
  traceId : Option String
  spanId : Option String
  cloudProvider : Option String
  cloudAccountId : Option String
  cloudRegion : Option String
  faasName : Option String
  faasId : Option String
  faasInstanceCxId : Option String
  faasExecution : Option String
  faasInvocationId : Option String
  extraAttributes : List (String × String)
  tags : Option (List (String × String))

/-- `LogMetadata` as JSON. -/
def LogMetadata.toValue (m : LogMetadata) : Json :=
  .object (Json.ofFields (
    [("trace_id", m.traceId.map .string),
     ("span_id", m.spanId.map .string),
     ("cloud_provider", m.cloudProvider.map .string),
     ("cloud_account_id", m.cloudAccountId.map .string),
     ("cloud_region", m.cloudRegion.map .string),
     ("faas_name", m.faasName.map .string),
     ("faas_id", m.faasId.map .string),
     ("faas_instance_cx_id", m.faasInstanceCxId.map .string),
     ("faas_execution", m.faasExecution.map .string),
     ("faas_invocation_id", m.faasInvocationId.map .string)] ++
    m.extraAttributes.map (fun (k, v) => (k, some (.string v))) ++
    [("tags", m.tags.map Json.ofStringMap)]))

/-- `RuntimeDoneLogMetrics`. -/
structure RuntimeDoneLogMetrics where
  durationMs : Option Float
  producedBytes : Option Nat

/-- `RuntimeDoneLogMetrics` as JSON. -/
def RuntimeDoneLogMetrics.toValue (m : RuntimeDoneLogMetrics) : Json :=
  .object (Json.ofFields
    [("duration_ms", some (Json.ofOptionFloat m.durationMs)),
     ("produced_bytes", some (Json.ofOptionNat m.producedBytes))])

/-- `ReportLogMetrics`. -/
structure ReportLogMetrics where
  durationMs : Float
  billedDurationMs : Nat
  memorySizeMb : Nat
  maxMemoryUsedMb : Nat
  initDurationMs : Option Float
  restoreDurationMs : Option Float
  producedBytes : Option Nat

/-- `ReportLogMetrics` as JSON. -/
def ReportLogMetrics.toValue (m : ReportLogMetrics) : Json :=
  .object (Json.ofFields
    [("duration_ms", some (Json.ofFloat m.durationMs)),
     ("billed_duration_ms", some (.number (.posInt m.billedDurationMs))),
     ("memory_size_mb", some (.number (.posInt m.memorySizeMb))),
     ("max_memory_used_mb", some (.number (.posInt m.maxMemoryUsedMb))),
     ("init_duration_ms", some (Json.ofOptionFloat m.initDurationMs)),
     ("restore_duration_ms", some (Json.ofOptionFloat m.restoreDurationMs)),
     ("produced_bytes", some (Json.ofOptionNat m.producedBytes))])

/-- `PlatformEventLog`. -/
inductive PlatformEventLog where
  | start (requestId version : Option String)
  | runtimeDone (requestId : Option String) (awsStatus : String)
      (awsErrorType handlerStatus handlerStatusDescription : Option String)
      (metrics : RuntimeDoneLogMetrics)
  | report (requestId : Option String) (status : String) (errorType : Option String)
      (outOfMemory : Bool) (metrics : ReportLogMetrics)

/-- `PlatformEventLog` as JSON: its tag and its content. -/
def PlatformEventLog.toFields : PlatformEventLog → List (String × Option Json)
  | .start requestId version =>
    [("platform_event_type", some (.string "start")),
     ("event", some (.object (Json.ofFields
      [("request_id", requestId.map .string),
       ("version", some (Json.ofOptionString version))])))]
  | .runtimeDone requestId awsStatus awsErrorType handlerStatus handlerStatusDescription metrics =>
    [("platform_event_type", some (.string "runtime_done")),
     ("event", some (.object (Json.ofFields
      [("request_id", requestId.map .string),
       ("aws_status", some (.string awsStatus)),
       ("aws_error_type", some (Json.ofOptionString awsErrorType)),
       ("handler_status", some (Json.ofOptionString handlerStatus)),
       ("handler_status_description", some (Json.ofOptionString handlerStatusDescription)),
       ("metrics", some metrics.toValue)])))]
  | .report requestId status errorType outOfMemory metrics =>
    [("platform_event_type", some (.string "report")),
     ("event", some (.object (Json.ofFields
      [("request_id", requestId.map .string),
       ("status", some (.string status)),
       ("error_type", some (Json.ofOptionString errorType)),
       ("out_of_memory", some (.bool outOfMemory)),
       ("metrics", some metrics.toValue)])))]

/-- `is_false`. -/
def isFalse (b : Bool) : Bool := !b

/-- `RuntimeDoneLogMetricsV2`. -/
structure RuntimeDoneLogMetricsV2 where
  durationMs : Option Float
  producedBytes : Option Nat

/-- `RuntimeDoneLogMetricsV2` as JSON: values that are absent are skipped. -/
def RuntimeDoneLogMetricsV2.toValue (m : RuntimeDoneLogMetricsV2) : Json :=
  .object (Json.ofFields
    [("duration_ms", m.durationMs.map Json.ofFloat),
     ("produced_bytes", m.producedBytes.map fun n => .number (.posInt n))])

/-- `ReportLogMetricsV2`. -/
structure ReportLogMetricsV2 where
  durationMs : Float
  billedDurationMs : Nat
  memorySizeMb : Nat
  maxMemoryUsedMb : Nat
  initDurationMs : Option Float
  restoreDurationMs : Option Float
  producedBytes : Option Nat

/-- `ReportLogMetricsV2` as JSON: values that are absent are skipped. -/
def ReportLogMetricsV2.toValue (m : ReportLogMetricsV2) : Json :=
  .object (Json.ofFields
    [("duration_ms", some (Json.ofFloat m.durationMs)),
     ("billed_duration_ms", some (.number (.posInt m.billedDurationMs))),
     ("memory_size_mb", some (.number (.posInt m.memorySizeMb))),
     ("max_memory_used_mb", some (.number (.posInt m.maxMemoryUsedMb))),
     ("init_duration_ms", m.initDurationMs.map Json.ofFloat),
     ("restore_duration_ms", m.restoreDurationMs.map Json.ofFloat),
     ("produced_bytes", m.producedBytes.map fun n => .number (.posInt n))])

/-- `PlatformEventLogV2`. -/
inductive PlatformEventLogV2 where
  | start (requestId version : Option String)
  | runtimeDone (requestId : Option String) (awsStatus : String)
      (awsErrorType handlerStatus handlerStatusDescription : Option String)
      (metrics : RuntimeDoneLogMetricsV2)
  | report (requestId : Option String) (status : String) (errorType : Option String)
      (outOfMemory : Bool) (metrics : ReportLogMetricsV2)

/-- `PlatformEventLogV2` as JSON: values that are absent, and `out_of_memory` when false, are
skipped. -/
def PlatformEventLogV2.toFields : PlatformEventLogV2 → List (String × Option Json)
  | .start requestId version =>
    [("platform_event_type", some (.string "start")),
     ("event", some (.object (Json.ofFields
      [("request_id", requestId.map .string),
       ("version", version.map .string)])))]
  | .runtimeDone requestId awsStatus awsErrorType handlerStatus handlerStatusDescription metrics =>
    [("platform_event_type", some (.string "runtime_done")),
     ("event", some (.object (Json.ofFields
      [("request_id", requestId.map .string),
       ("aws_status", some (.string awsStatus)),
       ("aws_error_type", awsErrorType.map .string),
       ("handler_status", handlerStatus.map .string),
       ("handler_status_description", handlerStatusDescription.map .string),
       ("metrics", some metrics.toValue)])))]
  | .report requestId status errorType outOfMemory metrics =>
    [("platform_event_type", some (.string "report")),
     ("event", some (.object (Json.ofFields
      [("request_id", requestId.map .string),
       ("status", some (.string status)),
       ("error_type", errorType.map .string),
       ("out_of_memory", if isFalse outOfMemory then none else some (.bool outOfMemory)),
       ("metrics", some metrics.toValue)])))]

/-! ## `log_maker.rs` -/

/-- `SeverityNumber as i32`. -/
inductive SeverityNumber where
  | trace
  | debug
  | info
  | warn
  | error
  | fatal
  deriving DecidableEq

/-- The number of a severity. -/
def SeverityNumber.toInt : SeverityNumber → Int
  | trace => 1
  | debug => 5
  | info => 9
  | warn => 13
  | error => 17
  | fatal => 21

/-- `infer_severity`. -/
def inferSeverity (logText : String) : SeverityNumber :=
  let t := lowercase logText
  if containsText t "fatal" || containsText t "critical" then .fatal
  else if containsText t "error" || containsText t "exception" then .error
  else if containsText t "warn" then .warn
  else if containsText t "verbose" || containsText t "trace" then .trace
  else if containsText t "debug" then .debug
  else .info

/-- `str::is_char_boundary`, of the characters of the text. -/
def isCharBoundary : List Char → Nat → Bool
  | _, 0 => true
  | [], _ + 1 => false
  | c :: rest, n + 1 => c.utf8Size ≤ n + 1 && isCharBoundary rest (n + 1 - c.utf8Size)

/-- `&s[..n]` at a boundary. -/
def takeBytes : List Char → Nat → List Char
  | [], _ => []
  | c :: rest, n => if c.utf8Size ≤ n then c :: takeBytes rest (n - c.utf8Size) else []

/-- The loop of `truncate`: the last boundary that is not after `n`. -/
def floorCharBoundary (s : List Char) : Nat → Nat
  | 0 => 0
  | n + 1 => if isCharBoundary s (n + 1) then n + 1 else floorCharBoundary s n

/-- `truncate`. -/
def truncate (s : String) (n : Nat) : String :=
  if s.utf8ByteSize ≤ n then s
  else String.ofList (takeBytes s.toList (floorCharBoundary s.toList n))

/-- `truncate_with_annotation_if_too_long`. -/
def truncateWithAnnotationIfTooLong (logText : String) (messageSizeLimit : Nat) : String :=
  let overflow := asI64 (asI64 logText.utf8ByteSize - asI64 messageSizeLimit)
  if overflow ≤ 0 then logText
  else if overflow < 1000 then
    truncate logText messageSizeLimit ++ "...(" ++ toString overflow ++ "B truncated)..."
  else
    truncate logText messageSizeLimit ++ "...(" ++ toString (overflow / 1000) ++ "kB truncated)..."

/-- `make_function_log_record`. -/
def makeFunctionLogRecord [External] (messageSizeLimit : Nat) (logText : String)
    (metadata : Option LogMetadata) (timestamp : Nat) (spanRef : SpanRef) (source : LogSource) :
    LogRecord :=
  let logText := truncateWithAnnotationIfTooLong logText messageSizeLimit
  let severity := inferSeverity logText
  let cxMetadata := ("cx_metadata", metadata.map LogMetadata.toValue)
  let body : AnyValue :=
    match External.jsonFromStr logText with
    | some (.object json) =>
      -- the user's own `cx_metadata` is inserted after the exporter's
      .fromJson (.object (Json.ofFields (cxMetadata :: json.map fun (k, v) => (k, some v))))
    | _ => .fromJson (.object (Json.ofFields [cxMetadata, ("message", some (.string logText))]))
  { timeUnixNano := timestamp
    severityNumber := severity.toInt
    body := some body
    traceId := spanRef.traceId
    spanId := spanRef.spanId
    source }

/-- The record of a platform log whose event is serialized to these fields. -/
def platformLogRecord (fields : List (String × Option Json)) (severity : SeverityNumber)
    (metadata : Option LogMetadata) (timestamp : Nat) (spanRef : SpanRef) (source : LogSource) :
    LogRecord :=
  let cxMetadata := ("cx_metadata", metadata.map LogMetadata.toValue)
  { timeUnixNano := timestamp
    severityNumber := severity.toInt
    body := some (.fromJson (.object (Json.ofFields (cxMetadata :: fields))))
    traceId := spanRef.traceId
    spanId := spanRef.spanId
    source }

/-- `make_platform_log_record`. -/
def makePlatformLogRecord (event : PlatformEventLog) (severity : SeverityNumber)
    (metadata : Option LogMetadata) (timestamp : Nat) (spanRef : SpanRef) (source : LogSource) :
    LogRecord :=
  platformLogRecord event.toFields severity metadata timestamp spanRef source

/-- `make_platform_log_record_v2`. -/
def makePlatformLogRecordV2 (event : PlatformEventLogV2) (severity : SeverityNumber)
    (metadata : Option LogMetadata) (timestamp : Nat) (spanRef : SpanRef) (source : LogSource) :
    LogRecord :=
  platformLogRecord event.toFields severity metadata timestamp spanRef source

/-! ## `log_processor.rs` -/

/-- `make_log_timestamp`. -/
def makeLogTimestamp (state : LastLogState) (timestamp : OffsetDateTime) : Nat × LastLogState :=
  let nanosU64 := if timestamp < 0 then 0 else min timestamp.toNat (UInt64.size - 1)
  if timestamp = state.lastLogTimestamp then
    let lastLogSubindex := (state.lastLogSubindex + 1) % UInt32.size
    (wrappingAdd nanosU64 (min lastLogSubindex 999999), { state with lastLogSubindex })
  else
    (nanosU64, { lastLogTimestamp := timestamp, lastLogSubindex := 0 })

section

variable {S : Type} [ProcessingState S]

open ProcessingState

/-- `log_metadata`. -/
def logMetadata (config : TelemetryProcessorConfig) (state : S) : Option LogMetadata :=
  match config.logsMetadataMode with
  | .disabled => none
  | .enabled c =>
    let spanRef := currentSpanRef state
    let builtIn := config.resourceAttributes.logs.builtIn
    let functionContext := functionContext state
    let arn := functionContext.arn
    some
      { traceId := if c.includeTraceRef then some (hexEncode spanRef.traceId) else none
        spanId := if c.includeTraceRef then some (hexEncode spanRef.spanId) else none
        cloudProvider := if builtIn.cloudProvider then some "aws" else none
        cloudAccountId := if builtIn.cloudAccountId then some arn.accountId else none
        cloudRegion := if builtIn.cloudRegion then some arn.region else none
        faasName := if builtIn.faasName then some arn.functionName else none
        faasId := if builtIn.faasId then some functionContext.versionArn.toText else none
        faasInstanceCxId :=
          if builtIn.faasInstanceCxId then some functionContext.lambdaInstanceCoralogixId else none
        faasExecution := if c.includeExecution then requestId state else none
        faasInvocationId := if c.includeInvocationId then requestId state else none
        extraAttributes := config.resourceAttributes.logs.extra
        tags := functionContext.tags }

/-- `status_to_string`. -/
def statusToString : Status → String
  | .success => "success"
  | .error => "error"
  | .failure => "failure"
  | .timeout => "timeout"

/-- `status_to_severity`. -/
def statusToSeverity (status : Status) : SeverityNumber :=
  if status = .success then .info else .error

/-- `is_out_of_memory`. -/
def isOutOfMemory (reportData : PlatformReportData) : Bool :=
  let explicitlyOomed := reportData.errorType = some "Runtime.OutOfMemory"
  let usedAllMem := reportData.metrics.memorySizeMb ≤ reportData.metrics.maxMemoryUsedMb
  explicitlyOomed || (usedAllMem && reportData.status = .error)

/-- `make_function_log`. -/
def makeFunctionLog [External] (config : TelemetryProcessorConfig) (state : S) (logText : String)
    (time : OffsetDateTime) : LogRecord × S :=
  let (timestamp, lastLogState) := makeLogTimestamp (lastLogState state) time
  (makeFunctionLogRecord config.messageSizeLimit logText (logMetadata config state) timestamp
      (currentSpanRef state) (.function (serial state) logText time),
    setLastLogState state lastLogState)

/-- `make_platform_start_log`. -/
def makePlatformStartLog (config : TelemetryProcessorConfig) (state : S)
    (startData : PlatformStartData) : LogRecord × S :=
  let requestId := if config.platformLogs.includeRequestId then some startData.requestId else none
  let (timestamp, lastLogState) := makeLogTimestamp (lastLogState state) startData.time
  let record :=
    if config.platformLogs.hideDefaultValues then
      let event := PlatformEventLogV2.start requestId startData.version
      makePlatformLogRecordV2 event .info (logMetadata config state) timestamp
        (currentSpanRef state) (.start (serial state))
    else
      let event := PlatformEventLog.start requestId startData.version
      makePlatformLogRecord event .info (logMetadata config state) timestamp
        (currentSpanRef state) (.start (serial state))
  (record, setLastLogState state lastLogState)

/-- `make_platform_runtime_done_log`. -/
def makePlatformRuntimeDoneLog (config : TelemetryProcessorConfig) (state : S)
    (runtimeDoneData : PlatformRuntimeDoneData)
    (handlerStatus handlerStatusDescription : Option String) : LogRecord × S :=
  let requestId :=
    if config.platformLogs.includeRequestId then some runtimeDoneData.requestId else none
  let (timestamp, lastLogState) := makeLogTimestamp (lastLogState state) runtimeDoneData.time
  let record :=
    if config.platformLogs.hideDefaultValues then
      let event := PlatformEventLogV2.runtimeDone requestId (statusToString runtimeDoneData.status)
        runtimeDoneData.errorType handlerStatus handlerStatusDescription
        { durationMs := runtimeDoneData.metrics.map (·.durationMs)
          producedBytes := runtimeDoneData.metrics.bind (·.producedBytes) }
      makePlatformLogRecordV2 event (statusToSeverity runtimeDoneData.status)
        (logMetadata config state) timestamp (currentSpanRef state) (.runtimeDone (serial state))
    else
      let event := PlatformEventLog.runtimeDone requestId (statusToString runtimeDoneData.status)
        runtimeDoneData.errorType handlerStatus handlerStatusDescription
        { durationMs := runtimeDoneData.metrics.map (·.durationMs)
          producedBytes := runtimeDoneData.metrics.bind (·.producedBytes) }
      makePlatformLogRecord event (statusToSeverity runtimeDoneData.status)
        (logMetadata config state) timestamp (currentSpanRef state) (.runtimeDone (serial state))
  (record, setLastLogState state lastLogState)

/-- `make_platform_report_log`. -/
def makePlatformReportLog (config : TelemetryProcessorConfig) (state : S)
    (reportData : PlatformReportData) : LogRecord × S :=
  let outOfMemory := isOutOfMemory reportData
  let requestId := if config.platformLogs.includeRequestId then some reportData.requestId else none
  let severity := statusToSeverity reportData.status
  let (timestamp, lastLogState) := makeLogTimestamp (lastLogState state) reportData.time
  let record :=
    if config.platformLogs.hideDefaultValues then
      let event := PlatformEventLogV2.report requestId (statusToString reportData.status)
        reportData.errorType outOfMemory
        { durationMs := reportData.metrics.durationMs
          billedDurationMs := reportData.metrics.billedDurationMs
          memorySizeMb := reportData.metrics.memorySizeMb
          maxMemoryUsedMb := reportData.metrics.maxMemoryUsedMb
          initDurationMs := reportData.metrics.initDurationMs
          restoreDurationMs := reportData.metrics.restoreDurationMs
          producedBytes := ((getRuntimeDoneData state).bind (·.metrics)).bind (·.producedBytes) }
      makePlatformLogRecordV2 event severity (logMetadata config state) timestamp
        (currentSpanRef state) (.report (serial state))
    else
      let event := PlatformEventLog.report requestId (statusToString reportData.status)
        reportData.errorType outOfMemory
        { durationMs := reportData.metrics.durationMs
          billedDurationMs := reportData.metrics.billedDurationMs
          memorySizeMb := reportData.metrics.memorySizeMb
          maxMemoryUsedMb := reportData.metrics.maxMemoryUsedMb
          initDurationMs := reportData.metrics.initDurationMs
          restoreDurationMs := reportData.metrics.restoreDurationMs
          producedBytes := ((getRuntimeDoneData state).bind (·.metrics)).bind (·.producedBytes) }
      makePlatformLogRecord event severity (logMetadata config state) timestamp
        (currentSpanRef state) (.report (serial state))
  (record, setLastLogState state lastLogState)

end

end TelemetryExporter
