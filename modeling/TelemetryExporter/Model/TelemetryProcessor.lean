import TelemetryExporter.Model.PlatformMetrics
import TelemetryExporter.Model.SpanProcessor

/-!
# Processing one event

`telemetry_processor.rs`. What the source passes by mutable reference is the structure `Processing`
here. The only error these functions return is that of `event_timestamp`, before anything has been
changed: serialization does not fail (see `LogProcessor`), so a `?` on a log maker is left out.
-/

namespace TelemetryExporter

/-- What `process_telemetry` and `process_function_spans` have by mutable reference: the state `S`
and what all states share. -/
structure Processing (S : Type) where
  state : S
  metricsState : PlatformMetricsState
  outputBuffers : OutputBuffers
  rng : Rng

namespace Processing

variable {S : Type}

/-- `output_buffers.logs_buffer.push(make_log(state))`, for a log maker that updates the state. -/
def pushLog (p : Processing S) (makeLog : S → LogRecord × S) : Processing S :=
  let (log, state) := makeLog p.state
  { p with
    state
    outputBuffers := { p.outputBuffers with logsBuffer := p.outputBuffers.logsBuffer ++ [log] } }

/-- `output_buffers.epsagon_traces_buffer.push(trace)`. -/
def pushEpsagonTrace (p : Processing S) (trace : String) : Processing S :=
  { p with
    outputBuffers :=
      { p.outputBuffers with
        epsagonTracesBuffer := p.outputBuffers.epsagonTracesBuffer ++ [trace] } }

/-- `output_buffers.spans_buffer.append(&mut new_spans)`. -/
def appendSpans (p : Processing S) (newSpans : List Span) : Processing S :=
  { p with
    outputBuffers :=
      { p.outputBuffers with spansBuffer := p.outputBuffers.spansBuffer ++ newSpans } }

end Processing

section

variable [External]

/-- The loop `for log in take(&mut state.logs)`. -/
def pushFunctionLogs (config : TelemetryProcessorConfig) (logs : List RawFunctionLog)
    (p : Processing InvocationProcessingState) : Processing InvocationProcessingState :=
  logs.foldl (fun p log => p.pushLog fun s => makeFunctionLog config s log.logText log.time) p

/-- `for log in take(&mut state.logs)`. -/
def takeLogs (config : TelemetryProcessorConfig) (p : Processing InvocationProcessingState) :
    Processing InvocationProcessingState :=
  pushFunctionLogs config p.state.logs { p with state := { p.state with logs := [] } }

/-- `process_delayed_logs`. -/
def processDelayedLogs (config : TelemetryProcessorConfig)
    (p : Processing InvocationProcessingState) : Processing InvocationProcessingState :=
  let p :=
    match p.state.startData with
    | some startData =>
      if config.platformLogSet.start then p.pushLog fun s => makePlatformStartLog config s startData
      else p
    | none => p
  takeLogs config p

/-- The branch `Function(log_text)` of `process_telemetry`. -/
def processFunctionLog (config : TelemetryProcessorConfig) (logText : String) (time : OffsetDateTime)
    (p : Processing InvocationProcessingState) : Processing InvocationProcessingState :=
  if config.logMode = .structured then
    match detectEpsagonTrace logText with
    | .epsagonTraceJson trace => p.pushEpsagonTrace trace
    | .regularLog logText =>
      if p.state.delayingLogs then
        { p with state := { p.state with logs := p.state.logs ++ [{ logText, time }] } }
      else p.pushLog fun s => makeFunctionLog config s logText time
  else p

/-- The branch `PlatformInitReport` of `process_telemetry`. -/
def processInitReport (initReportData : PlatformInitReportData)
    (p : Processing InvocationProcessingState) : Processing InvocationProcessingState :=
  { p with
    state := { p.state with initReportData := some initReportData }
    metricsState :=
      match p.metricsState with
      | .v2 m => .v2 (V2.updateMetricsWithInitReport m initReportData)
      | m => m }

/-- The branch `PlatformStart` of `process_telemetry`. -/
def processPlatformStart (config : TelemetryProcessorConfig) (startData : PlatformStartData)
    (p : Processing InvocationProcessingState) : Processing InvocationProcessingState :=
  let p :=
    if config.logMode = .structured ∧ config.platformLogSet.start ∧ ¬ p.state.delayingLogs then
      p.pushLog fun s => makePlatformStartLog config s startData
    else p
  { p with state := { p.state with startData := some startData } }

/-- The spans that `process_telemetry` emits after `PlatformRuntimeDone`. -/
def emitSpansAfterRuntimeDone (config : TelemetryProcessorConfig)
    (p : Processing InvocationProcessingState) : Processing InvocationProcessingState :=
  if p.state.tracingState.shouldProduceSpans then
    match config.tracingMode with
    | .otelInstrumentation =>
      ({ p with
         outputBuffers := p.outputBuffers.addFunctionScopeSpans
           (emitTriggerAndInvocationSpans p.state) } : Processing _).appendSpans
        (makeSpansAfterInvocationInOtelMode p.state)
    | .telemetryApi => p.appendSpans (makeSpansAfterInvocation p.state)
    | .disabled => p
  else p

/-- The runtime is done, so `process_telemetry` gives up on waiting for the invocation span. -/
def stopDelayingLogs (config : TelemetryProcessorConfig)
    (p : Processing InvocationProcessingState) : Processing InvocationProcessingState :=
  if config.logMode = .structured ∧ p.state.delayingLogs then
    processDelayedLogs config { p with state := { p.state with delayingLogs := false } }
  else p

/-- The log of `PlatformRuntimeDone`, with the handler's status if the invocation span has one. -/
def pushRuntimeDoneLog (config : TelemetryProcessorConfig) (runtimeDoneData : PlatformRuntimeDoneData)
    (p : Processing InvocationProcessingState) : Processing InvocationProcessingState :=
  let status :=
    (p.state.invocationSpan.bind (·.status)).filter fun status => status.code = statusCodeError
  let handlerStatus := status.map fun _ => "error"
  let handlerStatusDescription := status.map (·.message)
  if config.logMode = .structured ∧ config.platformLogSet.runtimeDone then
    p.pushLog fun s =>
      makePlatformRuntimeDoneLog config s runtimeDoneData handlerStatus handlerStatusDescription
  else p

/-- The updates of the metrics and of the state by `PlatformRuntimeDone`. -/
def setRuntimeDoneData (runtimeDoneData : PlatformRuntimeDoneData)
    (p : Processing InvocationProcessingState) : Processing InvocationProcessingState :=
  { p with
    state := { p.state with runtimeDoneData := some runtimeDoneData }
    metricsState :=
      match p.metricsState with
      | .v2 m => .v2 (V2.updateMetricsWithRuntimeDone m runtimeDoneData)
      | m => m }

/-- The branch `PlatformRuntimeDone` of `process_telemetry`. -/
def processRuntimeDone (config : TelemetryProcessorConfig)
    (runtimeDoneData : PlatformRuntimeDoneData) (p : Processing InvocationProcessingState) :
    Processing InvocationProcessingState :=
  let p := stopDelayingLogs config p
  let p := pushRuntimeDoneLog config runtimeDoneData p
  let p := setRuntimeDoneData runtimeDoneData p
  emitSpansAfterRuntimeDone config p

/-- `if let PlatformMetricsState::V2(..)` after a report. -/
def updateV2WithReport (reportData : PlatformReportData) :
    PlatformMetricsState → PlatformMetricsState
  | .v2 m => .v2 (V2.updateMetricsWithReport m reportData)
  | m => m

/-- `if let PlatformMetricsState::V1(..)` after a report. -/
def updateV1AfterReport {S : Type} [ProcessingState S] (state : S) :
    PlatformMetricsState → PlatformMetricsState
  | .v1 m => .v1 (V1.updateMetricsAfterReport m state)
  | m => m

/-- The logs of `PlatformReport`: those of background tasks that kept running after the handler
returned, then the report's own. -/
def pushReportLogs (config : TelemetryProcessorConfig) (reportData : PlatformReportData)
    (p : Processing InvocationProcessingState) : Processing InvocationProcessingState :=
  if config.logMode = .structured then
    let p := takeLogs config p
    if config.platformLogSet.report then p.pushLog fun s => makePlatformReportLog config s reportData
    else p
  else p

/-- The updates of the metrics and of the state by `PlatformReport`. -/
def setReportData (reportData : PlatformReportData) (p : Processing InvocationProcessingState) :
    Processing InvocationProcessingState :=
  { p with
    state := { p.state with reportData := some reportData }
    metricsState := updateV2WithReport reportData p.metricsState }

/-- The spans that `process_telemetry` emits after `PlatformReport`. -/
def emitSpansAfterReport (config : TelemetryProcessorConfig)
    (p : Processing InvocationProcessingState) : Processing InvocationProcessingState :=
  if p.state.tracingState.shouldProduceSpans ∧ config.tracingMode = .telemetryApi then
    p.appendSpans (makeSpansAfterReport p.state)
  else p

/-- The branch `PlatformReport` of `process_telemetry`. -/
def processReport (config : TelemetryProcessorConfig) (reportData : PlatformReportData)
    (p : Processing InvocationProcessingState) : Processing InvocationProcessingState :=
  let p := pushReportLogs config reportData p
  let p := setReportData reportData p
  let p := emitSpansAfterReport config p
  { p with metricsState := updateV1AfterReport p.state p.metricsState }

/-- The `match event.record` of `process_telemetry`. -/
def processRecord (config : TelemetryProcessorConfig) (time : OffsetDateTime)
    (record : LambdaTelemetryRecord) (p : Processing InvocationProcessingState) :
    Processing InvocationProcessingState :=
  match record with
  | .function logText => processFunctionLog config logText time p
  | .extension _ => p
  | .platformInitStart initializationType phase runtimeVersion runtimeVersionArn =>
    let (initSpanId, rng) := randomSpanId p.rng
    { p with
      rng
      state :=
        { p.state with
          initSpanId := some initSpanId
          initStartData :=
            some { time, initializationType, phase, runtimeVersion, runtimeVersionArn } } }
  | .platformInitRuntimeDone initializationType phase status errorType spans =>
    { p with
      state :=
        { p.state with
          initRuntimeDoneData :=
            some { time, initializationType, phase, status, errorType, spans } } }
  | .platformInitReport initializationType phase metrics spans =>
    processInitReport { time, initializationType, phase, metrics, spans } p
  | .platformStart requestId version tracing =>
    processPlatformStart config { time, requestId, version, tracing } p
  | .platformRuntimeDone requestId status errorType metrics spans tracing =>
    processRuntimeDone config { time, requestId, status, errorType, metrics, spans, tracing } p
  | .platformReport requestId status errorType metrics spans tracing =>
    processReport config { time, requestId, status, errorType, metrics, spans, tracing } p
  | .platformExtension => p
  | .platformTelemetrySubscription => p
  | .platformLogsDropped => p

/-- `process_telemetry`. -/
def processTelemetry (config : TelemetryProcessorConfig) (event : LambdaTelemetry)
    (p : Processing InvocationProcessingState) :
    Except Error (Processing InvocationProcessingState) :=
  match eventTimestamp event with
  | .error e => .error e
  | .ok time => .ok (processRecord config time event.record p)

/-! ## Degraded mode -/

/-- The `match event.record` of `process_telemetry_in_degraded_mode`. -/
def processRecordInDegradedMode (config : TelemetryProcessorConfig) (time : OffsetDateTime)
    (record : LambdaTelemetryRecord) (p : Processing DegradedProcessingState) :
    Processing DegradedProcessingState :=
  match record with
  | .function logText =>
    if config.logMode = .structured then
      match detectEpsagonTrace logText with
      | .epsagonTraceJson trace => p.pushEpsagonTrace trace
      | .regularLog logText => p.pushLog fun s => makeFunctionLog config s logText time
    else p
  | .platformInitRuntimeDone initializationType phase status errorType spans =>
    { p with
      state :=
        { p.state with
          initRuntimeDoneData :=
            some { time, initializationType, phase, status, errorType, spans } } }
  | .platformInitReport initializationType phase metrics spans =>
    let p :=
      { p with
        state :=
          { p.state with initReportData := some { time, initializationType, phase, metrics, spans } } }
    if config.tracingMode ≠ .disabled then p.appendSpans (makeDegradedSpansAfterInit p.state) else p
  | .platformStart requestId version tracing =>
    if config.logMode = .structured ∧ config.platformLogSet.start then
      p.pushLog fun s => makePlatformStartLog config s { time, requestId, version, tracing }
    else p
  | .platformRuntimeDone requestId status errorType metrics spans tracing =>
    -- unlike `process_telemetry`, neither the state nor the metrics keep the event
    if config.logMode = .structured ∧ config.platformLogSet.runtimeDone then
      p.pushLog fun s =>
        makePlatformRuntimeDoneLog config s
          { time, requestId, status, errorType, metrics, spans, tracing } none none
    else p
  | .platformReport requestId status errorType metrics spans tracing =>
    let reportData : PlatformReportData :=
      { time, requestId, status, errorType, metrics, spans, tracing }
    let p :=
      if config.logMode = .structured ∧ config.platformLogSet.report then
        p.pushLog fun s => makePlatformReportLog config s reportData
      else p
    let state := { p.state with reportData := some reportData }
    { p with
      state
      metricsState := updateV1AfterReport state (updateV2WithReport reportData p.metricsState) }
  | .extension _ => p
  | .platformInitStart .. => p
  | .platformExtension => p
  | .platformTelemetrySubscription => p
  | .platformLogsDropped => p

/-- `process_telemetry_in_degraded_mode`. -/
def processTelemetryInDegradedMode (config : TelemetryProcessorConfig) (event : LambdaTelemetry)
    (p : Processing DegradedProcessingState) : Except Error (Processing DegradedProcessingState) :=
  match eventTimestamp event with
  | .error e => .error e
  | .ok time => .ok (processRecordInDegradedMode config time event.record p)

/-! ## Spans of the function -/

/-- The invocation span's ids are known, so the buffered logs can be emitted: the last part of
`telemetry_processor::process_function_spans`. -/
def emitLogsOfEarlySpan (config : TelemetryProcessorConfig)
    (p : Processing InvocationProcessingState) : Processing InvocationProcessingState :=
  if config.logMode = .structured ∧ p.state.delayingLogs ∧
      p.state.tracingState.cxEarlyInvocationSpan.isSome then
    processDelayedLogs config { p with state := { p.state with delayingLogs := false } }
  else p

/-- The spans that `process_function_spans` does not capture. -/
def forwardSpans (config : TelemetryProcessorConfig) (functionSpans : List ResourceSpans)
    (p : Processing InvocationProcessingState) : Processing InvocationProcessingState :=
  if p.state.tracingState.shouldProduceSpans ∧ config.tracingMode = .otelInstrumentation then
    { p with outputBuffers := p.outputBuffers.addFunctionResourceSpans functionSpans }
  else p

/-- `telemetry_processor::process_function_spans`. -/
def processFunctionSpans (config : TelemetryProcessorConfig) (functionSpans : List ResourceSpans)
    (p : Processing InvocationProcessingState) : Processing InvocationProcessingState :=
  let (tracingState, functionSpans) :=
    processFunctionSpansTracing config p.state.tracingState functionSpans
  let p := { p with state := { p.state with tracingState } }
  let p := forwardSpans config functionSpans p
  emitLogsOfEarlySpan config p

end

end TelemetryExporter
