import Mathlib.Algebra.Group.Int.Defs
import TelemetryExporter.Model.State

/-!
# Spans

`span_processor.rs`: the spans that the exporter makes from platform events, and its handling of the
spans that the function's instrumentation sends.
-/

namespace TelemetryExporter

/-! ## Attribute keys -/

/-- `LANGUAGE_ATTRIBUTE`. -/
def languageAttribute : String := "telemetry.sdk.language"

/-- `FAAS_TRIGGER_ATTRIBUTE`. -/
def faasTriggerAttribute : String := "faas.trigger"

/-- `SPAN_ROLE_ATTRIBUTE`. -/
def spanRoleAttribute : String := "cx.internal.span.role"

/-- `SPAN_STATE_ATTRIBUTE`. -/
def spanStateAttribute : String := "cx.internal.span.state"

/-- `SPAN_ID_ATTRIBUTE`. -/
def spanIdAttribute : String := "cx.internal.span.id"

/-- `TRACE_ID_ATTRIBUTE`. -/
def traceIdAttribute : String := "cx.internal.trace.id"

/-! ## Spans made from platform events -/

/-- `translate_status`. -/
def translateStatus (status : Status) (errorType : Option String) : SpanStatus :=
  match status with
  | .success => { message := "OK", code := statusCodeOk }
  | .timeout => { message := errorType.getD "timeout", code := statusCodeError }
  | .error => { message := errorType.getD "error", code := statusCodeError }
  | .failure => { message := errorType.getD "failure", code := statusCodeError }

/-- `make_span_attributes`. -/
def makeSpanAttributes (context : InvocationContext) : List KeyValue :=
  [stringAttribute "faas.execution" context.requestId]

/-- `make_degraded_spans_after_init`. -/
def makeDegradedSpansAfterInit (state : DegradedProcessingState) : List Span :=
  match state.initRuntimeDoneData, state.initReportData with
  | some done, some report =>
    let endTimeUnixNano := asU64 report.time
    [{ traceId := state.traceId
       spanId := state.spanId
       parentSpanId := []
       name := state.functionContext.arn.functionName ++ " init"
       kind := spanKindInternal
       startTimeUnixNano :=
         wrappingSub endTimeUnixNano (report.metrics.durationMs * 1000000.0).toUInt64.toNat
       endTimeUnixNano
       status := some (translateStatus done.status done.errorType) }]
  | _, _ => []

/-- The init span of `make_spans_after_invocation` and of its OTel-mode sibling. -/
def makeInitSpan (state : InvocationProcessingState) (traceId parentSpanId initSpanId : Bytes)
    (start : PlatformInitStartData) (done : PlatformInitRuntimeDoneData)
    (report : PlatformInitReportData) : Span :=
  { traceId
    spanId := initSpanId
    parentSpanId
    name := state.functionContext.arn.functionName ++ " init"
    kind := spanKindInternal
    startTimeUnixNano := asU64 start.time
    endTimeUnixNano := asU64 report.time
    attributes := makeSpanAttributes state.invocationContext
    status := some (translateStatus done.status done.errorType) }

/-- `make_spans_after_invocation_in_otel_mode`. -/
def makeSpansAfterInvocationInOtelMode (state : InvocationProcessingState) : List Span :=
  let initParentSpanId := (state.invocationSpan.map (·.parentSpanId)).getD []
  match state.initSpanId, state.initStartData, state.initRuntimeDoneData, state.initReportData with
  | some initSpanId, some start, some done, some report =>
    [makeInitSpan state state.currentTraceId initParentSpanId initSpanId start done report]
  | _, _, _, _ => []

/-- The invocation span of `make_spans_after_invocation`. -/
def makeInvocationSpan (state : InvocationProcessingState) (start : PlatformStartData)
    (done : PlatformRuntimeDoneData) : Span :=
  let duration (name : String) : Option Float :=
    (done.spans.find? fun span => span.name = name).map (·.durationMs)
  let responseLatency := (duration "responseLatency").map (f64Attribute "response.latency_ms")
  let responseDuration := (duration "responseDuration").map (f64Attribute "response.duration_ms")
  { traceId := state.currentTraceId
    spanId := state.currentSpanId
    parentSpanId := state.rootSpanId
    name := state.functionContext.arn.functionName ++ " invocation"
    kind := spanKindInternal
    startTimeUnixNano := asU64 start.time
    endTimeUnixNano := asU64 done.time
    attributes := makeSpanAttributes state.invocationContext ++ responseLatency.toList ++
      responseDuration.toList
    status := some (translateStatus done.status done.errorType) }

/-- `make_spans_after_invocation`. -/
def makeSpansAfterInvocation (state : InvocationProcessingState) : List Span :=
  let initSpan : List Span :=
    match state.initSpanId, state.initStartData, state.initRuntimeDoneData, state.initReportData with
    | some initSpanId, some start, some done, some report =>
      [makeInitSpan state state.currentTraceId state.rootSpanId initSpanId start done report]
    | _, _, _, _ => []
  let invocationSpan : List Span :=
    match state.startData, state.runtimeDoneData with
    | some start, some done => [makeInvocationSpan state start done]
    | _, _ => []
  initSpan ++ invocationSpan

/-- `x as i128` of an `f64`, which truncates and saturates. -/
def floatToI128 (x : Float) : Int :=
  max (-(2 ^ 127)) (min (x.toModel.unpack.toInt (-(2 ^ 127)) (2 ^ 127 - 1)) (2 ^ 127 - 1))

/-- `make_spans_after_report`. -/
def makeSpansAfterReport (state : InvocationProcessingState) : List Span :=
  match state.startData, state.runtimeDoneData, state.reportData with
  | some start, some done, some report =>
    let startTimeNano :=
      match state.initStartData, state.initReportData with
      | some isd, _ => asU64 isd.time
      | none, some ird => asU64 (ird.time - floatToI128 (ird.metrics.durationMs * 1000000.0))
      | none, none => asU64 start.time
    [{ traceId := state.currentTraceId
       spanId := state.rootSpanId
       parentSpanId := []
       name := state.invocationContext.invokedArn.functionName ++ " context"
       kind := spanKindServer
       startTimeUnixNano := startTimeNano
       endTimeUnixNano := asU64 report.time
       attributes := makeSpanAttributes state.invocationContext
       status := some (translateStatus report.status (report.errorType.or done.errorType)) }]
  | _, _, _ => []

/-! ## Spans of the function -/

/-- `get_string_value`. -/
def getStringValue (attr : KeyValue) : Option String :=
  match attr.value with
  | some ⟨some (.stringValue s)⟩ => some s
  | _ => none

/-- The local variables of the loop of `process_and_categorize_span`. -/
structure SpanMarks where
  spanRole : Option String := none
  isEarlySpan : Bool := false
  extraSpanId : Option String := none
  extraTraceId : Option String := none
  hasFaasTrigger : Bool := false
  newAttributes : List KeyValue := []

/-- One iteration of the loop of `process_and_categorize_span`. -/
def SpanMarks.read (marks : SpanMarks) (attr : KeyValue) : SpanMarks :=
  if attr.key = spanRoleAttribute then { marks with spanRole := getStringValue attr }
  else if attr.key = spanStateAttribute then
    if getStringValue attr = some "early" then { marks with isEarlySpan := true } else marks
  else if attr.key = spanIdAttribute then { marks with extraSpanId := getStringValue attr }
  else if attr.key = traceIdAttribute then { marks with extraTraceId := getStringValue attr }
  else if attr.key = faasTriggerAttribute then
    { marks with hasFaasTrigger := true, newAttributes := marks.newAttributes ++ [attr] }
  else { marks with newAttributes := marks.newAttributes ++ [attr] }

/-- The loop of `process_and_categorize_span`. -/
def readMarks (attributes : List KeyValue) : SpanMarks := attributes.foldl SpanMarks.read {}

/-- `SpanCategorization`. -/
inductive SpanCategorization where
  | cxEarlyTrigger
  | cxEarlyInvocation
  | cxTrigger
  | cxInvocation
  | cxWarmup
  | genericInvocation
  | other
  deriving DecidableEq

/-- The ids of an early span are overwritten with those of its attributes, where they decode. -/
def overrideIds (marks : SpanMarks) (span : Span) : Span :=
  let span :=
    match marks.extraSpanId.bind hexDecode with
    | some spanId => { span with spanId }
    | none => span
  match marks.extraTraceId.bind hexDecode with
  | some traceId => { span with traceId }
  | none => span

/-- `process_and_categorize_span`. -/
def processAndCategorizeSpan (span : Span) : Span × SpanCategorization :=
  let marks := readMarks span.attributes
  let span := { span with attributes := marks.newAttributes }
  match marks.spanRole with
  | some spanRole =>
    if marks.isEarlySpan then
      let span := overrideIds marks span
      match spanRole with
      | "trigger" => (span, .cxEarlyTrigger)
      | "invocation" => (span, .cxEarlyInvocation)
      | "warmup" => (span, .cxWarmup)
      | _ => (span, .other)
    else
      match spanRole with
      | "trigger" => (span, .cxTrigger)
      | "invocation" => (span, .cxInvocation)
      | "warmup" => (span, .cxWarmup)
      | _ => (span, .other)
  | none =>
    if (span.kind = spanKindServer ∨ span.kind = spanKindConsumer) ∧ ¬ marks.hasFaasTrigger then
      (span, .genericInvocation)
    else (span, .other)

/-- `filter_span_attributes`. -/
def filterSpanAttributes (config : TelemetryProcessorConfig) (span : Span) : Span :=
  match config.excludedSpanAttributes.toRegex with
  | some isMatch => { span with attributes := span.attributes.filter fun attr => !isMatch attr.key }
  | none => span

/-- `SpanCapturingResult`. -/
inductive SpanCapturingResult where
  | captured
  | discarded
  | nonCapturable (span : Span)
  | duplicate (span : Span)

/-- `try_capture_span`: the new content of the storage, and the result. -/
def tryCaptureSpan (storage : Option SpanWithScope) (span : Span)
    (scope : Option InstrumentationScope) : Option SpanWithScope × SpanCapturingResult :=
  match storage with
  | none => (some { span, scope }, .captured)
  | some s => (some s, .duplicate span)

/-- The storage that `process_spans` captures a span of the category into. -/
def captureSpan (state : InvocationTracingState) (category : SpanCategorization) (span : Span)
    (scope : Option InstrumentationScope) : InvocationTracingState × SpanCapturingResult :=
  match category with
  | .cxEarlyTrigger =>
    let (storage, result) := tryCaptureSpan state.cxEarlyTriggerSpan span scope
    ({ state with cxEarlyTriggerSpan := storage }, result)
  | .cxEarlyInvocation =>
    let (storage, result) := tryCaptureSpan state.cxEarlyInvocationSpan span scope
    ({ state with cxEarlyInvocationSpan := storage }, result)
  | .cxTrigger =>
    let (storage, result) := tryCaptureSpan state.cxTriggerSpan span scope
    ({ state with cxTriggerSpan := storage }, result)
  | .cxInvocation =>
    let (storage, result) := tryCaptureSpan state.cxInvocationSpan span scope
    ({ state with cxInvocationSpan := storage }, result)
  | .genericInvocation =>
    let (storage, result) := tryCaptureSpan state.genericInvocationSpan span scope
    ({ state with genericInvocationSpan := storage }, result)
  | .cxWarmup => (state, .discarded)
  | .other => (state, .nonCapturable span)

/-- The body of the innermost loop of `process_spans`: the state, and the spans that stay in the
scope. -/
def processSpan (config : TelemetryProcessorConfig) (scope : Option InstrumentationScope)
    (acc : InvocationTracingState × List Span) (span : Span) :
    InvocationTracingState × List Span :=
  let (span, category) := processAndCategorizeSpan span
  let span := filterSpanAttributes config span
  let (state, result) := captureSpan acc.1 category span scope
  match result with
  | .captured => (state, acc.2)
  | .discarded => (state, acc.2)
  | .nonCapturable span => (state, acc.2 ++ [span])
  | .duplicate span => (state, acc.2 ++ [span])

/-- The body of the middle loop of `process_spans`. -/
def processScopeSpans (config : TelemetryProcessorConfig) (state : InvocationTracingState)
    (ss : ScopeSpans) : InvocationTracingState × ScopeSpans :=
  let state :=
    { state with processedFunctionSpans := state.processedFunctionSpans + ss.spans.length }
  let (state, spans) := ss.spans.foldl (processSpan config ss.scope) (state, [])
  (state, { ss with spans })

/-- The middle loop of `process_spans`. -/
def processScopeSpansList (config : TelemetryProcessorConfig) (state : InvocationTracingState) :
    List ScopeSpans → InvocationTracingState × List ScopeSpans
  | [] => (state, [])
  | ss :: rest =>
    let (state, ss) := processScopeSpans config state ss
    let (state, rest) := processScopeSpansList config state rest
    (state, ss :: rest)

/-- `process_spans`. -/
def processSpans (config : TelemetryProcessorConfig) (state : InvocationTracingState) :
    List ResourceSpans → InvocationTracingState × List ResourceSpans
  | [] => (state, [])
  | rs :: rest =>
    let (state, scopeSpans) := processScopeSpansList config state rs.scopeSpans
    let rs := { rs with scopeSpans := scopeSpans.filter fun ss => !ss.spans.isEmpty }
    let (state, rest) := processSpans config state rest
    (state, rs :: rest)

/-- `detect_language`. -/
def detectLanguage (state : InvocationTracingState) (functionSpans : List ResourceSpans) :
    InvocationTracingState :=
  if state.language.isNone then
    { state with
      language := (functionSpans.filterMap (·.resource)).findSome? fun r =>
        findAttribute r.attributes languageAttribute }
  else state

/-- `span_processor::process_function_spans`. -/
def processFunctionSpansTracing (config : TelemetryProcessorConfig)
    (state : InvocationTracingState) (functionSpans : List ResourceSpans) :
    InvocationTracingState × List ResourceSpans :=
  processSpans config (detectLanguage state functionSpans) functionSpans

/-- `conclude_early_span_with_runtime_status`. -/
def concludeEarlySpanWithRuntimeStatus (done : PlatformRuntimeDoneData) (span : Span) : Span :=
  { span with
    status := some (translateStatus done.status done.errorType)
    endTimeUnixNano := asU64 done.time }

/-- `add_language_attribute_to_span`. -/
def addLanguageAttributeToSpan (state : InvocationTracingState) (span : Span) : Span :=
  match state.language with
  | some language =>
    { span with
      attributes := span.attributes ++ [{ key := languageAttribute, value := some ⟨some language⟩ }] }
  | none => span

/-- The part of `emit_trigger_and_invocation_spans` that emits the trigger span. -/
def emitTriggerSpan (done : PlatformRuntimeDoneData) (state : InvocationTracingState) :
    List ScopeSpans :=
  match state.cxTriggerSpan, state.cxEarlyTriggerSpan with
  | some s, _ => [s.intoScopeSpans]
  | none, some s =>
    [{ s with span := concludeEarlySpanWithRuntimeStatus done s.span : SpanWithScope }.intoScopeSpans]
  | none, none => []

/-- The part of `emit_trigger_and_invocation_spans` that emits the invocation span. -/
def emitInvocationSpan (done : PlatformRuntimeDoneData) (state : InvocationTracingState) :
    List ScopeSpans :=
  match state.cxInvocationSpan, state.cxEarlyInvocationSpan, state.genericInvocationSpan with
  | some s, _, _ =>
    [{ s with span := addLanguageAttributeToSpan state s.span : SpanWithScope }.intoScopeSpans]
  | none, some s, _ =>
    [{ s with
       span := addLanguageAttributeToSpan state (concludeEarlySpanWithRuntimeStatus done s.span)
        : SpanWithScope }.intoScopeSpans]
  | none, none, some s =>
    [{ s with span := addLanguageAttributeToSpan state s.span : SpanWithScope }.intoScopeSpans]
  | none, none, none => []

/-- The part of `emit_trigger_and_invocation_spans` that emits the generic span as a regular one. -/
def emitUnexpectedGenericSpan (state : InvocationTracingState) : List ScopeSpans :=
  if state.cxInvocationSpan.isSome ∨ state.cxEarlyInvocationSpan.isSome then
    (state.genericInvocationSpan.map (·.intoScopeSpans)).toList
  else []

/-- `emit_trigger_and_invocation_spans`. -/
def emitTriggerAndInvocationSpans (state : InvocationProcessingState) : List ScopeSpans :=
  match state.runtimeDoneData with
  | some done =>
    emitTriggerSpan done state.tracingState ++ emitInvocationSpan done state.tracingState ++
      emitUnexpectedGenericSpan state.tracingState
  | none => []

end TelemetryExporter
