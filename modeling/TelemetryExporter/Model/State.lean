import TelemetryExporter.Model.Config
import TelemetryExporter.Model.Context

/-!
# Processing state

The state that telemetry of one invocation is processed with (`InvocationProcessingState`), and the
one for telemetry that no invocation is known for (`DegradedProcessingState`).

An invocation carries its `serial`, the position of its invoke event in the order of arrival. The
source has no such field: the model sets it when the invoke event is queued, so that a statement can
name an invocation even when a request id repeats. No modelled code reads it.
-/

namespace TelemetryExporter

/-! ## Event data -/

/-- `PlatformInitStartData`. -/
structure PlatformInitStartData where
  time : OffsetDateTime
  initializationType : InitType
  phase : InitPhase
  runtimeVersion : Option String
  runtimeVersionArn : Option String

/-- `PlatformInitRuntimeDoneData`. -/
structure PlatformInitRuntimeDoneData where
  time : OffsetDateTime
  initializationType : InitType
  phase : Option InitPhase
  status : Status
  errorType : Option String
  spans : List PlatformSpan

/-- `PlatformInitReportData`. -/
structure PlatformInitReportData where
  time : OffsetDateTime
  initializationType : InitType
  phase : InitPhase
  metrics : InitReportMetrics
  spans : List PlatformSpan

/-- `PlatformStartData`. -/
structure PlatformStartData where
  time : OffsetDateTime
  requestId : String
  version : Option String
  tracing : Option TraceContext

/-- `PlatformRuntimeDoneData`. -/
structure PlatformRuntimeDoneData where
  time : OffsetDateTime
  requestId : String
  status : Status
  errorType : Option String
  metrics : Option RuntimeDoneMetrics
  spans : List PlatformSpan
  tracing : Option TraceContext

/-- `PlatformReportData`. -/
structure PlatformReportData where
  time : OffsetDateTime
  requestId : String
  status : Status
  errorType : Option String
  metrics : ReportMetrics
  spans : List PlatformSpan
  tracing : Option TraceContext

/-! ## Invocations -/

/-- `InvokeEventDataWithSpans`, with its `serial`. -/
structure InvokeEventDataWithSpans where
  serial : Nat
  deadlineMs : Nat
  requestId : String
  invokedFunctionArn : String
  tracing : Tracing
  spans : List ResourceSpans
  functionContext : FunctionContext

/-- `InvocationContext`. -/
structure InvocationContext where
  invokedArn : LambdaFunctionArn
  requestId : String
  traceId : Bytes
  invocationSpanId : Bytes
  sampled : Bool

/-- `InvocationContext::try_from(&invoke_event)`. A malformed X-Ray header is replaced by random
ids; an invalid ARN is an error. -/
def InvocationContext.tryFrom [External] (invokeEvent : InvokeEventDataWithSpans) (rng : Rng) :
    Except Error InvocationContext × Rng :=
  let (xray, rng) : XRayTraceContext × Rng :=
    match XRayTraceContext.tryFrom invokeEvent.tracing.value with
    | some xray => (xray, rng)
    | none =>
      let (root, rng) := randomTraceId rng
      let (parent, rng) := randomSpanId rng
      ({ root, parent, sampled := true }, rng)
  match LambdaFunctionArn.fromStr invokeEvent.invokedFunctionArn with
  | .error e => (.error e, rng)
  | .ok invokedArn =>
    (.ok { invokedArn
           requestId := invokeEvent.requestId
           traceId := xray.root
           invocationSpanId := xray.parent
           sampled := xray.sampled }, rng)

/-- `SpanWithScope`. -/
structure SpanWithScope where
  span : Span
  scope : Option InstrumentationScope

/-- `SpanWithScope::into_scope_spans`. -/
def SpanWithScope.intoScopeSpans (s : SpanWithScope) : ScopeSpans :=
  { scope := s.scope, spans := [s.span] }

/-- `InvocationTracingState`. -/
structure InvocationTracingState where
  shouldProduceSpans : Bool
  processedFunctionSpans : Nat := 0
  language : Option Value := none
  cxEarlyTriggerSpan : Option SpanWithScope := none
  cxTriggerSpan : Option SpanWithScope := none
  cxEarlyInvocationSpan : Option SpanWithScope := none
  cxInvocationSpan : Option SpanWithScope := none
  genericInvocationSpan : Option SpanWithScope := none

/-- `InvocationTracingState::new`. -/
def InvocationTracingState.new (traceSamplingMode : TraceSamplingMode)
    (invocationContext : InvocationContext) : InvocationTracingState :=
  { shouldProduceSpans :=
      match traceSamplingMode with
      | .all => true
      | .followXray => invocationContext.sampled }

/-- `LastLogState`, with its `Default`: the epoch and index zero. -/
structure LastLogState where
  lastLogTimestamp : OffsetDateTime := 0
  lastLogSubindex : Nat := 0

/-- `RawFunctionLog`. -/
structure RawFunctionLog where
  logText : String
  time : OffsetDateTime
  deriving DecidableEq

/-- `InvocationProcessingState`, with its `serial`. -/
structure InvocationProcessingState where
  serial : Nat
  functionContext : FunctionContext
  invocationContext : InvocationContext
  rootSpanId : Bytes
  initSpanId : Option Bytes := none
  initStartData : Option PlatformInitStartData := none
  initRuntimeDoneData : Option PlatformInitRuntimeDoneData := none
  initReportData : Option PlatformInitReportData := none
  startData : Option PlatformStartData := none
  runtimeDoneData : Option PlatformRuntimeDoneData := none
  reportData : Option PlatformReportData := none
  delayingLogs : Bool
  logs : List RawFunctionLog := []
  tracingState : InvocationTracingState
  lastLogState : LastLogState := {}

namespace InvocationProcessingState

/-- `InvocationProcessingState::new`. -/
def new [External] (serial : Nat) (functionContext : FunctionContext)
    (invocationContext : InvocationContext) (traceSamplingMode : TraceSamplingMode)
    (tracingMode : TracingMode) (rng : Rng) : InvocationProcessingState × Rng :=
  let (rootSpanId, rng) := randomSpanId rng
  ({ serial, functionContext, invocationContext, rootSpanId
     delayingLogs := tracingMode = .otelInstrumentation
     tracingState := InvocationTracingState.new traceSamplingMode invocationContext }, rng)

/-- `invocation_span`. -/
def invocationSpan (state : InvocationProcessingState) : Option Span :=
  (state.tracingState.cxInvocationSpan
    |>.or state.tracingState.cxEarlyInvocationSpan
    |>.or state.tracingState.genericInvocationSpan).map (·.span)

/-- `current_trace_id`. -/
def currentTraceId (state : InvocationProcessingState) : Bytes :=
  (state.invocationSpan.map (·.traceId)).getD state.invocationContext.traceId

/-- `current_span_id`. -/
def currentSpanId (state : InvocationProcessingState) : Bytes :=
  if state.initStartData.isSome ∧ state.initReportData.isNone then
    state.initSpanId.getD state.invocationContext.invocationSpanId
  else
    (state.invocationSpan.map (·.spanId)).getD state.invocationContext.invocationSpanId

end InvocationProcessingState

/-- `DegradedProcessingState`. -/
structure DegradedProcessingState where
  functionContext : FunctionContext
  traceId : Bytes
  spanId : Bytes
  initRuntimeDoneData : Option PlatformInitRuntimeDoneData := none
  initReportData : Option PlatformInitReportData := none
  runtimeDoneData : Option PlatformRuntimeDoneData := none
  reportData : Option PlatformReportData := none
  lastLogState : LastLogState := {}

/-- `DegradedProcessingState::new`. -/
def DegradedProcessingState.new [External] (functionContext : FunctionContext) (rng : Rng) :
    DegradedProcessingState × Rng :=
  let (traceId, rng) := randomTraceId rng
  let (spanId, rng) := randomSpanId rng
  ({ functionContext, traceId, spanId }, rng)

/-! ## The trait `ProcessingState` -/

/-- `SpanRef`. -/
structure SpanRef where
  traceId : Bytes
  spanId : Bytes

/-- The trait `ProcessingState`, with the invocation that the state belongs to. -/
class ProcessingState (S : Type) where
  serial : S → Option Nat
  getRuntimeDoneData : S → Option PlatformRuntimeDoneData
  getReportData : S → Option PlatformReportData
  currentSpanRef : S → SpanRef
  requestId : S → Option String
  functionContext : S → FunctionContext
  lastLogState : S → LastLogState
  setLastLogState : S → LastLogState → S

instance : ProcessingState InvocationProcessingState where
  serial state := some state.serial
  getRuntimeDoneData state := state.runtimeDoneData
  getReportData state := state.reportData
  currentSpanRef state := { traceId := state.currentTraceId, spanId := state.currentSpanId }
  requestId state := some state.invocationContext.requestId
  functionContext state := state.functionContext
  lastLogState state := state.lastLogState
  setLastLogState state l := { state with lastLogState := l }

instance : ProcessingState DegradedProcessingState where
  serial _ := none
  getRuntimeDoneData state := state.runtimeDoneData
  getReportData state := state.reportData
  currentSpanRef state := { traceId := state.traceId, spanId := state.spanId }
  requestId _ := none
  functionContext state := state.functionContext
  lastLogState state := state.lastLogState
  setLastLogState state l := { state with lastLogState := l }

/-! ## Output buffers -/

/-- `OutputBuffers`. -/
structure OutputBuffers where
  logsBuffer : List LogRecord := []
  spansBuffer : List Span := []
  functionMetricsBuffer : List ResourceMetrics := []
  functionSpansBuffer : List ScopeSpans := []
  functionSpansCount : Nat := 0
  epsagonTracesBuffer : List String := []

namespace OutputBuffers

/-- `add_function_scope_spans`. -/
def addFunctionScopeSpans (out : OutputBuffers) (ss : List ScopeSpans) : OutputBuffers :=
  ss.foldl (fun out ss =>
    { out with
      functionSpansCount := out.functionSpansCount + ss.spans.length
      functionSpansBuffer := out.functionSpansBuffer ++ [ss] }) out

/-- `add_function_resource_spans`. -/
def addFunctionResourceSpans (out : OutputBuffers) (rss : List ResourceSpans) : OutputBuffers :=
  rss.foldl (fun out rs => out.addFunctionScopeSpans rs.scopeSpans) out

end OutputBuffers

end TelemetryExporter
