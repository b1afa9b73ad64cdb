import TelemetryExporter.Lib.Machine
import TelemetryExporter.Model.TelemetryService

/-!
# The telemetry service and its interleavings

`TelemetryService` with everything that runs concurrently: the receive loop of
`handle_invoke_event`, the handlers of telemetry and of OTLP exports, the tasks that sleep until the
reporting delay elapses, and the shutdown. One action is one critical section, or one step of
`handle_invoke_event` between two of its `await`s.

The Extensions API delivers an event only after the previous handler has returned, so
`handle_invoke_event` and `handle_shutdown_event` never overlap. What the function context provider
returns is part of the action.
-/

namespace TelemetryExporter

/-- How far the running `handle_invoke_event` is. -/
inductive InvokeHandler where
  /-- No handler is running. -/
  | idle
  /-- `LowOverhead`: it drains the signals. -/
  | draining (e : InvokeEvent) (functionContext : FunctionContext)
  /-- It is about to queue the invoke event. -/
  | enqueuing (e : InvokeEvent) (functionContext : FunctionContext)
  /-- `LowOverhead`: it is about to check, once, whether to send. -/
  | checkingOnce (functionContext : FunctionContext)
  /-- The receive loop: it is about to check whether to send. -/
  | checking (functionContext : FunctionContext)
  /-- The receive loop: it waits for a signal. -/
  | receiving (functionContext : FunctionContext)
  /-- It has left the loop. -/
  | leaving
  /-- It waits for the sends in flight, for five seconds at most. -/
  | awaiting
  /-- It has shut down; no event follows. -/
  | shutDown

/-- `TelemetryService`: the shared state, the signal channel, the deadlines of the sleeping tasks,
the running handler and the batches given to a `SendingSupervisor` so far. -/
structure TelemetryService where
  state : TelemetryServiceState
  signals : List Signal := []
  timers : List Instant := []
  handler : InvokeHandler := .idle
  sent : List TelemetryBatch := []

/-- `TelemetryService::new`, at the given time. -/
def TelemetryService.new (config : TelemetryServiceConfig) (now : Nat) : TelemetryService :=
  { state := { metricsState := .forMode now config.processorConfig.platformMetricsMode } }

/-- The effects of a critical section on the service. -/
def TelemetryService.apply (service : TelemetryService) (e : Effects) : TelemetryService :=
  { service with
    state := e.state
    signals := service.signals ++ e.signals
    timers := service.timers ++ e.timers }

/-- What can happen next. -/
inductive Action where
  /-- `handle_invoke_event` is called. -/
  | invoke (e : InvokeEvent) (functionContext : FunctionContext)
  /-- The running `handle_invoke_event` takes its next step. -/
  | handler (now : Instant)
  /-- `handle_incoming_telemetry`. -/
  | telemetry (clock : Clock) (events : List LambdaTelemetry)
  /-- `handle_otlp_spans`. -/
  | otlpSpans (clock : Clock) (resourceSpans : List ResourceSpans)
  /-- `handle_otlp_metrics`. -/
  | otlpMetrics (clock : Clock) (resourceMetrics : List ResourceMetrics)
  /-- A task that has slept until the deadline goes on. -/
  | wake (deadline : Instant) (clock : Clock)
  /-- `handle_shutdown_event` performs its flush. -/
  | shutdown (functionContext : FunctionContext)

section

variable [External] (config : TelemetryServiceConfig)

/-- `self.send_telemetry(&mut state, &function_context, &mut sending_supervisor)`. -/
def TelemetryService.send (functionContext : FunctionContext) (service : TelemetryService) :
    TelemetryService :=
  let (batch, state) := sendTelemetry config functionContext service.state
  { service with state, sent := service.sent ++ [batch] }

/-- `if state.should_send || Self::should_send_by_now(&state) { self.send_telemetry(..) }`. -/
def TelemetryService.sendIfNeeded (functionContext : FunctionContext) (now : Instant)
    (service : TelemetryService) : TelemetryService :=
  if service.state.shouldSend || shouldSendByNow now service.state then
    service.send config functionContext
  else service

/-- The next step of the running `handle_invoke_event`. -/
def handlerStep (now : Instant) (service : TelemetryService) : Option TelemetryService :=
  match service.handler with
  | .idle => none
  | .draining e functionContext =>
    match service.signals with
    | _ :: rest => some { service with signals := rest }
    | [] => some { service with handler := .enqueuing e functionContext }
  | .enqueuing e functionContext =>
    some { service.apply (enqueueInvokeEvent config e functionContext service.state) with
           handler :=
            if config.reportingStrategy = .lowOverhead then .checkingOnce functionContext
            else .checking functionContext }
  | .checkingOnce functionContext =>
    some { service.sendIfNeeded config functionContext now with handler := .awaiting }
  | .checking functionContext =>
    some { service.sendIfNeeded config functionContext now with
           handler := .receiving functionContext }
  | .receiving functionContext =>
    match service.signals with
    | [] => none
    | .shouldSend :: rest =>
      some { service with signals := rest, handler := .checking functionContext }
    | .invocationDone :: rest => some { service with signals := rest, handler := .leaving }
  | .leaving =>
    some { service with
           state := { service.state with shouldNotReceiveOtelNow := true }
           handler := .awaiting }
  | .awaiting =>
    some { service with
           state :=
            if config.reportingStrategy = .lowOverhead then service.state
            else { service.state with shouldNotReceiveOtelNow := false }
           handler := .idle }
  | .shutDown => none

/-- One step of the service. -/
def serviceStep (service : TelemetryService) : Action → Option TelemetryService
  | .invoke e functionContext =>
    match service.handler with
    | .idle =>
      some { service with
             handler :=
              if config.reportingStrategy = .lowOverhead then .draining e functionContext
              else .enqueuing e functionContext }
    | _ => none
  | .handler now => handlerStep config now service
  | .telemetry clock events =>
    some (service.apply (handleIncomingTelemetry config clock events service.state))
  | .otlpSpans clock resourceSpans =>
    some (service.apply (handleOtlpSpans config clock resourceSpans service.state))
  | .otlpMetrics clock resourceMetrics =>
    some (service.apply (handleOtlpMetrics config clock resourceMetrics service.state))
  | .wake deadline clock =>
    if deadline ∈ service.timers ∧ deadline ≤ clock.instant then
      some ({ service with timers := service.timers.erase deadline }.apply
        (wakeAfterDelay clock service.state))
    else none
  | .shutdown functionContext =>
    match service.handler with
    | .idle =>
      some { { service with
               state := flushEnqueuedTelemetry config functionContext service.state }.send
              config functionContext with
             handler := .shutDown }
    | _ => none

/-- A run of the service from its start. -/
abbrev serviceRun (now : Nat) (actions : List Action) : Option TelemetryService :=
  Machine.run (serviceStep config) (TelemetryService.new config now) actions

end

/-! ## A sample service

Concrete parameters for the runs that witness or refute a statement. -/

/-- Inputs without Base64 and JSON, and a generator that counts. -/
@[reducible] def sampleExternal : External where
  base64Decode _ := none
  jsonFromStr _ := none
  randomU8 n := UInt8.ofNat n
  floatToString _ := ""

/-- A configuration that exports function logs only. -/
def sampleConfig (strategy : TelemetryReportingStrategy) (tracing : TracingMode) :
    TelemetryServiceConfig :=
  let attributes : AttributeConfig :=
    { builtIn := ⟨false, false, false, false, false, false, false⟩, extra := [] }
  { reportingStrategy := strategy
    reportingDelay := 0
    spanSendingThreshold := 100
    processorConfig :=
      { logsMetadataMode := .disabled
        logMode := .structured
        platformLogSet := ⟨false, false, false⟩
        platformLogs := ⟨false, false⟩
        platformMetricsMode := .disabled
        otelMetricsMode := .disabled
        tracingMode := tracing
        traceSamplingMode := .all
        messageSizeLimit := 1000
        excludedSpanAttributes := .disabled
        resourceAttributes := ⟨attributes, attributes, attributes⟩ } }

/-- The context of a function without tags. -/
def sampleContext : FunctionContext :=
  let arn : LambdaFunctionArn := ⟨"aws", "eu-west-1", "0", "f", none⟩
  ⟨arn, arn, "", "", "", "", "", none⟩

/-- The invoke event of a request. -/
def sampleInvoke (requestId : String) : InvokeEvent :=
  { deadlineMs := 0
    requestId
    invokedFunctionArn := "arn:aws:lambda:eu-west-1:0:function:f"
    tracing := ⟨"", ""⟩ }

/-- `handle_incoming_telemetry`, with all clocks at zero. -/
def sampleTelemetry (events : List LambdaTelemetry) : Action := .telemetry ⟨0, 0, 0⟩ events

/-- A `PlatformInitStart`. -/
def sampleInitStart (timestampMillis : Int) : LambdaTelemetry :=
  ⟨timestampMillis, .platformInitStart .onDemand .init none none⟩

/-- A `Function` log. -/
def sampleLog (timestampMillis : Int) (logText : String) : LambdaTelemetry :=
  ⟨timestampMillis, .function logText⟩

/-- A `PlatformStart`. -/
def sampleStart (timestampMillis : Int) (requestId : String) : LambdaTelemetry :=
  ⟨timestampMillis, .platformStart requestId none none⟩

/-- A `PlatformRuntimeDone` of a successful invocation. -/
def sampleRuntimeDone (timestampMillis : Int) (requestId : String) : LambdaTelemetry :=
  ⟨timestampMillis, .platformRuntimeDone requestId .success none none [] none⟩

/-- A `PlatformReport` of a successful invocation. -/
def sampleReport (timestampMillis : Int) (requestId : String) : LambdaTelemetry :=
  ⟨timestampMillis,
    .platformReport requestId .success none ⟨1, 1, 128, 64, none, none⟩ [] none⟩

end TelemetryExporter
