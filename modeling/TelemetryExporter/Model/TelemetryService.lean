import TelemetryExporter.Model.OtelMetrics
import TelemetryExporter.Model.OtlpWrappers
import TelemetryExporter.Model.TelemetryProcessor

/-!
# The telemetry service, one critical section at a time

`telemetry_service.rs`. All the service's state is behind one mutex, and every method changes it in
critical sections with no `await` inside. This module has a function for each of these sections; the
interleavings are in `Service`.

A method that fails keeps what it has already changed, so a fallible one returns the state together
with its `Result`. Signals and timers are returned as lists, in the order in which the source sends
and spawns them.
-/

namespace TelemetryExporter

/-- A call that the service makes to `telemetry_processor` or a change of the current invocation.
The source keeps no such record: the model does, so that a statement can say which event was
processed with the state of which invocation. No modelled code reads it. -/
inductive ProcessorCall where
  /-- An `InvocationProcessingState` became the current one. -/
  | created (invocation : Nat)
  /-- `process_function_spans` with the state of the invocation. -/
  | functionSpans (invocation : Nat) (spans : List ResourceSpans)
  /-- `process_telemetry` with the state of the invocation. -/
  | telemetry (invocation : Nat) (event : LambdaTelemetry)
  /-- `process_telemetry_in_degraded_mode`. -/
  | degraded (event : LambdaTelemetry)
  /-- Either of the two returned an error. -/
  | failed (event : LambdaTelemetry)
  /-- The current invocation was dropped, with these logs still delayed. -/
  | concluded (invocation : Nat) (delayedLogs : List RawFunctionLog)
  /-- A queued invoke event was dropped: `InvocationContext::try_from` returned an error. -/
  | rejected (invocation : Nat)

/-- `TelemetryServiceState`, with the number of invoke events queued so far (`enqueued`), the state
of the random generator and the `trace` of processor calls. -/
structure TelemetryServiceState where
  invokeEventQueue : List InvokeEventDataWithSpans := []
  telemetryEventQueue : List LambdaTelemetry := []
  functionSpansBuffer : List ResourceSpans := []
  halfProcessedEventBuffer : List LambdaTelemetry := []
  initHandlingStarted : Bool := false
  initHandled : Bool := false
  shutdownFlushStarted : Bool := false
  invocationState : Option InvocationProcessingState := none
  metricsState : PlatformMetricsState
  metricsAccumulator : OtelMetricsAccumulator := {}
  outputBuffers : OutputBuffers := {}
  shouldSendBy : Option Instant := none
  shouldSend : Bool := false
  receivedFirstInvocation : Bool := false
  shouldNotReceiveOtelNow : Bool := false
  rng : Rng := 0
  enqueued : Nat := 0
  trace : List ProcessorCall := []

/-- `Signal`. -/
inductive Signal where
  | shouldSend
  | invocationDone
  deriving DecidableEq

/-- The state, also after an error, and the `Result`. -/
abbrev Outcome (A : Type) := TelemetryServiceState × Except Error A

/-- The state, the signals sent and the deadlines of the timers spawned. -/
structure Effects where
  state : TelemetryServiceState
  signals : List Signal := []
  timers : List Instant := []

/-- What the clocks show during a critical section: `OffsetDateTime::now_utc()`, the first
`Instant::now()`, and the later one that `signal_should_send_by` reads. -/
structure Clock where
  utc : OffsetDateTime
  instant : Instant
  instantAfter : Instant

section

variable [External] (config : TelemetryServiceConfig)

/-! ## Calls of the processor -/

/-- `telemetry_processor::process_telemetry` with the state of the current invocation. -/
def callProcessTelemetry (event : LambdaTelemetry) (state : InvocationProcessingState)
    (s : TelemetryServiceState) : Outcome InvocationProcessingState :=
  match processTelemetry config.processorConfig event
      ⟨state, s.metricsState, s.outputBuffers, s.rng⟩ with
  | .error e => ({ s with trace := s.trace ++ [.failed event] }, .error e)
  | .ok p =>
    ({ s with
       invocationState := some p.state
       metricsState := p.metricsState
       outputBuffers := p.outputBuffers
       rng := p.rng
       trace := s.trace ++ [.telemetry state.serial event] }, .ok p.state)

/-- `telemetry_processor::process_function_spans` with the state of an invocation. -/
def callProcessFunctionSpans (spans : List ResourceSpans) (state : InvocationProcessingState)
    (s : TelemetryServiceState) : InvocationProcessingState × TelemetryServiceState :=
  let p := processFunctionSpans config.processorConfig spans
    ⟨state, s.metricsState, s.outputBuffers, s.rng⟩
  (p.state,
    { s with
      outputBuffers := p.outputBuffers
      trace := s.trace ++ [.functionSpans state.serial spans] })

/-- The loop of `process_in_degraded_mode`. -/
def processInDegradedModeLoop (state : DegradedProcessingState) (s : TelemetryServiceState) :
    List LambdaTelemetry → Outcome Unit
  | [] => (s, .ok ())
  | event :: events =>
    match processTelemetryInDegradedMode config.processorConfig event
        ⟨state, s.metricsState, s.outputBuffers, s.rng⟩ with
    | .error e => ({ s with trace := s.trace ++ [.failed event] }, .error e)
    | .ok p =>
      processInDegradedModeLoop p.state
        { s with
          metricsState := p.metricsState
          outputBuffers := p.outputBuffers
          rng := p.rng
          trace := s.trace ++ [.degraded event] } events

/-- `process_in_degraded_mode`. -/
def processInDegradedMode (functionContext : FunctionContext) (events : List LambdaTelemetry)
    (s : TelemetryServiceState) : Outcome Unit :=
  let (state, rng) := DegradedProcessingState.new functionContext s.rng
  processInDegradedModeLoop config state { s with rng } events

/-- The loop over the buffered init events in `process_telemetry_events`. -/
def processBufferedEvents (state : InvocationProcessingState) (s : TelemetryServiceState) :
    List LambdaTelemetry → Outcome Unit
  | [] => (s, .ok ())
  | event :: events =>
    match callProcessTelemetry config event state s with
    | (s, .error e) => (s, .error e)
    | (s, .ok state) => processBufferedEvents state s events

/-! ## `process_telemetry_events` -/

/-- The current invocation, or else the next queued one, whose spans are processed first. -/
def acquireInvocation (s : TelemetryServiceState) : Outcome (Option InvocationProcessingState) :=
  match s.invocationState with
  | some state => (s, .ok (some state))
  | none =>
    match s.invokeEventQueue with
    | [] => (s, .ok none)
    | invokeEvent :: queue =>
      let s := { s with invokeEventQueue := queue }
      match InvocationContext.tryFrom invokeEvent s.rng with
      | (.error e, rng) =>
        ({ s with rng, trace := s.trace ++ [ProcessorCall.rejected invokeEvent.serial] }, .error e)
      | (.ok invocationContext, rng) =>
        let (state, rng) := InvocationProcessingState.new invokeEvent.serial
          invokeEvent.functionContext invocationContext config.processorConfig.traceSamplingMode
          config.processorConfig.tracingMode rng
        let s := { s with rng, trace := s.trace ++ [ProcessorCall.created invokeEvent.serial] }
        let (state, s) := callProcessFunctionSpans config s.functionSpansBuffer state
          { s with functionSpansBuffer := [] }
        let (state, s) := callProcessFunctionSpans config invokeEvent.spans state s
        ({ s with invocationState := some state }, .ok (some state))

/-- `half_processed_event_buffer.push_back(event)`. -/
def TelemetryServiceState.bufferEvent (event : LambdaTelemetry) (s : TelemetryServiceState) :
    TelemetryServiceState :=
  { s with halfProcessedEventBuffer := s.halfProcessedEventBuffer ++ [event] }

/-- An event before `init_handling_started`. -/
def handleEventBeforeInit (state : InvocationProcessingState) (event : LambdaTelemetry)
    (s : TelemetryServiceState) : Outcome Unit :=
  match event.record with
  | .platformInitStart .. =>
    let degraded : Outcome Unit :=
      if s.halfProcessedEventBuffer.isEmpty then (s, .ok ())
      else
        -- these events most likely come from a previous instance of the lambda function
        processInDegradedMode config state.functionContext s.halfProcessedEventBuffer
          { s with halfProcessedEventBuffer := [] }
    match degraded with
    | (s, .error e) => (s, .error e)
    | (s, .ok ()) => ({ s with initHandlingStarted := true }.bufferEvent event, .ok ())
  | _ => (s.bufferEvent event, .ok ())

/-- An event while `init_handling_started` and not yet `init_handled`. -/
def handleEventDuringInit (state : InvocationProcessingState) (event : LambdaTelemetry)
    (s : TelemetryServiceState) : Outcome Unit :=
  match event.record with
  | .platformInitStart .. =>
    -- a second init: what was buffered since the first is processed in degraded mode
    match processInDegradedMode config state.functionContext s.halfProcessedEventBuffer
        { s with halfProcessedEventBuffer := [] } with
    | (s, .error e) => (s, .error e)
    | (s, .ok ()) => (s.bufferEvent event, .ok ())
  | .platformStart requestId _ _ =>
    if requestId = state.invocationContext.requestId then
      -- the event goes back to the front of the queue, for the next iteration
      processBufferedEvents config state
        { s with
          initHandled := true
          telemetryEventQueue := event :: s.telemetryEventQueue
          halfProcessedEventBuffer := [] } s.halfProcessedEventBuffer
    else (s.bufferEvent event, .ok ())
  | _ => (s.bufferEvent event, .ok ())

/-- An event after `init_handled`. -/
def handleEventAfterInit (state : InvocationProcessingState) (event : LambdaTelemetry)
    (s : TelemetryServiceState) : Outcome Unit :=
  match callProcessTelemetry config event state s with
  | (s, .error e) => (s, .error e)
  | (s, .ok state) =>
    if state.reportData.isSome then
      ({ s with
         invocationState := none
         trace := s.trace ++ [.concluded state.serial state.logs] }, .ok ())
    else (s, .ok ())

/-- The rest of an iteration of `process_telemetry_events`, for the event popped from the queue:
whether it sets `invocation_done`. -/
def handleEvent (state : InvocationProcessingState) (event : LambdaTelemetry)
    (s : TelemetryServiceState) : Outcome Bool :=
  if !s.initHandlingStarted then
    match handleEventBeforeInit config state event s with
    | (s, r) => (s, r.map fun _ => false)
  else if !s.initHandled then
    match handleEventDuringInit config state event s with
    | (s, r) => (s, r.map fun _ => false)
  else
    match handleEventAfterInit config state event s with
    | (s, r) => (s, r.map fun _ => event.isRuntimeDone)

/-- The loop of `process_telemetry_events`, for at most `fuel` iterations. -/
def processTelemetryEventsLoop : Nat → Bool → TelemetryServiceState → Outcome Bool
  | 0, invocationDone, s => (s, .ok invocationDone)
  | fuel + 1, invocationDone, s =>
    match acquireInvocation config s with
    | (s, .error e) => (s, .error e)
    | (s, .ok none) => (s, .ok invocationDone)
    | (s, .ok (some state)) =>
      match s.telemetryEventQueue with
      | [] => (s, .ok invocationDone)
      | event :: queue =>
        match handleEvent config state event { s with telemetryEventQueue := queue } with
        | (s, .error e) => (s, .error e)
        | (s, .ok runtimeDone) => processTelemetryEventsLoop fuel (invocationDone || runtimeDone) s

/-- `process_telemetry_events`. An iteration takes an event from the queue, except the one that puts
it back, which happens once. -/
def processTelemetryEvents (s : TelemetryServiceState) : Outcome Bool :=
  processTelemetryEventsLoop config (s.telemetryEventQueue.length + 2) false s

/-! ## Signals -/

/-- `signal_should_send`. -/
def signalShouldSend (s : TelemetryServiceState) : Effects :=
  { state := { s with shouldSend := true }, signals := [.shouldSend] }

/-- `should_send_by_now`. -/
def shouldSendByNow (now : Instant) (s : TelemetryServiceState) : Bool :=
  s.shouldSendBy.any fun by' => by' ≤ now

/-- `signal_should_send_by`. -/
def signalShouldSendBy (clock : Clock) (time : Instant) (s : TelemetryServiceState) : Effects :=
  if s.shouldSendBy.all fun x => time ≤ x then
    if time ≤ clock.instantAfter then signalShouldSend { s with shouldSendBy := none }
    else { state := { s with shouldSendBy := some time }, timers := [time] }
  else { state := s }

/-- The body of the task that `signal_should_send_by` spawns, after its sleep. -/
def wakeAfterDelay (clock : Clock) (s : TelemetryServiceState) : Effects :=
  if shouldSendByNow clock.instant s then signalShouldSend { s with shouldSendBy := none }
  else { state := s }

/-- `signal_should_send_after_delay`. -/
def signalShouldSendAfterDelay (clock : Clock) (s : TelemetryServiceState) : Effects :=
  signalShouldSendBy clock (clock.instant + config.reportingDelay) s

/-- `time_for_sending_event`. -/
def timeForSendingEvent (clock : Clock) (event : LambdaTelemetry) : Except Error Instant :=
  match eventTimestamp event with
  | .error e => .error e
  | .ok timestamp => .ok (clock.instant + config.reportingDelay - (clock.utc - timestamp))

/-- `signal_should_send_after_delay_from_event`. -/
def signalShouldSendAfterDelayFromEvent (clock : Clock) (event : LambdaTelemetry)
    (s : TelemetryServiceState) : Effects :=
  match timeForSendingEvent config clock event with
  | .ok time => signalShouldSendBy clock time s
  | .error _ => { state := s }

/-! ## Telemetry -/

/-- `try_processing_telemetry`, with the signals it sends. -/
def tryProcessingTelemetry (s : TelemetryServiceState) : Effects × Except Error Bool :=
  if s.shutdownFlushStarted then ({ state := s }, .ok false)
  else
    match processTelemetryEvents config s with
    | (s, .error e) => ({ state := s }, .error e)
    | (s, .ok invocationDone) =>
      if config.reportingStrategy.sendAfterInvocation && invocationDone then
        (signalShouldSend s, .ok invocationDone)
      else ({ state := s }, .ok invocationDone)

/-- `signal_invocation_done`. -/
def Effects.signalInvocationDone (e : Effects) : Effects :=
  { e with signals := e.signals ++ [.invocationDone] }

/-- `handle_telemetry`. -/
def handleTelemetry (s : TelemetryServiceState) : Effects :=
  match tryProcessingTelemetry config s with
  | (e, .ok invocationDone) => if invocationDone then e.signalInvocationDone else e
  | (e, .error _) => e.signalInvocationDone

/-- `handle_incoming_telemetry`. -/
def handleIncomingTelemetry (clock : Clock) (telemetryEvents : List LambdaTelemetry)
    (s : TelemetryServiceState) : Effects :=
  let delayed : Effects :=
    match telemetryEvents with
    | oldestEvent :: _ =>
      if config.reportingStrategy.sendAfterDelay then
        signalShouldSendAfterDelayFromEvent config clock oldestEvent s
      else { state := s }
    | [] => { state := s }
  let s := delayed.state
  let handled := handleTelemetry config
    { s with telemetryEventQueue := s.telemetryEventQueue ++ telemetryEvents }
  { state := handled.state
    signals := delayed.signals ++ handled.signals
    timers := delayed.timers ++ handled.timers }

/-! ## Invoke events -/

/-- The first critical section of `handle_invoke_event`. -/
def enqueueInvokeEvent (e : InvokeEvent) (functionContext : FunctionContext)
    (s : TelemetryServiceState) : Effects :=
  handleTelemetry config
    { s with
      receivedFirstInvocation := true
      invokeEventQueue := s.invokeEventQueue ++
        [{ serial := s.enqueued
           deadlineMs := e.deadlineMs
           requestId := e.requestId
           invokedFunctionArn := e.invokedFunctionArn
           tracing := e.tracing
           spans := []
           functionContext }]
      enqueued := s.enqueued + 1 }

/-! ## OTLP exports -/

/-- `last_event.spans.extend(e.resource_spans)` for the last element of the queue. -/
def extendLastSpans (spans : List ResourceSpans) :
    List InvokeEventDataWithSpans → List InvokeEventDataWithSpans
  | [] => []
  | [lastEvent] => [{ lastEvent with spans := lastEvent.spans ++ spans }]
  | e :: e' :: rest => e :: extendLastSpans spans (e' :: rest)

/-- `handle_otlp_spans`. -/
def handleOtlpSpans (clock : Clock) (resourceSpans : List ResourceSpans)
    (s : TelemetryServiceState) : Effects :=
  match s.invokeEventQueue with
  | _ :: _ =>
    { state := { s with invokeEventQueue := extendLastSpans resourceSpans s.invokeEventQueue } }
  | [] =>
    match s.invocationState with
    | some invocationState =>
      if invocationState.runtimeDoneData.isSome then
        -- the spans most likely come from a new invocation that has already started
        { state := { s with functionSpansBuffer := s.functionSpansBuffer ++ resourceSpans } }
      else
        let (invocationState, s) := callProcessFunctionSpans config resourceSpans invocationState s
        let s := { s with invocationState := some invocationState }
        if config.spanSendingThreshold ≤ s.outputBuffers.functionSpansCount then signalShouldSend s
        else if config.reportingStrategy.sendAfterDelay then
          signalShouldSendAfterDelay config clock s
        else { state := s }
    | none => { state := { s with functionSpansBuffer := s.functionSpansBuffer ++ resourceSpans } }

/-- `process_function_metrics`. -/
def processFunctionMetrics (functionMetrics : List ResourceMetrics) (s : TelemetryServiceState) :
    TelemetryServiceState :=
  match config.processorConfig.otelMetricsMode with
  | .disabled => s
  | .direct =>
    { s with
      outputBuffers :=
        { s.outputBuffers with
          functionMetricsBuffer := s.outputBuffers.functionMetricsBuffer ++ functionMetrics } }
  | .processed =>
    { s with
      metricsAccumulator := (functionMetrics.flatMap (·.scopeMetrics)).foldl
        (fun acc sm => acc.accumulate sm.metrics) s.metricsAccumulator }

/-- `handle_otlp_metrics`. -/
def handleOtlpMetrics (clock : Clock) (resourceMetrics : List ResourceMetrics)
    (s : TelemetryServiceState) : Effects :=
  let delayed : Effects :=
    if config.reportingStrategy.sendAfterDelay then signalShouldSendAfterDelay config clock s
    else { state := s }
  { delayed with state := processFunctionMetrics config resourceMetrics delayed.state }

/-! ## Sending -/

/-- `prepare_logs`. -/
def prepareLogs (functionContext : FunctionContext) (out : OutputBuffers) : List ResourceLogs :=
  [wrapLogsInResource [wrapLogsInScope out.logsBuffer functionContext] functionContext
    config.processorConfig.resourceAttributes.logs]

/-- `prepare_spans`. -/
def prepareSpans (functionContext : FunctionContext) (out : OutputBuffers) : List ResourceSpans :=
  let scopeSpans := out.functionSpansBuffer ++
    if out.spansBuffer.isEmpty then [] else [wrapSpansInScope out.spansBuffer functionContext]
  if scopeSpans.isEmpty then []
  else [wrapSpansInResource scopeSpans functionContext
    config.processorConfig.resourceAttributes.traces]

/-- The metrics of `prepare_metrics` before they are wrapped in a resource. -/
def takeScopeMetrics (s : TelemetryServiceState) : List ScopeMetrics × TelemetryServiceState :=
  let (platform, s) : List ScopeMetrics × TelemetryServiceState :=
    if config.processorConfig.platformMetricsMode ≠ .disabled then
      let (metrics, metricsState) := s.metricsState.makeMetricsReport
      (if metrics.isEmpty then [] else [wrapMetricsInScope metrics], { s with metricsState })
    else ([], s)
  match config.processorConfig.otelMetricsMode with
  | .disabled => (platform, s)
  | .direct =>
    (platform ++ (s.outputBuffers.functionMetricsBuffer.flatMap (·.scopeMetrics)).filter
        fun m => !m.metrics.isEmpty,
      { s with outputBuffers := { s.outputBuffers with functionMetricsBuffer := [] } })
  | .processed =>
    let (metrics, metricsAccumulator) := s.metricsAccumulator.exportMetrics
    (platform ++ (if metrics.isEmpty then [] else [wrapMetricsInScope metrics]),
      { s with metricsAccumulator })

/-- `prepare_metrics`. -/
def prepareMetrics (functionContext : FunctionContext) (s : TelemetryServiceState) :
    List ResourceMetrics × TelemetryServiceState :=
  let (scopeMetrics, s) := takeScopeMetrics config s
  (if scopeMetrics.isEmpty then []
    else [wrapMetricsInResource scopeMetrics functionContext
      config.processorConfig.resourceAttributes.metrics], s)

/-- `prepare_telemetry_batch`. -/
def prepareTelemetryBatch (functionContext : FunctionContext) (s : TelemetryServiceState) :
    TelemetryBatch × TelemetryServiceState :=
  let logs := prepareLogs config functionContext s.outputBuffers
  let spans := prepareSpans config functionContext s.outputBuffers
  let s :=
    { s with
      outputBuffers :=
        { s.outputBuffers with
          logsBuffer := [], spansBuffer := [], functionSpansBuffer := [], functionSpansCount := 0 } }
  let (metrics, s) := prepareMetrics config functionContext s
  ({ logs, spans, metrics, epsagonTraces := s.outputBuffers.epsagonTracesBuffer },
    { s with outputBuffers := { s.outputBuffers with epsagonTracesBuffer := [] } })

/-- `send_telemetry`: the batch given to the `SendingSupervisor`. -/
def sendTelemetry (functionContext : FunctionContext) (s : TelemetryServiceState) :
    TelemetryBatch × TelemetryServiceState :=
  prepareTelemetryBatch config functionContext { s with shouldSend := false, shouldSendBy := none }

/-! ## Shutdown -/

/-- `flush_enqueued_telemetry`. An error is logged. -/
def flushEnqueuedTelemetry (functionContext : FunctionContext) (s : TelemetryServiceState) :
    TelemetryServiceState :=
  (processInDegradedMode config functionContext s.telemetryEventQueue
    { s with shutdownFlushStarted := true, telemetryEventQueue := [] }).1

end

/-- `u64::try_from` of an `i128`, with `none` for its error. -/
def u64TryFrom (x : Int) : Option Nat :=
  if 0 ≤ x ∧ x < UInt64.size then some x.toNat else none

/-- `remaining_time_ms` of a `ShutdownEvent`, at the time `now`. `whole_milliseconds` truncates. -/
def remainingTimeMs (deadlineMs : Nat) (now : OffsetDateTime) : Option Nat := do
  let deadline ← (fromUnixTimestampNanos (deadlineMs * 1000000)).toOption
  let remainingTime : Int := deadline - now
  u64TryFrom (remainingTime.tdiv 1000000)

/-- `sleep_for` of `handle_shutdown_event`, in milliseconds. -/
def sleepFor (deadlineMs : Nat) (now : OffsetDateTime) : Nat :=
  (remainingTimeMs deadlineMs now).elim 0 fun remaining => max (wrappingSub remaining 50) 0

end TelemetryExporter
