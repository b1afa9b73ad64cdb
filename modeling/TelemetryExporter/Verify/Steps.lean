import TelemetryExporter.Verify.Loop

/-!
# What one step of the service does to its state

The fields that only coordinate sending are erased (`core`): what is left changes in seven ways, the
constructors of `CoreStep`. An invariant that does not mention the erased fields is shown to hold
over all interleavings by going through these seven.
-/

namespace TelemetryExporter

/-- The state without the fields that coordinate sending. -/
def TelemetryServiceState.core (s : TelemetryServiceState) : TelemetryServiceState :=
  { s with
    shouldSendBy := none
    shouldSend := false
    receivedFirstInvocation := false
    shouldNotReceiveOtelNow := false }

/-- What two states with the same core have in common. -/
structure SameCore (s s' : TelemetryServiceState) : Prop where
  invokeEventQueue : s'.invokeEventQueue = s.invokeEventQueue
  telemetryEventQueue : s'.telemetryEventQueue = s.telemetryEventQueue
  functionSpansBuffer : s'.functionSpansBuffer = s.functionSpansBuffer
  halfProcessedEventBuffer : s'.halfProcessedEventBuffer = s.halfProcessedEventBuffer
  initHandlingStarted : s'.initHandlingStarted = s.initHandlingStarted
  initHandled : s'.initHandled = s.initHandled
  shutdownFlushStarted : s'.shutdownFlushStarted = s.shutdownFlushStarted
  invocationState : s'.invocationState = s.invocationState
  outputBuffers : s'.outputBuffers = s.outputBuffers
  enqueued : s'.enqueued = s.enqueued
  trace : s'.trace = s.trace

namespace SameCore

variable {s s' : TelemetryServiceState}

theorem of_core (h : s'.core = s.core) : SameCore s s' where
  invokeEventQueue := congrArg (·.invokeEventQueue) h
  telemetryEventQueue := congrArg (·.telemetryEventQueue) h
  functionSpansBuffer := congrArg (·.functionSpansBuffer) h
  halfProcessedEventBuffer := congrArg (·.halfProcessedEventBuffer) h
  initHandlingStarted := congrArg (·.initHandlingStarted) h
  initHandled := congrArg (·.initHandled) h
  shutdownFlushStarted := congrArg (·.shutdownFlushStarted) h
  invocationState := congrArg (·.invocationState) h
  outputBuffers := congrArg (·.outputBuffers) h
  enqueued := congrArg (·.enqueued) h
  trace := congrArg (·.trace) h

/-- Init is only handled after it has started. -/
theorem phase (h : SameCore s s')
    (hphase : s.initHandled = true → s.initHandlingStarted = true)
    (hinit : s'.initHandled = true) : s'.initHandlingStarted = true := by
  rw [h.initHandlingStarted]
  apply hphase
  rw [← h.initHandled]
  exact hinit

end SameCore

/-- The telemetry that the action delivers. -/
def Action.events : Action → List LambdaTelemetry
  | .telemetry _ events => events
  | _ => []

/-- The invoke event that the action delivers. -/
def Action.requests : Action → List InvokeEvent
  | .invoke e _ => [e]
  | _ => []

/-- The invoke event that the action delivers, with the context of its function. -/
def Action.invokes : Action → List (InvokeEvent × FunctionContext)
  | .invoke e functionContext => [(e, functionContext)]
  | _ => []

/-- The invoke event that has been delivered and is not queued yet. -/
def InvokeHandler.requests : InvokeHandler → List InvokeEvent
  | .draining e _ => [e]
  | .enqueuing e _ => [e]
  | _ => []

/-- The same, with the context of its function. -/
def InvokeHandler.invokes : InvokeHandler → List (InvokeEvent × FunctionContext)
  | .draining e functionContext => [(e, functionContext)]
  | .enqueuing e functionContext => [(e, functionContext)]
  | _ => []

theorem Action.invokes_fst (a : Action) : a.invokes.map Prod.fst = a.requests := by
  cases a <;> rfl

theorem InvokeHandler.invokes_fst (handler : InvokeHandler) :
    handler.invokes.map Prod.fst = handler.requests := by
  cases handler <;> rfl

theorem InvokeHandler.requests_of_invokes {handler : InvokeHandler}
    {invokes : List (InvokeEvent × FunctionContext)} (h : handler.invokes = invokes) :
    handler.requests = invokes.map Prod.fst := by
  rw [← h, handler.invokes_fst]

section

variable [External] (config : TelemetryServiceConfig)

/-- What `handle_telemetry` does to the state. -/
def processQueues (s : TelemetryServiceState) : TelemetryServiceState :=
  if s.shutdownFlushStarted then s else (processTelemetryEvents config s).1

/-- What `handle_otlp_spans` does to the state. -/
def receiveSpans (spans : List ResourceSpans) (s : TelemetryServiceState) : TelemetryServiceState :=
  match s.invokeEventQueue with
  | _ :: _ => { s with invokeEventQueue := extendLastSpans spans s.invokeEventQueue }
  | [] =>
    match s.invocationState with
    | some state =>
      if state.runtimeDoneData.isSome then
        { s with functionSpansBuffer := s.functionSpansBuffer ++ spans }
      else
        let (state, s) := callProcessFunctionSpans config spans state s
        { s with invocationState := some state }
    | none => { s with functionSpansBuffer := s.functionSpansBuffer ++ spans }

/-- What queueing an invoke event does to the state. -/
def pushInvokeEvent (e : InvokeEvent) (functionContext : FunctionContext)
    (s : TelemetryServiceState) : TelemetryServiceState :=
  { s with
    receivedFirstInvocation := true
    invokeEventQueue := s.invokeEventQueue ++
      [{ serial := s.enqueued
         deadlineMs := e.deadlineMs
         requestId := e.requestId
         invokedFunctionArn := e.invokedFunctionArn
         tracing := e.tracing
         spans := []
         functionContext }]
    enqueued := s.enqueued + 1 }

/-- The ways in which a step changes the state and the batches sent. -/
inductive CoreStep (service : TelemetryService) : Action → TelemetryService → Prop where
  | still (a : Action) (service' : TelemetryService)
      (hstate : service'.state.core = service.state.core) (hsent : service'.sent = service.sent)
      (hevents : a.events = []) (hspans : ∀ clock spans, a ≠ .otlpSpans clock spans)
      (hinvokes : service'.handler.invokes = service.handler.invokes ++ a.invokes) :
    CoreStep service a service'
  | enqueued (now : Instant) (e : InvokeEvent) (functionContext : FunctionContext)
      (service' : TelemetryService)
      (hstate : service'.state.core =
        (processQueues config (pushInvokeEvent e functionContext service.state)).core)
      (hsent : service'.sent = service.sent)
      (hhandler : service.handler.invokes = [(e, functionContext)])
      (hhandler' : service'.handler.invokes = []) :
    CoreStep service (.handler now) service'
  | sent (now : Instant) (functionContext : FunctionContext) (service' : TelemetryService)
      (hstate : service'.state.core = (sendTelemetry config functionContext service.state).2.core)
      (hsent : service'.sent =
        service.sent ++ [(sendTelemetry config functionContext service.state).1])
      (hhandler : service.handler.invokes = []) (hhandler' : service'.handler.invokes = []) :
    CoreStep service (.handler now) service'
  | telemetry (clock : Clock) (events : List LambdaTelemetry) (s : TelemetryServiceState)
      (service' : TelemetryService)
      (hs : s.core = { service.state with
        telemetryEventQueue := service.state.telemetryEventQueue ++ events }.core)
      (hstate : service'.state.core = (processQueues config s).core)
      (hsent : service'.sent = service.sent) (hhandler : service'.handler = service.handler) :
    CoreStep service (.telemetry clock events) service'
  | otlpSpans (clock : Clock) (spans : List ResourceSpans) (service' : TelemetryService)
      (hstate : service'.state.core = (receiveSpans config spans service.state).core)
      (hsent : service'.sent = service.sent) (hhandler : service'.handler = service.handler) :
    CoreStep service (.otlpSpans clock spans) service'
  | otlpMetrics (clock : Clock) (metrics : List ResourceMetrics) (service' : TelemetryService)
      (hstate : service'.state.core = (processFunctionMetrics config metrics service.state).core)
      (hsent : service'.sent = service.sent) (hhandler : service'.handler = service.handler) :
    CoreStep service (.otlpMetrics clock metrics) service'
  | shutDown (functionContext : FunctionContext) (service' : TelemetryService)
      (hstate : service'.state.core = (sendTelemetry config functionContext
        (flushEnqueuedTelemetry config functionContext service.state)).2.core)
      (hsent : service'.sent = service.sent ++ [(sendTelemetry config functionContext
        (flushEnqueuedTelemetry config functionContext service.state)).1])
      (hhandler : service.handler = .idle) (hhandler' : service'.handler = .shutDown) :
    CoreStep service (.shutdown functionContext) service'

end

section

variable [External] {config : TelemetryServiceConfig} {s : TelemetryServiceState}

omit [External] in
theorem signalShouldSendBy_core (clock : Clock) (time : Instant) :
    (signalShouldSendBy clock time s).state.core = s.core := by
  unfold signalShouldSendBy
  split
  · split <;> rfl
  · rfl

omit [External] in
theorem signalShouldSendAfterDelay_core (clock : Clock) :
    (signalShouldSendAfterDelay config clock s).state.core = s.core :=
  signalShouldSendBy_core clock _

omit [External] in
theorem signalShouldSendAfterDelayFromEvent_core (clock : Clock) (event : LambdaTelemetry) :
    (signalShouldSendAfterDelayFromEvent config clock event s).state.core = s.core := by
  unfold signalShouldSendAfterDelayFromEvent
  split
  · exact signalShouldSendBy_core clock _
  · rfl

omit [External] in
theorem wakeAfterDelay_core (clock : Clock) : (wakeAfterDelay clock s).state.core = s.core := by
  unfold wakeAfterDelay
  split <;> rfl

theorem handleTelemetry_core :
    (handleTelemetry config s).state.core = (processQueues config s).core := by
  have try_core : (tryProcessingTelemetry config s).1.state.core = (processQueues config s).core := by
    unfold tryProcessingTelemetry processQueues
    split
    · rfl
    · split
      · next h => rw [h]
      · next h =>
        rw [h]
        split <;> rfl
  unfold handleTelemetry
  split
  · next h =>
    rw [h] at try_core
    split <;> exact try_core
  · next h =>
    rw [h] at try_core
    exact try_core

theorem handleIncomingTelemetry_core (clock : Clock) (events : List LambdaTelemetry) :
    ∃ s' : TelemetryServiceState,
      s'.core = { s with telemetryEventQueue := s.telemetryEventQueue ++ events }.core ∧
      (handleIncomingTelemetry config clock events s).state.core = (processQueues config s').core := by
  have delayed (d : Effects) (hd : d.state.core = s.core) :
      { d.state with telemetryEventQueue := d.state.telemetryEventQueue ++ events }.core =
        { s with telemetryEventQueue := s.telemetryEventQueue ++ events }.core := by
    rw [(SameCore.of_core hd).telemetryEventQueue]
    have : { d.state.core with telemetryEventQueue := s.telemetryEventQueue ++ events } =
      { s.core with telemetryEventQueue := s.telemetryEventQueue ++ events } := by rw [hd]
    exact this
  refine ⟨_, delayed _ ?_, handleTelemetry_core⟩
  split
  · split
    · exact signalShouldSendAfterDelayFromEvent_core clock _
    · rfl
  · rfl

theorem handleOtlpSpans_core (clock : Clock) (spans : List ResourceSpans) :
    (handleOtlpSpans config clock spans s).state.core = (receiveSpans config spans s).core := by
  unfold handleOtlpSpans receiveSpans
  cases s.invokeEventQueue with
  | cons e rest => rfl
  | nil =>
    cases s.invocationState with
    | none => rfl
    | some state =>
      dsimp only
      split
      · rfl
      · split
        · rfl
        · split
          · exact signalShouldSendAfterDelay_core clock
          · rfl

theorem handleOtlpMetrics_core (clock : Clock) (metrics : List ResourceMetrics) :
    (handleOtlpMetrics config clock metrics s).state.core =
      (processFunctionMetrics config metrics s).core := by
  have process (t : TelemetryServiceState) (ht : t.core = s.core) :
      (processFunctionMetrics config metrics t).core =
        (processFunctionMetrics config metrics s).core := by
    have hcore (t : TelemetryServiceState) : (processFunctionMetrics config metrics t).core =
        processFunctionMetrics config metrics t.core := by
      unfold processFunctionMetrics
      split <;> rfl
    rw [hcore, hcore, ht]
  refine process _ ?_
  split
  · exact signalShouldSendAfterDelay_core clock
  · rfl

omit [External] in
/-- Sending only if needed is sending, or nothing. -/
theorem sendIfNeeded_cases (functionContext : FunctionContext) (now : Instant)
    (service : TelemetryService) :
    service.sendIfNeeded config functionContext now = service.send config functionContext ∨
      service.sendIfNeeded config functionContext now = service := by
  unfold TelemetryService.sendIfNeeded
  split
  · exact .inl rfl
  · exact .inr rfl

/-- What a step of the running `handle_invoke_event` can do. -/
inductive HandlerStep (config : TelemetryServiceConfig) (now : Instant) (service : TelemetryService) :
    TelemetryService → Prop where
  | drained (e : InvokeEvent) (functionContext : FunctionContext) (signal : Signal) (rest : List Signal)
      (hhandler : service.handler = .draining e functionContext)
      (hsignals : service.signals = signal :: rest) :
    HandlerStep config now service { service with signals := rest }
  | emptied (e : InvokeEvent) (functionContext : FunctionContext)
      (hhandler : service.handler = .draining e functionContext) :
    HandlerStep config now service { service with handler := .enqueuing e functionContext }
  | enqueued (e : InvokeEvent) (functionContext : FunctionContext)
      (hhandler : service.handler = .enqueuing e functionContext) :
    HandlerStep config now service
      { service.apply (enqueueInvokeEvent config e functionContext service.state) with
        handler :=
          if config.reportingStrategy = .lowOverhead then .checkingOnce functionContext
          else .checking functionContext }
  | checkedOnce (functionContext : FunctionContext)
      (hhandler : service.handler = .checkingOnce functionContext) :
    HandlerStep config now service
      { service.sendIfNeeded config functionContext now with handler := .awaiting }
  | checked (functionContext : FunctionContext)
      (hhandler : service.handler = .checking functionContext) :
    HandlerStep config now service
      { service.sendIfNeeded config functionContext now with handler := .receiving functionContext }
  | woken (functionContext : FunctionContext) (rest : List Signal)
      (hhandler : service.handler = .receiving functionContext)
      (hsignals : service.signals = .shouldSend :: rest) :
    HandlerStep config now service
      { service with signals := rest, handler := .checking functionContext }
  | done (functionContext : FunctionContext) (rest : List Signal)
      (hhandler : service.handler = .receiving functionContext)
      (hsignals : service.signals = .invocationDone :: rest) :
    HandlerStep config now service { service with signals := rest, handler := .leaving }
  | left (hhandler : service.handler = .leaving) :
    HandlerStep config now service
      { service with
        state := { service.state with shouldNotReceiveOtelNow := true }
        handler := .awaiting }
  | returned (hhandler : service.handler = .awaiting) :
    HandlerStep config now service
      { service with
        state :=
          if config.reportingStrategy = .lowOverhead then service.state
          else { service.state with shouldNotReceiveOtelNow := false }
        handler := .idle }

theorem handlerStep_cases {service service' : TelemetryService} {now : Instant}
    (h : handlerStep config now service = some service') : HandlerStep config now service service' := by
  unfold handlerStep at h
  split at h
  · cases h
  · next e functionContext hhandler =>
    split at h
    · next signal rest hsignals =>
      cases h
      exact .drained e functionContext signal rest hhandler hsignals
    · cases h
      exact .emptied e functionContext hhandler
  · next e functionContext hhandler =>
    cases h
    exact .enqueued e functionContext hhandler
  · next functionContext hhandler =>
    cases h
    exact .checkedOnce functionContext hhandler
  · next functionContext hhandler =>
    cases h
    exact .checked functionContext hhandler
  · next functionContext hhandler =>
    split at h
    · cases h
    · next rest hsignals =>
      cases h
      exact .woken functionContext rest hhandler hsignals
    · next rest hsignals =>
      cases h
      exact .done functionContext rest hhandler hsignals
  · next hhandler =>
    cases h
    exact .left hhandler
  · next hhandler =>
    cases h
    exact .returned hhandler
  · cases h

theorem handlerStep_coreStep {service service' : TelemetryService} {now : Instant}
    (h : handlerStep config now service = some service') :
    CoreStep config service (.handler now) service' := by
  have still (service' : TelemetryService) (hstate : service'.state.core = service.state.core)
      (hsent : service'.sent = service.sent)
      (hinvokes : service'.handler.invokes = service.handler.invokes) :
      CoreStep config service (.handler now) service' :=
    .still _ _ hstate hsent rfl nofun (by simp [hinvokes, Action.invokes])
  -- neither before nor after the check is an invoke event still to be queued
  have checked (functionContext : FunctionContext) (handler : InvokeHandler)
      (hinvokes : handler.invokes = []) (hhandler : service.handler.invokes = []) :
      CoreStep config service (.handler now)
        { service.sendIfNeeded config functionContext now with handler } := by
    rcases sendIfNeeded_cases functionContext now service with heq | heq
    · rw [heq]
      exact .sent now functionContext _ rfl rfl hhandler hinvokes
    · rw [heq]
      exact still _ rfl rfl (hinvokes.trans hhandler.symm)
  cases handlerStep_cases h with
  | drained => exact still _ rfl rfl rfl
  | emptied e functionContext hhandler => exact still _ rfl rfl (by rw [hhandler]; rfl)
  | enqueued e functionContext hhandler =>
    refine .enqueued now e functionContext _ handleTelemetry_core rfl (by rw [hhandler]; rfl) ?_
    dsimp only
    split <;> rfl
  | checkedOnce functionContext hhandler => exact checked functionContext _ rfl (by rw [hhandler]; rfl)
  | checked functionContext hhandler => exact checked functionContext _ rfl (by rw [hhandler]; rfl)
  | woken functionContext rest hhandler => exact still _ rfl rfl (by rw [hhandler]; rfl)
  | done functionContext rest hhandler => exact still _ rfl rfl (by rw [hhandler]; rfl)
  | left hhandler => exact still _ rfl rfl (by rw [hhandler]; rfl)
  | returned hhandler =>
    refine still _ ?_ rfl (by rw [hhandler]; rfl)
    dsimp only
    split <;> rfl

omit [External] in
/-- What sending changes in the state: only the outputs, which are taken, and the metrics. -/
theorem sendTelemetry_state (functionContext : FunctionContext) :
    ∃ m acc out, out.logsBuffer = [] ∧
      (sendTelemetry config functionContext s).2 =
        { s with
          shouldSend := false
          shouldSendBy := none
          metricsState := m
          metricsAccumulator := acc
          outputBuffers := out } := by
  unfold sendTelemetry prepareTelemetryBatch prepareMetrics takeScopeMetrics
  dsimp only
  split <;> split <;> exact ⟨_, _, _, rfl, rfl⟩

/-- The log records of a batch. -/
def TelemetryBatch.logRecords (batch : TelemetryBatch) : List LogRecord :=
  (batch.logs.flatMap (·.scopeLogs)).flatMap (·.logRecords)

omit [External] in
/-- A batch has the logs of the output buffer. -/
@[simp] theorem sendTelemetry_logRecords (functionContext : FunctionContext) :
    (sendTelemetry config functionContext s).1.logRecords = s.outputBuffers.logsBuffer := by
  simp [sendTelemetry, prepareTelemetryBatch, TelemetryBatch.logRecords, prepareLogs,
    wrapLogsInResource, wrapLogsInScope]

/-- An invoke event is handled when the call before has returned. -/
theorem serviceStep_invoke {service service' : TelemetryService} {e : InvokeEvent}
    {functionContext : FunctionContext}
    (h : serviceStep config service (.invoke e functionContext) = some service') :
    service.handler = .idle ∧
      service' = { service with
                   handler :=
                    if config.reportingStrategy = .lowOverhead then .draining e functionContext
                    else .enqueuing e functionContext } := by
  simp only [serviceStep] at h
  split at h
  · next hidle => exact ⟨hidle, (Option.some.inj h).symm⟩
  · cases h

/-- A timer wakes up once, when its time has come. -/
theorem serviceStep_wake {service service' : TelemetryService} {deadline : Instant} {clock : Clock}
    (h : serviceStep config service (.wake deadline clock) = some service') :
    (deadline ∈ service.timers ∧ deadline ≤ clock.instant) ∧
      service' = { service with timers := service.timers.erase deadline }.apply
        (wakeAfterDelay clock service.state) := by
  simp only [serviceStep] at h
  split at h
  · next hwake => exact ⟨hwake, (Option.some.inj h).symm⟩
  · cases h

/-- The shutdown comes between two calls of `handle_invoke_event`: a flush, and then a send. -/
theorem serviceStep_shutdown {service service' : TelemetryService} {functionContext : FunctionContext}
    (h : serviceStep config service (.shutdown functionContext) = some service') :
    service.handler = .idle ∧
      service' = { { service with
                     state := flushEnqueuedTelemetry config functionContext service.state }.send
                    config functionContext with
                   handler := .shutDown } := by
  simp only [serviceStep] at h
  split at h
  · next hidle => exact ⟨hidle, (Option.some.inj h).symm⟩
  · cases h

/-- Every step of the service is one of the seven. -/
theorem serviceStep_coreStep {service service' : TelemetryService} {a : Action}
    (h : serviceStep config service a = some service') : CoreStep config service a service' := by
  cases a with
  | invoke e functionContext =>
    obtain ⟨hidle, rfl⟩ := serviceStep_invoke h
    refine .still _ _ rfl rfl rfl nofun ?_
    rw [hidle]
    dsimp only
    split <;> rfl
  | handler now => exact handlerStep_coreStep h
  | telemetry clock events =>
    cases h
    obtain ⟨s, hs, hstate⟩ := @handleIncomingTelemetry_core _ config
      service.state clock events
    exact .telemetry clock events s _ hs hstate rfl rfl
  | otlpSpans clock spans =>
    cases h
    exact .otlpSpans clock spans _ (handleOtlpSpans_core clock spans) rfl rfl
  | otlpMetrics clock metrics =>
    cases h
    exact .otlpMetrics clock metrics _ (handleOtlpMetrics_core clock metrics) rfl rfl
  | wake deadline clock =>
    obtain ⟨-, rfl⟩ := serviceStep_wake h
    refine .still _ _ (wakeAfterDelay_core clock) rfl rfl nofun ?_
    simp [TelemetryService.apply, Action.invokes]
  | shutdown functionContext =>
    obtain ⟨hidle, rfl⟩ := serviceStep_shutdown h
    exact .shutDown functionContext _ rfl rfl hidle rfl

/-- Nothing follows the shutdown. -/
theorem serviceStep_shutDown {service service' : TelemetryService} {a : Action}
    (hs : service.handler = .shutDown) (h : serviceStep config service a = some service') :
    service'.handler = .shutDown := by
  cases a with
  | invoke => simp [serviceStep, hs] at h
  | handler now => simp [serviceStep, handlerStep, hs] at h
  | shutdown => simp [serviceStep, hs] at h
  | wake =>
    obtain ⟨-, rfl⟩ := serviceStep_wake h
    exact hs
  | _ =>
    cases h
    exact hs

/-- What the flush changes: the queued events have been processed in degraded mode. -/
theorem flushEnqueuedTelemetry_spec (functionContext : FunctionContext) :
    ∃ m out rng,
      flushEnqueuedTelemetry config functionContext s =
        { s with
          shutdownFlushStarted := true
          telemetryEventQueue := []
          metricsState := m
          outputBuffers := out
          rng
          trace := s.trace ++ callsFor .degraded s.telemetryEventQueue } ∧
      (config.processorConfig.logMode = .structured →
        functionSources out.logsBuffer = functionSources s.outputBuffers.logsBuffer ++
          (callsFor .degraded s.telemetryEventQueue).flatMap ProcessorCall.sources) ∧
      ((∀ event ∈ s.telemetryEventQueue, event.HasTimestamp) ∨
        ∃ event, .failed event ∈ callsFor .degraded s.telemetryEventQueue) := by
  obtain ⟨m, out, rng, r, heq, hlogs, -, hr⟩ := @processInDegradedModeLoop_spec _ config
    ({ s with
      shutdownFlushStarted := true
      telemetryEventQueue := []
      rng := (DegradedProcessingState.new functionContext s.rng).2 })
    (DegradedProcessingState.new functionContext s.rng).1 s.telemetryEventQueue
  refine ⟨m, out, rng, ?_, hlogs, ?_⟩
  · unfold flushEnqueuedTelemetry processInDegradedMode
    dsimp only at heq ⊢
    rw [heq]
  · rcases hr with ⟨-, htimes⟩ | ⟨_, bad, -, hbad⟩
    · exact .inl htimes
    · exact .inr ⟨bad, hbad⟩

end

end TelemetryExporter
