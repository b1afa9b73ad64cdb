import TelemetryExporter.Verify.SpanCalls

/-!
# Tracing modes and sampling, over all runs

The spans that have been sent and those that are still buffered are, in order, the ones that the
calls of the processor have added. So a batch has no span that no call has added, and what a call
adds respects the tracing mode and the sampling decision of its invocation, which is that of the
invoke event that the call's state has been made for.
-/

namespace TelemetryExporter

open Machine

/-! ## The ledger -/

/-- The calls that have a state to add spans from. -/
def ProcessorCall.isProcessing : ProcessorCall → Bool
  | .functionSpans .. => true
  | .telemetry .. => true
  | .degraded _ => true
  | _ => false

/-- The spans sent and buffered are those that the calls have added, each with a state of the
invocation that it is for. -/
structure SpanLedger [External] (config : TelemetryProcessorConfig)
    (invokes : List (InvokeEvent × FunctionContext)) (sentFunctionSpans : List ScopeSpans)
    (sentPlatformSpans : List Span) (calls : List SpanCall) (s : TelemetryServiceState) :
    Prop where
  trace : calls.map SpanCall.call = s.trace.filter ProcessorCall.isProcessing
  functionSpans : sentFunctionSpans ++ s.outputBuffers.functionSpansBuffer =
    calls.flatMap (SpanCall.addedFunctionSpans config)
  platformSpans : sentPlatformSpans ++ s.outputBuffers.spansBuffer =
    calls.flatMap (SpanCall.addedPlatformSpans config)
  states : ∀ c ∈ calls, ∀ state, c.state? = some state → state.BelongsTo config invokes
  current : ∀ state, s.invocationState = some state → state.BelongsTo config invokes

/-- There is a ledger, and the queue has the other invoke events. -/
def HasLedger [External] (config : TelemetryProcessorConfig)
    (invokes : List (InvokeEvent × FunctionContext)) (sentFunctionSpans : List ScopeSpans)
    (sentPlatformSpans : List Span) (s : TelemetryServiceState) : Prop :=
  Queued invokes s ∧
    ∃ calls, SpanLedger config invokes sentFunctionSpans sentPlatformSpans calls s

namespace SpanLedger

variable [External] {config : TelemetryProcessorConfig}
  {invokes : List (InvokeEvent × FunctionContext)} {sentF : List ScopeSpans} {sentP : List Span}
  {calls : List SpanCall} {s s' : TelemetryServiceState}

/-- What the ledger is about. -/
theorem congr (h : SpanLedger config invokes sentF sentP calls s) (htrace : s'.trace = s.trace)
    (hfunction : s'.outputBuffers.functionSpansBuffer = s.outputBuffers.functionSpansBuffer)
    (hplatform : s'.outputBuffers.spansBuffer = s.outputBuffers.spansBuffer)
    (hcurrent : s'.invocationState = s.invocationState) :
    SpanLedger config invokes sentF sentP calls s' := by
  refine ⟨?_, ?_, ?_, h.states, ?_⟩
  · rw [htrace, h.trace]
  · rw [hfunction, h.functionSpans]
  · rw [hplatform, h.platformSpans]
  · rw [hcurrent]
    exact h.current

/-- Later invoke events do not matter. -/
theorem mono (h : SpanLedger config invokes sentF sentP calls s)
    (more : List (InvokeEvent × FunctionContext)) :
    SpanLedger config (invokes ++ more) sentF sentP calls s :=
  ⟨h.trace, h.functionSpans, h.platformSpans, fun c hc state hstate => (h.states c hc state hstate).mono,
    fun state hstate => (h.current state hstate).mono⟩

/-- An entry of the trace that adds no spans. -/
theorem skip (h : SpanLedger config invokes sentF sentP calls s) {call : ProcessorCall}
    (hcall : call.isProcessing = false) (htrace : s'.trace = s.trace ++ [call])
    (hout : s'.outputBuffers = s.outputBuffers)
    (hcurrent : ∀ state, s'.invocationState = some state → state.BelongsTo config invokes) :
    SpanLedger config invokes sentF sentP calls s' := by
  refine ⟨?_, ?_, ?_, h.states, hcurrent⟩
  · rw [htrace, List.filter_append, List.filter_cons_of_neg (Bool.eq_false_iff.1 hcall),
      List.filter_nil, List.append_nil, h.trace]
  · rw [hout, h.functionSpans]
  · rw [hout, h.platformSpans]

/-- One more call. -/
theorem append (h : SpanLedger config invokes sentF sentP calls s) (c : SpanCall)
    (hcall : c.call.isProcessing = true)
    (hstates : ∀ state, c.state? = some state → state.BelongsTo config invokes)
    (htrace : s'.trace = s.trace ++ [c.call])
    (hfunction : s'.outputBuffers.functionSpansBuffer =
      s.outputBuffers.functionSpansBuffer ++ c.addedFunctionSpans config)
    (hplatform : s'.outputBuffers.spansBuffer =
      s.outputBuffers.spansBuffer ++ c.addedPlatformSpans config)
    (hcurrent : ∀ state, s'.invocationState = some state → state.BelongsTo config invokes) :
    SpanLedger config invokes sentF sentP (calls ++ [c]) s' := by
  refine ⟨?_, ?_, ?_, ?_, hcurrent⟩
  · rw [htrace, List.filter_append, List.filter_cons_of_pos hcall, List.filter_nil, List.map_append,
      h.trace]
    rfl
  · rw [hfunction, ← List.append_assoc, h.functionSpans, List.flatMap_append, List.flatMap_singleton]
  · rw [hplatform, ← List.append_assoc, h.platformSpans, List.flatMap_append, List.flatMap_singleton]
  · intro c' hc'
    rcases List.mem_append.1 hc' with hc' | hc'
    · exact h.states c' hc'
    · obtain rfl := List.mem_singleton.1 hc'
      exact hstates

/-- Another invocation has become the current one. -/
theorem setCurrent (h : SpanLedger config invokes sentF sentP calls s) {state : InvocationProcessingState}
    (hstate : state.BelongsTo config invokes) :
    SpanLedger config invokes sentF sentP calls { s with invocationState := some state } := by
  refine ⟨h.trace, h.functionSpans, h.platformSpans, h.states, ?_⟩
  intro state' heq
  cases heq
  exact hstate

end SpanLedger

section

variable [External] {config : TelemetryServiceConfig}
  {invokes : List (InvokeEvent × FunctionContext)} {s s' : TelemetryServiceState}
  {sentF : List ScopeSpans} {sentP : List Span} {calls : List SpanCall}
  {state : InvocationProcessingState}

/-- A call for spans of the function. -/
theorem callProcessFunctionSpans_ledger
    (h : SpanLedger config.processorConfig invokes sentF sentP calls s)
    (state : InvocationProcessingState) (hstate : state.BelongsTo config.processorConfig invokes)
    (spans : List ResourceSpans) :
    SpanLedger config.processorConfig invokes sentF sentP (calls ++ [.functionSpans spans state])
        (callProcessFunctionSpans config spans state s).2 ∧
      (callProcessFunctionSpans config spans state s).1.BelongsTo config.processorConfig invokes := by
  let p : Processing InvocationProcessingState := ⟨state, s.metricsState, s.outputBuffers, s.rng⟩
  constructor
  · refine h.append (.functionSpans spans state) rfl ?_ rfl ?_ ?_ h.current
    · intro state' heq
      cases heq
      exact hstate
    · exact @processFunctionSpans_functionSpansBuffer _ config.processorConfig p spans
    · exact (@processFunctionSpans_spansBuffer _ config.processorConfig p spans).trans
        (List.append_nil _).symm
  · refine hstate.same (@processFunctionSpans_keeps p _ config.processorConfig spans).same ?_
    have htracing := (@processFunctionSpans_spans _ config.processorConfig p spans).1
    change (processFunctionSpans config.processorConfig spans p).state.tracingState.shouldProduceSpans =
      state.tracingState.shouldProduceSpans
    rw [htracing, processFunctionSpansTracing_shouldProduceSpans]

/-- A call for an event. -/
theorem callProcessTelemetry_ledger
    (h : SpanLedger config.processorConfig invokes sentF sentP calls s)
    (hstate : s.invocationState = some state) (event : LambdaTelemetry) :
    ∃ calls, SpanLedger config.processorConfig invokes sentF sentP calls
      (callProcessTelemetry config event state s).1 := by
  have hbelongs := h.current state hstate
  unfold callProcessTelemetry
  split
  · exact ⟨calls, h.skip rfl rfl rfl h.current⟩
  · next p' hprocess =>
    have hp := processTelemetry_ok hprocess
    have hsame := (processTelemetry_advances hprocess).same
    have hbelongs' : p'.state.BelongsTo config.processorConfig invokes := by
      refine hbelongs.same hsame ?_
      rw [hp, processRecord_tracingState]
    refine ⟨calls ++ [.telemetry event p'.state],
      h.append (.telemetry event p'.state) rfl ?_ ?_ ?_ ?_ ?_⟩
    · intro state' heq
      cases heq
      exact hbelongs'
    · rw [SpanCall.call, hsame.serial]
    · rw [hp]
      exact processRecord_functionSpansBuffer event
    · rw [hp]
      exact processRecord_spansBuffer event
    · intro state' heq
      cases heq
      exact hbelongs'

/-- The current invocation, or the next one, whose state is made for its invoke event. -/
theorem acquireInvocation_ledger (h : SpanLedger config.processorConfig invokes sentF sentP calls s)
    (hqueued : Queued invokes s) :
    ∃ calls, SpanLedger config.processorConfig invokes sentF sentP calls
      (acquireInvocation config s).1 := by
  unfold acquireInvocation
  split
  · exact ⟨calls, h⟩
  · next hnone =>
    split
    · exact ⟨calls, h⟩
    · next invokeEvent queue hqueue =>
      dsimp only
      split
      · exact ⟨calls, h.skip rfl rfl rfl h.current⟩
      · next context rng hcontext =>
        let new := InvocationProcessingState.new invokeEvent.serial invokeEvent.functionContext
          context config.processorConfig.traceSamplingMode config.processorConfig.tracingMode rng
        have created : SpanLedger config.processorConfig invokes sentF sentP calls
            { s with
              invokeEventQueue := queue
              functionSpansBuffer := []
              rng := new.2
              trace := s.trace ++ [.created invokeEvent.serial] } :=
          h.skip rfl rfl rfl h.current
        have hmem : invokeEvent ∈ s.invokeEventQueue := by
          rw [hqueue]
          exact List.mem_cons_self
        obtain ⟨e, functionContext, spans, he, hdata⟩ := hqueued.queue invokeEvent hmem
        obtain ⟨hfirst, hbelongs⟩ := callProcessFunctionSpans_ledger created new.1
          ⟨e, functionContext, he, (madeFor_of_queued hdata hcontext).isFor⟩ s.functionSpansBuffer
        obtain ⟨hsecond, hbelongs⟩ :=
          callProcessFunctionSpans_ledger hfirst _ hbelongs invokeEvent.spans
        exact ⟨_, hsecond.setCurrent hbelongs⟩

/-- No part of `process_telemetry_events` adds something to the queue. -/
theorem Queued.part (h : Queued invokes s) (hpart : Part config s s') : Queued invokes s' := by
  cases hpart with
  | acquired =>
    unfold acquireInvocation
    split
    · exact h
    · split
      · exact h
      · next invokeEvent queue hqueue =>
        dsimp only
        split
        · exact h.take hqueue rfl rfl
        · exact h.take hqueue rfl rfl
  | telemetry event state hs =>
    unfold callProcessTelemetry
    split
    · exact h.congr rfl rfl
    · exact h.congr rfl rfl
  | _ => exact h.congr rfl rfl

/-- Every part of `process_telemetry_events`. -/
theorem HasLedger.part (h : HasLedger config.processorConfig invokes sentF sentP s)
    (hpart : Part config s s') : HasLedger config.processorConfig invokes sentF sentP s' := by
  obtain ⟨hqueued, calls, h⟩ := h
  refine ⟨hqueued.part hpart, ?_⟩
  cases hpart with
  | acquired => exact acquireInvocation_ledger h hqueued
  | telemetry event state hs => exact callProcessTelemetry_ledger h hs event
  | degraded event p p' hmetrics hout hprocess =>
    have hp := processTelemetryInDegradedMode_ok hprocess
    obtain ⟨hfunction, hplatform⟩ :=
      @processRecordInDegradedMode_spans _ config.processorConfig p event
    rw [← hp, hout] at hfunction hplatform
    refine ⟨_, h.append (.degraded event p'.state) rfl ?_ rfl ?_ hplatform h.current⟩
    · intro state heq
      cases heq
    · exact hfunction.trans (List.append_nil _).symm
  | failed event => exact ⟨calls, h.skip rfl rfl rfl h.current⟩
  | moved => exact ⟨calls, h.congr rfl rfl rfl rfl⟩
  | concluded state hs hreport =>
    refine ⟨calls, h.skip rfl rfl rfl ?_⟩
    intro state heq
    cases heq

/-- What the ledger is about stays, and so does the queue. -/
theorem HasLedger.congr (h : HasLedger config.processorConfig invokes sentF sentP s)
    (htrace : s'.trace = s.trace)
    (hfunction : s'.outputBuffers.functionSpansBuffer = s.outputBuffers.functionSpansBuffer)
    (hplatform : s'.outputBuffers.spansBuffer = s.outputBuffers.spansBuffer)
    (hcurrent : s'.invocationState = s.invocationState) (hqueued : Queued invokes s') :
    HasLedger config.processorConfig invokes sentF sentP s' := by
  obtain ⟨-, calls, h⟩ := h
  exact ⟨hqueued, calls, h.congr htrace hfunction hplatform hcurrent⟩

theorem HasLedger.core (h : HasLedger config.processorConfig invokes sentF sentP s)
    (hcore : s'.core = s.core) : HasLedger config.processorConfig invokes sentF sentP s' := by
  have same := SameCore.of_core hcore
  refine h.congr same.trace ?_ ?_ same.invocationState
    (h.1.congr same.invokeEventQueue same.enqueued)
  · rw [same.outputBuffers]
  · rw [same.outputBuffers]

/-- An invoke event is queued. -/
theorem HasLedger.push (h : HasLedger config.processorConfig invokes sentF sentP s) (e : InvokeEvent)
    (functionContext : FunctionContext) :
    HasLedger config.processorConfig (invokes ++ [(e, functionContext)]) sentF sentP
      (pushInvokeEvent e functionContext s) := by
  obtain ⟨hqueued, calls, h⟩ := h
  exact ⟨hqueued.push e functionContext, calls, (h.mono _).congr rfl rfl rfl rfl⟩

theorem HasLedger.processQueues (h : HasLedger config.processorConfig invokes sentF sentP s) :
    HasLedger config.processorConfig invokes sentF sentP (processQueues config s) :=
  processQueues_parts (fun _ _ => HasLedger.part) h

/-- Spans of the function that are processed at once, or wait. -/
theorem HasLedger.receiveSpans (h : HasLedger config.processorConfig invokes sentF sentP s)
    (spans : List ResourceSpans) :
    HasLedger config.processorConfig invokes sentF sentP (receiveSpans config spans s) := by
  unfold TelemetryExporter.receiveSpans
  split
  · exact h.congr rfl rfl rfl rfl (h.1.extend rfl rfl)
  · split
    · next state hstate =>
      split
      · exact h.congr rfl rfl rfl rfl (h.1.congr rfl rfl)
      · obtain ⟨hqueued, calls, h⟩ := h
        obtain ⟨hcall, hbelongs⟩ :=
          callProcessFunctionSpans_ledger h state (h.current state hstate) spans
        exact ⟨hqueued.congr rfl rfl, _, hcall.setCurrent hbelongs⟩
    · exact h.congr rfl rfl rfl rfl (h.1.congr rfl rfl)

/-- The flush processes the queued events in degraded mode. -/
theorem HasLedger.flush (h : HasLedger config.processorConfig invokes sentF sentP s)
    (functionContext : FunctionContext) :
    HasLedger config.processorConfig invokes sentF sentP
      (flushEnqueuedTelemetry config functionContext s) := by
  unfold flushEnqueuedTelemetry
  apply processInDegradedMode_parts (fun _ _ => HasLedger.part)
  exact h.congr rfl rfl rfl rfl (h.1.congr rfl rfl)

end

/-! ## Batches -/

/-- The spans of a batch, before they are wrapped. -/
structure SentSpans where
  functionContext : FunctionContext
  functionSpans : List ScopeSpans
  platformSpans : List Span

/-- The spans as they are in the batch. -/
def SentSpans.prepared (config : TelemetryServiceConfig) (x : SentSpans) : List ResourceSpans :=
  prepareSpans config x.functionContext
    { functionSpansBuffer := x.functionSpans, spansBuffer := x.platformSpans }

/-- The ledger of a service: of what the batches have, and of its state. -/
def SpansAccounted [External] (config : TelemetryServiceConfig)
    (invokes : List (InvokeEvent × FunctionContext)) (calls : List SpanCall)
    (parts : List SentSpans) (service : TelemetryService) : Prop :=
  service.sent.map (·.spans) = parts.map (SentSpans.prepared config) ∧
    SpanLedger config.processorConfig invokes (parts.flatMap (·.functionSpans))
      (parts.flatMap (·.platformSpans)) calls service.state

section

variable {config : TelemetryServiceConfig} {s : TelemetryServiceState}

/-- Sending takes all spans. -/
theorem sendTelemetry_spans (functionContext : FunctionContext) :
    (sendTelemetry config functionContext s).1.spans =
        SentSpans.prepared config
          ⟨functionContext, s.outputBuffers.functionSpansBuffer, s.outputBuffers.spansBuffer⟩ ∧
      (sendTelemetry config functionContext s).2.outputBuffers.functionSpansBuffer = [] ∧
      (sendTelemetry config functionContext s).2.outputBuffers.spansBuffer = [] ∧
      (sendTelemetry config functionContext s).2.trace = s.trace ∧
      (sendTelemetry config functionContext s).2.invocationState = s.invocationState := by
  unfold sendTelemetry prepareTelemetryBatch prepareMetrics takeScopeMetrics
  dsimp only
  split <;> split <;> exact ⟨rfl, rfl, rfl, rfl, rfl⟩

end

section

variable [External] {config : TelemetryServiceConfig} {service service' : TelemetryService}
  {invokes : List (InvokeEvent × FunctionContext)}

/-- The ledger, with the invoke events that the actions so far have queued. -/
def LedgerSoFar (config : TelemetryServiceConfig) (past : List Action) (service : TelemetryService) :
    Prop :=
  ∃ (invokes : List (InvokeEvent × FunctionContext)) (parts : List SentSpans),
    acceptedInvokes past = invokes ++ service.handler.invokes ∧
    service.sent.map (·.spans) = parts.map (SentSpans.prepared config) ∧
    HasLedger config.processorConfig invokes (parts.flatMap (·.functionSpans))
      (parts.flatMap (·.platformSpans)) service.state

/-- A send empties the buffers of spans. -/
theorem HasLedger.send {parts : List SentSpans} {s s' : TelemetryServiceState}
    {functionContext : FunctionContext}
    (h : HasLedger config.processorConfig invokes (parts.flatMap (·.functionSpans))
      (parts.flatMap (·.platformSpans)) s)
    (hcore : s'.core = (sendTelemetry config functionContext s).2.core) :
    let parts' : List SentSpans := parts ++
      [⟨functionContext, s.outputBuffers.functionSpansBuffer, s.outputBuffers.spansBuffer⟩]
    HasLedger config.processorConfig invokes (parts'.flatMap (·.functionSpans))
      (parts'.flatMap (·.platformSpans)) s' := by
  intro parts'
  obtain ⟨hqueued, calls, h⟩ := h
  obtain ⟨-, hfunction, hplatform, htrace, hcurrent⟩ := @sendTelemetry_spans config s functionContext
  have same := SameCore.of_core hcore
  refine ⟨?_, calls, ?_, ?_, ?_, h.states, ?_⟩
  · obtain ⟨m, acc, out, -, hstate⟩ := @sendTelemetry_state config s functionContext
    refine hqueued.congr ?_ ?_
    · rw [same.invokeEventQueue, hstate]
    · rw [same.enqueued, hstate]
  · rw [same.trace, htrace]
    exact h.trace
  · rw [same.outputBuffers, hfunction, List.append_nil, List.flatMap_append, List.flatMap_singleton,
      ← h.functionSpans]
  · rw [same.outputBuffers, hplatform, List.append_nil, List.flatMap_append, List.flatMap_singleton,
      ← h.platformSpans]
  · rw [same.invocationState, hcurrent]
    exact h.current

omit [External] in
/-- The batches after a send. -/
theorem prepared_send {parts : List SentSpans} {s : TelemetryServiceState}
    {functionContext : FunctionContext}
    (hsent : service.sent.map (·.spans) = parts.map (SentSpans.prepared config))
    (heq : service'.sent = service.sent ++ [(sendTelemetry config functionContext s).1]) :
    let part : SentSpans :=
      ⟨functionContext, s.outputBuffers.functionSpansBuffer, s.outputBuffers.spansBuffer⟩
    service'.sent.map (·.spans) = (parts ++ [part]).map (SentSpans.prepared config) := by
  intro part
  rw [heq, List.map_append, List.map_append, hsent, List.map_singleton, List.map_singleton,
    (sendTelemetry_spans functionContext).1]

/-- One step of the service. -/
theorem serviceStep_ledgerSoFar {past : List Action} {a : Action} (h : LedgerSoFar config past service)
    (hstep : serviceStep config service a = some service') :
    LedgerSoFar config (past ++ [a]) service' := by
  obtain ⟨invokes, parts, hinvokes, hsent, hledger⟩ := h
  cases serviceStep_coreStep hstep with
  | still a service' hstate heq hevents hspans hhandler =>
    refine ⟨invokes, parts, ?_, heq ▸ hsent, hledger.core hstate⟩
    rw [acceptedInvokes_snoc, hinvokes, hhandler, List.append_assoc]
  | enqueued now e functionContext service' hstate heq hhandler hhandler' =>
    refine ⟨invokes ++ [(e, functionContext)], parts, ?_, heq ▸ hsent, ?_⟩
    · simp [acceptedInvokes_snoc, hinvokes, hhandler, hhandler', Action.invokes]
    · exact (hledger.push e functionContext).processQueues.core hstate
  | sent now functionContext service' hstate heq hhandler hhandler' =>
    refine ⟨invokes, _, ?_, prepared_send hsent heq, hledger.send hstate⟩
    simp [acceptedInvokes_snoc, hinvokes, hhandler, hhandler', Action.invokes]
  | telemetry clock events s service' hs hstate heq hhandler =>
    refine ⟨invokes, parts, ?_, heq ▸ hsent, HasLedger.core (HasLedger.processQueues ?_) hstate⟩
    · simp [acceptedInvokes_snoc, hinvokes, hhandler, Action.invokes]
    · refine HasLedger.core ?_ hs
      exact hledger.congr rfl rfl rfl rfl (hledger.1.congr rfl rfl)
  | otlpSpans clock spans service' hstate heq hhandler =>
    refine ⟨invokes, parts, ?_, heq ▸ hsent, (hledger.receiveSpans spans).core hstate⟩
    simp [acceptedInvokes_snoc, hinvokes, hhandler, Action.invokes]
  | otlpMetrics clock metrics service' hstate heq hhandler =>
    obtain ⟨acc, buffer, hmetrics⟩ := @processFunctionMetrics_state _ config metrics service.state
    rw [hmetrics] at hstate
    refine ⟨invokes, parts, ?_, heq ▸ hsent, HasLedger.core ?_ hstate⟩
    · simp [acceptedInvokes_snoc, hinvokes, hhandler, Action.invokes]
    · exact hledger.congr rfl rfl rfl rfl (hledger.1.congr rfl rfl)
  | shutDown functionContext service' hstate heq hhandler hhandler' =>
    refine ⟨invokes, _, ?_, prepared_send hsent heq, (hledger.flush functionContext).send hstate⟩
    simp [acceptedInvokes_snoc, hinvokes, hhandler, hhandler', Action.invokes, InvokeHandler.invokes]

/-- In every run the spans are accounted for. -/
theorem serviceRun_spansAccounted {now : Nat} {actions : List Action}
    (hrun : serviceRun config now actions = some service) :
    ∃ calls parts, SpansAccounted config (acceptedInvokes actions) calls parts service := by
  have hstart : LedgerSoFar config [] (TelemetryService.new config now) := by
    refine ⟨[], [], rfl, rfl, .initial rfl rfl, [], rfl, rfl, rfl, ?_, ?_⟩
    · intro c hc
      cases hc
    · intro state heq
      cases heq
  obtain ⟨invokes, parts, hinvokes, hsent, -, calls, hledger⟩ :=
    run_actions (I := LedgerSoFar config) hstart
      (fun past service a service' => serviceStep_ledgerSoFar) hrun
  refine ⟨calls, parts, hsent, ?_⟩
  rw [hinvokes]
  exact hledger.mono _

/-- Without the mode there are no spans of the function. -/
theorem SpansAccounted.functionSpans_eq_nil {calls : List SpanCall} {parts : List SentSpans}
    (h : SpansAccounted config invokes calls parts service)
    (hmode : config.processorConfig.tracingMode ≠ .otelInstrumentation) :
    ∀ part ∈ parts, part.functionSpans = [] := by
  have hsum := h.2.functionSpans
  rw [List.flatMap_eq_nil_iff.2 fun c _ => SpanCall.addedFunctionSpans_of_mode hmode c,
    List.append_eq_nil_iff] at hsum
  exact List.flatMap_eq_nil_iff.1 hsum.1

/-- With tracing disabled no batch has spans. -/
theorem SpansAccounted.spans_eq_nil {calls : List SpanCall} {parts : List SentSpans}
    (h : SpansAccounted config invokes calls parts service)
    (hmode : config.processorConfig.tracingMode = .disabled) :
    ∀ batch ∈ service.sent, batch.spans = [] := by
  intro batch hbatch
  have hsum := h.2.platformSpans
  rw [List.flatMap_eq_nil_iff.2 fun c _ => SpanCall.addedPlatformSpans_of_disabled hmode c,
    List.append_eq_nil_iff] at hsum
  have hspans : batch.spans ∈ parts.map (SentSpans.prepared config) := by
    rw [← h.1]
    exact List.mem_map.2 ⟨batch, hbatch, rfl⟩
  obtain ⟨part, hpart, hprepared⟩ := List.mem_map.1 hspans
  have hfunction : part.functionSpans = [] := by
    apply h.functionSpans_eq_nil _ part hpart
    rw [hmode]
    decide
  have hplatform : part.platformSpans = [] := List.flatMap_eq_nil_iff.1 hsum.1 part hpart
  rw [← hprepared]
  unfold SentSpans.prepared
  rw [hfunction, hplatform]
  rfl

/-- In every run, the batches have the spans that the calls of the processor have added, each with a
state of the invocation of the invoke event that arrived at its position. With tracing disabled there
are none, in TelemetryApi mode none of the function, and for an invocation that is not sampled its calls
add none. -/
theorem modes_respected {now : Nat} {actions : List Action}
    (hrun : serviceRun config now actions = some service) :
    ∃ calls parts, SpansAccounted config (acceptedInvokes actions) calls parts service ∧
      (config.processorConfig.tracingMode = .disabled → ∀ batch ∈ service.sent, batch.spans = []) ∧
      (config.processorConfig.tracingMode = .telemetryApi →
        (∀ part ∈ parts, part.functionSpans = []) ∧
          ∀ c ∈ calls, c.addedFunctionSpans config.processorConfig = []) ∧
      (config.processorConfig.traceSamplingMode = .followXray →
        ∀ c ∈ calls, ∀ state, c.state? = some state →
          (∃ e functionContext rng,
            (acceptedInvokes actions)[state.serial]? = some (e, functionContext) ∧
            (InvocationContext.tryFrom (e.queued state.serial functionContext []) rng).1 =
              .ok state.invocationContext ∧
            (state.invocationContext.sampled = true ↔ e.IsSampled)) ∧
          (state.invocationContext.sampled = false →
            c.addedFunctionSpans config.processorConfig = [] ∧
              c.addedPlatformSpans config.processorConfig = [])) := by
  obtain ⟨calls, parts, accounted⟩ := serviceRun_spansAccounted hrun
  refine ⟨calls, parts, accounted, accounted.spans_eq_nil, ?_, ?_⟩
  · intro hmode
    have hother : config.processorConfig.tracingMode ≠ .otelInstrumentation := by
      rw [hmode]
      decide
    exact ⟨accounted.functionSpans_eq_nil hother,
      fun c _ => SpanCall.addedFunctionSpans_of_mode hother c⟩
  · intro hsampling c hc state hstate
    have hbelongs := accounted.2.states c hc state hstate
    refine ⟨?_, fun hunsampled =>
      SpanCall.added_of_unsampled hstate (hbelongs.not_shouldProduceSpans hsampling hunsampled)⟩
    obtain ⟨e, functionContext, he, hfor⟩ := hbelongs
    obtain ⟨rng, hcontext⟩ := hfor.invocationContext
    exact ⟨e, functionContext, rng, he, hcontext, hfor.sampled⟩

end

/-- Invocations that X-Ray does not sample produce no spans. -/
def followXrayConfig : TelemetryServiceConfig :=
  let config := sampleConfig .lowOverhead .otelInstrumentation
  { config with
    processorConfig := { config.processorConfig with traceSamplingMode := .followXray } }

/-- The invoke event of a request that is not sampled. -/
def unsampledInvoke : InvokeEvent :=
  { sampleInvoke "r" with
    tracing :=
      { (sampleInvoke "r").tracing with
        value := "Root=1-5759e988-bd862e3fe1be46a994272793;Parent=53995c3f42cd8ad8;Sampled=0" } }

/-- Its spans and its telemetry, and the next invocation, which sends them. -/
def unsampledActions : List Action :=
  [.invoke unsampledInvoke sampleContext, .handler 0, .handler 0,
    .otlpSpans ⟨0, 0, 0⟩ (sampleSpanBatch []),
    sampleTelemetry [sampleInitStart 1, sampleStart 2 "r", sampleRuntimeDone 3 "r",
      sampleReport 4 "r"],
    .handler 0, .handler 0]

theorem modes_respected_unsampled :
    ∃ service, @serviceRun sampleExternal followXrayConfig 0 unsampledActions = some service ∧
      (service.state.trace.filter ProcessorCall.isProcessing).length = 7 ∧
      ∃ calls parts,
        @SpansAccounted sampleExternal followXrayConfig (acceptedInvokes unsampledActions) calls parts
          service ∧
        ∀ c ∈ calls, ∀ state, c.state? = some state → state.invocationContext.sampled = false →
          c.addedFunctionSpans followXrayConfig.processorConfig = [] ∧
            c.addedPlatformSpans followXrayConfig.processorConfig = [] := by
  obtain ⟨service, hrun, hcalls⟩ := @exists_run sampleExternal followXrayConfig 0 unsampledActions
    (fun service => (service.state.trace.filter ProcessorCall.isProcessing).length = 7) _
    (by decide +kernel)
  obtain ⟨calls, parts, haccounted, -, -, hunsampled⟩ :=
    @modes_respected sampleExternal followXrayConfig service 0 unsampledActions hrun
  exact ⟨service, hrun, hcalls, calls, parts, haccounted,
    fun c hc state hstate => (hunsampled rfl c hc state hstate).2⟩

end TelemetryExporter
