import TelemetryExporter.Lib.Outcome
import TelemetryExporter.Model.Service
import TelemetryExporter.Verify.Outputs

/-!
# What one iteration of `process_telemetry_events` does

The two halves of an iteration, getting the current invocation and handling one event, each have an
inductive predicate with one constructor for each way the half can go (`Acquired`, `Handled`). All
invariants of the service are derived from these cases, through the loop rule at the end.
-/

namespace TelemetryExporter

/-! ## Calls -/

namespace ProcessorCall

/-- The sources of the logs that the call emits or delays. -/
def sources [External] : ProcessorCall → List LogSource
  | .telemetry invocation event =>
    (functionLog event).toList.map (RawFunctionLog.source (some invocation))
  | .degraded event => (functionLog event).toList.map (RawFunctionLog.source none)
  | _ => []

/-- Whether the call processes a `PlatformReport` with an invocation's state. -/
def isReport : ProcessorCall → Bool
  | .telemetry _ event => event.isReport
  | _ => false

/-- Whether the call processes a `PlatformRuntimeDone` with an invocation's state. -/
def isRuntimeDone : ProcessorCall → Bool
  | .telemetry _ event => event.isRuntimeDone
  | _ => false

/-- Whether the call is an event that failed to process. -/
def isError : ProcessorCall → Bool
  | .failed _ => true
  | _ => false

end ProcessorCall

/-- `event_timestamp` accepts the event. -/
def LambdaTelemetry.HasTimestamp (event : LambdaTelemetry) : Prop :=
  eventTimestamp event = .ok event.nanos

/-- The calls made for a list of events, up to the first that fails. -/
def callsFor (call : LambdaTelemetry → ProcessorCall) : List LambdaTelemetry → List ProcessorCall
  | [] => []
  | event :: events =>
    match eventTimestamp event with
    | .ok _ => call event :: callsFor call events
    | .error _ => [.failed event]

theorem mem_callsFor {call : LambdaTelemetry → ProcessorCall} {events : List LambdaTelemetry}
    {c : ProcessorCall} (h : c ∈ callsFor call events) :
    ∃ event ∈ events, c = call event ∨ c = .failed event := by
  induction events with
  | nil => cases h
  | cons event events ih =>
    unfold callsFor at h
    split at h
    · rcases List.mem_cons.1 h with heq | h
      · exact ⟨event, List.mem_cons_self, .inl heq⟩
      · obtain ⟨event', hmem, heq⟩ := ih h
        exact ⟨event', List.mem_cons_of_mem _ hmem, heq⟩
    · rw [List.mem_singleton] at h
      exact ⟨event, List.mem_cons_self, .inr h⟩

theorem callsFor_of_timestamps {call : LambdaTelemetry → ProcessorCall}
    {events : List LambdaTelemetry} (h : ∀ event ∈ events, event.HasTimestamp) :
    callsFor call events = events.map call := by
  induction events with
  | nil => rfl
  | cons event events ih =>
    have hevent : event.HasTimestamp := h event List.mem_cons_self
    simp only [callsFor, show eventTimestamp event = .ok event.nanos from hevent, List.map_cons,
      ih fun e he => h e (List.mem_cons_of_mem _ he)]

/-- What calls with an invocation's state do to that state and to the outputs. -/
structure Carries [External] (config : TelemetryProcessorConfig) (calls : List ProcessorCall)
    (state state' : InvocationProcessingState) (out out' : OutputBuffers) : Prop where
  same : SameInvocation state state'
  reportData :
    state'.reportData.isSome = (state.reportData.isSome || calls.any ProcessorCall.isReport)
  runtimeDoneData : state'.runtimeDoneData.isSome =
    (state.runtimeDoneData.isSome || calls.any ProcessorCall.isRuntimeDone)
  delaysInOrder : config.logMode = .structured → state.DelaysInOrder → state'.DelaysInOrder
  sources : config.logMode = .structured → state.DelaysInOrder →
    functionSources out'.logsBuffer ++ state'.delayedSources =
      functionSources out.logsBuffer ++ state.delayedSources ++ calls.flatMap ProcessorCall.sources
  grows : out.Grows out'

namespace Carries

variable [External] {config : TelemetryProcessorConfig} {a b c : InvocationProcessingState}
  {out out' out'' : OutputBuffers} {calls calls' : List ProcessorCall}

theorem refl : Carries config [] a a out out :=
  ⟨.refl a, by simp, by simp, fun _ h => h, fun _ _ => by simp, .refl out⟩

theorem trans (h : Carries config calls a b out out') (h' : Carries config calls' b c out' out'') :
    Carries config (calls ++ calls') a c out out'' where
  same := h.same.trans h'.same
  reportData := by simp [h'.reportData, h.reportData, Bool.or_assoc]
  runtimeDoneData := by simp [h'.runtimeDoneData, h.runtimeDoneData, Bool.or_assoc]
  delaysInOrder hmode ha := h'.delaysInOrder hmode (h.delaysInOrder hmode ha)
  sources hmode ha := by
    rw [h'.sources hmode (h.delaysInOrder hmode ha), h.sources hmode ha]
    simp
  grows := h.grows.trans h'.grows

/-- A call that fails changes nothing. -/
theorem failed (event : LambdaTelemetry) : Carries config [.failed event] a a out out :=
  ⟨.refl a, by simp [ProcessorCall.isReport], by simp [ProcessorCall.isRuntimeDone],
    fun _ h => h, fun _ _ => by simp [ProcessorCall.sources], .refl out⟩

theorem of_advances {event : LambdaTelemetry} {p p' : Processing InvocationProcessingState}
    (h : Advances config event p p') (hgrows : p.Grows p') :
    Carries config [.telemetry p.state.serial event] p.state p'.state p.outputBuffers
      p'.outputBuffers where
  same := h.same
  reportData := by simp [h.reportData, ProcessorCall.isReport]
  runtimeDoneData := by simp [h.runtimeDoneData, ProcessorCall.isRuntimeDone]
  delaysInOrder := h.delaysInOrder
  sources hmode hp := by
    have := h.processedSources hmode hp
    simpa [Processing.processedSources, ProcessorCall.sources] using this
  grows := hgrows

theorem of_keeps {p p' : Processing InvocationProcessingState} (h : Keeps config p p')
    (hgrows : p.Grows p') :
    Carries config [] p.state p'.state p.outputBuffers p'.outputBuffers where
  same := h.same
  reportData := by simp [h.reportData]
  runtimeDoneData := by simp [h.runtimeDoneData]
  delaysInOrder := h.delaysInOrder
  sources _ _ := by
    have := h.processedSources
    simpa [Processing.processedSources] using this
  grows := hgrows

end Carries

section

variable [External] {config : TelemetryServiceConfig} {s : TelemetryServiceState}

/-! ## Calls of the processor -/

theorem callProcessTelemetry_spec (event : LambdaTelemetry) (state : InvocationProcessingState) :
    (event.HasTimestamp ∧ ∃ state' m out rng,
      callProcessTelemetry config event state s =
        ({ s with
           invocationState := some state'
           metricsState := m
           outputBuffers := out
           rng
           trace := s.trace ++ [.telemetry state.serial event] }, .ok state') ∧
      Carries config.processorConfig [.telemetry state.serial event] state state' s.outputBuffers
        out ∧
      (config.processorConfig.logMode = .structured → event.isReport = true → state'.logs = [])) ∨
    ((∃ e, eventTimestamp event = .error e) ∧ ∃ e,
      callProcessTelemetry config event state s =
        ({ s with trace := s.trace ++ [.failed event] }, .error e)) := by
  unfold callProcessTelemetry
  cases h : processTelemetry config.processorConfig event
      ⟨state, s.metricsState, s.outputBuffers, s.rng⟩ with
  | ok p =>
    refine .inl ⟨?_, p.state, p.metricsState, p.outputBuffers, p.rng, rfl,
      .of_advances (processTelemetry_advances h) (processTelemetry_grows h),
      (processTelemetry_advances h).reported⟩
    cases ht : eventTimestamp event with
    | ok time => rw [LambdaTelemetry.HasTimestamp, ht, eventTimestamp_eq ht]
    | error e => simp [processTelemetry, ht] at h
  | error e =>
    refine .inr ⟨?_, e, rfl⟩
    cases ht : eventTimestamp event with
    | ok time => simp [processTelemetry, ht] at h
    | error e' => exact ⟨e', rfl⟩

/-- The calls of `process_in_degraded_mode` for a list of events: what it changes, and when it
succeeds. -/
theorem processInDegradedModeLoop_spec (state : DegradedProcessingState)
    (events : List LambdaTelemetry) :
    ∃ m out rng r,
      processInDegradedModeLoop config state s events =
        ({ s with
           metricsState := m
           outputBuffers := out
           rng
           trace := s.trace ++ callsFor .degraded events }, r) ∧
      (config.processorConfig.logMode = .structured →
        functionSources out.logsBuffer = functionSources s.outputBuffers.logsBuffer ++
          (callsFor .degraded events).flatMap ProcessorCall.sources) ∧
      s.outputBuffers.Grows out ∧
      ((r = .ok () ∧ ∀ event ∈ events, event.HasTimestamp) ∨
        ∃ e event, r = .error e ∧ .failed event ∈ callsFor .degraded events) := by
  induction events generalizing state s with
  | nil =>
    exact ⟨s.metricsState, s.outputBuffers, s.rng, .ok (), by simp [processInDegradedModeLoop, callsFor],
      by simp [callsFor], .refl _, .inl ⟨rfl, by simp⟩⟩
  | cons event events ih =>
    cases ht : eventTimestamp event with
    | error e =>
      refine ⟨s.metricsState, s.outputBuffers, s.rng, .error e, ?_, ?_, .refl _,
        .inr ⟨e, event, rfl, ?_⟩⟩
      · simp [processInDegradedModeLoop, processTelemetryInDegradedMode, ht, callsFor]
      · simp [callsFor, ht, ProcessorCall.sources]
      · simp [callsFor, ht]
    | ok time =>
      have hevent : event.HasTimestamp := by rw [LambdaTelemetry.HasTimestamp, ht, eventTimestamp_eq ht]
      obtain ⟨p, hp⟩ : ∃ p, processTelemetryInDegradedMode config.processorConfig event
          ⟨state, s.metricsState, s.outputBuffers, s.rng⟩ = .ok p := by
        simp [processTelemetryInDegradedMode, ht]
      obtain ⟨m, out, rng, r, heq, hlogs, hgrows, hr⟩ := @ih
        { s with
          metricsState := p.metricsState
          outputBuffers := p.outputBuffers
          rng := p.rng
          trace := s.trace ++ [.degraded event] } p.state
      have grows : s.outputBuffers.Grows p.outputBuffers := processTelemetryInDegradedMode_grows hp
      refine ⟨m, out, rng, r, ?_, fun hmode => ?_, grows.trans hgrows, ?_⟩
      · simp only [processInDegradedModeLoop, hp, heq, callsFor, ht, List.append_assoc,
          List.singleton_append]
      · rw [hlogs hmode, processTelemetryInDegradedMode_sources hmode hp]
        simp [callsFor, ht, ProcessorCall.sources]
      · rcases hr with ⟨rfl, hall⟩ | ⟨e, bad, rfl, hbad⟩
        · refine .inl ⟨rfl, fun e he => ?_⟩
          rcases List.mem_cons.1 he with rfl | he
          · exact hevent
          · exact hall e he
        · exact .inr ⟨e, bad, rfl, by simp [callsFor, ht, hbad]⟩

/-- The calls of the loop over the buffered init events. -/
theorem processBufferedEvents_spec (state : InvocationProcessingState) (events : List LambdaTelemetry)
    (hs : s.invocationState = some state) :
    ∃ state' m out rng r,
      processBufferedEvents config state s events =
        ({ s with
           invocationState := some state'
           metricsState := m
           outputBuffers := out
           rng
           trace := s.trace ++ callsFor (.telemetry state.serial) events }, r) ∧
      Carries config.processorConfig (callsFor (.telemetry state.serial) events) state state'
        s.outputBuffers out ∧
      ((r = .ok () ∧ ∀ event ∈ events, event.HasTimestamp) ∨
        ∃ e event, r = .error e ∧ .failed event ∈ callsFor (.telemetry state.serial) events) := by
  induction events generalizing state s with
  | nil =>
    refine ⟨state, s.metricsState, s.outputBuffers, s.rng, .ok (), ?_, .refl, .inl ⟨rfl, by simp⟩⟩
    simp [processBufferedEvents, callsFor, ← hs]
  | cons event events ih =>
    rcases @callProcessTelemetry_spec _ config s event state with
      ⟨hevent, state', m, out, rng, heq, hcarries, -⟩ | ⟨⟨e', ht⟩, e, heq⟩
    · obtain ⟨state'', m', out', rng', r, heq', hcarries', hr⟩ := @ih
        { s with
          invocationState := some state'
          metricsState := m
          outputBuffers := out
          rng
          trace := s.trace ++ [.telemetry state.serial event] } state' rfl
      have hserial : state'.serial = state.serial := hcarries.same.serial
      rw [hserial] at heq' hcarries' hr
      have hcalls : callsFor (.telemetry state.serial) (event :: events) =
          .telemetry state.serial event :: callsFor (.telemetry state.serial) events := by
        simp only [callsFor, show eventTimestamp event = .ok event.nanos from hevent]
      refine ⟨state'', m', out', rng', r, ?_, ?_, ?_⟩
      · simp only [processBufferedEvents, heq, heq', hcalls, List.append_assoc, List.singleton_append]
      · rw [hcalls]
        exact hcarries.trans hcarries'
      · rw [hcalls]
        rcases hr with ⟨rfl, hall⟩ | ⟨e, bad, rfl, hbad⟩
        · refine .inl ⟨rfl, fun e he => ?_⟩
          rcases List.mem_cons.1 he with rfl | he
          · exact hevent
          · exact hall e he
        · exact .inr ⟨e, bad, rfl, List.mem_cons_of_mem _ hbad⟩
    · have hcalls : callsFor (.telemetry state.serial) (event :: events) = [.failed event] := by
        simp only [callsFor, ht]
      refine ⟨state, s.metricsState, s.outputBuffers, s.rng, .error e, ?_, ?_,
        .inr ⟨e, event, rfl, by simp [hcalls]⟩⟩
      · simp only [processBufferedEvents, heq, hcalls, ← hs]
      · rw [hcalls]
        exact .failed event

/-! ## Getting the current invocation -/

/-- An invocation's state right after it has been created: the spans that were waiting for it have
been processed, and no telemetry. -/
structure Fresh (config : TelemetryProcessorConfig) (invokeEvent : InvokeEventDataWithSpans)
    (state : InvocationProcessingState) (out out' : OutputBuffers) : Prop where
  serial : state.serial = invokeEvent.serial
  requestId : state.invocationContext.requestId = invokeEvent.requestId
  reportData : state.reportData = none
  runtimeDoneData : state.runtimeDoneData = none
  logs : state.logs = []
  sources : functionSources out'.logsBuffer = functionSources out.logsBuffer
  grows : out.Grows out'

/-- The ways to get the current invocation. -/
inductive Acquired (config : TelemetryServiceConfig) (s : TelemetryServiceState) :
    Outcome (Option InvocationProcessingState) → Prop where
  | current (state : InvocationProcessingState) (h : s.invocationState = some state) :
    Acquired config s (s, .ok (some state))
  | nothing (h : s.invocationState = none) (hqueue : s.invokeEventQueue = []) :
    Acquired config s (s, .ok none)
  | created (invokeEvent : InvokeEventDataWithSpans) (queue : List InvokeEventDataWithSpans)
      (state : InvocationProcessingState) (out : OutputBuffers) (rng : Rng)
      (h : s.invocationState = none) (hqueue : s.invokeEventQueue = invokeEvent :: queue)
      (fresh : Fresh config.processorConfig invokeEvent state s.outputBuffers out) :
    Acquired config s
      ({ s with
         invokeEventQueue := queue
         functionSpansBuffer := []
         invocationState := some state
         outputBuffers := out
         rng
         trace := s.trace ++ [.created invokeEvent.serial,
          .functionSpans invokeEvent.serial s.functionSpansBuffer,
          .functionSpans invokeEvent.serial invokeEvent.spans] }, .ok (some state))
  | rejected (invokeEvent : InvokeEventDataWithSpans) (queue : List InvokeEventDataWithSpans)
      (rng : Rng) (e : Error) (h : s.invocationState = none)
      (hqueue : s.invokeEventQueue = invokeEvent :: queue) :
    Acquired config s
      ({ s with
         invokeEventQueue := queue
         rng
         trace := s.trace ++ [.rejected invokeEvent.serial] }, .error e)

omit [External] in
theorem InvocationContext.tryFrom_requestId [External] {invokeEvent : InvokeEventDataWithSpans}
    {rng rng' : Rng} {context : InvocationContext}
    (h : InvocationContext.tryFrom invokeEvent rng = (.ok context, rng')) :
    context.requestId = invokeEvent.requestId := by
  unfold InvocationContext.tryFrom at h
  dsimp only at h
  split at h
  · cases h
  · cases h
    rfl

theorem acquireInvocation_acquired : Acquired config s (acquireInvocation config s) := by
  unfold acquireInvocation
  split
  · next state h => exact .current state h
  · next h =>
    split
    · next hqueue => exact .nothing h hqueue
    · next invokeEvent queue hqueue =>
      dsimp only
      split
      · next e rng heq => exact .rejected invokeEvent queue rng e h hqueue
      · next context rng heq =>
        let new := InvocationProcessingState.new invokeEvent.serial invokeEvent.functionContext
          context config.processorConfig.traceSamplingMode config.processorConfig.tracingMode rng
        let p₀ : Processing InvocationProcessingState :=
          ⟨new.1, s.metricsState, s.outputBuffers, new.2⟩
        let p₁ := processFunctionSpans config.processorConfig s.functionSpansBuffer p₀
        let p₂ := processFunctionSpans config.processorConfig invokeEvent.spans
          ⟨p₁.state, s.metricsState, p₁.outputBuffers, new.2⟩
        have keeps₁ : Keeps config.processorConfig p₀ p₁ :=
          processFunctionSpans_keeps s.functionSpansBuffer
        have again : Keeps config.processorConfig p₁
            ⟨p₁.state, s.metricsState, p₁.outputBuffers, new.2⟩ :=
          ⟨.refl _, rfl, rfl, fun _ h => h, rfl, id⟩
        have keeps : Keeps config.processorConfig p₀ p₂ :=
          keeps₁.trans (again.trans (processFunctionSpans_keeps invokeEvent.spans))
        have grows₁ : p₀.Grows p₁ := processFunctionSpans_grows s.functionSpansBuffer
        have grows₂ : Processing.Grows ⟨p₁.state, s.metricsState, p₁.outputBuffers, new.2⟩ p₂ :=
          processFunctionSpans_grows invokeEvent.spans
        have created := @Acquired.created config s invokeEvent queue p₂.state
          p₂.outputBuffers new.2 h hqueue
          { serial := keeps.same.serial
            requestId := by
              rw [keeps.same.invocationContext]
              exact InvocationContext.tryFrom_requestId heq
            reportData := keeps.reportData
            runtimeDoneData := keeps.runtimeDoneData
            logs := keeps.noLogs rfl
            sources := by
              have := keeps.processedSources
              simpa [Processing.processedSources, InvocationProcessingState.delayedSources,
                keeps.noLogs rfl, show p₀.state.logs = [] from rfl] using this
            grows := OutputBuffers.Grows.trans grows₁ grows₂ }
        have hserial : p₁.state.serial = invokeEvent.serial := keeps₁.same.serial
        simp only [callProcessFunctionSpans, List.append_assoc, List.singleton_append]
        rw [show (processFunctionSpans config.processorConfig s.functionSpansBuffer
          ⟨new.1, s.metricsState, s.outputBuffers, new.2⟩).state.serial = _ from hserial]
        exact created

/-! ## Handling one event -/

/-- The ways to handle the event that has been popped from the queue. -/
inductive Handled (config : TelemetryServiceConfig) (state : InvocationProcessingState)
    (event : LambdaTelemetry) (s : TelemetryServiceState) : Outcome Bool → Prop where
  /-- The event waits for the start of the first invocation. -/
  | buffered (hinit : s.initHandled = false) (hevent : event.isInitStart = false)
      (hstart : s.initHandlingStarted = true →
        event.isStartOf state.invocationContext.requestId = false) :
    Handled config state event s (s.bufferEvent event, .ok false)
  /-- A `PlatformInitStart`: what was buffered before it is processed in degraded mode. -/
  | restarted (m : PlatformMetricsState) (out : OutputBuffers) (rng : Rng)
      (hinit : s.initHandled = false) (hevent : event.isInitStart = true)
      (htimes : ∀ e ∈ s.halfProcessedEventBuffer, e.HasTimestamp)
      (hlogs : config.processorConfig.logMode = .structured →
        functionSources out.logsBuffer = functionSources s.outputBuffers.logsBuffer ++
          (s.halfProcessedEventBuffer.map .degraded).flatMap ProcessorCall.sources)
      (grows : s.outputBuffers.Grows out) :
    Handled config state event s
      ({ s with
         metricsState := m
         outputBuffers := out
         rng
         initHandlingStarted := true
         halfProcessedEventBuffer := [event]
         trace := s.trace ++ s.halfProcessedEventBuffer.map .degraded }, .ok false)
  | restartFailed (m : PlatformMetricsState) (out : OutputBuffers) (rng : Rng) (e : Error)
      (hinit : s.initHandled = false) (hevent : event.isInitStart = true)
      (hfailed : ∃ bad, .failed bad ∈ callsFor .degraded s.halfProcessedEventBuffer)
      (grows : s.outputBuffers.Grows out) :
    Handled config state event s
      ({ s with
         metricsState := m
         outputBuffers := out
         rng
         halfProcessedEventBuffer := []
         trace := s.trace ++ callsFor .degraded s.halfProcessedEventBuffer }, .error e)
  /-- The start of the current invocation: the buffered events are processed with its state, and the
  event goes back to the queue. -/
  | replayed (state' : InvocationProcessingState) (m : PlatformMetricsState) (out : OutputBuffers)
      (rng : Rng) (hinit : s.initHandled = false) (hstarted : s.initHandlingStarted = true)
      (hevent : event.isStartOf state.invocationContext.requestId = true)
      (htimes : ∀ e ∈ s.halfProcessedEventBuffer, e.HasTimestamp)
      (carries : Carries config.processorConfig
        (s.halfProcessedEventBuffer.map (.telemetry state.serial)) state state' s.outputBuffers
        out) :
    Handled config state event s
      ({ s with
         metricsState := m
         outputBuffers := out
         rng
         initHandled := true
         telemetryEventQueue := event :: s.telemetryEventQueue
         halfProcessedEventBuffer := []
         invocationState := some state'
         trace := s.trace ++ s.halfProcessedEventBuffer.map (.telemetry state.serial) }, .ok false)
  | replayFailed (state' : InvocationProcessingState) (m : PlatformMetricsState)
      (out : OutputBuffers) (rng : Rng) (e : Error) (hinit : s.initHandled = false)
      (hstarted : s.initHandlingStarted = true)
      (hevent : event.isStartOf state.invocationContext.requestId = true)
      (hfailed : ∃ bad, .failed bad ∈ callsFor (.telemetry state.serial) s.halfProcessedEventBuffer)
      (carries : Carries config.processorConfig
        (callsFor (.telemetry state.serial) s.halfProcessedEventBuffer) state state'
        s.outputBuffers out) :
    Handled config state event s
      ({ s with
         metricsState := m
         outputBuffers := out
         rng
         initHandled := true
         telemetryEventQueue := event :: s.telemetryEventQueue
         halfProcessedEventBuffer := []
         invocationState := some state'
         trace := s.trace ++ callsFor (.telemetry state.serial) s.halfProcessedEventBuffer },
        .error e)
  /-- The event is processed with the state of the current invocation, which goes on. -/
  | processed (state' : InvocationProcessingState) (m : PlatformMetricsState) (out : OutputBuffers)
      (rng : Rng) (hinit : s.initHandled = true) (htime : event.HasTimestamp)
      (carries : Carries config.processorConfig [.telemetry state.serial event] state state'
        s.outputBuffers out) (hreport : state'.reportData = none) :
    Handled config state event s
      ({ s with
         metricsState := m
         outputBuffers := out
         rng
         invocationState := some state'
         trace := s.trace ++ [.telemetry state.serial event] }, .ok event.isRuntimeDone)
  /-- The event is processed with the state of the current invocation, which has a report now. -/
  | concluded (state' : InvocationProcessingState) (m : PlatformMetricsState) (out : OutputBuffers)
      (rng : Rng) (hinit : s.initHandled = true) (htime : event.HasTimestamp)
      (carries : Carries config.processorConfig [.telemetry state.serial event] state state'
        s.outputBuffers out) (hreport : state'.reportData.isSome = true)
      (hlogs : config.processorConfig.logMode = .structured → event.isReport = true →
        state'.logs = []) :
    Handled config state event s
      ({ s with
         metricsState := m
         outputBuffers := out
         rng
         invocationState := none
         trace := s.trace ++
          [.telemetry state.serial event, .concluded state.serial state'.logs] },
        .ok event.isRuntimeDone)
  | failed (e : Error) (hinit : s.initHandled = true) :
    Handled config state event s ({ s with trace := s.trace ++ [.failed event] }, .error e)

/-- Processing the buffered events in degraded mode before a `PlatformInitStart`. -/
theorem restart_handled {state : InvocationProcessingState} {event : LambdaTelemetry}
    (hinit : s.initHandled = false) (hevent : event.isInitStart = true) :
    Outcome.Satisfies
      (processInDegradedMode config state.functionContext s.halfProcessedEventBuffer
        { s with halfProcessedEventBuffer := [] })
      (fun _ s' => s'.initHandlingStarted = s.initHandlingStarted ∧
        Handled config state event s
          ({ s' with initHandlingStarted := true }.bufferEvent event, .ok false))
      (fun s' => ∀ e, Handled config state event s (s', .error e)) := by
  obtain ⟨m, out, rng, r, heq, hlogs, grows, hr⟩ := @processInDegradedModeLoop_spec _ config
    ({ s with
      halfProcessedEventBuffer := []
      rng := (DegradedProcessingState.new state.functionContext s.rng).2 })
    (DegradedProcessingState.new state.functionContext s.rng).1 s.halfProcessedEventBuffer
  unfold processInDegradedMode
  dsimp only at heq ⊢
  rw [heq]
  rcases hr with ⟨rfl, htimes⟩ | ⟨_, bad, rfl, hbad⟩
  · rw [callsFor_of_timestamps htimes] at hlogs ⊢
    exact ⟨rfl, .restarted m out rng hinit hevent htimes hlogs grows⟩
  · exact fun e => .restartFailed m out rng e hinit hevent ⟨bad, hbad⟩ grows

/-- Replaying the buffered events before the start of the current invocation. -/
theorem replay_handled {state : InvocationProcessingState} {event : LambdaTelemetry}
    (hs : s.invocationState = some state) (hinit : s.initHandled = false)
    (hstarted : s.initHandlingStarted = true)
    (hevent : event.isStartOf state.invocationContext.requestId = true) :
    Outcome.Satisfies
      (processBufferedEvents config state
        { s with
          initHandled := true
          telemetryEventQueue := event :: s.telemetryEventQueue
          halfProcessedEventBuffer := [] } s.halfProcessedEventBuffer)
      (fun _ s' => Handled config state event s (s', .ok false))
      (fun s' => ∀ e, Handled config state event s (s', .error e)) := by
  obtain ⟨state', m, out, rng, r, heq, carries, hr⟩ := @processBufferedEvents_spec _ config
    ({ s with
      initHandled := true
      telemetryEventQueue := event :: s.telemetryEventQueue
      halfProcessedEventBuffer := [] }) state s.halfProcessedEventBuffer hs
  rw [heq]
  rcases hr with ⟨rfl, htimes⟩ | ⟨_, bad, rfl, hbad⟩
  · rw [callsFor_of_timestamps htimes] at carries ⊢
    exact .replayed state' m out rng hinit hstarted hevent htimes carries
  · exact fun e => .replayFailed state' m out rng e hinit hstarted hevent ⟨bad, hbad⟩ carries

theorem handleEventBeforeInit_handled {state : InvocationProcessingState} {event : LambdaTelemetry}
    (hinit : s.initHandled = false) (hstarted : s.initHandlingStarted = false) :
    Outcome.Satisfies (handleEventBeforeInit config state event s)
      (fun _ s' => Handled config state event s (s', .ok false))
      (fun s' => ∀ e, Handled config state event s (s', .error e)) := by
  have buffered (hevent : event.isInitStart = false) :
      Handled config state event s (s.bufferEvent event, .ok false) :=
    .buffered hinit hevent (by simp [hstarted])
  unfold handleEventBeforeInit
  cases hrecord : event.record with
  | platformInitStart =>
    have hevent : event.isInitStart = true := by simp [LambdaTelemetry.isInitStart, hrecord]
    by_cases hempty : s.halfProcessedEventBuffer = []
    · have := @Handled.restarted _ config state event s
        s.metricsState s.outputBuffers s.rng hinit hevent (by simp [hempty]) (by simp [hempty])
        (.refl _)
      simpa [hempty, TelemetryServiceState.bufferEvent, Outcome.Satisfies] using this
    · have restart := @restart_handled _ config s state event hinit hevent
      simp only [List.isEmpty_iff, hempty, if_false]
      split
      · next h => exact restart.of_error h
      · next h => exact (restart.of_ok h).2
  | _ => exact buffered (by simp [LambdaTelemetry.isInitStart, hrecord])

theorem handleEventDuringInit_handled {state : InvocationProcessingState} {event : LambdaTelemetry}
    (hs : s.invocationState = some state) (hinit : s.initHandled = false)
    (hstarted : s.initHandlingStarted = true) :
    Outcome.Satisfies (handleEventDuringInit config state event s)
      (fun _ s' => Handled config state event s (s', .ok false))
      (fun s' => ∀ e, Handled config state event s (s', .error e)) := by
  have buffered (hevent : event.isInitStart = false)
      (hstart : event.isStartOf state.invocationContext.requestId = false) :
      Handled config state event s (s.bufferEvent event, .ok false) :=
    .buffered hinit hevent fun _ => hstart
  unfold handleEventDuringInit
  cases hrecord : event.record with
  | platformInitStart =>
    have hevent : event.isInitStart = true := by simp [LambdaTelemetry.isInitStart, hrecord]
    have restart := @restart_handled _ config s state event hinit hevent
    dsimp only
    split
    · next h => exact restart.of_error h
    · next s' h =>
      obtain ⟨heq, handled⟩ := restart.of_ok h
      have hs' : { s' with initHandlingStarted := true } = s' := by rw [← hstarted, ← heq]
      rwa [hs'] at handled
  | platformStart requestId version tracing =>
    dsimp only
    split
    · next hid =>
      exact replay_handled hs hinit hstarted (by simp [LambdaTelemetry.isStartOf, hrecord, hid])
    · next hid =>
      exact buffered (by simp [LambdaTelemetry.isInitStart, hrecord])
        (by simp [LambdaTelemetry.isStartOf, hrecord, hid])
  | _ =>
    exact buffered (by simp [LambdaTelemetry.isInitStart, hrecord])
      (by simp [LambdaTelemetry.isStartOf, hrecord])

theorem handleEventAfterInit_handled {state : InvocationProcessingState} {event : LambdaTelemetry}
    (hinit : s.initHandled = true) :
    Outcome.Satisfies (handleEventAfterInit config state event s)
      (fun _ s' => Handled config state event s (s', .ok event.isRuntimeDone))
      (fun s' => ∀ e, Handled config state event s (s', .error e)) := by
  unfold handleEventAfterInit
  rcases @callProcessTelemetry_spec _ config s event state with
    ⟨htime, state', m, out, rng, heq, carries, hlogs⟩ | ⟨-, _, heq⟩
  · rw [heq]
    dsimp only
    split
    · next hreport =>
      have := Handled.concluded state' m out rng hinit htime carries hreport hlogs
      simpa [Outcome.Satisfies, carries.same.serial] using this
    · next hreport =>
      exact .processed state' m out rng hinit htime carries (by simpa using hreport)
  · rw [heq]
    exact fun e => .failed e hinit

theorem handleEvent_handled {state : InvocationProcessingState} {event : LambdaTelemetry}
    (hs : s.invocationState = some state)
    (hphase : s.initHandled = true → s.initHandlingStarted = true) :
    Handled config state event s (handleEvent config state event s) := by
  have lift (o : Outcome Unit) (b : Bool)
      (h : Outcome.Satisfies o (fun _ s' => Handled config state event s (s', .ok b))
        (fun s' => ∀ e, Handled config state event s (s', .error e))) :
      Handled config state event s (o.1, o.2.map fun _ => b) := by
    obtain ⟨s', r⟩ := o
    cases r with
    | ok _ => exact h
    | error e => exact h e
  unfold handleEvent
  cases hstarted : s.initHandlingStarted with
  | false =>
    have hinit : s.initHandled = false := by
      by_contra h
      simp [hphase (by simpa using h)] at hstarted
    exact lift _ _ (handleEventBeforeInit_handled hinit hstarted)
  | true =>
    cases hinit : s.initHandled with
    | false => exact lift _ _ (handleEventDuringInit_handled hs hinit hstarted)
    | true => exact lift _ _ (handleEventAfterInit_handled hinit)

/-! ## The loop -/

/-- The loop rule. `P` is the invariant at the head of the loop, together with `invocation_done`;
`Q` is what holds after an error. -/
theorem processTelemetryEvents_satisfies {P : Bool → TelemetryServiceState → Prop}
    {Q : TelemetryServiceState → Prop}
    (hphase : ∀ d s, P d s → s.initHandled = true → s.initHandlingStarted = true)
    (hacquired : ∀ d s o, P d s → Acquired config s o → Outcome.Satisfies o (fun _ => P d) Q)
    (hhandled : ∀ d s state event queue o, P d s → s.invocationState = some state →
      s.telemetryEventQueue = event :: queue →
      Handled config state event { s with telemetryEventQueue := queue } o →
      Outcome.Satisfies o (fun b => P (d || b)) Q)
    (hs : P false s) : Outcome.Satisfies (processTelemetryEvents config s) P Q := by
  suffices H : ∀ fuel d s, P d s →
      Outcome.Satisfies (processTelemetryEventsLoop config fuel d s) P Q from H _ _ _ hs
  intro fuel
  induction fuel with
  | zero => exact fun d s h => h
  | succ fuel ih =>
    intro d s h
    have acquired := @acquireInvocation_acquired _ config s
    have inv := hacquired d s _ h acquired
    unfold processTelemetryEventsLoop
    split
    · next heq => exact inv.of_error heq
    · next heq => exact inv.of_ok heq
    · next s' state heq =>
      have inv : P d s' := inv.of_ok heq
      have hs' : s'.invocationState = some state := by
        rw [heq] at acquired
        cases acquired with
        | current _ h => exact h
        | created => rfl
      split
      · exact inv
      · next event queue hqueue =>
        have handled := @handleEvent_handled _ config
          { s' with telemetryEventQueue := queue } state event hs' (hphase d s' inv)
        have inv' := hhandled d s' state event queue _ inv hs' hqueue handled
        split
        · next heq => exact inv'.of_error heq
        · next heq => exact ih _ _ (inv'.of_ok heq)

/-- How many iterations the loop takes at most. -/
def iterations (s : TelemetryServiceState) : Nat :=
  s.telemetryEventQueue.length + (if s.initHandled then 0 else 1) + 1

omit [External] in
theorem Acquired.iterations_eq {s : TelemetryServiceState}
    {o : Outcome (Option InvocationProcessingState)} (h : Acquired config s o) :
    iterations o.1 = iterations s ∧ o.1.initHandled = s.initHandled ∧
      o.1.initHandlingStarted = s.initHandlingStarted := by
  cases h <;> exact ⟨rfl, rfl, rfl⟩

theorem Handled.iterations_lt {state : InvocationProcessingState} {event : LambdaTelemetry}
    {queue : List LambdaTelemetry} {s' : TelemetryServiceState} {b : Bool}
    (h : Handled config state event { s with telemetryEventQueue := queue } (s', .ok b))
    (hqueue : s.telemetryEventQueue = event :: queue) : iterations s' + 1 ≤ iterations s := by
  cases h <;> simp_all [iterations, TelemetryServiceState.bufferEvent]

theorem Handled.phase {state : InvocationProcessingState} {event : LambdaTelemetry}
    {o : Outcome Bool} (h : Handled config state event s o)
    (hphase : s.initHandled = true → s.initHandlingStarted = true) :
    o.1.initHandled = true → o.1.initHandlingStarted = true := by
  cases h with
  | restarted => exact fun _ => rfl
  | replayed _ _ _ _ _ hstarted => exact fun _ => hstarted
  | replayFailed _ _ _ _ _ _ hstarted => exact fun _ => hstarted
  | _ => exact hphase

/-- The loop is only left when there is no event or no invocation left: the fuel suffices. -/
theorem processTelemetryEvents_drained
    (hphase : s.initHandled = true → s.initHandlingStarted = true) :
    Outcome.Satisfies (processTelemetryEvents config s)
      (fun _ s' => s'.telemetryEventQueue = [] ∨
        s'.invocationState = none ∧ s'.invokeEventQueue = [])
      (fun _ => True) := by
  suffices H : ∀ fuel d s, iterations s ≤ fuel →
      (s.initHandled = true → s.initHandlingStarted = true) →
      Outcome.Satisfies (processTelemetryEventsLoop config fuel d s)
        (fun _ s' => s'.telemetryEventQueue = [] ∨
          s'.invocationState = none ∧ s'.invokeEventQueue = []) (fun _ => True) by
    refine H _ _ _ ?_ hphase
    unfold iterations
    split <;> omega
  intro fuel
  induction fuel with
  | zero =>
    intro d s hfuel
    simp [iterations] at hfuel
  | succ fuel ih =>
    intro d s hfuel hphase
    have acquired := @acquireInvocation_acquired _ config s
    obtain ⟨hiter, hinit, hstarted⟩ := acquired.iterations_eq
    unfold processTelemetryEventsLoop
    split
    · trivial
    · next s' heq =>
      rw [heq] at acquired
      cases acquired with
      | nothing h hqueue => exact .inr ⟨h, hqueue⟩
    · next s' state heq =>
      rw [heq] at acquired hiter hinit hstarted
      dsimp only at hiter hinit hstarted
      have hs' : s'.invocationState = some state := by
        cases acquired with
        | current _ h => exact h
        | created => rfl
      have hphase' : s'.initHandled = true → s'.initHandlingStarted = true := by
        simpa [hinit, hstarted] using hphase
      split
      · next hqueue => exact .inl hqueue
      · next event queue hqueue =>
        have handled := @handleEvent_handled _ config
          { s' with telemetryEventQueue := queue } state event hs' hphase'
        split
        · trivial
        · next s'' b heq' =>
          rw [heq'] at handled
          have hlt := handled.iterations_lt hqueue
          exact ih _ _ (by omega) (handled.phase hphase')

end

end TelemetryExporter
