import Mathlib.Data.List.Perm.Basic
import TelemetryExporter.Verify.History

/-!
# Where events and logs are

Two equations hold in every state that the service reaches without an error and before its shutdown,
whatever the interleaving:

* the events processed so far, in order, followed by `half_processed_event_buffer` and by
  `telemetry_event_queue`, are the events accepted so far, in order;
* the function logs in the batches sent, followed by those in the output buffer and by those that
  the current invocation delays, are the logs of the events processed so far, in order, provided
  that no invocation was concluded with delayed logs. If some were, they are all that is missing.
-/

namespace TelemetryExporter

/-- The event of a call. -/
def ProcessorCall.event : ProcessorCall → Option LambdaTelemetry
  | .telemetry _ event => some event
  | .degraded event => some event
  | .failed event => some event
  | _ => none

/-- The events of the calls, in order. -/
def processedEvents (trace : List ProcessorCall) : List LambdaTelemetry :=
  trace.filterMap ProcessorCall.event

/-- The sources of the logs of the calls, in order. -/
def processedSources [External] (trace : List ProcessorCall) : List LogSource :=
  trace.flatMap ProcessorCall.sources

/-- The logs that were still delayed when their invocation was concluded. -/
def ProcessorCall.dropped : ProcessorCall → List LogSource
  | .concluded invocation logs => logs.map (RawFunctionLog.source (some invocation))
  | _ => []

/-- All logs that were still delayed when their invocation was concluded. -/
def droppedSources (trace : List ProcessorCall) : List LogSource :=
  trace.flatMap ProcessorCall.dropped

/-- No event has failed to process. -/
def NoErrors (trace : List ProcessorCall) : Prop := ∀ call ∈ trace, call.isError = false

/-- The logs that the current invocation delays. -/
def TelemetryServiceState.delayedSources (s : TelemetryServiceState) : List LogSource :=
  match s.invocationState with
  | some state => state.delayedSources
  | none => []

/-- The sources of the function logs in the batches. -/
def sentSources (batches : List TelemetryBatch) : List LogSource :=
  functionSources (batches.flatMap TelemetryBatch.logRecords)

section

@[simp] theorem processedEvents_append (a b : List ProcessorCall) :
    processedEvents (a ++ b) = processedEvents a ++ processedEvents b := by
  simp [processedEvents]

@[simp] theorem processedSources_append [External] (a b : List ProcessorCall) :
    processedSources (a ++ b) = processedSources a ++ processedSources b := by
  simp [processedSources]

@[simp] theorem droppedSources_append (a b : List ProcessorCall) :
    droppedSources (a ++ b) = droppedSources a ++ droppedSources b := by
  simp [droppedSources]

@[simp] theorem sentSources_append (a b : List TelemetryBatch) :
    sentSources (a ++ b) = sentSources a ++ sentSources b := by
  simp [sentSources]

@[simp] theorem processedEvents_telemetry (invocation : Nat) (events : List LambdaTelemetry) :
    processedEvents (events.map (.telemetry invocation)) = events := by
  simp [processedEvents, ProcessorCall.event, List.filterMap_map, Function.comp_def]

@[simp] theorem processedEvents_degraded (events : List LambdaTelemetry) :
    processedEvents (events.map .degraded) = events := by
  simp [processedEvents, ProcessorCall.event, List.filterMap_map, Function.comp_def]

theorem droppedSources_of_calls {call : LambdaTelemetry → ProcessorCall}
    (h : ∀ event, (call event).dropped = []) (events : List LambdaTelemetry) :
    droppedSources (events.map call) = [] := by
  simp [droppedSources, List.flatMap_map, h]

@[simp] theorem droppedSources_telemetry (invocation : Nat) (events : List LambdaTelemetry) :
    droppedSources (events.map (.telemetry invocation)) = [] :=
  droppedSources_of_calls (fun _ => rfl) events

@[simp] theorem droppedSources_degraded (events : List LambdaTelemetry) :
    droppedSources (events.map .degraded) = [] := droppedSources_of_calls (fun _ => rfl) events

theorem NoErrors.left {a b : List ProcessorCall} (h : NoErrors (a ++ b)) : NoErrors a :=
  fun call hc => h call (List.mem_append_left b hc)

theorem NoErrors.right {a b : List ProcessorCall} (h : NoErrors (a ++ b)) : NoErrors b :=
  fun call hc => h call (List.mem_append_right a hc)

theorem NoErrors.of_isPrefix {a b : List ProcessorCall} (h : NoErrors b) (hpre : a <+: b) :
    NoErrors a :=
  fun call hc => h call (hpre.subset hc)

theorem not_noErrors_of_failed {trace : List ProcessorCall} {event : LambdaTelemetry}
    (h : .failed event ∈ trace) : ¬ NoErrors trace := fun hn => by
  have := hn _ h
  simp [ProcessorCall.isError] at this

end

theorem perm_append_right_comm {A : Type} (a b c : List A) : (a ++ b ++ c).Perm (a ++ c ++ b) := by
  simpa using List.perm_append_comm.append_left a

/-- The two equations, for the logs sent and the events accepted so far. -/
structure Accounted [External] (config : TelemetryProcessorConfig) (sent : List LogSource)
    (accepted : List LambdaTelemetry) (s : TelemetryServiceState) : Prop where
  events : processedEvents s.trace ++ s.halfProcessedEventBuffer ++ s.telemetryEventQueue = accepted
  delaysInOrder : config.logMode = .structured →
    ∀ state, s.invocationState = some state → state.DelaysInOrder
  beforeInit : s.initHandled = false → ∀ state, s.invocationState = some state → state.logs = []
  afterInit : s.initHandled = true → s.halfProcessedEventBuffer = []
  inOrder : config.logMode = .structured → droppedSources s.trace = [] →
    sent ++ functionSources s.outputBuffers.logsBuffer ++ s.delayedSources = processedSources s.trace
  perm : config.logMode = .structured →
    (sent ++ functionSources s.outputBuffers.logsBuffer ++ s.delayedSources ++
      droppedSources s.trace).Perm (processedSources s.trace)

section

variable [External] {config : TelemetryServiceConfig} {sent : List LogSource}
  {accepted : List LambdaTelemetry} {s s' : TelemetryServiceState}

/-- A part of an iteration that drops no delayed log: it suffices that the events of its calls have
left the buffers and that the logs sent, emitted and delayed have grown by those of the calls. -/
theorem Accounted.of_calls {calls : List ProcessorCall}
    (hs : Accounted config.processorConfig sent accepted s) (htrace : s'.trace = s.trace ++ calls)
    (hdropped : droppedSources calls = [])
    (hevents : processedEvents calls ++ s'.halfProcessedEventBuffer ++ s'.telemetryEventQueue =
      s.halfProcessedEventBuffer ++ s.telemetryEventQueue)
    (hsources : config.processorConfig.logMode = .structured →
      sent ++ functionSources s'.outputBuffers.logsBuffer ++ s'.delayedSources =
        sent ++ functionSources s.outputBuffers.logsBuffer ++ s.delayedSources ++
          processedSources calls)
    (hdelays : config.processorConfig.logMode = .structured →
      ∀ state, s'.invocationState = some state → state.DelaysInOrder)
    (hbefore : s'.initHandled = false → ∀ state, s'.invocationState = some state → state.logs = [])
    (hafter : s'.initHandled = true → s'.halfProcessedEventBuffer = []) :
    Accounted config.processorConfig sent accepted s' := by
  refine ⟨?_, hdelays, hbefore, hafter, fun hmode hd => ?_, fun hmode => ?_⟩
  · have := hs.events
    simp only [htrace, processedEvents_append, List.append_assoc] at this hevents ⊢
    rw [hevents, this]
  · have inOrder := hs.inOrder hmode (by simpa [htrace, hdropped] using hd)
    rw [hsources hmode, inOrder, htrace, processedSources_append]
  · rw [hsources hmode, htrace, processedSources_append, droppedSources_append, hdropped,
      List.append_nil]
    exact (perm_append_right_comm _ _ _).trans ((hs.perm hmode).append_right _)

/-- Calls with the state of the current invocation: the logs sent, emitted and delayed grow by
those of the calls. -/
theorem Accounted.sources_of_carries {out : OutputBuffers}
    {state state' : InvocationProcessingState} {calls : List ProcessorCall}
    (hs : Accounted config.processorConfig sent accepted s)
    (hmode : config.processorConfig.logMode = .structured)
    (hstate : s.invocationState = some state)
    (carries : Carries config.processorConfig calls state state' s.outputBuffers out) :
    sent ++ functionSources out.logsBuffer ++ state'.delayedSources =
      sent ++ functionSources s.outputBuffers.logsBuffer ++ s.delayedSources ++
        processedSources calls := by
  have := carries.sources hmode (hs.delaysInOrder hmode state hstate)
  rw [List.append_assoc, this]
  simp [TelemetryServiceState.delayedSources, hstate, processedSources]

/-- Such calls, when the invocation remains the current one. -/
theorem Accounted.of_carries {state state' : InvocationProcessingState} {calls : List ProcessorCall}
    (hs : Accounted config.processorConfig sent accepted s)
    (hstate : s.invocationState = some state) (hstate' : s'.invocationState = some state')
    (carries : Carries config.processorConfig calls state state' s.outputBuffers s'.outputBuffers)
    (htrace : s'.trace = s.trace ++ calls) (hdropped : droppedSources calls = [])
    (hinit : s'.initHandled = true) (hhalf : s'.halfProcessedEventBuffer = [])
    (hevents : processedEvents calls ++ s'.telemetryEventQueue =
      s.halfProcessedEventBuffer ++ s.telemetryEventQueue) :
    Accounted config.processorConfig sent accepted s' := by
  refine hs.of_calls htrace hdropped (by simpa [hhalf] using hevents) (fun hmode => ?_)
    (fun hmode st hst => ?_) (by simp [hinit]) fun _ => hhalf
  · rw [← hs.sources_of_carries hmode hstate carries]
    simp [TelemetryServiceState.delayedSources, hstate']
  · rw [hstate', Option.some.injEq] at hst
    subst hst
    exact carries.delaysInOrder hmode (hs.delaysInOrder hmode state hstate)

theorem Acquired.accounted {o : Outcome (Option InvocationProcessingState)}
    (h : Acquired config s o)
    (hs : NoErrors s.trace → Accounted config.processorConfig sent accepted s) :
    NoErrors o.1.trace → Accounted config.processorConfig sent accepted o.1 := by
  intro hn
  cases h with
  | current => exact hs hn
  | nothing => exact hs hn
  | created invokeEvent queue state out rng h hqueue fresh =>
    have hs := hs hn.left
    refine hs.of_calls rfl rfl rfl (fun _ => ?_) (fun _ st hst => ?_) (fun _ st hst => ?_)
      hs.afterInit
    · simp [TelemetryServiceState.delayedSources, InvocationProcessingState.delayedSources, h,
        fresh.logs, fresh.sources, processedSources, ProcessorCall.sources]
    · cases hst
      exact fun _ => fresh.logs
    · cases hst
      exact fresh.logs
  | rejected =>
    have hs := hs hn.left
    exact hs.of_calls rfl rfl rfl (fun _ => by
      simp [TelemetryServiceState.delayedSources, processedSources, ProcessorCall.sources])
      hs.delaysInOrder hs.beforeInit hs.afterInit

theorem Handled.accounted {state : InvocationProcessingState} {event : LambdaTelemetry}
    {queue : List LambdaTelemetry} {o : Outcome Bool}
    (h : Handled config state event { s with telemetryEventQueue := queue } o)
    (hstate : s.invocationState = some state) (hqueue : s.telemetryEventQueue = event :: queue)
    (hs : NoErrors s.trace → Accounted config.processorConfig sent accepted s) :
    NoErrors o.1.trace → Accounted config.processorConfig sent accepted o.1 := by
  intro hn
  cases h with
  | buffered hinit =>
    have hs := hs hn
    have nothing : droppedSources [] = [] := rfl
    refine hs.of_calls ?_ nothing ?_ (fun _ => ?_) hs.delaysInOrder hs.beforeInit ?_
    · simp [TelemetryServiceState.bufferEvent]
    · simp [TelemetryServiceState.bufferEvent, hqueue, processedEvents]
    · simp [TelemetryServiceState.bufferEvent, TelemetryServiceState.delayedSources,
        processedSources]
    · exact fun h => absurd (hinit.symm.trans h) (by simp)
  | restarted m out rng hinit hevent htimes hlogs =>
    have hs := hs hn.left
    have hdelayed : s.delayedSources = [] := by
      simp [TelemetryServiceState.delayedSources, InvocationProcessingState.delayedSources, hstate,
        hs.beforeInit hinit state hstate]
    refine hs.of_calls rfl (by simp) (by simp [hqueue]) (fun hmode => ?_) hs.delaysInOrder
      (fun _ => hs.beforeInit hinit) fun h => absurd (hinit.symm.trans h) (by simp)
    change sent ++ functionSources out.logsBuffer ++ s.delayedSources = _
    rw [hlogs hmode, hdelayed]
    simp [processedSources]
  | restartFailed m out rng e hinit hevent hfailed =>
    obtain ⟨bad, hbad⟩ := hfailed
    exact absurd hn.right (not_noErrors_of_failed hbad)
  | replayed state' m out rng hinit hstarted hevent htimes carries =>
    have hs := hs hn.left
    exact hs.of_carries hstate rfl carries rfl (by simp) rfl rfl (by simp [hqueue])
  | replayFailed state' m out rng e hinit hstarted hevent hfailed =>
    obtain ⟨bad, hbad⟩ := hfailed
    exact absurd hn.right (not_noErrors_of_failed hbad)
  | processed state' m out rng hinit htime carries hreport =>
    have hs := hs hn.left
    have hhalf : s.halfProcessedEventBuffer = [] := hs.afterInit hinit
    exact hs.of_carries hstate rfl carries rfl rfl hinit hhalf
      (by simp [hqueue, hhalf, processedEvents, ProcessorCall.event])
  | concluded state' m out rng hinit htime carries hreport hlogs =>
    have hs := hs hn.left
    have hhalf : s.halfProcessedEventBuffer = [] := hs.afterInit hinit
    have hserial : state'.serial = state.serial := carries.same.serial
    have hdropped : droppedSources [.telemetry state.serial event,
        .concluded state.serial state'.logs] = state'.delayedSources := by
      simp [droppedSources, ProcessorCall.dropped, InvocationProcessingState.delayedSources, hserial]
    have hsources : processedSources [.telemetry state.serial event,
        .concluded state.serial state'.logs] =
        processedSources [.telemetry state.serial event] := by
      simp [processedSources, ProcessorCall.sources]
    refine ⟨?_, fun _ _ h => by simp at h, fun _ _ h => by simp at h, fun _ => hhalf,
      fun hmode hd => ?_, fun hmode => ?_⟩
    · have := hs.events
      simpa [hqueue, hhalf, processedEvents, ProcessorCall.event, List.filterMap_cons] using this
    · -- no log is dropped, so all of them have been emitted
      rw [droppedSources_append, List.append_eq_nil_iff, hdropped] at hd
      have grown := hs.sources_of_carries hmode hstate carries
      rw [hd.2, hs.inOrder hmode hd.1, List.append_nil] at grown
      rw [processedSources_append, hsources, ← grown]
      simp [TelemetryServiceState.delayedSources]
    · have grown := hs.sources_of_carries hmode hstate carries
      rw [droppedSources_append, hdropped, processedSources_append, hsources]
      have := ((hs.perm hmode).append_right (processedSources [.telemetry state.serial event]))
      refine List.Perm.trans ?_ ((perm_append_right_comm _ _ _).trans this)
      rw [← grown]
      simpa [TelemetryServiceState.delayedSources] using
        List.perm_append_comm.append_left
          (sent ++ functionSources out.logsBuffer)
  | failed e =>
    exact absurd (hn.right (.failed event) List.mem_cons_self) (by simp [ProcessorCall.isError])

/-! ## Over all interleavings -/

/-- The two equations, for the batches sent and the telemetry received. -/
def StateAccounted (config : TelemetryServiceConfig) (h : History) (s : TelemetryServiceState) :
    Prop :=
  NoErrors s.trace →
    Accounted config.processorConfig (sentSources h.sent) h.events s

/-- The fields that the equations mention. -/
theorem Accounted.congr (h : Accounted config.processorConfig sent accepted s)
    (htrace : s'.trace = s.trace) (hhalf : s'.halfProcessedEventBuffer = s.halfProcessedEventBuffer)
    (hqueue : s'.telemetryEventQueue = s.telemetryEventQueue)
    (hstate : s'.invocationState = s.invocationState) (hinit : s'.initHandled = s.initHandled)
    (hlogs : s'.outputBuffers.logsBuffer = s.outputBuffers.logsBuffer) :
    Accounted config.processorConfig sent accepted s' := by
  have hdelayed : s'.delayedSources = s.delayedSources := by
    simp [TelemetryServiceState.delayedSources, hstate]
  refine ⟨?_, ?_, ?_, ?_, ?_, ?_⟩
  · rw [htrace, hhalf, hqueue]
    exact h.events
  · rw [hstate]
    exact h.delaysInOrder
  · rw [hstate, hinit]
    exact h.beforeInit
  · rw [hhalf, hinit]
    exact h.afterInit
  · rw [htrace, hlogs, hdelayed]
    exact h.inOrder
  · rw [htrace, hlogs, hdelayed]
    exact h.perm

/-- More events have been accepted. -/
theorem Accounted.accept (h : Accounted config.processorConfig sent accepted s)
    (events : List LambdaTelemetry) :
    Accounted config.processorConfig sent (accepted ++ events)
      { s with telemetryEventQueue := s.telemetryEventQueue ++ events } := by
  refine ⟨?_, h.delaysInOrder, h.beforeInit, h.afterInit, h.inOrder, h.perm⟩
  rw [← h.events]
  simp

/-- The logs of the output buffer have been sent. -/
theorem Accounted.send (h : Accounted config.processorConfig sent accepted s)
    (functionContext : FunctionContext) :
    Accounted config.processorConfig (sent ++ functionSources s.outputBuffers.logsBuffer) accepted
      (sendTelemetry config functionContext s).2 := by
  obtain ⟨m, acc, out, hout, heq⟩ := @sendTelemetry_state config s functionContext
  rw [heq]
  refine ⟨h.events, h.delaysInOrder, h.beforeInit, h.afterInit, fun hmode hd => ?_, fun hmode => ?_⟩
  · have := h.inOrder hmode hd
    simpa [hout, TelemetryServiceState.delayedSources] using this
  · have := h.perm hmode
    simpa [hout, TelemetryServiceState.delayedSources] using this

theorem Received.accounted {spans : List ResourceSpans} (h : Received config spans s s')
    (hs : NoErrors s.trace → Accounted config.processorConfig sent accepted s) :
    NoErrors s'.trace → Accounted config.processorConfig sent accepted s' := by
  intro hn
  cases h with
  | queued => exact (hs hn).congr rfl rfl rfl rfl rfl rfl
  | waiting => exact (hs hn).congr rfl rfl rfl rfl rfl rfl
  | processed state state' out hqueue hstate hdone carries noLogs =>
    have hs := hs hn.left
    refine hs.of_calls rfl rfl rfl (fun hmode => ?_) (fun hmode st hst => ?_)
      (fun hinit st hst => ?_) hs.afterInit
    · have := hs.sources_of_carries hmode hstate carries
      simp only [processedSources, ProcessorCall.sources, List.flatMap_cons, List.flatMap_nil,
        List.append_nil] at this ⊢
      rw [← this]
      rfl
    · cases hst
      exact carries.delaysInOrder hmode (hs.delaysInOrder hmode state hstate)
    · cases hst
      exact noLogs (hs.beforeInit hinit state hstate)

omit [External] in
@[simp] theorem sentSources_singleton (batch : TelemetryBatch) :
    sentSources [batch] = functionSources batch.logRecords := by
  simp [sentSources]

theorem stateAccounted_invariant : ServiceInvariant config (StateAccounted config) where
  start _ _ := ⟨rfl, fun _ _ h => by simp [TelemetryService.new] at h, fun _ _ h => by
    simp [TelemetryService.new] at h, fun _ => rfl, fun _ _ => rfl, fun _ => .refl _⟩
  core {h s s'} _ hs hcore := by
    have same := SameCore.of_core hcore
    intro hn
    rw [same.trace] at hn
    exact (hs hn).congr same.trace same.halfProcessedEventBuffer same.telemetryEventQueue
      same.invocationState same.initHandled (congrArg (·.logsBuffer) same.outputBuffers)
  acquired _ hs acquired := acquired.accounted hs
  handled _ hs hstate hqueue handled := handled.accounted hstate hqueue hs
  enqueued _ _ _ hs hn := (hs hn).congr rfl rfl rfl rfl rfl rfl
  accepted events _ hs hn := (hs hn).accept events
  received _ hs received := received.accounted hs
  metrics _ _ _ hs hn := (hs hn).congr rfl rfl rfl rfl rfl rfl
  sent {h s} functionContext _ hs hn := by
    obtain ⟨_, _, _, -, heq⟩ := @sendTelemetry_state config s functionContext
    rw [heq] at hn
    have := (hs hn).send functionContext
    rwa [sentSources_append, sentSources_singleton, sendTelemetry_logRecords]

/-- The two equations hold until the shutdown. -/
theorem serviceRun_accounted {now : Nat} {actions : List Action} {service : TelemetryService}
    (hrun : serviceRun config now actions = some service) (hn : NoErrors service.state.trace) :
    service.handler = .shutDown ∨
      Accounted config.processorConfig (sentSources service.sent) (acceptedEvents actions)
        service.state := by
  rcases stateAccounted_invariant.run hrun with h | ⟨h, hist, -, hs⟩
  · exact .inl h
  · have := hs hn
    rw [hist.events, hist.sent, Machine.trail_actions hrun] at this
    exact .inr this

end

end TelemetryExporter
