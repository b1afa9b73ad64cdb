import TelemetryExporter.Verify.BadEvent

/-!
# The parts of `process_telemetry_events`

Every change that the loop makes is one of six parts: it gets an invocation, it calls the processor
for one event, it moves events between the buffers, or it concludes an invocation. What no part
changes, the loop does not change. Other than with `Acquired` and `Handled`, nothing is said about
the order of the parts, but each is the code's own function.
-/

namespace TelemetryExporter

/-- The parts. -/
inductive Part [External] (config : TelemetryServiceConfig) (s : TelemetryServiceState) :
    TelemetryServiceState → Prop where
  | acquired : Part config s (acquireInvocation config s).1
  | telemetry (event : LambdaTelemetry) (state : InvocationProcessingState)
      (hs : s.invocationState = some state) :
    Part config s (callProcessTelemetry config event state s).1
  | degraded (event : LambdaTelemetry) (p p' : Processing DegradedProcessingState)
      (hmetrics : p.metricsState = s.metricsState) (hout : p.outputBuffers = s.outputBuffers)
      (h : processTelemetryInDegradedMode config.processorConfig event p = .ok p') :
    Part config s
      { s with
        metricsState := p'.metricsState
        outputBuffers := p'.outputBuffers
        rng := p'.rng
        trace := s.trace ++ [.degraded event] }
  | failed (event : LambdaTelemetry) :
    Part config s { s with trace := s.trace ++ [.failed event] }
  | moved (half queue : List LambdaTelemetry) (started handled : Bool) (rng : Rng) :
    Part config s
      { s with
        halfProcessedEventBuffer := half
        telemetryEventQueue := queue
        initHandlingStarted := started
        initHandled := handled
        rng }
  | concluded (state : InvocationProcessingState) (hs : s.invocationState = some state)
      (hreport : state.reportData.isSome = true) :
    Part config s
      { s with
        invocationState := none
        trace := s.trace ++ [.concluded state.serial state.logs] }

section

variable [External] {config : TelemetryServiceConfig} {s : TelemetryServiceState}
  {P : TelemetryServiceState → Prop}

theorem processInDegradedModeLoop_parts (hpart : ∀ s s', P s → Part config s s' → P s')
    (state : DegradedProcessingState) (events : List LambdaTelemetry) (hs : P s) :
    P (processInDegradedModeLoop config state s events).1 := by
  induction events generalizing state s with
  | nil => exact hs
  | cons event events ih =>
    unfold processInDegradedModeLoop
    split
    · exact hpart _ _ hs (.failed event)
    · next p' h => exact ih _ (hpart _ _ hs (.degraded event _ p' rfl rfl h))

theorem processInDegradedMode_parts (hpart : ∀ s s', P s → Part config s s' → P s')
    (functionContext : FunctionContext) (events : List LambdaTelemetry) (hs : P s) :
    P (processInDegradedMode config functionContext events s).1 := by
  unfold processInDegradedMode
  exact processInDegradedModeLoop_parts hpart _ events (hpart _ _ hs (.moved _ _ _ _ _))

/-- The current invocation remains current when an event has been processed. -/
theorem callProcessTelemetry_current {event : LambdaTelemetry} {state state' : InvocationProcessingState}
    {s' : TelemetryServiceState} (h : callProcessTelemetry config event state s = (s', .ok state')) :
    s'.invocationState = some state' ∧ state'.serial = state.serial := by
  rcases @callProcessTelemetry_spec _ config s event state with
    ⟨-, state'', m, out, rng, heq, carries, -⟩ | ⟨-, e, heq⟩
  · cases h.symm.trans heq
    exact ⟨rfl, carries.same.serial⟩
  · cases h.symm.trans heq

theorem processBufferedEvents_parts (hpart : ∀ s s', P s → Part config s s' → P s')
    (state : InvocationProcessingState) (events : List LambdaTelemetry) (hs : P s)
    (hstate : s.invocationState = some state) : P (processBufferedEvents config state s events).1 := by
  induction events generalizing state s with
  | nil => exact hs
  | cons event events ih =>
    have called := hpart _ _ hs (.telemetry event state hstate)
    unfold processBufferedEvents
    split
    · next h =>
      rw [h] at called
      exact called
    · next s' state' h =>
      rw [h] at called
      exact ih state' called (callProcessTelemetry_current h).1

theorem handleEvent_parts (hpart : ∀ s s', P s → Part config s s' → P s')
    {state : InvocationProcessingState} (event : LambdaTelemetry) (hs : P s)
    (hstate : s.invocationState = some state) : P (handleEvent config state event s).1 := by
  have buffered (s : TelemetryServiceState) (hs : P s) : P (s.bufferEvent event) :=
    hpart _ _ hs (.moved _ _ s.initHandlingStarted s.initHandled s.rng)
  have degraded : P (processInDegradedMode config state.functionContext s.halfProcessedEventBuffer
      { s with halfProcessedEventBuffer := [] }).1 :=
    processInDegradedMode_parts hpart _ _
      (hpart _ _ hs (.moved [] s.telemetryEventQueue s.initHandlingStarted s.initHandled s.rng))
  have beforeInit : P (handleEventBeforeInit config state event s).1 := by
    unfold handleEventBeforeInit
    split
    · dsimp only
      split
      · next h =>
        split at h
        · cases h
        · rw [h] at degraded
          exact degraded
      · next s' h =>
        apply buffered
        split at h
        · cases h
          exact hpart _ _ hs (.moved _ _ true _ _)
        · rw [h] at degraded
          exact hpart _ _ degraded (.moved _ _ true _ _)
    · exact buffered s hs
  have duringInit : P (handleEventDuringInit config state event s).1 := by
    unfold handleEventDuringInit
    split
    · split
      · next h =>
        rw [h] at degraded
        exact degraded
      · next s' h =>
        rw [h] at degraded
        exact buffered s' degraded
    · split
      · refine processBufferedEvents_parts hpart state s.halfProcessedEventBuffer ?_ hstate
        exact hpart _ _ hs (.moved [] (event :: s.telemetryEventQueue) s.initHandlingStarted true s.rng)
      · exact buffered s hs
    · exact buffered s hs
  have afterInit : P (handleEventAfterInit config state event s).1 := by
    have called := hpart _ _ hs (.telemetry event state hstate)
    unfold handleEventAfterInit
    split
    · next h =>
      rw [h] at called
      exact called
    · next s' state' h =>
      rw [h] at called
      split
      · next hreport =>
        exact hpart _ _ called (.concluded state' (callProcessTelemetry_current h).1 hreport)
      · exact called
  unfold handleEvent
  split
  · exact beforeInit
  · split
    · exact duringInit
    · exact afterInit

/-- What all parts preserve, the loop preserves. -/
theorem processTelemetryEvents_parts (hpart : ∀ s s', P s → Part config s s' → P s') (hs : P s) :
    P (processTelemetryEvents config s).1 := by
  suffices H : ∀ fuel d s, P s → P (processTelemetryEventsLoop config fuel d s).1 from H _ _ _ hs
  intro fuel
  induction fuel with
  | zero => exact fun d s hs => hs
  | succ fuel ih =>
    intro d s hs
    have acquired := hpart _ _ hs .acquired
    have current := @acquireInvocation_acquired _ config s
    unfold processTelemetryEventsLoop
    split
    · next h =>
      rw [h] at acquired
      exact acquired
    · next h =>
      rw [h] at acquired
      exact acquired
    · next s' state h =>
      rw [h] at acquired current
      have hstate : s'.invocationState = some state := by
        cases current with
        | current _ h => exact h
        | created => rfl
      split
      · exact acquired
      · next event queue hqueue =>
        have handled : P (handleEvent config state event { s' with telemetryEventQueue := queue }).1 :=
          handleEvent_parts hpart event
            (hpart _ _ acquired (.moved _ queue s'.initHandlingStarted s'.initHandled s'.rng)) hstate
        split
        · next h =>
          rw [h] at handled
          exact handled
        · next h =>
          rw [h] at handled
          exact ih _ _ handled

theorem processQueues_parts (hpart : ∀ s s', P s → Part config s s' → P s') (hs : P s) :
    P (processQueues config s) := by
  unfold processQueues
  split
  · exact hs
  · exact processTelemetryEvents_parts hpart hs

end

end TelemetryExporter
