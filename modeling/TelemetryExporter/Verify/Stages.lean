import TelemetryExporter.Verify.Parts

/-!
# The stages of `process_telemetry_events`

`Part` says what a change of the loop is, not when it is made. Here the changes come with the phase:
before init has been handled, events are only processed in degraded mode, a whole buffer at a time;
from then on, only with the state of the current invocation.
-/

namespace TelemetryExporter

/-- Init is only handled after it has started. -/
def InPhase (s : TelemetryServiceState) : Prop := s.initHandled = true → s.initHandlingStarted = true

/-- The changes, with the phases in which they are made. -/
inductive Stage [External] (config : TelemetryServiceConfig) (s : TelemetryServiceState) :
    TelemetryServiceState → Prop where
  | acquired : Stage config s (acquireInvocation config s).1
  | telemetry (event : LambdaTelemetry) (state : InvocationProcessingState)
      (hs : s.invocationState = some state) (hinit : s.initHandled = true) :
    Stage config s (callProcessTelemetry config event state s).1
  | session (functionContext : FunctionContext) (events : List LambdaTelemetry)
      (hinit : s.initHandled = false) :
    Stage config s (processInDegradedMode config functionContext events s).1
  | moved (half queue : List LambdaTelemetry) (started handled : Bool)
      (hphase : handled = true → started = true)
      (hhandled : s.initHandled = true → handled = true) :
    Stage config s
      { s with
        halfProcessedEventBuffer := half
        telemetryEventQueue := queue
        initHandlingStarted := started
        initHandled := handled }
  | concluded (state : InvocationProcessingState) (hs : s.invocationState = some state)
      (hreport : state.reportData.isSome = true) :
    Stage config s
      { s with
        invocationState := none
        trace := s.trace ++ [.concluded state.serial state.logs] }

section

variable [External] {config : TelemetryServiceConfig} {s s' : TelemetryServiceState}
  {P : TelemetryServiceState → Prop}

/-- Processing an event of the current invocation does not change the phase. -/
theorem callProcessTelemetry_phase (event : LambdaTelemetry) (state : InvocationProcessingState) :
    (callProcessTelemetry config event state s).1.initHandled = s.initHandled ∧
      (callProcessTelemetry config event state s).1.initHandlingStarted = s.initHandlingStarted := by
  unfold callProcessTelemetry
  split <;> exact ⟨rfl, rfl⟩

theorem processBufferedEvents_stages (hstage : ∀ s s', P s → Stage config s s' → P s')
    (state : InvocationProcessingState) (events : List LambdaTelemetry) (hs : P s)
    (hstate : s.invocationState = some state) (hinit : s.initHandled = true) :
    P (processBufferedEvents config state s events).1 := by
  induction events generalizing state s with
  | nil => exact hs
  | cons event events ih =>
    have called := hstage _ _ hs (.telemetry event state hstate hinit)
    have phase := (@callProcessTelemetry_phase _ config s event state).1
    unfold processBufferedEvents
    split
    · next h =>
      rw [h] at called
      exact called
    · next s' state' h =>
      rw [h] at called phase
      exact ih state' called (callProcessTelemetry_current h).1 (phase.trans hinit)

/-- Only an event of the invocation, or a whole buffer in degraded mode, is processed. -/
theorem handleEvent_stages (hstage : ∀ s s', P s → Stage config s s' → P s')
    (hphase : ∀ s, P s → InPhase s) {state : InvocationProcessingState} (event : LambdaTelemetry)
    (hs : P s) (hstate : s.invocationState = some state) :
    P (handleEvent config state event s).1 := by
  have buffered (s : TelemetryServiceState) (hs : P s) : P (s.bufferEvent event) :=
    hstage _ _ hs (.moved _ _ s.initHandlingStarted s.initHandled (hphase s hs) id)
  have degraded (hinit : s.initHandled = false) :
      P (processInDegradedMode config state.functionContext s.halfProcessedEventBuffer
        { s with halfProcessedEventBuffer := [] }).1 := by
    refine hstage _ _ ?_ (.session state.functionContext s.halfProcessedEventBuffer hinit)
    exact hstage _ _ hs (.moved [] s.telemetryEventQueue _ _ (hphase s hs) id)
  have started (s : TelemetryServiceState) (hs : P s) :
      P ({ s with initHandlingStarted := true }.bufferEvent event) :=
    hstage _ _ hs (.moved _ _ true s.initHandled (fun _ => rfl) id)
  have beforeInit (hinit : s.initHandled = false) :
      P (handleEventBeforeInit config state event s).1 := by
    unfold handleEventBeforeInit
    split
    · dsimp only
      split
      · next h =>
        split at h
        · cases h
        · rw [h] at degraded
          exact degraded hinit
      · next s' h =>
        split at h
        · cases h
          exact started s hs
        · rw [h] at degraded
          exact started s' (degraded hinit)
    · exact buffered s hs
  have duringInit (hstarted : s.initHandlingStarted = true) (hinit : s.initHandled = false) :
      P (handleEventDuringInit config state event s).1 := by
    unfold handleEventDuringInit
    split
    · split
      · next h =>
        rw [h] at degraded
        exact degraded hinit
      · next s' h =>
        rw [h] at degraded
        exact buffered s' (degraded hinit)
    · split
      · refine processBufferedEvents_stages hstage state s.halfProcessedEventBuffer ?_ hstate rfl
        exact hstage _ _ hs
          (.moved [] (event :: s.telemetryEventQueue) s.initHandlingStarted true (fun _ => hstarted)
            fun _ => rfl)
      · exact buffered s hs
    · exact buffered s hs
  have afterInit (hinit : s.initHandled = true) : P (handleEventAfterInit config state event s).1 := by
    have called := hstage _ _ hs (.telemetry event state hstate hinit)
    unfold handleEventAfterInit
    split
    · next h =>
      rw [h] at called
      exact called
    · next s' state' h =>
      rw [h] at called
      split
      · next hreport =>
        exact hstage _ _ called (.concluded state' (callProcessTelemetry_current h).1 hreport)
      · exact called
  unfold handleEvent
  split
  · next hstarted =>
    refine beforeInit ?_
    cases hinit : s.initHandled with
    | false => rfl
    | true =>
      rw [hphase s hs hinit] at hstarted
      cases hstarted
  · next hstarted =>
    split
    · next hinit => exact duringInit (by simpa using hstarted) (by simpa using hinit)
    · next hinit => exact afterInit (by simpa using hinit)

/-- What all stages preserve, the loop preserves. -/
theorem processTelemetryEvents_stages (hstage : ∀ s s', P s → Stage config s s' → P s')
    (hphase : ∀ s, P s → InPhase s) (hs : P s) : P (processTelemetryEvents config s).1 := by
  suffices H : ∀ fuel d s, P s → P (processTelemetryEventsLoop config fuel d s).1 from H _ _ _ hs
  intro fuel
  induction fuel with
  | zero => exact fun d s hs => hs
  | succ fuel ih =>
    intro d s hs
    have acquired := hstage _ _ hs .acquired
    have current := @acquireInvocation_acquired _ config s
    unfold processTelemetryEventsLoop
    split
    · next h =>
      rw [h] at acquired
      exact acquired
    · next h =>
      rw [h] at acquired
      exact acquired
    · next s' state h =>
      rw [h] at acquired current
      have hstate : s'.invocationState = some state := by
        cases current with
        | current _ h => exact h
        | created => rfl
      split
      · exact acquired
      · next event queue hqueue =>
        have popped : P { s' with telemetryEventQueue := queue } :=
          hstage _ _ acquired (.moved _ queue _ _ (hphase s' acquired) id)
        have handled : P (handleEvent config state event { s' with telemetryEventQueue := queue }).1 :=
          handleEvent_stages hstage hphase event popped hstate
        split
        · next h =>
          rw [h] at handled
          exact handled
        · next h =>
          rw [h] at handled
          exact ih _ _ handled

theorem processQueues_stages (hstage : ∀ s s', P s → Stage config s s' → P s')
    (hphase : ∀ s, P s → InPhase s) (hs : P s) : P (processQueues config s) := by
  unfold processQueues
  split
  · exact hs
  · exact processTelemetryEvents_stages hstage hphase hs

end

end TelemetryExporter
