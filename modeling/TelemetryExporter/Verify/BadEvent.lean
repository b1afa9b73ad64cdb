import TelemetryExporter.Verify.Progress

/-!
# An event that fails to process

`process_telemetry_events` returns at the first event that fails. An event taken from the queue is
alone in that, but the replays of `half_processed_event_buffer` have taken the whole buffer out of
the state: what comes after the failing event in it is in no call and in no queue any more, and a
`PlatformInitStart` is lost with the events that were to be processed before it. Nothing here assumes
that the state is reachable.
-/

namespace TelemetryExporter

/-- The events not yet processed, in the order in which they came. -/
def TelemetryServiceState.waitingEvents (s : TelemetryServiceState) : List LambdaTelemetry :=
  s.halfProcessedEventBuffer ++ s.telemetryEventQueue

/-- `telemetry_event_queue.extend(telemetry_events)`. -/
def TelemetryServiceState.extendQueue (batch : List LambdaTelemetry) (s : TelemetryServiceState) :
    TelemetryServiceState :=
  { s with telemetryEventQueue := s.telemetryEventQueue ++ batch }

/-- The request of the current invocation, or of the one that comes next. -/
def TelemetryServiceState.awaitedRequest (s : TelemetryServiceState) : Option String :=
  match s.invocationState with
  | some state => some state.invocationContext.requestId
  | none => s.invokeEventQueue.head?.map (·.requestId)

/-- No replay of buffered events is cut short: every event that is processed in degraded mode before
a `PlatformInitStart` has a timestamp, and so does every event but the last that is replayed before
the `PlatformStart` of the request. -/
def ReplaysWhole (requestId : Option String) (handled : Bool) :
    Bool → List LambdaTelemetry → List LambdaTelemetry → Prop
  | _, _, [] => True
  | started, buffer, event :: queue =>
    if started && handled then True
    else if event.isInitStart then
      (∀ e ∈ buffer, e.HasTimestamp) ∧ ReplaysWhole requestId handled true [event] queue
    else if started && requestId.any (event.isStartOf ·) then
      ∀ e ∈ buffer.dropLast, e.HasTimestamp
    else ReplaysWhole requestId handled started (buffer ++ [event]) queue

/-- `ReplaysWhole` for the phase, the buffer and the queue of the state. -/
def TelemetryServiceState.ReplaysWhole (s : TelemetryServiceState) : Prop :=
  TelemetryExporter.ReplaysWhole s.awaitedRequest s.initHandled s.initHandlingStarted
    s.halfProcessedEventBuffer s.telemetryEventQueue

/-- One bad event has cost one event: all others have been processed, or wait in their order. -/
def OneEventLost (s s' : TelemetryServiceState) (bad : LambdaTelemetry) : Prop :=
  ∃ calls, s'.trace = s.trace ++ (calls ++ [.failed bad]) ∧ NoErrors calls ∧
    (processedEvents calls ++ bad :: s'.waitingEvents).Perm s.waitingEvents ∧
    s'.waitingEvents.Sublist s.waitingEvents

/-! ## Calls that stop at a bad event -/

/-- Calls for a list of events that stop at one without a timestamp. -/
theorem callsFor_of_failed {call : LambdaTelemetry → ProcessorCall} {events : List LambdaTelemetry}
    (h : ¬ ∀ event ∈ events, event.HasTimestamp) :
    ∃ before bad after, events = before ++ bad :: after ∧ (∀ e ∈ before, e.HasTimestamp) ∧
      ¬ bad.HasTimestamp ∧ callsFor call events = before.map call ++ [.failed bad] := by
  induction events with
  | nil => exact absurd (fun e he => absurd he List.not_mem_nil) h
  | cons event events ih =>
    cases ht : eventTimestamp event with
    | error e =>
      have hevent : ¬ event.HasTimestamp := by
        rw [LambdaTelemetry.HasTimestamp, ht]
        intro h
        cases h
      exact ⟨[], event, events, rfl, fun e he => absurd he List.not_mem_nil, hevent,
        by simp [callsFor, ht]⟩
    | ok time =>
      have hevent : event.HasTimestamp := by
        rw [LambdaTelemetry.HasTimestamp, ht, eventTimestamp_eq ht]
      have hrest : ¬ ∀ e ∈ events, e.HasTimestamp := by
        intro hall
        apply h
        intro e he
        rcases List.mem_cons.1 he with rfl | he
        · exact hevent
        · exact hall e he
      obtain ⟨before, bad, after, heq, hbefore, hbad, hcalls⟩ := ih hrest
      refine ⟨event :: before, bad, after, by rw [heq]; rfl, ?_, hbad, ?_⟩
      · intro e he
        rcases List.mem_cons.1 he with rfl | he
        · exact hevent
        · exact hbefore e he
      · simp [callsFor, ht, hcalls]

theorem dropLast_hasTimestamp_iff {before after : List LambdaTelemetry} {bad : LambdaTelemetry}
    (hbefore : ∀ e ∈ before, e.HasTimestamp) (hbad : ¬ bad.HasTimestamp) :
    (∀ e ∈ (before ++ bad :: after).dropLast, e.HasTimestamp) ↔ after = [] := by
  constructor
  · intro h
    by_contra hne
    apply hbad
    apply h
    rw [List.dropLast_append_of_ne_nil (List.cons_ne_nil bad after),
      List.dropLast_cons_of_ne_nil hne]
    exact List.mem_append_right _ List.mem_cons_self
  · rintro rfl
    rwa [List.dropLast_concat]

/-! ## Where the events go -/

/-- The calls made between two states, and the events that are in no call and in no queue. -/
structure Moves (s s' : TelemetryServiceState) (calls : List ProcessorCall)
    (lost : List LambdaTelemetry) : Prop where
  trace : s'.trace = s.trace ++ calls
  perm : (processedEvents calls ++ (lost ++ s'.waitingEvents)).Perm s.waitingEvents
  sublist : s'.waitingEvents.Sublist s.waitingEvents

namespace Moves

variable {s s' s'' : TelemetryServiceState} {calls calls' : List ProcessorCall}
  {lost : List LambdaTelemetry}

theorem refl (s : TelemetryServiceState) : Moves s s [] [] where
  trace := (List.append_nil _).symm
  perm := .refl _
  sublist := .refl _

theorem trans (h : Moves s s' calls []) (h' : Moves s' s'' calls' lost) :
    Moves s s'' (calls ++ calls') lost where
  trace := by rw [h'.trace, h.trace, List.append_assoc]
  perm := by
    rw [processedEvents_append, List.append_assoc]
    exact (h'.perm.append_left _).trans h.perm
  sublist := h'.sublist.trans h.sublist

/-- The events of the calls were the first to wait. -/
theorem of_front (htrace : s'.trace = s.trace ++ calls)
    (heq : s.waitingEvents = processedEvents calls ++ (lost ++ s'.waitingEvents)) :
    Moves s s' calls lost where
  trace := htrace
  perm := by rw [heq]
  sublist := by
    rw [heq]
    exact (List.sublist_append_right lost _).trans (List.sublist_append_right _ _)

end Moves

/-- A part of the loop that does not fail. -/
def Advanced (s s' : TelemetryServiceState) : Prop :=
  ∃ calls, Moves s s' calls [] ∧ NoErrors calls ∧ (s'.ReplaysWhole ↔ s.ReplaysWhole)

/-- A part of the loop that fails: either at an invoke event, or at an event with a bad timestamp. -/
def Failed (s s' : TelemetryServiceState) : Prop :=
  (∃ calls, Moves s s' calls [] ∧ NoErrors calls) ∨
    ∃ calls bad lost, Moves s s' (calls ++ [.failed bad]) lost ∧ NoErrors calls ∧
      (lost = [] ↔ s.ReplaysWhole)

theorem NoErrors.append {a b : List ProcessorCall} (ha : NoErrors a) (hb : NoErrors b) :
    NoErrors (a ++ b) := by
  intro call hcall
  rcases List.mem_append.1 hcall with hcall | hcall
  · exact ha call hcall
  · exact hb call hcall

theorem noErrors_map {call : LambdaTelemetry → ProcessorCall} (events : List LambdaTelemetry)
    (h : ∀ event, (call event).isError = false) : NoErrors (events.map call) := by
  intro c hc
  obtain ⟨event, -, rfl⟩ := List.mem_map.1 hc
  exact h event

section

variable {s s' s'' : TelemetryServiceState}

theorem Advanced.refl (s : TelemetryServiceState) : Advanced s s :=
  ⟨[], .refl s, fun _ h => absurd h List.not_mem_nil, Iff.rfl⟩

theorem Advanced.trans (h : Advanced s s') (h' : Advanced s' s'') : Advanced s s'' := by
  obtain ⟨calls, moves, hcalls, hreplays⟩ := h
  obtain ⟨calls', moves', hcalls', hreplays'⟩ := h'
  exact ⟨calls ++ calls', moves.trans moves', hcalls.append hcalls', hreplays'.trans hreplays⟩

theorem Advanced.failed (h : Advanced s s') (h' : Failed s' s'') : Failed s s'' := by
  obtain ⟨calls, moves, hcalls, hreplays⟩ := h
  rcases h' with ⟨calls', moves', hcalls'⟩ | ⟨calls', bad, lost, moves', hcalls', hlost⟩
  · exact .inl ⟨calls ++ calls', moves.trans moves', hcalls.append hcalls'⟩
  · refine .inr ⟨calls ++ calls', bad, lost, ?_, hcalls.append hcalls', hlost.trans hreplays⟩
    rw [List.append_assoc]
    exact moves.trans moves'

end

section

variable [External] {config : TelemetryServiceConfig} {s : TelemetryServiceState}

omit [External] in
theorem not_hasTimestamps_of_failed {call : LambdaTelemetry → ProcessorCall}
    {events : List LambdaTelemetry} {bad : LambdaTelemetry}
    (hcall : ∀ event, (call event).isError = false) (h : .failed bad ∈ callsFor call events) :
    ¬ ∀ event ∈ events, event.HasTimestamp := by
  intro htimes
  rw [callsFor_of_timestamps htimes] at h
  have herror := noErrors_map events hcall _ h
  cases herror

/-- `process_in_degraded_mode` processes all the events, or stops at the first bad one. -/
theorem processInDegradedMode_stops (functionContext : FunctionContext)
    (events : List LambdaTelemetry) :
    Outcome.Satisfies (processInDegradedMode config functionContext events s)
      (fun _ s' => (∀ e ∈ events, e.HasTimestamp) ∧ ∃ m out rng, s' =
        { s with
          metricsState := m
          outputBuffers := out
          rng
          trace := s.trace ++ events.map .degraded })
      (fun s' => ∃ before bad after m out rng, events = before ++ bad :: after ∧
        (∀ e ∈ before, e.HasTimestamp) ∧ ¬ bad.HasTimestamp ∧ s' =
        { s with
          metricsState := m
          outputBuffers := out
          rng
          trace := s.trace ++ (before.map .degraded ++ [.failed bad]) }) := by
  obtain ⟨m, out, rng, r, heq, -, -, hr⟩ := @processInDegradedModeLoop_spec _ config
    { s with rng := (DegradedProcessingState.new functionContext s.rng).2 }
    (DegradedProcessingState.new functionContext s.rng).1 events
  unfold processInDegradedMode
  dsimp only at heq ⊢
  rw [heq]
  rcases hr with ⟨rfl, htimes⟩ | ⟨e, bad, rfl, hbad⟩
  · rw [callsFor_of_timestamps htimes]
    exact ⟨htimes, m, out, rng, rfl⟩
  · obtain ⟨before, bad, after, hevents, hbefore, hbad, hcalls⟩ :=
      @callsFor_of_failed .degraded _ (not_hasTimestamps_of_failed (fun _ => rfl) hbad)
    rw [hcalls]
    exact ⟨before, bad, after, m, out, rng, hevents, hbefore, hbad, rfl⟩

/-- The replay of the init events processes all of them, or stops at the first bad one. -/
theorem processBufferedEvents_stops (state : InvocationProcessingState)
    (events : List LambdaTelemetry) (hs : s.invocationState = some state) :
    Outcome.Satisfies (processBufferedEvents config state s events)
      (fun _ s' => (∀ e ∈ events, e.HasTimestamp) ∧
        ∃ state' m out rng, state'.invocationContext = state.invocationContext ∧ s' =
        { s with
          invocationState := some state'
          metricsState := m
          outputBuffers := out
          rng
          trace := s.trace ++ events.map (.telemetry state.serial) })
      (fun s' => ∃ before bad after state' m out rng, events = before ++ bad :: after ∧
        (∀ e ∈ before, e.HasTimestamp) ∧ ¬ bad.HasTimestamp ∧ s' =
        { s with
          invocationState := some state'
          metricsState := m
          outputBuffers := out
          rng
          trace := s.trace ++ (before.map (.telemetry state.serial) ++ [.failed bad]) }) := by
  obtain ⟨state', m, out, rng, r, heq, carries, hr⟩ :=
    @processBufferedEvents_spec _ config s state events hs
  rw [heq]
  rcases hr with ⟨rfl, htimes⟩ | ⟨e, bad, rfl, hbad⟩
  · rw [callsFor_of_timestamps htimes]
    exact ⟨htimes, state', m, out, rng, carries.same.invocationContext, rfl⟩
  · obtain ⟨before, bad, after, hevents, hbefore, hbad, hcalls⟩ :=
      @callsFor_of_failed (.telemetry state.serial) _
        (not_hasTimestamps_of_failed (fun _ => rfl) hbad)
    rw [hcalls]
    exact ⟨before, bad, after, state', m, out, rng, hevents, hbefore, hbad, rfl⟩

/-! ## One event -/

variable {state : InvocationProcessingState} {event : LambdaTelemetry} {queue : List LambdaTelemetry}

omit [External] in
/-- The condition at the event that is taken from the queue. -/
theorem replaysWhole_iff (hs : s.invocationState = some state)
    (hqueue : s.telemetryEventQueue = event :: queue) :
    s.ReplaysWhole ↔
      if s.initHandlingStarted && s.initHandled then True
      else if event.isInitStart then (∀ e ∈ s.halfProcessedEventBuffer, e.HasTimestamp) ∧
        ReplaysWhole (some state.invocationContext.requestId) s.initHandled true [event] queue
      else if s.initHandlingStarted && event.isStartOf state.invocationContext.requestId then
        ∀ e ∈ s.halfProcessedEventBuffer.dropLast, e.HasTimestamp
      else ReplaysWhole (some state.invocationContext.requestId) s.initHandled s.initHandlingStarted
        (s.halfProcessedEventBuffer ++ [event]) queue := by
  unfold TelemetryServiceState.ReplaysWhole TelemetryServiceState.awaitedRequest
  rw [hs, hqueue]
  simp only [ReplaysWhole, Option.any_some]

omit [External] in
/-- After the init phase no replay is left. -/
theorem replaysWhole_of_handled (hstarted : s.initHandlingStarted = true)
    (hhandled : s.initHandled = true) : s.ReplaysWhole := by
  unfold TelemetryServiceState.ReplaysWhole
  cases s.telemetryEventQueue with
  | nil => trivial
  | cons event queue =>
    unfold ReplaysWhole
    rw [hstarted, hhandled]
    trivial

omit [External] in
/-- The event goes to the buffer. -/
theorem bufferEvent_advanced (hs : s.invocationState = some state)
    (hqueue : s.telemetryEventQueue = event :: queue)
    (hphase : (s.initHandlingStarted && s.initHandled) = false)
    (hinit : event.isInitStart = false)
    (hstart : s.initHandlingStarted = true →
      event.isStartOf state.invocationContext.requestId = false) :
    Advanced s (TelemetryServiceState.bufferEvent event { s with telemetryEventQueue := queue }) := by
  refine ⟨[], .of_front (List.append_nil _).symm ?_, fun _ h => absurd h List.not_mem_nil, ?_⟩
  · simp [TelemetryServiceState.waitingEvents, TelemetryServiceState.bufferEvent, hqueue,
      processedEvents]
  · rw [replaysWhole_iff hs hqueue, if_neg (by rw [hphase]; exact Bool.false_ne_true),
      if_neg (by rw [hinit]; exact Bool.false_ne_true), if_neg ?_]
    · unfold TelemetryServiceState.ReplaysWhole TelemetryServiceState.awaitedRequest
      rw [show (TelemetryServiceState.bufferEvent event
        { s with telemetryEventQueue := queue }).invocationState = some state from hs]
      exact Iff.rfl
    · intro h
      rw [Bool.and_eq_true] at h
      rw [hstart h.1] at h
      exact absurd h.2 Bool.false_ne_true

/-- A `PlatformInitStart`: the buffered events are processed in degraded mode. -/
theorem restart_advanced (hs : s.invocationState = some state)
    (hqueue : s.telemetryEventQueue = event :: queue)
    (hphase : (s.initHandlingStarted && s.initHandled) = false)
    (hinit : event.isInitStart = true) :
    Outcome.Satisfies
      (processInDegradedMode config state.functionContext s.halfProcessedEventBuffer
        { s with telemetryEventQueue := queue, halfProcessedEventBuffer := [] })
      (fun _ s' => s'.initHandlingStarted = s.initHandlingStarted ∧
        Advanced s ({ s' with initHandlingStarted := true }.bufferEvent event))
      (fun s' => Failed s s') := by
  have hreplays : s.ReplaysWhole ↔ (∀ e ∈ s.halfProcessedEventBuffer, e.HasTimestamp) ∧
      ReplaysWhole (some state.invocationContext.requestId) s.initHandled true [event] queue := by
    rw [replaysWhole_iff hs hqueue, if_neg (by rw [hphase]; exact Bool.false_ne_true), if_pos hinit]
  refine (processInDegradedMode_stops state.functionContext s.halfProcessedEventBuffer).mono ?_ ?_
  · rintro - s' ⟨htimes, m, out, rng, rfl⟩
    refine ⟨rfl, s.halfProcessedEventBuffer.map .degraded, .of_front rfl ?_,
      noErrors_map _ fun _ => rfl, ?_⟩
    · simp [TelemetryServiceState.waitingEvents, TelemetryServiceState.bufferEvent, hqueue]
    · rw [hreplays, and_iff_right htimes]
      simp only [TelemetryServiceState.ReplaysWhole, TelemetryServiceState.awaitedRequest,
        TelemetryServiceState.bufferEvent, hs, List.nil_append]
  · rintro s' ⟨before, bad, after, m, out, rng, hbuffer, hbefore, hbad, rfl⟩
    refine .inr ⟨before.map .degraded, bad, after ++ [event], .of_front rfl ?_,
      noErrors_map _ fun _ => rfl, ?_⟩
    · simp [TelemetryServiceState.waitingEvents, hqueue, hbuffer, processedEvents,
        ProcessorCall.event, List.filterMap_map, Function.comp_def]
    · -- the event itself is lost, whatever the buffer holds
      refine iff_of_false (by simp) fun h => hbad ((hreplays.1 h).1 bad ?_)
      rw [hbuffer]
      exact List.mem_append_right _ List.mem_cons_self

/-- The `PlatformStart` of the invocation: the buffered events are replayed. -/
theorem replay_advanced (hs : s.invocationState = some state)
    (hqueue : s.telemetryEventQueue = event :: queue) (hstarted : s.initHandlingStarted = true)
    (hhandled : s.initHandled = false) (hinit : event.isInitStart = false)
    (hstart : event.isStartOf state.invocationContext.requestId = true) :
    Outcome.Satisfies
      (processBufferedEvents config state
        { s with
          telemetryEventQueue := event :: queue
          initHandled := true
          halfProcessedEventBuffer := [] } s.halfProcessedEventBuffer)
      (fun _ s' => Advanced s s') (fun s' => Failed s s') := by
  have hreplays : s.ReplaysWhole ↔ ∀ e ∈ s.halfProcessedEventBuffer.dropLast, e.HasTimestamp := by
    rw [replaysWhole_iff hs hqueue, if_neg (by rw [hhandled, Bool.and_false]; exact Bool.false_ne_true),
      if_neg (by rw [hinit]; exact Bool.false_ne_true), if_pos (by rw [hstarted, hstart]; rfl)]
  refine (processBufferedEvents_stops state s.halfProcessedEventBuffer ?_).mono ?_ ?_
  · exact hs
  · rintro - s' ⟨htimes, state', m, out, rng, -, rfl⟩
    refine ⟨s.halfProcessedEventBuffer.map (.telemetry state.serial), .of_front rfl ?_,
      noErrors_map _ fun _ => rfl, ?_⟩
    · simp [TelemetryServiceState.waitingEvents, hqueue]
    · refine iff_of_true (replaysWhole_of_handled hstarted rfl) (hreplays.2 fun e he => ?_)
      exact htimes e (List.dropLast_subset _ he)
  · rintro s' ⟨before, bad, after, state', m, out, rng, hbuffer, hbefore, hbad, rfl⟩
    refine .inr ⟨before.map (.telemetry state.serial), bad, after, .of_front rfl ?_,
      noErrors_map _ fun _ => rfl, ?_⟩
    · simp [TelemetryServiceState.waitingEvents, hqueue, hbuffer, processedEvents,
        ProcessorCall.event, List.filterMap_map, Function.comp_def]
    · rw [hreplays, hbuffer]
      exact (dropLast_hasTimestamp_iff hbefore hbad).symm

theorem handleEventBeforeInit_advanced (hs : s.invocationState = some state)
    (hqueue : s.telemetryEventQueue = event :: queue) (hstarted : s.initHandlingStarted = false) :
    Outcome.Satisfies
      (handleEventBeforeInit config state event { s with telemetryEventQueue := queue })
      (fun _ s' => Advanced s s') (fun s' => Failed s s') := by
  have hphase : (s.initHandlingStarted && s.initHandled) = false := by rw [hstarted]; rfl
  have buffered (hinit : event.isInitStart = false) : Advanced s
      (TelemetryServiceState.bufferEvent event { s with telemetryEventQueue := queue }) := by
    apply bufferEvent_advanced hs hqueue hphase hinit
    intro h
    rw [hstarted] at h
    cases h
  unfold handleEventBeforeInit
  cases hrecord : event.record with
  | platformInitStart =>
    have hinit : event.isInitStart = true := by simp [LambdaTelemetry.isInitStart, hrecord]
    have restart := @restart_advanced _ config s state event queue hs hqueue hphase hinit
    by_cases hempty : s.halfProcessedEventBuffer = []
    · -- degraded processing of no events only takes random numbers
      dsimp only
      rw [if_pos (by rw [hempty]; rfl)]
      refine ⟨[], .of_front (List.append_nil _).symm ?_, fun _ h => absurd h List.not_mem_nil, ?_⟩
      · simp [TelemetryServiceState.waitingEvents, TelemetryServiceState.bufferEvent, hqueue,
          processedEvents]
      · rw [replaysWhole_iff hs hqueue, if_neg (by rw [hphase]; exact Bool.false_ne_true),
          if_pos hinit, and_iff_right (by rw [hempty]; exact fun e he => absurd he List.not_mem_nil)]
        simp only [TelemetryServiceState.ReplaysWhole, TelemetryServiceState.awaitedRequest,
          TelemetryServiceState.bufferEvent, hs, hempty, List.nil_append]
    · simp only [List.isEmpty_iff, hempty, if_false]
      split
      · next h => exact restart.of_error h
      · next h => exact (restart.of_ok h).2
  | _ => exact buffered (by simp [LambdaTelemetry.isInitStart, hrecord])

theorem handleEventDuringInit_advanced (hs : s.invocationState = some state)
    (hqueue : s.telemetryEventQueue = event :: queue) (hstarted : s.initHandlingStarted = true)
    (hhandled : s.initHandled = false) :
    Outcome.Satisfies
      (handleEventDuringInit config state event { s with telemetryEventQueue := queue })
      (fun _ s' => Advanced s s') (fun s' => Failed s s') := by
  have hphase : (s.initHandlingStarted && s.initHandled) = false := by rw [hhandled, Bool.and_false]
  have buffered (hinit : event.isInitStart = false)
      (hstart : event.isStartOf state.invocationContext.requestId = false) : Advanced s
      (TelemetryServiceState.bufferEvent event { s with telemetryEventQueue := queue }) :=
    bufferEvent_advanced hs hqueue hphase hinit fun _ => hstart
  unfold handleEventDuringInit
  cases hrecord : event.record with
  | platformInitStart =>
    have hinit : event.isInitStart = true := by simp [LambdaTelemetry.isInitStart, hrecord]
    have restart := @restart_advanced _ config s state event queue hs hqueue hphase hinit
    dsimp only
    split
    · next h => exact restart.of_error h
    · next s' h =>
      obtain ⟨heq, advanced⟩ := restart.of_ok h
      have hs' : { s' with initHandlingStarted := true } = s' := by rw [← hstarted, ← heq]
      rwa [hs'] at advanced
  | platformStart requestId version tracing =>
    have hinit : event.isInitStart = false := by simp [LambdaTelemetry.isInitStart, hrecord]
    dsimp only
    split
    · next hid =>
      exact replay_advanced hs hqueue hstarted hhandled hinit
        (by simp [LambdaTelemetry.isStartOf, hrecord, hid])
    · next hid => exact buffered hinit (by simp [LambdaTelemetry.isStartOf, hrecord, hid])
  | _ =>
    exact buffered (by simp [LambdaTelemetry.isInitStart, hrecord])
      (by simp [LambdaTelemetry.isStartOf, hrecord])

theorem handleEventAfterInit_advanced (hqueue : s.telemetryEventQueue = event :: queue)
    (hstarted : s.initHandlingStarted = true) (hhandled : s.initHandled = true) :
    Outcome.Satisfies
      (handleEventAfterInit config state event { s with telemetryEventQueue := queue })
      (fun _ s' => Advanced s s') (fun s' => Failed s s') := by
  have whole : s.ReplaysWhole := replaysWhole_of_handled hstarted hhandled
  have hwaiting : (event :: (s.halfProcessedEventBuffer ++ queue)).Perm s.waitingEvents := by
    rw [TelemetryServiceState.waitingEvents, hqueue]
    exact List.perm_middle.symm
  have hsublist : (s.halfProcessedEventBuffer ++ queue).Sublist s.waitingEvents := by
    rw [TelemetryServiceState.waitingEvents, hqueue]
    exact (List.sublist_cons_self event queue).append_left _
  unfold handleEventAfterInit
  rcases @callProcessTelemetry_spec _ config { s with telemetryEventQueue := queue } event state with
    ⟨-, state', m, out, rng, heq, -, -⟩ | ⟨-, e, heq⟩
  · rw [heq]
    dsimp only
    split
    · refine ⟨[.telemetry state.serial event, .concluded state'.serial state'.logs],
        ⟨by simp, hwaiting, hsublist⟩, ?_, iff_of_true (replaysWhole_of_handled hstarted hhandled) whole⟩
      simp [NoErrors, ProcessorCall.isError]
    · refine ⟨[.telemetry state.serial event], ⟨rfl, hwaiting, hsublist⟩, ?_,
        iff_of_true (replaysWhole_of_handled hstarted hhandled) whole⟩
      simp [NoErrors, ProcessorCall.isError]
  · rw [heq]
    exact .inr ⟨[], event, [], ⟨rfl, hwaiting, hsublist⟩, fun _ h => absurd h List.not_mem_nil,
      iff_of_true rfl whole⟩

theorem handleEvent_advanced (hs : s.invocationState = some state)
    (hqueue : s.telemetryEventQueue = event :: queue) :
    Outcome.Satisfies (handleEvent config state event { s with telemetryEventQueue := queue })
      (fun _ s' => Advanced s s') (fun s' => Failed s s') := by
  have lift (o : Outcome Unit) (b : Bool)
      (h : Outcome.Satisfies o (fun _ s' => Advanced s s') (fun s' => Failed s s')) :
      Outcome.Satisfies (o.1, o.2.map fun _ => b) (fun _ s' => Advanced s s')
        (fun s' => Failed s s') := by
    obtain ⟨s', r⟩ := o
    cases r with
    | ok _ => exact h
    | error e => exact h
  unfold handleEvent
  by_cases hstarted : s.initHandlingStarted = true
  · rw [if_neg (by simp [hstarted])]
    by_cases hhandled : s.initHandled = true
    · rw [if_neg (by simp [hhandled])]
      exact lift _ _ (handleEventAfterInit_advanced hqueue hstarted hhandled)
    · rw [if_pos (by simp [hhandled])]
      exact lift _ _
        (handleEventDuringInit_advanced hs hqueue hstarted (Bool.eq_false_iff.2 hhandled))
  · rw [if_pos (by simp [hstarted])]
    exact lift _ _ (handleEventBeforeInit_advanced hs hqueue (Bool.eq_false_iff.2 hstarted))

/-! ## The loop -/

omit [External] in
/-- Getting an invocation takes no event. -/
theorem Acquired.advanced [External] {o : Outcome (Option InvocationProcessingState)}
    (h : Acquired config s o) :
    Outcome.Satisfies o (fun _ s' => Advanced s s') (fun s' => Failed s s') := by
  cases h with
  | current state h => exact .refl s
  | nothing h hqueue => exact .refl s
  | created invokeEvent queue state out rng hnone hqueue fresh =>
    refine ⟨_, .of_front rfl ?_, by simp [NoErrors, ProcessorCall.isError], ?_⟩
    · simp [processedEvents, ProcessorCall.event, TelemetryServiceState.waitingEvents]
    · simp only [TelemetryServiceState.ReplaysWhole, TelemetryServiceState.awaitedRequest, hnone,
        hqueue, List.head?_cons, Option.map_some, fresh.requestId]
  | rejected invokeEvent queue rng e hnone hqueue =>
    refine .inl ⟨_, .of_front rfl ?_, by simp [NoErrors, ProcessorCall.isError]⟩
    simp [processedEvents, ProcessorCall.event, TelemetryServiceState.waitingEvents]

/-- Up to its end or to the first bad event, the loop loses nothing. -/
theorem processTelemetryEventsLoop_advanced (fuel : Nat) (d : Bool) :
    Outcome.Satisfies (processTelemetryEventsLoop config fuel d s) (fun _ s' => Advanced s s')
      (fun s' => Failed s s') := by
  induction fuel generalizing d s with
  | zero => exact .refl s
  | succ fuel ih =>
    have acquired := @acquireInvocation_acquired _ config s
    have advanced := acquired.advanced
    unfold processTelemetryEventsLoop
    split
    · next heq => exact advanced.of_error heq
    · next heq => exact advanced.of_ok heq
    · next s₁ state heq =>
      have advanced₁ : Advanced s s₁ := advanced.of_ok heq
      have hs₁ : s₁.invocationState = some state := by
        rw [heq] at acquired
        cases acquired with
        | current _ h => exact h
        | created => rfl
      split
      · exact advanced₁
      · next event queue hqueue =>
        have handled := @handleEvent_advanced _ config s₁ state event queue hs₁ hqueue
        split
        · next heq => exact advanced₁.failed (handled.of_error heq)
        · next s₂ b heq =>
          have advanced₂ : Advanced s s₂ := advanced₁.trans (handled.of_ok heq)
          exact (@ih s₂ (d || b)).mono (fun _ _ h => advanced₂.trans h) fun _ h => advanced₂.failed h

/-- When an event fails, all others have been processed or still wait, if and only if no replay of
buffered events has been cut short. -/
theorem bad_event_iff {batch : List LambdaTelemetry} {s' : TelemetryServiceState} {e : Error}
    {calls : List ProcessorCall} {bad : LambdaTelemetry}
    (h : processTelemetryEvents config (s.extendQueue batch) = (s', .error e))
    (htrace : s'.trace = s.trace ++ calls) (hbad : .failed bad ∈ calls) :
    OneEventLost (s.extendQueue batch) s' bad ↔ (s.extendQueue batch).ReplaysWhole := by
  have failed : Failed (s.extendQueue batch) s' :=
    (processTelemetryEventsLoop_advanced _ false).of_error h
  have hcalls {others : List ProcessorCall}
      (hothers : s'.trace = (s.extendQueue batch).trace ++ others) : calls = others :=
    List.append_cancel_left (htrace.symm.trans hothers)
  rcases failed with ⟨others, moves, hok⟩ | ⟨others, bad', lost, moves, hok, hlost⟩
  · rw [← hcalls moves.trace] at hok
    have herror := hok _ hbad
    cases herror
  · have heq : bad' = bad := by
      rw [hcalls moves.trace] at hbad
      rcases List.mem_append.1 hbad with hbad | hbad
      · have herror := hok _ hbad
        cases herror
      · cases List.mem_singleton.1 hbad
        rfl
    subst heq
    have hperm : (processedEvents others ++ bad' :: (lost ++ s'.waitingEvents)).Perm
        (s.extendQueue batch).waitingEvents := by
      have h := moves.perm
      rw [processedEvents_append] at h
      simpa [processedEvents, ProcessorCall.event] using h
    rw [← hlost]
    constructor
    · rintro ⟨others', htrace', -, hperm', -⟩
      have hsame : others = others' :=
        List.append_cancel_right ((hcalls moves.trace).symm.trans (hcalls htrace'))
      rw [← hsame] at hperm'
      have hlength := (hperm.trans hperm'.symm).length_eq
      simp only [List.length_append, List.length_cons] at hlength
      exact List.eq_nil_of_length_eq_zero (by omega)
    · rintro rfl
      exact ⟨others, moves.trace, hok, hperm, moves.sublist⟩

/-- A failure of `process_telemetry_events`, found by evaluating it after a run. -/
theorem exists_bad_event {now : Nat} {actions : List Action} {batch : List LambdaTelemetry}
    {P : TelemetryServiceState → TelemetryServiceState → Prop} [∀ s s', Decidable (P s s')]
    (h : ((serviceRun config now actions).any fun service =>
      match processTelemetryEvents config (service.state.extendQueue batch) with
      | (s', .error _) => s'.trace.any ProcessorCall.isError && decide (P service.state s')
      | (_, .ok _) => false) = true)
    (hok : ((serviceRun config now actions).all fun service =>
      service.state.trace.all fun call => !call.isError) = true) :
    ∃ (service : TelemetryService) (s' : TelemetryServiceState) (e : Error)
      (calls : List ProcessorCall) (bad : LambdaTelemetry),
      serviceRun config now actions = some service ∧
      processTelemetryEvents config (service.state.extendQueue batch) = (s', .error e) ∧
      s'.trace = service.state.trace ++ calls ∧ .failed bad ∈ calls ∧ P service.state s' := by
  obtain ⟨service, hservice, h⟩ := (Option.any_eq_true _ _).1 h
  have hok : ∀ call ∈ service.state.trace, call.isError = false := by
    rw [hservice, Option.all_some, List.all_eq_true] at hok
    intro call hcall
    simpa using hok call hcall
  cases heq : processTelemetryEvents config (service.state.extendQueue batch) with
  | mk s' r =>
    rw [heq] at h
    cases r with
    | ok d => cases h
    | error e =>
      rw [Bool.and_eq_true] at h
      obtain ⟨herror, hP⟩ := h
      have failed : Failed (service.state.extendQueue batch) s' :=
        (processTelemetryEventsLoop_advanced _ false).of_error heq
      obtain ⟨calls, htrace⟩ : ∃ calls, s'.trace = service.state.trace ++ calls := by
        rcases failed with ⟨calls, moves, -⟩ | ⟨calls, bad, lost, moves, -⟩
        · exact ⟨calls, moves.trace⟩
        · exact ⟨_, moves.trace⟩
      obtain ⟨call, hcall, hcallError⟩ := List.any_eq_true.1 herror
      rw [htrace] at hcall
      cases call with
      | failed bad =>
        refine ⟨service, s', e, calls, bad, hservice, heq, htrace, ?_, of_decide_eq_true hP⟩
        rcases List.mem_append.1 hcall with hcall | hcall
        · have := hok _ hcall
          cases this
        · exact hcall
      | _ => cases hcallError

end

/-! ## Samples -/

/-- The first invocation is known, and no telemetry has come. -/
def startedActions : List Action :=
  [.invoke (sampleInvoke "r1") sampleContext, .handler 0, .handler 0]

/-- A log of the year 10000, of which `event_timestamp` makes no time. -/
def lateLog : LambdaTelemetry := sampleLog 253402300800000 "late"

/-- The bad event is the last that has been buffered: the `PlatformStart` still waits. -/
theorem bad_event_iff_last_buffered :
    ∃ (service : TelemetryService) (s' : TelemetryServiceState) (bad : LambdaTelemetry),
      s'.waitingEvents.length = 1 ∧
      (OneEventLost
          (service.state.extendQueue [sampleInitStart 1, lateLog, sampleStart 2 "r1"]) s' bad ↔
        (service.state.extendQueue
          [sampleInitStart 1, lateLog, sampleStart 2 "r1"]).ReplaysWhole) := by
  obtain ⟨service, s', e, calls, bad, -, heq, htrace, hbad, hwaiting⟩ := @exists_bad_event
    sampleExternal (sampleConfig .lowOverhead .disabled) 0 startedActions
    [sampleInitStart 1, lateLog, sampleStart 2 "r1"] (fun _ s' => s'.waitingEvents.length = 1) _
    (by decide +kernel) (by decide +kernel)
  exact ⟨service, s', bad, hwaiting, @bad_event_iff sampleExternal _ _ _ _ _ _ _ heq htrace hbad⟩

/-- The bad event was buffered before a `PlatformInitStart`, which is lost with it. -/
theorem bad_event_loses_init_start :
    ∃ (service : TelemetryService) (s' : TelemetryServiceState) (e : Error)
      (calls : List ProcessorCall) (bad : LambdaTelemetry),
      @serviceRun sampleExternal (sampleConfig .lowOverhead .disabled) 0 startedActions =
        some service ∧
      @processTelemetryEvents sampleExternal (sampleConfig .lowOverhead .disabled)
        (service.state.extendQueue [lateLog, sampleInitStart 1]) = (s', .error e) ∧
      s'.trace = service.state.trace ++ calls ∧ .failed bad ∈ calls ∧
      ¬ OneEventLost (service.state.extendQueue [lateLog, sampleInitStart 1]) s' bad := by
  obtain ⟨service, s', e, calls, bad, hrun, heq, htrace, hbad, hwaiting, hprocessed⟩ :=
    @exists_bad_event sampleExternal (sampleConfig .lowOverhead .disabled) 0 startedActions
      [lateLog, sampleInitStart 1]
      (fun s s' => s'.waitingEvents.length + 2 =
          (s.extendQueue [lateLog, sampleInitStart 1]).waitingEvents.length ∧
        (processedEvents s'.trace).length = 1) _ (by decide +kernel) (by decide +kernel)
  refine ⟨service, s', e, calls, bad, hrun, heq, htrace, hbad, ?_⟩
  rintro ⟨others, htrace', -, hperm, -⟩
  have hlength := hperm.length_eq
  rw [htrace', processedEvents_append, processedEvents_append] at hprocessed
  simp only [List.length_append, List.length_cons] at hlength hprocessed
  have hone : (processedEvents [.failed bad]).length = 1 := rfl
  omega

end TelemetryExporter
