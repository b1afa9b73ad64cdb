import TelemetryExporter.Lib.Loop
import TelemetryExporter.Verify.BadEvent

/-!
# The loop of `process_telemetry_events` ends, and what it leaves

The loop ends although it can put a `PlatformStart` back, because it does so only once. What it
leaves is stated for every state that the service reaches: events only where they cannot be processed
yet, and a `half_processed_event_buffer` that belongs to the init phase.
-/

namespace TelemetryExporter

/-- The last `PlatformInitStart` of a list of events. -/
def latestInitStart (events : List LambdaTelemetry) : Option LambdaTelemetry :=
  (events.filter LambdaTelemetry.isInitStart).getLast?

theorem latestInitStart_append (a b : List LambdaTelemetry) :
    latestInitStart (a ++ b) = (latestInitStart b).or (latestInitStart a) := by
  rw [latestInitStart, List.filter_append, List.getLast?_append]
  rfl

theorem latestInitStart_of_none {events : List LambdaTelemetry}
    (h : ∀ e ∈ events, e.isInitStart = false) : latestInitStart events = none := by
  have hfilter : events.filter LambdaTelemetry.isInitStart = [] := by
    rw [List.filter_eq_nil_iff]
    intro e he
    rw [h e he]
    exact Bool.false_ne_true
  rw [latestInitStart, hfilter]
  rfl

theorem latestInitStart_cons {event : LambdaTelemetry} {events : List LambdaTelemetry}
    (hevent : event.isInitStart = true) (h : ∀ e ∈ events, e.isInitStart = false) :
    latestInitStart (event :: events) = some event := by
  rw [← List.singleton_append, latestInitStart_append, latestInitStart_of_none h, latestInitStart,
    List.filter_cons_of_pos hevent]
  rfl

section

variable [External] (config : TelemetryServiceConfig)

/-- The body of the loop, for the value of `invocation_done` and the state: either another iteration
or the result of `process_telemetry_events`. -/
def processTelemetryEventsBody :
    Bool × TelemetryServiceState → (Bool × TelemetryServiceState) ⊕ Outcome Bool
  | (invocationDone, s) =>
    match acquireInvocation config s with
    | (s, .error e) => .inr (s, .error e)
    | (s, .ok none) => .inr (s, .ok invocationDone)
    | (s, .ok (some state)) =>
      match s.telemetryEventQueue with
      | [] => .inr (s, .ok invocationDone)
      | event :: queue =>
        match handleEvent config state event { s with telemetryEventQueue := queue } with
        | (s, .error e) => .inr (s, .error e)
        | (s, .ok runtimeDone) => .inl (invocationDone || runtimeDone, s)

end

section

variable [External] {config : TelemetryServiceConfig} {s s' : TelemetryServiceState}

/-! ## The loop ends -/

theorem processTelemetryEventsLoop_succ (fuel : Nat) (d : Bool) :
    processTelemetryEventsLoop config (fuel + 1) d s =
      match processTelemetryEventsBody config (d, s) with
      | .inl x => processTelemetryEventsLoop config fuel x.1 x.2
      | .inr o => o := by
  simp only [processTelemetryEventsLoop, processTelemetryEventsBody]
  cases acquireInvocation config s with
  | mk s' r =>
    cases r with
    | error e => rfl
    | ok current =>
      cases current with
      | none => rfl
      | some state =>
        dsimp only
        cases s'.telemetryEventQueue with
        | nil => rfl
        | cons event queue =>
          dsimp only
          cases handleEvent config state event { s' with telemetryEventQueue := queue } with
          | mk s'' r => cases r <;> rfl

theorem processTelemetryEventsLoop_eq (fuel : Nat) (d : Bool) :
    processTelemetryEventsLoop config fuel d s =
      Loop.runFor (processTelemetryEventsBody config) (fun x => (x.2, .ok x.1)) fuel (d, s) := by
  induction fuel generalizing d s with
  | zero => rfl
  | succ fuel ih =>
    rw [processTelemetryEventsLoop_succ, Loop.runFor_succ]
    cases processTelemetryEventsBody config (d, s) with
    | inl x => exact ih x.1
    | inr o => rfl

/-- Another iteration has one event less, or the init phase behind it. -/
theorem processTelemetryEventsBody_iterations {d d' : Bool}
    (hphase : s.initHandled = true → s.initHandlingStarted = true)
    (h : processTelemetryEventsBody config (d, s) = .inl (d', s')) :
    (s'.initHandled = true → s'.initHandlingStarted = true) ∧
      iterations s' + 1 ≤ iterations s := by
  have acquired := @acquireInvocation_acquired _ config s
  obtain ⟨hiter, hinit, hstarted⟩ := acquired.iterations_eq
  simp only [processTelemetryEventsBody] at h
  split at h
  · cases h
  · cases h
  · next s₁ state heq =>
    rw [heq] at acquired hiter hinit hstarted
    dsimp only at hiter hinit hstarted
    have hs₁ : s₁.invocationState = some state := by
      cases acquired with
      | current _ h => exact h
      | created => rfl
    have hphase₁ : s₁.initHandled = true → s₁.initHandlingStarted = true := by
      rw [hinit, hstarted]
      exact hphase
    split at h
    · cases h
    · next event queue hqueue =>
      have handled := @handleEvent_handled _ config
        { s₁ with telemetryEventQueue := queue } state event hs₁ hphase₁
      split at h
      · cases h
      · next s₂ b heq' =>
        cases h
        rw [heq'] at handled
        have hlt := handled.iterations_lt hqueue
        exact ⟨handled.phase hphase₁, by omega⟩

/-- The loop ends, and `process_telemetry_events` is its result. -/
theorem processTelemetryEvents_returns
    (hphase : s.initHandled = true → s.initHandlingStarted = true) :
    Loop.Returns (processTelemetryEventsBody config) (false, s)
      (processTelemetryEvents config s) := by
  unfold processTelemetryEvents
  rw [processTelemetryEventsLoop_eq]
  refine @Loop.returns_runFor _ _ _
    (fun x => x.2.initHandled = true → x.2.initHandlingStarted = true)
    (fun x => iterations x.2 - 1) ?_ _ _ _ hphase ?_
  · intro x x' hx hbody
    obtain ⟨hx', hlt⟩ := processTelemetryEventsBody_iterations hx hbody
    have hpos : 1 ≤ iterations x'.2 := by
      unfold iterations
      omega
    exact ⟨hx', by omega⟩
  · dsimp only
    unfold iterations
    split <;> omega

/-! ## The init phase -/

/-- While no event has failed: where the `PlatformInitStart`s are among the events that wait. -/
structure InitBuffer (received : List LambdaTelemetry) (s : TelemetryServiceState) : Prop where
  unstarted : s.initHandlingStarted = false →
    ∀ e ∈ s.halfProcessedEventBuffer, e.isInitStart = false
  started : s.initHandlingStarted = true → s.initHandled = false →
    s.invocationState.isSome = true ∧ ∃ init rest, s.halfProcessedEventBuffer = init :: rest ∧
      init.isInitStart = true ∧ ∀ e ∈ rest, e.isInitStart = false
  latest : s.initHandled = false → ∀ init, latestInitStart s.waitingEvents = some init →
    latestInitStart received = some init

/-- The invariant of the loop. -/
structure LoopInvariant (received : List LambdaTelemetry) (s : TelemetryServiceState) : Prop where
  phase : s.initHandled = true → s.initHandlingStarted = true
  emptied : s.initHandled = true → s.halfProcessedEventBuffer = []
  init : NoErrors s.trace → InitBuffer received s

variable {received : List LambdaTelemetry}

omit [External] in
/-- The fields that the invariant mentions. A part of the service that makes no call for an event
can add to the trace. -/
theorem LoopInvariant.congr (h : LoopInvariant received s) {calls : List ProcessorCall}
    (htrace : s'.trace = s.trace ++ calls)
    (hhalf : s'.halfProcessedEventBuffer = s.halfProcessedEventBuffer)
    (hqueue : s'.telemetryEventQueue = s.telemetryEventQueue)
    (hstarted : s'.initHandlingStarted = s.initHandlingStarted)
    (hhandled : s'.initHandled = s.initHandled)
    (hstate : s.invocationState.isSome = true → s'.invocationState.isSome = true) :
    LoopInvariant received s' := by
  refine ⟨?_, ?_, ?_⟩
  · rw [hstarted, hhandled]
    exact h.phase
  · rw [hhalf, hhandled]
    exact h.emptied
  · intro hn
    rw [htrace] at hn
    obtain ⟨unstarted, started, latest⟩ := h.init hn.left
    refine ⟨?_, ?_, ?_⟩
    · rw [hstarted, hhalf]
      exact unstarted
    · rw [hstarted, hhandled, hhalf]
      intro hs hh
      exact ⟨hstate (started hs hh).1, (started hs hh).2⟩
    · rw [TelemetryServiceState.waitingEvents, hhandled, hhalf, hqueue]
      exact latest

omit [External] in
/-- Nor does it mention what coordinates sending. -/
theorem LoopInvariant.of_core (h : LoopInvariant received s) (hcore : s'.core = s.core) :
    LoopInvariant received s' := by
  have same := SameCore.of_core hcore
  refine h.congr (same.trace.trans (List.append_nil _).symm) same.halfProcessedEventBuffer
    same.telemetryEventQueue same.initHandlingStarted same.initHandled fun hs => ?_
  rw [same.invocationState]
  exact hs

omit [External] in
/-- More events have come. -/
theorem LoopInvariant.extendQueue (h : LoopInvariant received s) (batch : List LambdaTelemetry) :
    LoopInvariant (received ++ batch) (s.extendQueue batch) where
  phase := h.phase
  emptied := h.emptied
  init hn := by
    obtain ⟨unstarted, started, latest⟩ := h.init hn
    refine ⟨unstarted, started, fun hhandled init hinit => ?_⟩
    have hwaiting : (s.extendQueue batch).waitingEvents = s.waitingEvents ++ batch :=
      (List.append_assoc _ _ _).symm
    rw [hwaiting, latestInitStart_append] at hinit
    rw [latestInitStart_append]
    cases hbatch : latestInitStart batch with
    | some init' =>
      rw [hbatch] at hinit
      exact hinit
    | none =>
      rw [hbatch] at hinit
      exact latest hhandled init hinit

omit [External] in
theorem Acquired.loopInvariant [External] {o : Outcome (Option InvocationProcessingState)}
    (h : Acquired config s o) (hs : LoopInvariant received s) : LoopInvariant received o.1 := by
  cases h with
  | current => exact hs
  | nothing => exact hs
  | created => exact hs.congr rfl rfl rfl rfl rfl fun _ => rfl
  | rejected => exact hs.congr rfl rfl rfl rfl rfl id

theorem Handled.loopInvariant {state : InvocationProcessingState} {event : LambdaTelemetry}
    {queue : List LambdaTelemetry} {o : Outcome Bool}
    (h : Handled config state event { s with telemetryEventQueue := queue } o)
    (hstate : s.invocationState = some state) (hqueue : s.telemetryEventQueue = event :: queue)
    (hs : LoopInvariant received s) : LoopInvariant received o.1 := by
  have phase := h.phase hs.phase
  have hcurrent : s.invocationState.isSome = true := by
    rw [hstate]
    rfl
  cases h with
  | buffered hinit hevent hstart =>
    have hinit : s.initHandled = false := hinit
    refine ⟨phase, fun h => ?_, fun hn => ?_⟩
    · exact absurd (hinit.symm.trans h) Bool.false_ne_true
    · obtain ⟨unstarted, started, latest⟩ := hs.init hn
      have hwaiting : s.waitingEvents = (TelemetryServiceState.bufferEvent event
          { s with telemetryEventQueue := queue }).waitingEvents := by
        simp [TelemetryServiceState.waitingEvents, TelemetryServiceState.bufferEvent, hqueue]
      refine ⟨fun h e he => ?_, fun h hh => ⟨hcurrent, ?_⟩, ?_⟩
      · rcases List.mem_append.1 he with he | he
        · exact unstarted h e he
        · rw [List.mem_singleton.1 he]
          exact hevent
      · obtain ⟨-, init, rest, hhalf, hfirst, hrest⟩ := started h hh
        refine ⟨init, rest ++ [event], ?_, hfirst, ?_⟩
        · exact congrArg (· ++ [event]) hhalf
        · intro e he
          rcases List.mem_append.1 he with he | he
          · exact hrest e he
          · rw [List.mem_singleton.1 he]
            exact hevent
      · rw [hwaiting] at latest
        exact latest
  | restarted m out rng hinit hevent htimes hlogs grows =>
    have hinit : s.initHandled = false := hinit
    refine ⟨phase, fun h => ?_, fun hn => ?_⟩
    · exact absurd (hinit.symm.trans h) Bool.false_ne_true
    · obtain ⟨unstarted, started, latest⟩ := hs.init hn.left
      refine ⟨fun h => absurd h Bool.noConfusion, fun _ _ => ?_, fun _ init h => ?_⟩
      · exact ⟨hcurrent, event, [], rfl, hevent, fun e he => absurd he List.not_mem_nil⟩
      -- what was buffered before the event does not count
      apply latest hinit init
      have hwaiting : s.waitingEvents = s.halfProcessedEventBuffer ++ event :: queue := by
        rw [TelemetryServiceState.waitingEvents, hqueue]
      have h : latestInitStart (event :: queue) = some init := h
      rw [hwaiting, latestInitStart_append, h]
      rfl
  | restartFailed m out rng e hinit hevent hfailed grows =>
    have hinit : s.initHandled = false := hinit
    obtain ⟨bad, hbad⟩ := hfailed
    refine ⟨phase, fun _ => rfl, fun hn => ?_⟩
    exact absurd hn.right (not_noErrors_of_failed hbad)
  | replayed state' m out rng hinit hstarted hevent htimes carries =>
    have hstarted : s.initHandlingStarted = true := hstarted
    refine ⟨phase, fun _ => rfl, fun _ => ⟨fun h => ?_, fun _ h => ?_, fun h => ?_⟩⟩
    · exact absurd (h.symm.trans hstarted) Bool.false_ne_true
    · exact absurd h Bool.noConfusion
    · exact absurd h Bool.noConfusion
  | replayFailed state' m out rng e hinit hstarted hevent hfailed carries =>
    obtain ⟨bad, hbad⟩ := hfailed
    refine ⟨phase, fun _ => rfl, fun hn => ?_⟩
    exact absurd hn.right (not_noErrors_of_failed hbad)
  | processed state' m out rng hinit htime carries hreport =>
    have hinit : s.initHandled = true := hinit
    refine ⟨phase, fun _ => hs.emptied hinit, fun _ => ⟨fun h => ?_, fun _ h => ?_, fun h => ?_⟩⟩
    · exact absurd ((hs.phase hinit).symm.trans h) Bool.noConfusion
    · exact absurd (hinit.symm.trans h) Bool.noConfusion
    · exact absurd (hinit.symm.trans h) Bool.noConfusion
  | concluded state' m out rng hinit htime carries hreport hlogs =>
    have hinit : s.initHandled = true := hinit
    refine ⟨phase, fun _ => hs.emptied hinit, fun _ => ⟨fun h => ?_, fun _ h => ?_, fun h => ?_⟩⟩
    · exact absurd ((hs.phase hinit).symm.trans h) Bool.noConfusion
    · exact absurd (hinit.symm.trans h) Bool.noConfusion
    · exact absurd (hinit.symm.trans h) Bool.noConfusion
  | failed e hinit =>
    have hinit : s.initHandled = true := hinit
    refine ⟨phase, fun _ => hs.emptied hinit, fun hn => ?_⟩
    exact absurd hn.right (not_noErrors_of_failed List.mem_cons_self)

omit [External] in
/-- Only an invoke event fails there, when there is no invocation. -/
theorem Acquired.no_invocation [External] {e : Error} (h : Acquired config s (s', .error e)) :
    s'.invocationState = none := by
  cases h with
  | rejected invokeEvent queue rng e hnone hqueue => exact hnone

theorem Handled.hasError {state : InvocationProcessingState} {event : LambdaTelemetry} {e : Error}
    (h : Handled config state event s (s', .error e)) : ¬ NoErrors s'.trace := by
  intro hn
  cases h with
  | restartFailed m out rng e hinit hevent hfailed =>
    obtain ⟨bad, hbad⟩ := hfailed
    exact not_noErrors_of_failed hbad hn.right
  | replayFailed state' m out rng e hinit hstarted hevent hfailed carries =>
    obtain ⟨bad, hbad⟩ := hfailed
    exact not_noErrors_of_failed hbad hn.right
  | failed e hinit => exact not_noErrors_of_failed List.mem_cons_self hn.right

/-- In the init phase the whole queue goes to the buffer, unless an event fails. -/
def QueueBuffered (s : TelemetryServiceState) : Prop :=
  NoErrors s.trace → s.initHandlingStarted = true → s.initHandled = false →
    s.telemetryEventQueue = []

/-- `process_telemetry_events` keeps the invariant, and empties the queue in the init phase. -/
theorem processTelemetryEvents_loopInvariant (hs : LoopInvariant received s) :
    LoopInvariant received (processTelemetryEvents config s).1 ∧
      QueueBuffered (processTelemetryEvents config s).1 := by
  have drained := @processTelemetryEvents_drained _ config s hs.phase
  have invariant : Outcome.Satisfies (processTelemetryEvents config s)
      (fun _ => LoopInvariant received)
      (fun s' => LoopInvariant received s' ∧ QueueBuffered s') := by
    refine processTelemetryEvents_satisfies (P := fun _ => LoopInvariant received)
      (fun _ _ h => h.phase) ?_ ?_ hs
    · intro d t o ht acquired
      have invariant := acquired.loopInvariant ht
      obtain ⟨s', r⟩ := o
      cases r with
      | ok current => exact invariant
      | error e =>
        refine ⟨invariant, fun hn hstarted hhandled => ?_⟩
        have hcurrent := ((invariant.init hn).started hstarted hhandled).1
        rw [acquired.no_invocation] at hcurrent
        cases hcurrent
    · intro d t state event queue o ht hstate hqueue handled
      have invariant := handled.loopInvariant hstate hqueue ht
      obtain ⟨s', r⟩ := o
      cases r with
      | ok b => exact invariant
      | error e => exact ⟨invariant, fun hn => absurd hn handled.hasError⟩
  cases h : processTelemetryEvents config s with
  | mk s' r =>
    rw [h] at drained invariant
    cases r with
    | error e => exact invariant
    | ok d =>
      refine ⟨invariant, fun hn hstarted hhandled => ?_⟩
      have invariant : LoopInvariant received s' := invariant
      rcases drained with hqueue | ⟨hnone, -⟩
      · exact hqueue
      · have hcurrent := ((invariant.init hn).started hstarted hhandled).1
        rw [hnone] at hcurrent
        cases hcurrent

/-! ## Over all interleavings -/

/-- What holds between two steps, also after the shutdown. -/
structure BetweenSteps (received : List LambdaTelemetry) (s : TelemetryServiceState) : Prop where
  invariant : LoopInvariant received s
  buffered : s.shutdownFlushStarted = false → QueueBuffered s

omit [External] in
theorem BetweenSteps.congr (h : BetweenSteps received s) (hcore : s'.core = s.core) :
    BetweenSteps received s' := by
  refine ⟨h.invariant.of_core hcore, fun hflush => ?_⟩
  rw [(SameCore.of_core hcore).shutdownFlushStarted] at hflush
  have buffered : QueueBuffered s.core := h.buffered hflush
  rw [← hcore] at buffered
  exact buffered

theorem processQueues_betweenSteps (hs : LoopInvariant received s) :
    BetweenSteps received (processQueues config s) := by
  unfold processQueues
  split
  · next hflush => exact ⟨hs, fun h => absurd (hflush.symm.trans h) Bool.noConfusion⟩
  · obtain ⟨invariant, buffered⟩ := @processTelemetryEvents_loopInvariant _ config s received hs
    exact ⟨invariant, fun _ => buffered⟩

/-- Spans are no events. -/
theorem Received.betweenSteps {spans : List ResourceSpans} (h : Received config spans s s')
    (hs : BetweenSteps received s) : BetweenSteps received s' := by
  cases h with
  | queued => exact ⟨hs.invariant.congr (List.append_nil _).symm rfl rfl rfl rfl id, hs.buffered⟩
  | waiting => exact ⟨hs.invariant.congr (List.append_nil _).symm rfl rfl rfl rfl id, hs.buffered⟩
  | processed =>
    exact ⟨hs.invariant.congr rfl rfl rfl rfl rfl fun _ => rfl,
      fun hflush hn => hs.buffered hflush hn.left⟩

/-- The flush of the shutdown only takes what waits before the init phase. -/
theorem flushEnqueuedTelemetry_loopInvariant (functionContext : FunctionContext)
    (hs : LoopInvariant received s) (hbuffered : QueueBuffered s) :
    LoopInvariant received (flushEnqueuedTelemetry config functionContext s) ∧
      (flushEnqueuedTelemetry config functionContext s).shutdownFlushStarted = true := by
  obtain ⟨m, out, rng, heq, -⟩ := @flushEnqueuedTelemetry_spec _ config s functionContext
  rw [heq]
  refine ⟨⟨hs.phase, hs.emptied, fun hn => ?_⟩, rfl⟩
  obtain ⟨unstarted, started, latest⟩ := hs.init hn.left
  refine ⟨unstarted, started, fun hhandled init hinit => ?_⟩
  have hinit : latestInitStart s.halfProcessedEventBuffer = some init := by
    rw [← List.append_nil s.halfProcessedEventBuffer]
    exact hinit
  cases hstarted : s.initHandlingStarted with
  | false =>
    rw [latestInitStart_of_none (unstarted hstarted)] at hinit
    cases hinit
  | true =>
    apply latest hhandled init
    rw [TelemetryServiceState.waitingEvents, hbuffered hn.left hstarted hhandled, List.append_nil]
    exact hinit

theorem serviceStep_betweenSteps {service service' : TelemetryService} {a : Action}
    (hs : BetweenSteps received service.state)
    (hflush : service.handler = .shutDown ∨ service.state.shutdownFlushStarted = false)
    (hstep : serviceStep config service a = some service') :
    BetweenSteps (received ++ a.events) service'.state := by
  cases serviceStep_coreStep hstep with
  | still a service' hstate hsent hevents =>
    rw [hevents, List.append_nil]
    exact hs.congr hstate
  | enqueued now e fc service' hstate =>
    have push : LoopInvariant received (pushInvokeEvent e fc service.state) :=
      hs.invariant.congr (List.append_nil _).symm rfl rfl rfl rfl id
    rw [show Action.events (.handler now) = [] from rfl, List.append_nil]
    exact (processQueues_betweenSteps push).congr hstate
  | sent now fc service' hstate =>
    obtain ⟨m, acc, out, -, heq⟩ := @sendTelemetry_state config service.state fc
    have send : BetweenSteps received (sendTelemetry config fc service.state).2 := by
      rw [heq]
      exact ⟨hs.invariant.congr (List.append_nil _).symm rfl rfl rfl rfl id, hs.buffered⟩
    rw [show Action.events (.handler now) = [] from rfl, List.append_nil]
    exact send.congr hstate
  | telemetry clock events s service' hs' hstate =>
    have invariant : LoopInvariant (received ++ events) s :=
      (hs.invariant.extendQueue events).of_core hs'
    exact (processQueues_betweenSteps invariant).congr hstate
  | otlpSpans clock spans service' hstate =>
    rw [show Action.events (.otlpSpans clock spans) = [] from rfl, List.append_nil]
    exact ((receiveSpans_received spans service.state).betweenSteps hs).congr hstate
  | otlpMetrics clock metrics service' hstate =>
    obtain ⟨acc, buffer, heq⟩ := @processFunctionMetrics_state _ config metrics service.state
    have processed : BetweenSteps received (processFunctionMetrics config metrics service.state) := by
      rw [heq]
      exact ⟨hs.invariant.congr (List.append_nil _).symm rfl rfl rfl rfl id, hs.buffered⟩
    rw [show Action.events (.otlpMetrics clock metrics) = [] from rfl, List.append_nil]
    exact processed.congr hstate
  | shutDown fc service' hstate hsent hhandler hhandler' =>
    have hflush : service.state.shutdownFlushStarted = false := by
      rcases hflush with h | h
      · rw [hhandler] at h
        cases h
      · exact h
    obtain ⟨invariant, hflushed⟩ := @flushEnqueuedTelemetry_loopInvariant _ config _ _ fc
      hs.invariant (hs.buffered hflush)
    obtain ⟨m, acc, out, -, heq⟩ := @sendTelemetry_state config
      (flushEnqueuedTelemetry config fc service.state) fc
    have send : BetweenSteps received
        (sendTelemetry config fc (flushEnqueuedTelemetry config fc service.state)).2 := by
      rw [heq]
      exact ⟨invariant.congr (List.append_nil _).symm rfl rfl rfl rfl id,
        fun h => absurd (hflushed.symm.trans h) Bool.noConfusion⟩
    rw [show Action.events (.shutdown fc) = [] from rfl, List.append_nil]
    exact send.congr hstate

theorem serviceRun_betweenSteps {now : Nat} {actions : List Action} {service : TelemetryService}
    (hrun : serviceRun config now actions = some service) :
    BetweenSteps (acceptedEvents actions) service.state := by
  have H : serviceRun config now actions = some service ∧
      BetweenSteps (acceptedEvents actions) service.state := by
    refine Machine.run_actions (I := fun past service =>
      serviceRun config now past = some service ∧
        BetweenSteps (acceptedEvents past) service.state) ?_ ?_ hrun
    · refine ⟨rfl, ⟨fun h => ?_, fun _ => rfl, fun _ => ⟨?_, fun h => ?_, ?_⟩⟩, fun _ _ _ _ => rfl⟩
      · exact absurd h Bool.noConfusion
      · exact fun _ e he => absurd he List.not_mem_nil
      · exact absurd h Bool.noConfusion
      · exact fun _ init hinit => absurd hinit (by simp [latestInitStart,
          TelemetryServiceState.waitingEvents, TelemetryService.new])
    · rintro past service a service' ⟨hpast, hs⟩ hstep
      refine ⟨Machine.run_snoc.2 ⟨service, hpast, hstep⟩, ?_⟩
      have hflush : service.handler = .shutDown ∨ service.state.shutdownFlushStarted = false := by
        rcases flush_invariant.run hpast with h | ⟨_, _, _, h⟩
        · exact .inl h
        · exact .inr h
      rw [acceptedEvents_snoc]
      exact serviceStep_betweenSteps hs hflush hstep
  exact H.2

/-- The states in which a handler calls `process_telemetry_events`, for the state that it has found
and the events that it has added to the queue. The deadlines and flags for sending do not matter. -/
inductive AtCall (s : TelemetryServiceState) :
    List LambdaTelemetry → TelemetryServiceState → Prop where
  | invoke (e : InvokeEvent) (functionContext : FunctionContext) :
    AtCall s [] (pushInvokeEvent e functionContext s)
  | telemetry (batch : List LambdaTelemetry) (t : TelemetryServiceState)
      (ht : t.core = (s.extendQueue batch).core) : AtCall s batch t

/-- In every state that the service reaches the loop ends, and the queue is left only when there is
nothing to process it with. After it, the init phase has kept all its events, the latest
`PlatformInitStart` first, or is over. -/
theorem processing_loop_total {now : Nat} {actions : List Action} {service : TelemetryService}
    {batch : List LambdaTelemetry} {t : TelemetryServiceState}
    (hrun : serviceRun config now actions = some service) (hcall : AtCall service.state batch t) :
    Loop.Returns (processTelemetryEventsBody config) (false, t) (processTelemetryEvents config t) ∧
      Outcome.Satisfies (processTelemetryEvents config t)
        (fun _ s' => s'.telemetryEventQueue = [] ∨
          s'.invocationState = none ∧ s'.invokeEventQueue = []) (fun _ => True) ∧
      ((processTelemetryEvents config t).1.initHandled = true →
        (processTelemetryEvents config t).1.initHandlingStarted = true ∧
        (processTelemetryEvents config t).1.halfProcessedEventBuffer = []) ∧
      (NoErrors (processTelemetryEvents config t).1.trace →
        (processTelemetryEvents config t).1.initHandlingStarted = true →
        (processTelemetryEvents config t).1.initHandled = false →
        ∃ init, (processTelemetryEvents config t).1.halfProcessedEventBuffer.head? = some init ∧
          latestInitStart (acceptedEvents actions ++ batch) = some init) := by
  have between := serviceRun_betweenSteps hrun
  have invariant : LoopInvariant (acceptedEvents actions ++ batch) t := by
    cases hcall with
    | invoke e functionContext =>
      rw [List.append_nil]
      exact between.invariant.congr (List.append_nil _).symm rfl rfl rfl rfl id
    | telemetry batch t ht => exact (between.invariant.extendQueue batch).of_core ht
  obtain ⟨after, hbuffered⟩ :=
    @processTelemetryEvents_loopInvariant _ config t (acceptedEvents actions ++ batch) invariant
  refine ⟨processTelemetryEvents_returns invariant.phase,
    processTelemetryEvents_drained invariant.phase,
    fun hhandled => ⟨after.phase hhandled, after.emptied hhandled⟩, fun hn hstarted hhandled => ?_⟩
  obtain ⟨-, started, latest⟩ := after.init hn
  obtain ⟨-, init, rest, hhalf, hinit, hrest⟩ := started hstarted hhandled
  refine ⟨init, by rw [hhalf]; rfl, latest hhandled init ?_⟩
  rw [TelemetryServiceState.waitingEvents, hbuffered hn hstarted hhandled, List.append_nil, hhalf]
  exact latestInitStart_cons hinit hrest

end

/-- Events of two instances of the function, in one batch. -/
def twoInits : List LambdaTelemetry :=
  [sampleInitStart 1, sampleLog 2 "first", sampleInitStart 3, sampleLog 4 "second"]

/-- The second `PlatformInitStart` is the first event that is left in the buffer. -/
theorem processing_loop_total_two_inits :
    ∃ (service : TelemetryService) (init : LambdaTelemetry),
      Loop.Returns
        (@processTelemetryEventsBody sampleExternal (sampleConfig .lowOverhead .disabled))
        (false, service.state.extendQueue twoInits)
        (@processTelemetryEvents sampleExternal (sampleConfig .lowOverhead .disabled)
          (service.state.extendQueue twoInits)) ∧
      (@processTelemetryEvents sampleExternal (sampleConfig .lowOverhead .disabled)
        (service.state.extendQueue twoInits)).1.halfProcessedEventBuffer.head? = some init ∧
      latestInitStart (acceptedEvents startedActions ++ twoInits) = some init := by
  obtain ⟨service, hrun, hn, hstarted, hhandled⟩ := @exists_run sampleExternal
    (sampleConfig .lowOverhead .disabled) 0 startedActions
    (fun service =>
      (∀ call ∈ (@processTelemetryEvents sampleExternal (sampleConfig .lowOverhead .disabled)
        (service.state.extendQueue twoInits)).1.trace, call.isError = false) ∧
      (@processTelemetryEvents sampleExternal (sampleConfig .lowOverhead .disabled)
        (service.state.extendQueue twoInits)).1.initHandlingStarted = true ∧
      (@processTelemetryEvents sampleExternal (sampleConfig .lowOverhead .disabled)
        (service.state.extendQueue twoInits)).1.initHandled = false) _ (by decide +kernel)
  obtain ⟨returns, -, -, buffered⟩ := @processing_loop_total sampleExternal
    (sampleConfig .lowOverhead .disabled) 0 startedActions service twoInits
    (service.state.extendQueue twoInits) hrun (.telemetry _ _ rfl)
  obtain ⟨init, hhead, hlatest⟩ := buffered hn hstarted hhandled
  exact ⟨service, init, returns, hhead, hlatest⟩

end TelemetryExporter
