import TelemetryExporter.Lib.Split
import TelemetryExporter.Verify.Leftovers

/-!
# What is replayed into the first invocation

In a run without failures, exactly the events since the last `PlatformInitStart` are replayed with
the state of the first invocation. So leftover telemetry corrupts the invocation if, and only if, it
is among them.
-/

namespace TelemetryExporter

/-- Where the events of the stream are while the init phase lasts, and what has been replayed when
it is over. -/
structure Located {requestId : String} (stream : CrashStream requestId)
    (s : TelemetryServiceState) : Prop where
  fresh : s.initHandlingStarted = false → s.initHandled = false →
    processedEvents s.trace = [] ∧ ∀ e ∈ s.halfProcessedEventBuffer, e.isInitStart = false
  during : s.initHandlingStarted = true → s.initHandled = false →
    (∃ i v, s.halfProcessedEventBuffer = i :: v ∧ i.isInitStart = true ∧
      ∀ e ∈ v, e.isInitStart = false) ∧
    ∀ e ∈ processedEvents s.trace ++ s.halfProcessedEventBuffer, e.isStartOf requestId = false
  replayed : s.initHandled = true → ∀ e ∈ stream.sinceInitStart, ∃ k, .telemetry k e ∈ s.trace

section

variable {requestId : String}

theorem CrashStream.before_not_start (stream : CrashStream requestId) :
    ∀ e ∈ stream.before, e.isStartOf requestId = false := by
  intro e he
  simp only [before, List.mem_append, List.mem_cons] at he
  rcases he with he | rfl | he
  · exact LambdaTelemetry.not_isStartOf (stream.others e (List.mem_append_left _ he))
  · exact LambdaTelemetry.isInitStart_not_start stream.isInitStart
  · exact LambdaTelemetry.not_isStartOf (stream.others e (List.mem_append_right _ he))

/-- The events that have arrived before the start are those of the stream, and what the buffer has
behind its `PlatformInitStart` are those since the last one. -/
theorem CrashStream.locate (stream : CrashStream requestId)
    {processed v queue rest : List LambdaTelemetry} {i start : LambdaTelemetry}
    (h : processed ++ i :: v ++ start :: queue ++ rest = stream.events)
    (hi : i.isInitStart = true) (hv : ∀ e ∈ v, e.isInitStart = false)
    (hnot : ∀ e ∈ processed ++ i :: v, e.isStartOf requestId = false)
    (hstart : start.isStartOf requestId = true) : v = stream.sinceInitStart := by
  rw [List.append_assoc, List.cons_append] at h
  obtain ⟨hbefore, -, -⟩ :=
    List.append_cons_inj_of_first hnot stream.before_not_start hstart stream.isStart h
  exact (List.append_cons_inj_of_last hv stream.isLast hi stream.isInitStart hbefore).2.2

end

section

variable [External] {config : TelemetryServiceConfig} {requestId : String}
  {stream : CrashStream requestId} {s s' : TelemetryServiceState}

omit [External] in
theorem Located.congr (h : Located stream s)
    (hstarted : s'.initHandlingStarted = s.initHandlingStarted)
    (hinit : s'.initHandled = s.initHandled)
    (hhalf : s'.halfProcessedEventBuffer = s.halfProcessedEventBuffer) (htrace : s'.trace = s.trace) :
    Located stream s' := by
  obtain ⟨fresh, during, replayed⟩ := h
  refine ⟨?_, ?_, ?_⟩ <;> simpa only [hstarted, hinit, hhalf, htrace]

omit [External] in
/-- Calls that process no event. -/
theorem Located.calls {calls : List ProcessorCall} (h : Located stream s)
    (hstarted : s'.initHandlingStarted = s.initHandlingStarted)
    (hinit : s'.initHandled = s.initHandled)
    (hhalf : s'.halfProcessedEventBuffer = s.halfProcessedEventBuffer)
    (htrace : s'.trace = s.trace ++ calls) (hcalls : processedEvents calls = []) :
    Located stream s' := by
  have hprocessed : processedEvents s'.trace = processedEvents s.trace := by
    rw [htrace, processedEvents_append, hcalls, List.append_nil]
  obtain ⟨fresh, during, replayed⟩ := h
  refine ⟨?_, ?_, ?_⟩
  · simpa only [hstarted, hinit, hhalf, hprocessed]
  · simpa only [hstarted, hinit, hhalf, hprocessed]
  · intro h e he
    obtain ⟨k, hk⟩ := replayed (hinit.symm.trans h) e he
    exact ⟨k, htrace ▸ List.mem_append_left _ hk⟩

theorem Handled.located {state : InvocationProcessingState} {event : LambdaTelemetry}
    {queue rest : List LambdaTelemetry} {o : Outcome Bool}
    (h : Handled config state event { s with telemetryEventQueue := queue } o)
    (hid : state.invocationContext.requestId = requestId)
    (hevents : processedEvents s.trace ++ s.halfProcessedEventBuffer ++ event :: queue ++ rest =
      stream.events)
    (hn : NoErrors o.1.trace) (hs : Located stream s) : Located stream o.1 := by
  obtain ⟨fresh, during, replayed⟩ := hs
  cases h with
  | buffered hinit hevent hstart =>
    refine ⟨fun hstarted _ => ?_, fun hstarted _ => ?_, fun h => ?_⟩
    · obtain ⟨hprocessed, hhalf⟩ := fresh hstarted hinit
      refine ⟨hprocessed, fun e he => ?_⟩
      rcases List.mem_append.1 he with he | he
      · exact hhalf e he
      · rw [List.mem_singleton] at he
        exact he ▸ hevent
    · obtain ⟨⟨i, v, hhalf, hi, hv⟩, hnot⟩ := during hstarted hinit
      refine ⟨⟨i, v ++ [event], ?_, hi, ?_⟩, ?_⟩
      · simp only [TelemetryServiceState.bufferEvent, hhalf, List.cons_append]
      · intro e he
        rcases List.mem_append.1 he with he | he
        · exact hv e he
        · rw [List.mem_singleton] at he
          exact he ▸ hevent
      · intro e he
        simp only [TelemetryServiceState.bufferEvent, ← List.append_assoc] at he
        rcases List.mem_append.1 he with he | he
        · exact hnot e he
        · rw [List.mem_singleton] at he
          rw [he, ← hid]
          exact hstart hstarted
    · rw [show s.initHandled = true from h] at hinit
      cases hinit
  | restarted m out rng hinit hevent htimes =>
    refine ⟨fun h => (by cases h), fun _ _ => ⟨⟨event, [], rfl, hevent, by simp⟩, ?_⟩, fun h => ?_⟩
    · have hnot : ∀ e ∈ processedEvents s.trace ++ s.halfProcessedEventBuffer,
          e.isStartOf requestId = false := by
        cases hstarted : s.initHandlingStarted with
        | true => exact (during hstarted hinit).2
        | false =>
          obtain ⟨hprocessed, hhalf⟩ := fresh hstarted hinit
          rw [hprocessed, List.nil_append] at hevents ⊢
          have hpre : s.halfProcessedEventBuffer <+:
              stream.earlier ++ stream.initStart ::
                (stream.sinceInitStart ++ stream.start :: stream.after) := by
            refine ⟨event :: queue ++ rest, ?_⟩
            rw [← List.append_assoc, hevents, CrashStream.events, CrashStream.before]
            simp
          have hearlier := List.mem_of_prefix_of_first hhalf stream.isInitStart hpre
          intro e he
          exact stream.before_not_start e (List.mem_append_left _ (hearlier e he))
      simp only [processedEvents_append, processedEvents_degraded]
      intro e he
      rcases List.mem_append.1 he with he | he
      · exact hnot e he
      · rw [List.mem_singleton] at he
        exact he ▸ LambdaTelemetry.isInitStart_not_start hevent
    · rw [show s.initHandled = true from h] at hinit
      cases hinit
  | restartFailed m out rng e hinit hevent hfailed =>
    obtain ⟨bad, hbad⟩ := hfailed
    exact absurd hn.right (not_noErrors_of_failed hbad)
  | replayed state' m out rng hinit hstarted hevent htimes carries =>
    refine ⟨fun _ h => (by cases h), fun _ h => (by cases h), fun _ e he => ⟨state.serial, ?_⟩⟩
    obtain ⟨⟨i, v, hhalf, hi, hv⟩, hnot⟩ := during hstarted hinit
    rw [hhalf] at hevents hnot
    have hsince := stream.locate hevents hi hv hnot (hid ▸ hevent)
    refine List.mem_append_right _ (List.mem_map_of_mem ?_)
    change e ∈ s.halfProcessedEventBuffer
    rw [hhalf, hsince]
    exact List.mem_cons_of_mem _ he
  | replayFailed state' m out rng e hinit hstarted hevent hfailed carries =>
    obtain ⟨bad, hbad⟩ := hfailed
    exact absurd hn.right (not_noErrors_of_failed hbad)
  | processed state' m out rng hinit htime carries hreport =>
    refine ⟨fun _ h => ?_, fun _ h => ?_, fun _ e he => ?_⟩
    · rw [show s.initHandled = false from h] at hinit
      cases hinit
    · rw [show s.initHandled = false from h] at hinit
      cases hinit
    · obtain ⟨k, hk⟩ := replayed hinit e he
      exact ⟨k, List.mem_append_left _ hk⟩
  | concluded state' m out rng hinit htime carries hreport hlogs =>
    refine ⟨fun _ h => ?_, fun _ h => ?_, fun _ e he => ?_⟩
    · rw [show s.initHandled = false from h] at hinit
      cases hinit
    · rw [show s.initHandled = false from h] at hinit
      cases hinit
    · obtain ⟨k, hk⟩ := replayed hinit e he
      exact ⟨k, List.mem_append_left _ hk⟩
  | failed e =>
    exact absurd (hn.right (.failed event) List.mem_cons_self) (by simp [ProcessorCall.isError])

omit [External] in
theorem Acquired.located [External] {o : Outcome (Option InvocationProcessingState)}
    (h : Acquired config s o) (hs : Located stream s) : Located stream o.1 := by
  cases h with
  | current => exact hs
  | nothing => exact hs
  | created => exact hs.calls rfl rfl rfl rfl rfl
  | rejected => exact hs.calls rfl rfl rfl rfl rfl

theorem Received.located {spans : List ResourceSpans} (h : Received config spans s s')
    (hs : Located stream s) : Located stream s' := by
  cases h with
  | queued => exact hs.congr rfl rfl rfl rfl
  | waiting => exact hs.congr rfl rfl rfl rfl
  | processed => exact hs.calls rfl rfl rfl rfl rfl

theorem located_invariant (stream : CrashStream requestId) :
    InvariantUnder config (fun h s => Enrolled h.requests s ∧ StateAccounted config h s) fun h s =>
      (∀ e ∈ h.requests, e.requestId = requestId) → ∀ rest, h.events ++ rest = stream.events →
        NoErrors s.trace → Located stream s where
  start now _ rest hrest _ := by
    refine ⟨fun _ _ => ⟨rfl, fun e he => (by cases he)⟩, fun h => (by cases h), fun h => (by cases h)⟩
  core {h s s'} _ hs hcore hids rest hrest hn := by
    have same := SameCore.of_core hcore
    rw [same.trace] at hn
    exact (hs hids rest hrest hn).congr same.initHandlingStarted same.initHandled
      same.halfProcessedEventBuffer same.trace
  acquired _ hs acquired hids rest hrest hn :=
    acquired.located (hs hids rest hrest (hn.of_isPrefix acquired.trace_grows))
  handled {h s state event queue o} known hs hstate hqueue handled hids rest hrest hn := by
    obtain ⟨enrolled, accounted⟩ := known
    have hn' : NoErrors s.trace := hn.of_isPrefix handled.trace_grows
    have hid : state.invocationContext.requestId = requestId := by
      obtain ⟨e, he, heq⟩ := List.mem_map.1 (List.mem_of_getElem? (enrolled.current state hstate).1)
      rw [← heq]
      exact hids e he
    have hevents := (accounted hn').events
    rw [hqueue] at hevents
    exact handled.located hid (by rw [hevents, hrest]) hn (hs hids rest hrest hn')
  enqueued e functionContext _ hs hids rest hrest hn :=
    (hs (fun e he => hids e (List.mem_append_left _ he)) rest hrest hn).congr rfl rfl rfl rfl
  accepted {h s} events _ hs hids rest hrest hn :=
    (hs hids (events ++ rest) (by rw [← hrest, List.append_assoc]) hn).congr rfl rfl rfl rfl
  received _ hs received hids rest hrest hn :=
    received.located (hs hids rest hrest (hn.of_isPrefix received.trace_grows))
  metrics _ _ _ hs hids rest hrest hn := (hs hids rest hrest hn).congr rfl rfl rfl rfl
  sent {h s} functionContext _ hs hids rest hrest hn := by
    obtain ⟨_, _, _, -, heq⟩ := @sendTelemetry_state config s functionContext
    rw [heq] at hn ⊢
    exact (hs hids rest hrest hn).congr rfl rfl rfl rfl

end

/-! ## The first invocation -/

section

variable [External] {config : TelemetryServiceConfig} {requestId : String} {now : Nat}
  {actions : List Action} {service : TelemetryService}

/-- If the request's events since the last `PlatformInitStart` are its own, it is uncorrupted in
every state of every run. -/
theorem CrashStream.CleanInit.uncorrupted {stream : CrashStream requestId}
    (hclean : stream.CleanInit) (hrun : serviceRun config now actions = some service)
    (hshutdown : ∀ a ∈ actions, a.isShutdown = false)
    (hrequests : ∀ e ∈ acceptedRequests actions, e.requestId = requestId)
    (hevents : acceptedEvents actions <+: stream.events) :
    Uncorrupted requestId service.state := by
  obtain ⟨hhandler, -⟩ := serviceRun_settled hrun hshutdown
  have inv := (@shielded_invariant _ config _ stream hclean).and enrolled_invariant
  obtain ⟨h, hist, -, enrolled, shielded⟩ := (inv.run hrun).resolve_left hhandler
  obtain ⟨rest, hrest⟩ := hevents
  rw [← Machine.trail_actions hrun, ← hist.events] at hrest
  have hids : ∀ e ∈ h.requests, e.requestId = requestId := by
    intro e he
    refine hrequests e ?_
    rw [← Machine.trail_actions hrun, hist.requests]
    exact List.mem_append_left _ he
  have shielded := shielded hids rest hrest
  exact ⟨enrolled.created, shielded.concludedByReport, shielded.degradedOnly⟩

omit [External] in
/-- When the whole stream and the invoke event have arrived and nothing has failed, the init phase
is over. -/
theorem initHandled_of_complete {stream : CrashStream requestId} {s : TelemetryServiceState}
    {requests : List InvokeEvent} (enrolled : Enrolled requests s) (located : Located stream s)
    (hevents : processedEvents s.trace ++ s.halfProcessedEventBuffer ++ s.telemetryEventQueue =
      stream.events)
    (hdrained : s.Drained) (henqueued : 0 < s.enqueued) (hn : NoFailures s.trace) :
    s.initHandled = true := by
  by_contra hinit
  have hinit : s.initHandled = false := by simpa using hinit
  rcases hdrained with hqueue | ⟨hnone, hqueue⟩
  · rw [hqueue, List.append_nil] at hevents
    cases hstarted : s.initHandlingStarted with
    | false =>
      obtain ⟨hprocessed, hhalf⟩ := located.fresh hstarted hinit
      rw [hprocessed, List.nil_append] at hevents
      have hmem : stream.initStart ∈ s.halfProcessedEventBuffer := by
        rw [hevents]
        simp [CrashStream.events, CrashStream.before]
      have hfalse : true = false := stream.isInitStart.symm.trans (hhalf _ hmem)
      cases hfalse
    | true =>
      have hnot := (located.during hstarted hinit).2
      rw [hevents] at hnot
      have := hnot stream.start (by simp [CrashStream.events])
      rw [stream.isStart] at this
      cases this
  · have htaken := enrolled.taken
    rw [hqueue, List.map_nil, List.append_nil, ← enrolled.enqueued] at htaken
    have hmem : 0 ∈ takenInvocations s.trace := by
      rw [htaken]
      exact List.mem_range.2 henqueued
    obtain ⟨call, hcall, htakes⟩ := List.mem_filterMap.1 hmem
    cases call with
    | created k =>
      rcases enrolled.created k hcall with hconcluded | ⟨state, hstate, -⟩
      · rw [(enrolled.concluded k hconcluded).2.1] at hinit
        cases hinit
      · rw [hnone] at hstate
        cases hstate
    | rejected k => exact not_noFailures_of_mem hcall rfl hn
    | _ => cases htakes

/-- **Leftover telemetry.** If no event about another request lies between the last
`PlatformInitStart` and the start of the request, no run corrupts the invocation. If one does, every
complete run without failures corrupts it. -/
theorem uncorrupted_iff_cleanInit (stream : CrashStream requestId)
    (hrun : serviceRun config now actions = some service)
    (hshutdown : ∀ a ∈ actions, a.isShutdown = false)
    (hrequests : ∀ e ∈ acceptedRequests actions, e.requestId = requestId)
    (hevents : acceptedEvents actions <+: stream.events) :
    (stream.CleanInit → Uncorrupted requestId service.state) ∧
      (acceptedEvents actions = stream.events → 0 < service.state.enqueued →
        NoFailures service.state.trace →
        (Uncorrupted requestId service.state ↔ stream.CleanInit)) := by
  have uncorrupted (hclean : stream.CleanInit) : Uncorrupted requestId service.state :=
    hclean.uncorrupted hrun hshutdown hrequests hevents
  refine ⟨uncorrupted, fun hcomplete henqueued hn => ⟨fun h e he => ?_, uncorrupted⟩⟩
  obtain ⟨hhandler, -, -, hdrained⟩ := serviceRun_settled hrun hshutdown
  have known := (@stateAccounted_invariant _ config).under.and enrolled_invariant
  have inv := (located_invariant stream).and known
  obtain ⟨h', hist, -, ⟨enrolled, accounted⟩, located⟩ := (inv.run hrun).resolve_left hhandler
  have hevents' : h'.events = stream.events := by
    rw [hist.events, Machine.trail_actions hrun, hcomplete]
  have hids : ∀ e ∈ h'.requests, e.requestId = requestId := by
    intro e he
    refine hrequests e ?_
    rw [← Machine.trail_actions hrun, hist.requests]
    exact List.mem_append_left _ he
  have located := located hids [] (by rw [hevents', List.append_nil]) hn.noErrors
  have hinit : service.state.initHandled = true :=
    initHandled_of_complete enrolled located (by rw [(accounted hn.noErrors).events, hevents'])
      (hdrained hn) henqueued hn
  obtain ⟨k, hk⟩ := located.replayed hinit e he
  by_contra hforeign
  rcases h.degradedOnly _ hk e rfl (by simpa using hforeign) with h | h <;> cases h

end

/-- A stream with the report of the crashed request `r0` among the given events. -/
def leftoverReport (earlier sinceInitStart : List LambdaTelemetry)
    (isLast : ∀ e ∈ sinceInitStart, e.isInitStart = false)
    (others : ∀ e ∈ earlier ++ sinceInitStart, e.requestId ≠ some "r1") : CrashStream "r1" where
  earlier
  initStart := sampleInitStart 2
  sinceInitStart
  start := sampleStart 4 "r1"
  logs := []
  runtimeDone := sampleRuntimeDone 5 "r1"
  laterLogs := []
  report := sampleReport 6 "r1"
  isInitStart := rfl
  isLast
  others
  isStart := rfl
  isFunction := by simp
  isRuntimeDone := ⟨rfl, rfl⟩
  isReport := ⟨rfl, rfl⟩

/-- The report comes before the `PlatformInitStart`. -/
def reportBeforeInit : CrashStream "r1" :=
  leftoverReport [sampleReport 1 "r0"] [] (by simp) (by
    simp [sampleReport, LambdaTelemetry.requestId])

/-- The report comes after it. -/
def reportAfterInit : CrashStream "r1" :=
  leftoverReport [] [sampleReport 3 "r0"] (by simp [sampleReport, LambdaTelemetry.isInitStart]) (by
    simp [sampleReport, LambdaTelemetry.requestId])

/-- The invoke event, and then the whole stream at once. -/
def leftoverActions (stream : CrashStream "r1") : List Action :=
  [.invoke (sampleInvoke "r1") sampleContext, .handler 0, sampleTelemetry stream.events]

theorem uncorrupted_iff_cleanInit_before_init :
    ∃ service : TelemetryService,
      @serviceRun sampleExternal (sampleConfig .reportAfterInvocation .disabled) 0
        (leftoverActions reportBeforeInit) = some service ∧
      (Uncorrupted "r1" service.state ↔ reportBeforeInit.CleanInit) := by
  obtain ⟨service, hrun, hn, henqueued⟩ := @exists_run sampleExternal
    (sampleConfig .reportAfterInvocation .disabled) 0 (leftoverActions reportBeforeInit)
    (fun service => (∀ call ∈ service.state.trace, call.isFailure = false) ∧
      0 < service.state.enqueued) _ (by decide +kernel)
  exact ⟨service, hrun, (@uncorrupted_iff_cleanInit sampleExternal _ _ _ _ _ reportBeforeInit hrun
    (by simp [leftoverActions, sampleTelemetry, Action.isShutdown])
    (by simp [leftoverActions, sampleTelemetry, acceptedRequests, Action.requests, sampleInvoke])
    (by simp [leftoverActions, sampleTelemetry, acceptedEvents, Action.events])).2
    (by simp [leftoverActions, sampleTelemetry, acceptedEvents, Action.events]) henqueued hn⟩

/-- An invocation is concluded. -/
def ProcessorCall.isConclusion : ProcessorCall → Bool
  | .concluded .. => true
  | _ => false

/-- The report of the request is processed with the state of an invocation. -/
def ProcessorCall.isReportAbout (requestId : String) : ProcessorCall → Bool
  | .telemetry _ e => e.isReport && decide (e.requestId = some requestId)
  | _ => false

/-- An event about another request is processed with the state of an invocation. -/
def ProcessorCall.isAboutAnother (requestId : String) : ProcessorCall → Bool
  | .telemetry _ e => e.isForeign requestId
  | _ => false

/-- The first invocation is concluded before its own report has been processed, and the report of
another request is processed with its state. -/
theorem leftover_report_corrupts_invocation :
    ∃ service : TelemetryService,
      @serviceRun sampleExternal (sampleConfig .reportAfterInvocation .disabled) 0
        (leftoverActions reportAfterInit) = some service ∧
      ¬ ConcludedByReport "r1" service.state.trace ∧ ¬ DegradedOnly "r1" service.state.trace := by
  obtain ⟨service, hrun, hconcluded, hreport, hforeign⟩ := @exists_run sampleExternal
    (sampleConfig .reportAfterInvocation .disabled) 0 (leftoverActions reportAfterInit)
    (fun service =>
      service.state.trace.any ProcessorCall.isConclusion = true ∧
      service.state.trace.any (ProcessorCall.isReportAbout "r1") = false ∧
      service.state.trace.any (ProcessorCall.isAboutAnother "r1") = true) _
    (by decide +kernel)
  refine ⟨service, hrun, fun h => ?_, fun h => ?_⟩
  · obtain ⟨call, hmem, hcall⟩ := List.any_eq_true.1 hconcluded
    cases call with
    | concluded k logs =>
      obtain ⟨before, after, htrace⟩ := List.append_of_mem hmem
      have hpre : before ++ [.concluded k logs] <+: service.state.trace :=
        ⟨after, by rw [htrace, List.append_assoc]; rfl⟩
      obtain ⟨e, he, hkind, hid⟩ := h k logs before hpre
      have hnone := List.any_eq_false.1 hreport _ (by rw [htrace]; exact List.mem_append_left _ he)
      simp [ProcessorCall.isReportAbout, hkind, hid] at hnone
    | _ => cases hcall
  · obtain ⟨call, hmem, hcall⟩ := List.any_eq_true.1 hforeign
    cases call with
    | telemetry k e => rcases h _ hmem e rfl hcall with h | h <;> cases h
    | _ => cases hcall

end TelemetryExporter
