import Mathlib.Data.List.Induction
import TelemetryExporter.Verify.Streams

/-!
# Signals

`InvocationDone` carries no request id. In a run of a well-formed stream there is nevertheless never
more than one in the channel: the invoke events that have been queued, and the `PlatformRuntimeDone`s
that have been processed, count it (`Balanced`).
-/

namespace TelemetryExporter

/-! ## `PlatformRuntimeDone`s -/

/-- How many `PlatformRuntimeDone`s have been processed with an invocation's state. -/
def runtimeDones (trace : List ProcessorCall) : Nat := trace.countP ProcessorCall.isRuntimeDone

@[simp] theorem runtimeDones_append (a b : List ProcessorCall) :
    runtimeDones (a ++ b) = runtimeDones a + runtimeDones b :=
  List.countP_append

theorem runtimeDones_eq_zero {calls : List ProcessorCall}
    (h : ∀ call ∈ calls, call.isRuntimeDone = false) : runtimeDones calls = 0 :=
  List.countP_eq_zero.2 fun call hcall => by simp [h call hcall]

theorem LambdaTelemetry.isRuntimeDone_of_start {e : LambdaTelemetry} {id : String}
    (h : e.isStartOf id = true) : e.isRuntimeDone = false :=
  (LambdaTelemetry.not_report_of_start h).2

theorem LambdaTelemetry.isRuntimeDone_of_report {e : LambdaTelemetry} (h : e.isReport = true) :
    e.isRuntimeDone = false := by
  by_contra hdone
  rw [LambdaTelemetry.not_report_of_runtimeDone (by simpa using hdone)] at h
  cases h

theorem RequestTelemetry.filter_runtimeDone (request : RequestTelemetry) :
    request.events.filter LambdaTelemetry.isRuntimeDone = [request.runtimeDone] := by
  have plain (es : List LambdaTelemetry) (h : ∀ e ∈ es, e ∈ request.logs ++ request.laterLogs) :
      es.filter LambdaTelemetry.isRuntimeDone = [] := by
    apply List.filter_eq_nil_iff.2
    intro e he
    have := LambdaTelemetry.isPlain_iff.1 (request.isPlain e (h e he))
    simp [LambdaTelemetry.isRuntimeDone_eq_false this.2]
  have hlogs := plain request.logs fun e he => List.mem_append_left _ he
  have hlater := plain request.laterLogs fun e he => List.mem_append_right _ he
  have hstart := LambdaTelemetry.isRuntimeDone_of_start request.isStart
  have hreport := LambdaTelemetry.isRuntimeDone_of_report request.isReport.1
  simp [RequestTelemetry.events, RequestTelemetry.body, hlogs, hlater, hstart, hreport,
    request.isRuntimeDone.1]

/-- The `PlatformRuntimeDone`s of the stream, each with its owner. -/
theorem TelemetryStream.filter_owned (stream : TelemetryStream) :
    stream.owned.filter (fun x => x.2.isRuntimeDone) =
      stream.requests.zipIdx.map fun (request, i) => (i, request.runtimeDone) := by
  have hinit : (stream.init.map fun e => (0, e)).filter (fun x => x.2.isRuntimeDone) = [] := by
    apply List.filter_eq_nil_iff.2
    intro x hx
    obtain ⟨e, he, rfl⟩ := List.mem_map.1 hx
    simp [stream.init_not_runtimeDone e he]
  have hrequest (request : RequestTelemetry) (i : Nat) :
      (request.events.map fun e => (i, e)).filter (fun x => x.2.isRuntimeDone) =
        [(i, request.runtimeDone)] := by
    rw [List.filter_map, Function.comp_def, request.filter_runtimeDone]
    rfl
  rw [TelemetryStream.owned, List.filter_append, hinit, List.nil_append, List.filter_flatMap,
    List.map_eq_flatMap]
  congr 1
  funext ⟨request, i⟩
  exact hrequest request i

theorem runtimeDones_eq_countP_owned (trace : List ProcessorCall) :
    runtimeDones trace =
      (ownedEvents trace).countP fun x => x.1.isSome && x.2.isRuntimeDone := by
  rw [runtimeDones, ownedEvents, List.countP_filterMap]
  congr 1
  funext call
  cases call <;> rfl

theorem mem_trace_of_owned {trace : List ProcessorCall} {i : Nat} {event : LambdaTelemetry}
    (h : (some i, event) ∈ ownedEvents trace) : .telemetry i event ∈ trace := by
  obtain ⟨call, hcall, howned⟩ := List.mem_filterMap.1 h
  cases call with
  | telemetry invocation e =>
    cases howned
    exact hcall
  | _ => cases howned

section

variable {config : TelemetryProcessorConfig} {stream : TelemetryStream} {s : TelemetryServiceState}

/-- The `PlatformRuntimeDone`s are processed in the order of their requests. -/
theorem Attributed.runtimeDone (h : Attributed config stream s)
    (hpre : processedEvents s.trace <+: stream.events) {i : Nat} (hi : i < runtimeDones s.trace) :
    ∃ request, stream.requests[i]? = some request ∧ .telemetry i request.runtimeDone ∈ s.trace := by
  let numbered := Sections.numberBy LambdaTelemetry.isReport 0 (processedEvents s.trace)
  have howned : ownedEvents s.trace = numbered.map fun x => (some x.1, x.2) := h.owned
  have hnumbered : numbered <+: stream.owned := by
    obtain ⟨rest, hrest⟩ := hpre
    rw [stream.owned_eq, ← hrest, Sections.numberBy_append]
    exact List.prefix_append _ _
  have hcount : runtimeDones s.trace = (numbered.filter fun x => x.2.isRuntimeDone).length := by
    rw [runtimeDones_eq_countP_owned, howned, List.countP_map, List.countP_eq_length_filter]
    simp [Function.comp_def]
  have hfilter := hnumbered.filter fun x => x.2.isRuntimeDone
  rw [stream.filter_owned] at hfilter
  rw [hcount] at hi
  have hget := hfilter.getElem hi
  have hlt : i < stream.requests.length := by
    have := hfilter.length_le
    simp only [List.length_map, List.length_zipIdx] at this
    omega
  simp only [List.getElem_map, List.getElem_zipIdx, Nat.zero_add] at hget
  refine ⟨stream.requests[i], List.getElem?_eq_getElem hlt, mem_trace_of_owned ?_⟩
  rw [howned]
  refine List.mem_map.2 ⟨(i, stream.requests[i].runtimeDone), ?_, rfl⟩
  rw [← hget]
  exact (List.mem_filter.1 (List.getElem_mem hi)).1

/-- Only invoke events that have been queued have been processed. -/
theorem Attributed.runtimeDones_le {requests : List InvokeEvent} (h : Attributed config stream s)
    (hpre : processedEvents s.trace <+: stream.events) (enrolled : Enrolled requests s) :
    runtimeDones s.trace ≤ s.enqueued := by
  cases hcount : runtimeDones s.trace with
  | zero => exact Nat.zero_le _
  | succ n =>
    obtain ⟨request, -, hmem⟩ := h.runtimeDone hpre (i := n) (by omega)
    have htaken := enrolled.telemetry n _ hmem
    have hrange : n ∈ List.range requests.length := by
      rw [← enrolled.taken]
      exact List.mem_append_left _ htaken
    rw [enrolled.enqueued]
    exact List.mem_range.1 hrange

end

/-! ## What a critical section keeps -/

/-- The outputs have grown, and a request to send still stands. -/
structure TelemetryServiceState.Extends (s s' : TelemetryServiceState) : Prop where
  grows : s.outputBuffers.Grows s'.outputBuffers
  shouldSend : s.shouldSend = true → s'.shouldSend = true
  enqueued : s'.enqueued = s.enqueued

namespace TelemetryServiceState.Extends

theorem refl (s : TelemetryServiceState) : s.Extends s := ⟨.refl _, id, rfl⟩

theorem trans {a b c : TelemetryServiceState} (h : a.Extends b) (h' : b.Extends c) : a.Extends c :=
  ⟨h.grows.trans h'.grows, h'.shouldSend ∘ h.shouldSend, h'.enqueued.trans h.enqueued⟩

end TelemetryServiceState.Extends

section

variable [External] {config : TelemetryServiceConfig} {s : TelemetryServiceState}

omit [External] in
theorem Acquired.state_extends [External] {o : Outcome (Option InvocationProcessingState)}
    (h : Acquired config s o) : s.Extends o.1 := by
  cases h with
  | created invokeEvent queue state out rng hstate hqueue fresh => exact ⟨fresh.grows, id, rfl⟩
  | _ => exact ⟨.refl _, id, rfl⟩

theorem Handled.state_extends {state : InvocationProcessingState} {event : LambdaTelemetry}
    {o : Outcome Bool} (h : Handled config state event s o) : s.Extends o.1 := by
  cases h with
  | buffered => exact ⟨.refl _, id, rfl⟩
  | failed => exact ⟨.refl _, id, rfl⟩
  | restarted m out rng hinit hevent htimes hlogs grows => exact ⟨grows, id, rfl⟩
  | restartFailed m out rng e hinit hevent hfailed grows => exact ⟨grows, id, rfl⟩
  | replayed state' m out rng hinit hstarted hevent htimes carries => exact ⟨carries.grows, id, rfl⟩
  | replayFailed state' m out rng e hinit hstarted hevent hfailed carries =>
    exact ⟨carries.grows, id, rfl⟩
  | processed state' m out rng hinit htime carries hreport => exact ⟨carries.grows, id, rfl⟩
  | concluded state' m out rng hinit htime carries hreport hlogs => exact ⟨carries.grows, id, rfl⟩

theorem processTelemetryEvents_extends
    (hphase : s.initHandled = true → s.initHandlingStarted = true) :
    s.Extends (processTelemetryEvents config s).1 := by
  let P : TelemetryServiceState → Prop := fun s' =>
    (s'.initHandled = true → s'.initHandlingStarted = true) ∧ s.Extends s'
  have hP : P (processTelemetryEvents config s).1 := by
    refine Outcome.Satisfies.state (processTelemetryEvents_satisfies (P := fun _ => P)
      (fun _ _ hs => hs.1) ?_ ?_ ⟨hphase, .refl s⟩)
    · intro d t o ht acquired
      obtain ⟨-, hinit, hstarted⟩ := acquired.iterations_eq
      have holds : P o.1 := by
        refine ⟨?_, ht.2.trans acquired.state_extends⟩
        rw [hinit, hstarted]
        exact ht.1
      obtain ⟨s', r⟩ := o
      cases r <;> exact holds
    · intro d t state event queue o ht hstate hqueue handled
      have queued : t.Extends { t with telemetryEventQueue := queue } := ⟨.refl _, id, rfl⟩
      have holds : P o.1 := ⟨handled.phase ht.1, ht.2.trans (queued.trans handled.state_extends)⟩
      obtain ⟨s', r⟩ := o
      cases r <;> exact holds
  exact hP.2

theorem Received.state_extends {spans : List ResourceSpans} {s' : TelemetryServiceState}
    (h : Received config spans s s') : s.Extends s' := by
  cases h with
  | processed state state' out hqueue hstate hdone carries => exact ⟨carries.grows, id, rfl⟩
  | _ => exact ⟨.refl _, id, rfl⟩

/-! ## What a critical section signals -/

/-- Either no `PlatformRuntimeDone` is processed, or the invocation is signalled to be done right
after a request to send. -/
inductive Effects.Signals (s : TelemetryServiceState) (e : Effects) : Prop where
  | quiet (hsignals : .invocationDone ∉ e.signals)
      (htrace : runtimeDones e.state.trace = runtimeDones s.trace)
  | done (before : List Signal) (hbefore : .invocationDone ∉ before)
      (hsignals : e.signals = before ++ [.shouldSend, .invocationDone])
      (hshould : e.state.shouldSend = true)
      (htrace : runtimeDones s.trace < runtimeDones e.state.trace)

/-- `invocation_done` at the head of the loop: whether a `PlatformRuntimeDone` has been processed
since there were `count`. -/
def DoneSince (count : Nat) (invocationDone : Bool) (s : TelemetryServiceState) : Prop :=
  if invocationDone then count < runtimeDones s.trace else runtimeDones s.trace = count

omit [External] in
theorem DoneSince.add {count : Nat} {d b : Bool} {s' : TelemetryServiceState}
    (h : DoneSince count d s)
    (hs' : runtimeDones s'.trace = runtimeDones s.trace + if b then 1 else 0) :
    DoneSince count (d || b) s' := by
  unfold DoneSince at h ⊢
  cases d <;> cases b <;> simp_all
  omega

omit [External] in
theorem Acquired.counted [External] {o : Outcome (Option InvocationProcessingState)}
    (h : Acquired config s o) :
    runtimeDones o.1.trace = runtimeDones s.trace := by
  cases h with
  | created => simp [runtimeDones, ProcessorCall.isRuntimeDone]
  | rejected => simp [runtimeDones, ProcessorCall.isRuntimeDone]
  | _ => rfl

theorem Handled.counted {stream : TelemetryStream} {state : InvocationProcessingState}
    {event : LambdaTelemetry} {s' : TelemetryServiceState} {b : Bool}
    (h : Handled config state event s (s', .ok b))
    (attributed : Attributed config.processorConfig stream s) :
    runtimeDones s'.trace =
      runtimeDones s.trace + if b then 1 else 0 := by
  cases h with
  | buffered => rfl
  | restarted =>
    have hcalls : runtimeDones (s.halfProcessedEventBuffer.map .degraded) = 0 := by
      apply runtimeDones_eq_zero
      intro call hcall
      obtain ⟨e, -, rfl⟩ := List.mem_map.1 hcall
      rfl
    rw [runtimeDones_append, hcalls]
    rfl
  | replayed state' m out rng hinit =>
    -- what was buffered is from the init phase
    have hcalls : runtimeDones (s.halfProcessedEventBuffer.map (.telemetry state.serial)) = 0 := by
      apply runtimeDones_eq_zero
      intro call hcall
      obtain ⟨e, he, rfl⟩ := List.mem_map.1 hcall
      exact stream.init_not_runtimeDone e ((attributed.fresh hinit).2.1.subset he)
    rw [runtimeDones_append, hcalls]
    rfl
  | processed =>
    cases hdone : event.isRuntimeDone <;> simp [runtimeDones, ProcessorCall.isRuntimeDone, hdone]
  | concluded =>
    cases hdone : event.isRuntimeDone <;> simp [runtimeDones, ProcessorCall.isRuntimeDone, hdone]

theorem Received.counted {spans : List ResourceSpans} {s' : TelemetryServiceState}
    (h : Received config spans s s') : runtimeDones s'.trace = runtimeDones s.trace := by
  cases h with
  | processed => simp [runtimeDones, ProcessorCall.isRuntimeDone]
  | _ => rfl

variable {stream : TelemetryStream} {h : History}

theorem processTelemetryEvents_doneSince (follows : Follows stream h)
    (hs : ServiceInvariant.Holds (InStream config stream) h s) :
    Outcome.Satisfies (processTelemetryEvents config s)
      (fun d s' => NoFailures s'.trace → DoneSince (runtimeDones s.trace) d s')
      (fun s' => ¬ NoFailures s'.trace) := by
  let P : Bool → TelemetryServiceState → Prop := fun d s' =>
    ServiceInvariant.Holds (InStream config stream) h s' ∧
      (NoFailures s'.trace → DoneSince (runtimeDones s.trace) d s')
  refine (processTelemetryEvents_satisfies (P := P) (Q := fun s' => ¬ NoFailures s'.trace)
    (fun _ _ ht => ht.1.1) ?_ ?_ ⟨hs, fun _ => by simp [DoneSince]⟩).mono
    (fun _ _ ht => ht.2) (fun _ ht => ht)
  · intro d t o ht acquired
    obtain ⟨-, hinit, hstarted⟩ := acquired.iterations_eq
    have holds := (inStream_invariant stream).acquired trivial ht.1.2 acquired
    have count := acquired.counted
    have traces := acquired.trace_grows
    obtain ⟨t', r⟩ := o
    cases r with
    | error e => exact acquired.failure
    | ok a =>
      refine ⟨⟨?_, holds⟩, ?_⟩
      · exact fun h => hstarted.trans (ht.1.1 (hinit.symm.trans h))
      · intro hn
        have := ht.2 (hn.of_isPrefix traces)
        unfold DoneSince at this ⊢
        rwa [count]
  · intro d t state event queue o ht hstate hqueue handled
    have holds := (inStream_invariant stream).handled trivial ht.1.2 hstate hqueue handled
    have phase := handled.phase ht.1.1
    have traces : t.trace <+: o.1.trace := handled.trace_grows
    obtain ⟨t', r⟩ := o
    cases r with
    | error e => exact handled.failure
    | ok b =>
      refine ⟨⟨phase, holds⟩, fun hn => ?_⟩
      have hn' : NoFailures t.trace := hn.of_isPrefix traces
      have attributed := ht.1.2.2 follows hn'
      have queued : Attributed config.processorConfig stream { t with telemetryEventQueue := queue } :=
        attributed.congr rfl rfl rfl rfl rfl
      exact (ht.2 hn').add (handled.counted queued)

/-! ## The methods -/

/-- The effects of a request to send, now or later. -/
structure Effects.Delays (s : TelemetryServiceState) (e : Effects) : Prop where
  core : e.state.core = s.core
  signals : .invocationDone ∉ e.signals
  shouldSend : s.shouldSend = true → e.state.shouldSend = true

omit [External] in
theorem TelemetryServiceState.Extends.congr {t t' : TelemetryServiceState} (h : s.Extends t)
    (hcore : t'.core = t.core) (hshould : t.shouldSend = true → t'.shouldSend = true) :
    s.Extends t' := by
  have same := SameCore.of_core hcore
  refine ⟨?_, hshould ∘ h.shouldSend, same.enqueued.trans h.enqueued⟩
  rw [same.outputBuffers]
  exact h.grows

omit [External] in
theorem runtimeDones_congr {t : TelemetryServiceState} (hcore : t.core = s.core) :
    runtimeDones t.trace = runtimeDones s.trace := by
  rw [(SameCore.of_core hcore).trace]

namespace Effects.Delays

omit [External] in
theorem state_extends {e : Effects} (h : e.Delays s) : s.Extends e.state :=
  (TelemetryServiceState.Extends.refl s).congr h.core h.shouldSend

omit [External] in
theorem nothing : Effects.Delays s { state := s } := ⟨rfl, by simp, id⟩

omit [External] in
theorem by_time (clock : Clock) (time : Instant) :
    Effects.Delays s (signalShouldSendBy clock time s) := by
  refine ⟨signalShouldSendBy_core clock time, ?_, ?_⟩
  · unfold signalShouldSendBy
    split
    · split <;> simp [signalShouldSend]
    · simp
  · intro hs
    unfold signalShouldSendBy
    split
    · split
      · rfl
      · exact hs
    · exact hs

omit [External] in
theorem afterDelay (clock : Clock) : Effects.Delays s (signalShouldSendAfterDelay config clock s) :=
  by_time clock _

omit [External] in
theorem afterDelayFromEvent (clock : Clock) (event : LambdaTelemetry) :
    Effects.Delays s (signalShouldSendAfterDelayFromEvent config clock event s) := by
  unfold signalShouldSendAfterDelayFromEvent
  split
  · exact by_time clock _
  · exact nothing

omit [External] in
theorem wake (clock : Clock) : Effects.Delays s (wakeAfterDelay clock s) := by
  refine ⟨wakeAfterDelay_core clock, ?_, ?_⟩
  · unfold wakeAfterDelay
    split <;> simp [signalShouldSend]
  · intro hs
    unfold wakeAfterDelay
    split
    · rfl
    · exact hs

end Effects.Delays

theorem handleTelemetry_extends (hphase : s.initHandled = true → s.initHandlingStarted = true) :
    s.Extends (handleTelemetry config s).state := by
  have events := @processTelemetryEvents_extends _ config s hphase
  have tried : s.Extends (tryProcessingTelemetry config s).1.state := by
    unfold tryProcessingTelemetry
    split
    · exact .refl s
    · split
      · next heq =>
        rw [heq] at events
        exact events
      · next heq =>
        rw [heq] at events
        split
        · exact ⟨events.grows, fun _ => rfl, events.enqueued⟩
        · exact events
  unfold handleTelemetry
  split
  · next heq =>
    rw [heq] at tried
    split <;> exact tried
  · next heq =>
    rw [heq] at tried
    exact tried

/-- `handle_telemetry` signals that the invocation is done if and only if it has processed a
`PlatformRuntimeDone`. -/
theorem handleTelemetry_signals (hafter : config.reportingStrategy.sendAfterInvocation = true)
    (follows : Follows stream h) (hs : ServiceInvariant.Holds (InStream config stream) h s)
    (hflush : s.shutdownFlushStarted = false)
    (hn : NoFailures (handleTelemetry config s).state.trace) :
    Effects.Signals s (handleTelemetry config s) := by
  have counted := processTelemetryEvents_doneSince follows hs
  unfold handleTelemetry tryProcessingTelemetry at hn ⊢
  simp only [hflush, Bool.false_eq_true, if_false, hafter, Bool.true_and] at hn ⊢
  cases hevents : processTelemetryEvents config s with
  | mk s' r =>
    rw [hevents] at counted hn
    cases r with
    | error e => exact absurd hn counted
    | ok d =>
      cases d with
      | false => exact .quiet (by simp) (counted hn)
      | true => exact .done [] (by simp) rfl rfl (counted hn)

omit [External] in
/-- A request to send before what is signalled. -/
theorem Effects.Signals.after_delay {d e : Effects} {t : TelemetryServiceState}
    (h : Effects.Signals t e) (hd : d.Delays s) (ht : runtimeDones t.trace = runtimeDones s.trace)
    (timers : List Instant) :
    Effects.Signals s { state := e.state, signals := d.signals ++ e.signals, timers } := by
  cases h with
  | quiet hsignals htrace =>
    refine .quiet ?_ (htrace.trans ht)
    rw [List.mem_append, not_or]
    exact ⟨hd.signals, hsignals⟩
  | done before hbefore hsignals hshould htrace =>
    refine .done (d.signals ++ before) ?_ ?_ hshould (ht ▸ htrace)
    · rw [List.mem_append, not_or]
      exact ⟨hd.signals, hbefore⟩
    · rw [hsignals, List.append_assoc]

/-- The two parts of `handle_incoming_telemetry`. -/
theorem handleIncomingTelemetry_eq (clock : Clock) (events : List LambdaTelemetry) :
    ∃ d : Effects, d.Delays s ∧ handleIncomingTelemetry config clock events s =
      { state := (handleTelemetry config
          { d.state with telemetryEventQueue := d.state.telemetryEventQueue ++ events }).state
        signals := d.signals ++ (handleTelemetry config
          { d.state with telemetryEventQueue := d.state.telemetryEventQueue ++ events }).signals
        timers := d.timers ++ (handleTelemetry config
          { d.state with telemetryEventQueue := d.state.telemetryEventQueue ++ events }).timers } := by
  refine ⟨_, ?_, rfl⟩
  split
  · split
    · exact .afterDelayFromEvent clock _
    · exact .nothing
  · exact .nothing

theorem handleOtlpSpans_extends (clock : Clock) (spans : List ResourceSpans) :
    s.Extends (handleOtlpSpans config clock spans s).state ∧
      .invocationDone ∉ (handleOtlpSpans config clock spans s).signals := by
  have received := (@receiveSpans_received _ config spans s).state_extends
  unfold handleOtlpSpans
  unfold receiveSpans at received
  cases hqueue : s.invokeEventQueue with
  | cons e rest => exact ⟨⟨.refl _, id, rfl⟩, by simp⟩
  | nil =>
    rw [hqueue] at received
    cases hstate : s.invocationState with
    | none => exact ⟨⟨.refl _, id, rfl⟩, by simp⟩
    | some state =>
      rw [hstate] at received
      dsimp only at received ⊢
      split
      · exact ⟨⟨.refl _, id, rfl⟩, by simp⟩
      · next hdone =>
        rw [if_neg hdone] at received
        split
        · exact ⟨⟨received.grows, fun _ => rfl, received.enqueued⟩, by simp [signalShouldSend]⟩
        · split
          · have delay := @Effects.Delays.afterDelay config
              { (callProcessFunctionSpans config spans state s).2 with
                invocationState := some (callProcessFunctionSpans config spans state s).1 } clock
            exact ⟨received.trans delay.state_extends, delay.signals⟩
          · exact ⟨received, by simp⟩

theorem handleOtlpMetrics_extends (clock : Clock) (metrics : List ResourceMetrics) :
    s.Extends (handleOtlpMetrics config clock metrics s).state ∧
      .invocationDone ∉ (handleOtlpMetrics config clock metrics s).signals := by
  have process (t : TelemetryServiceState) :
      t.Extends (processFunctionMetrics config metrics t) := by
    unfold processFunctionMetrics
    split
    · exact .refl t
    · exact ⟨⟨List.prefix_rfl, List.prefix_rfl, List.prefix_append _ _, List.prefix_rfl,
        List.prefix_rfl⟩, id, rfl⟩
    · exact ⟨.refl _, id, rfl⟩
  unfold handleOtlpMetrics
  dsimp only
  split
  · have delay := @Effects.Delays.afterDelay config s clock
    exact ⟨delay.state_extends.trans (process _), delay.signals⟩
  · exact ⟨process s, by simp⟩

end

/-! ## The receive loop -/

/-- The handler is not one that drains the signals. -/
def InvokeHandler.inLoop : InvokeHandler → Bool
  | .draining _ _ => false
  | .checkingOnce _ => false
  | _ => true

/-- How many signals that an invocation is done the handler is still to receive. -/
def InvokeHandler.owed : InvokeHandler → Nat
  | .checking _ => 1
  | .receiving _ => 1
  | _ => 0

/-- What a step can do where the receive loop runs. -/
inductive LoopStep [External] (config : TelemetryServiceConfig) (service : TelemetryService) :
    Action → TelemetryService → Prop where
  | called (e : InvokeEvent) (functionContext : FunctionContext) (hhandler : service.handler = .idle) :
    LoopStep config service (.invoke e functionContext)
      { service with handler := .enqueuing e functionContext }
  /-- A critical section that starts in the state `s`. -/
  | effect (a : Action) (s : TelemetryServiceState) (e : Effects) (service' : TelemetryService)
      (hstate : service'.state = e.state) (hsignals : service'.signals = service.signals ++ e.signals)
      (hsent : service'.sent = service.sent)
      (hhandler : service'.handler = service.handler ∨ ∃ functionContext,
        service.handler.owed = 0 ∧ service'.handler = .checking functionContext)
      (henqueued : s.enqueued + service.handler.owed =
        service.state.enqueued + service'.handler.owed)
      (htrace : s.trace = service.state.trace) (hout : s.outputBuffers = service.state.outputBuffers)
      (hshould : s.shouldSend = service.state.shouldSend) (extend : s.Extends e.state)
      (signals : Effects.Signals s e) :
    LoopStep config service a service'
  | checked (now : Instant) (functionContext : FunctionContext)
      (hhandler : service.handler = .checking functionContext) :
    LoopStep config service (.handler now)
      { service.sendIfNeeded config functionContext now with handler := .receiving functionContext }
  | woken (now : Instant) (functionContext : FunctionContext) (rest : List Signal)
      (hhandler : service.handler = .receiving functionContext)
      (hsignals : service.signals = .shouldSend :: rest) :
    LoopStep config service (.handler now)
      { service with signals := rest, handler := .checking functionContext }
  | left (now : Instant) (functionContext : FunctionContext) (rest : List Signal)
      (hhandler : service.handler = .receiving functionContext)
      (hsignals : service.signals = .invocationDone :: rest) :
    LoopStep config service (.handler now) { service with signals := rest, handler := .leaving }
  | returning (now : Instant) (b : Bool) (handler : InvokeHandler) (howed : service.handler.owed = 0)
      (hhandler : handler = .awaiting ∨ handler = .idle) :
    LoopStep config service (.handler now)
      { service with
        state := { service.state with shouldNotReceiveOtelNow := b }
        handler }

section

variable [External] {config : TelemetryServiceConfig} {stream : TelemetryStream} {h : History}
  {service service' : TelemetryService} {a : Action}

/-- A critical section that processes no `PlatformRuntimeDone`. -/
theorem LoopStep.quiet {e : Effects} (hstate : service'.state = e.state)
    (hsignals : service'.signals = service.signals ++ e.signals) (hsent : service'.sent = service.sent)
    (hhandler : service'.handler = service.handler) (extend : service.state.Extends e.state)
    (hdone : .invocationDone ∉ e.signals)
    (htrace : runtimeDones e.state.trace = runtimeDones service.state.trace) :
    LoopStep config service a service' :=
  .effect a service.state e service' hstate hsignals hsent (.inl hhandler) (by rw [hhandler]) rfl rfl
    rfl extend (.quiet hdone htrace)

theorem handlerStep_loopStep {past : List (TelemetryService × Action)} {now : Instant}
    (hstrategy : config.reportingStrategy.sendAfterInvocation = true)
    (hhandler : service.handler.inLoop = true) (hist : IsHistory past service h)
    (holds : ServiceInvariant.Holds (InStream config stream) h service.state)
    (settled : Settled service.state)
    (hrequests : (acceptedRequests (past.map Prod.snd)).map (·.requestId) <+: stream.requestIds)
    (hevents : acceptedEvents (past.map Prod.snd) <+: stream.events)
    (hn : NoFailures service'.state.trace)
    (hstep : handlerStep config now service = some service') :
    LoopStep config service (.handler now) service' := by
  have hstrategy' : config.reportingStrategy ≠ .lowOverhead := by
    intro h
    rw [h] at hstrategy
    cases hstrategy
  cases handlerStep_cases hstep with
  | drained e functionContext signal rest hcurrent =>
    rw [hcurrent] at hhandler
    cases hhandler
  | emptied e functionContext hcurrent =>
    rw [hcurrent] at hhandler
    cases hhandler
  | checkedOnce functionContext hcurrent =>
    rw [hcurrent] at hhandler
    cases hhandler
  | enqueued e functionContext hcurrent =>
    rw [if_neg hstrategy'] at hn ⊢
    have requests := hist.requests
    rw [hcurrent] at requests
    have follows : Follows stream { h with requests := h.requests ++ [e] } :=
      ⟨requests ▸ hrequests, hist.events ▸ hevents⟩
    have holds' : ServiceInvariant.Holds (InStream config stream)
        { h with requests := h.requests ++ [e] } (pushInvokeEvent e functionContext service.state) :=
      ⟨holds.1, (inStream_invariant stream).enqueued e functionContext trivial holds.2⟩
    refine .effect _ (pushInvokeEvent e functionContext service.state)
      (enqueueInvokeEvent config e functionContext service.state) _ rfl rfl rfl
      (.inr ⟨functionContext, by rw [hcurrent]; rfl, rfl⟩) (by rw [hcurrent]; rfl) rfl rfl rfl
      (handleTelemetry_extends holds.1) ?_
    exact handleTelemetry_signals hstrategy follows holds' settled.2.1 hn
  | checked functionContext hcurrent => exact .checked now functionContext hcurrent
  | woken functionContext rest hcurrent hsignals =>
    exact .woken now functionContext rest hcurrent hsignals
  | done functionContext rest hcurrent hsignals =>
    exact .left now functionContext rest hcurrent hsignals
  | left hcurrent => exact .returning now true .awaiting (by rw [hcurrent]; rfl) (.inl rfl)
  | returned hcurrent =>
    rw [if_neg hstrategy']
    exact .returning now false .idle (by rw [hcurrent]; rfl) (.inr rfl)

theorem serviceStep_loopStep {past : List (TelemetryService × Action)}
    (hstrategy : config.reportingStrategy.sendAfterInvocation = true)
    (hhandler : service.handler.inLoop = true) (hist : IsHistory past service h)
    (holds : ServiceInvariant.Holds (InStream config stream) h service.state)
    (settled : Settled service.state) (ha : a.isShutdown = false)
    (hrequests : (acceptedRequests (past.map Prod.snd ++ [a])).map (·.requestId) <+:
      stream.requestIds)
    (hevents : acceptedEvents (past.map Prod.snd ++ [a]) <+: stream.events)
    (hn : NoFailures service'.state.trace) (hstep : serviceStep config service a = some service') :
    LoopStep config service a service' := by
  rw [acceptedRequests_snoc] at hrequests
  rw [acceptedEvents_snoc] at hevents
  cases a with
  | shutdown => cases ha
  | invoke e functionContext =>
    have hstrategy' : config.reportingStrategy ≠ .lowOverhead := by
      intro h
      rw [h] at hstrategy
      cases hstrategy
    obtain ⟨hidle, rfl⟩ := serviceStep_invoke hstep
    rw [if_neg hstrategy']
    exact .called e functionContext hidle
  | handler now =>
    simp only [Action.requests, List.append_nil] at hrequests
    simp only [Action.events, List.append_nil] at hevents
    exact handlerStep_loopStep hstrategy hhandler hist holds settled hrequests hevents hn hstep
  | telemetry clock events =>
    cases hstep
    simp only [Action.requests, List.append_nil, hist.requests, List.map_append] at hrequests
    have follows : Follows stream { h with events := h.events ++ events } :=
      ⟨(List.prefix_append _ _).trans hrequests, hist.events ▸ hevents⟩
    obtain ⟨d, delays, heq⟩ :=
      @handleIncomingTelemetry_eq _ config service.state clock events
    have delayed : ServiceInvariant.Holds (InStream config stream) h d.state :=
      (inStream_invariant stream).core_holds holds delays.core
    let s : TelemetryServiceState :=
      { d.state with telemetryEventQueue := d.state.telemetryEventQueue ++ events }
    have holds' : ServiceInvariant.Holds (InStream config stream)
        { h with events := h.events ++ events } s :=
      ⟨delayed.1, (inStream_invariant stream).accepted events trivial delayed.2⟩
    have hflush : d.state.shutdownFlushStarted = service.state.shutdownFlushStarted :=
      (SameCore.of_core delays.core).shutdownFlushStarted
    have accepted : d.state.Extends s := ⟨.refl _, id, rfl⟩
    have extend : s.Extends (handleTelemetry config s).state := handleTelemetry_extends delayed.1
    refine .effect _ service.state (handleIncomingTelemetry config clock events service.state) _ rfl
      rfl rfl (.inl rfl) rfl rfl rfl rfl ?_ ?_
    · rw [heq]
      exact delays.state_extends.trans (accepted.trans extend)
    · have counted : runtimeDones s.trace = runtimeDones service.state.trace :=
        runtimeDones_congr (t := d.state) delays.core
      have hn' : NoFailures (handleTelemetry config s).state.trace := by
        rw [show (handleTelemetry config s).state =
          (handleIncomingTelemetry config clock events service.state).state by rw [heq]]
        exact hn
      rw [heq]
      have signals := handleTelemetry_signals hstrategy follows holds' (hflush.trans settled.2.1) hn'
      exact signals.after_delay delays counted _
  | otlpSpans clock spans =>
    cases hstep
    obtain ⟨extend, hdone⟩ := @handleOtlpSpans_extends _ config service.state clock spans
    refine .quiet (e := handleOtlpSpans config clock spans service.state) rfl rfl rfl rfl extend hdone
      ?_
    rw [runtimeDones_congr (handleOtlpSpans_core clock spans)]
    exact (receiveSpans_received spans service.state).counted
  | otlpMetrics clock metrics =>
    cases hstep
    obtain ⟨extend, hdone⟩ := @handleOtlpMetrics_extends _ config service.state clock metrics
    refine .quiet (e := handleOtlpMetrics config clock metrics service.state) rfl rfl rfl rfl extend
      hdone ?_
    obtain ⟨acc, buffer, heq⟩ := @processFunctionMetrics_state _ config metrics service.state
    rw [runtimeDones_congr (handleOtlpMetrics_core clock metrics), heq]
  | wake deadline clock =>
    obtain ⟨-, rfl⟩ := serviceStep_wake hstep
    have delays : Effects.Delays service.state (wakeAfterDelay clock service.state) := .wake clock
    exact .quiet (e := wakeAfterDelay clock service.state) rfl rfl rfl rfl delays.state_extends
      delays.signals (runtimeDones_congr delays.core)

/-! ## Runs of a stream -/

/-- A run without a shutdown and without failures, in which the invoke events and the telemetry are
those of the stream, as far as they have arrived. -/
structure StreamRun (config : TelemetryServiceConfig) (stream : TelemetryStream) (now : Nat)
    (actions : List Action) (service : TelemetryService) : Prop where
  run : serviceRun config now actions = some service
  noShutdown : ∀ a ∈ actions, a.isShutdown = false
  requests : (acceptedRequests actions).map (·.requestId) <+: stream.requestIds
  events : acceptedEvents actions <+: stream.events
  noFailures : NoFailures service.state.trace

namespace StreamRun

variable {now : Nat} {past more : List Action} {actions : List Action}

/-- The run without its last step. -/
theorem init (h : StreamRun config stream now (past ++ [a]) service') :
    ∃ service, StreamRun config stream now past service ∧
      serviceStep config service a = some service' := by
  obtain ⟨service, hrun, hstep⟩ := Machine.run_snoc.1 h.run
  have noShutdown : ∀ b ∈ past, b.isShutdown = false := fun b hb =>
    h.noShutdown b (List.mem_append_left _ hb)
  have ha : a.isShutdown = false :=
    h.noShutdown a (List.mem_append_right _ (List.mem_singleton_self a))
  obtain ⟨-, hphase, -⟩ := serviceRun_settled hrun noShutdown
  have requests := h.requests
  rw [acceptedRequests_snoc, List.map_append] at requests
  have events := h.events
  rw [acceptedEvents_snoc] at events
  exact ⟨service, ⟨hrun, noShutdown, (List.prefix_append _ _).trans requests,
    (List.prefix_append _ _).trans events,
    h.noFailures.of_isPrefix (serviceStep_trace_grows hphase ha hstep)⟩, hstep⟩

/-- The run without its last steps. -/
theorem of_append (h : StreamRun config stream now (past ++ more) service') :
    ∃ service, StreamRun config stream now past service ∧
      Machine.run (serviceStep config) service more = some service' := by
  induction more using List.reverseRecOn generalizing service' with
  | nil => exact ⟨service', by simpa using h, rfl⟩
  | append_singleton more a ih =>
    rw [← List.append_assoc] at h
    obtain ⟨service, h, hstep⟩ := h.init
    obtain ⟨first, hfirst, hmore⟩ := ih h
    exact ⟨first, hfirst, Machine.run_snoc.2 ⟨service, hmore, hstep⟩⟩

theorem settled (h : StreamRun config stream now actions service) : Settled service.state :=
  (serviceRun_settled h.run h.noShutdown).2

theorem runtimeDones_le (h : StreamRun config stream now actions service) :
    runtimeDones service.state.trace ≤ service.state.enqueued := by
  obtain ⟨requests, -, enrolled, accounted, attributed⟩ :=
    serviceRun_attributed h.run h.noShutdown h.requests h.events h.noFailures
  refine attributed.runtimeDones_le ?_ enrolled
  refine List.IsPrefix.trans ?_ h.events
  rw [← accounted.events, List.append_assoc]
  exact List.prefix_append _ _

end StreamRun

/-- The signals in the channel count the invocations that are done and still waited for. -/
structure Balanced (service : TelemetryService) : Prop where
  handler : service.handler.inLoop = true
  positive : service.handler.owed ≤ service.state.enqueued
  count : service.signals.count .invocationDone + service.state.enqueued =
    runtimeDones service.state.trace + service.handler.owed

omit [External] in
theorem InvokeHandler.owed_le (handler : InvokeHandler) : handler.owed ≤ 1 := by
  cases handler <;> simp [InvokeHandler.owed]

theorem LoopStep.balanced (hstep : LoopStep config service a service') (hs : Balanced service)
    (hle' : runtimeDones service'.state.trace ≤ service'.state.enqueued) : Balanced service' := by
  obtain ⟨hhandler, hpositive, hcount⟩ := hs
  cases hstep with
  | called e functionContext hidle =>
    rw [hidle] at hcount
    exact ⟨rfl, Nat.zero_le _, hcount⟩
  | effect a s e service' hstate hsignals hsent hhandler' henqueued htrace hout hshould extend signals =>
    have henqueued' := extend.enqueued
    rw [hstate, henqueued'] at hle'
    refine ⟨?_, ?_, ?_⟩
    · rcases hhandler' with h | ⟨functionContext, -, h⟩
      · rwa [h]
      · rw [h]
        rfl
    · rw [hstate, henqueued']
      omega
    · have howed := service'.handler.owed_le
      rw [hstate, hsignals, henqueued', List.count_append]
      cases signals with
      | quiet hquiet hdones =>
        rw [List.count_eq_zero.2 hquiet, hdones, htrace]
        omega
      | done before hbefore hdone hshould' hdones =>
        rw [htrace] at hdones
        rw [hdone, List.count_append, List.count_eq_zero.2 hbefore]
        have hlast : [Signal.shouldSend, .invocationDone].count .invocationDone = 1 := rfl
        rw [hlast]
        omega
  | checked now functionContext hchecking =>
    rw [hchecking] at hcount hpositive
    rcases sendIfNeeded_cases functionContext now service with heq | heq
    · rw [heq]
      obtain ⟨_, _, _, -, hsend⟩ := @sendTelemetry_state config service.state functionContext
      simp only [TelemetryService.send, hsend]
      exact ⟨rfl, hpositive, hcount⟩
    · rw [heq]
      exact ⟨rfl, hpositive, hcount⟩
  | woken now functionContext rest hreceiving hsignals =>
    rw [hreceiving] at hcount hpositive
    refine ⟨rfl, hpositive, ?_⟩
    rwa [hsignals, List.count_cons_of_ne (by decide)] at hcount
  | left now functionContext rest hreceiving hsignals =>
    rw [hreceiving, hsignals, List.count_cons_self] at hcount
    refine ⟨rfl, Nat.zero_le _, ?_⟩
    simp only [InvokeHandler.owed] at hcount ⊢
    omega
  | returning now b handler howed hhandler' =>
    rw [howed] at hcount
    rcases hhandler' with rfl | rfl <;> exact ⟨rfl, Nat.zero_le _, hcount⟩

namespace StreamRun

variable {now : Nat} {past : List Action} {actions : List Action}

theorem step (h : StreamRun config stream now (past ++ [a]) service')
    (hstrategy : config.reportingStrategy.sendAfterInvocation = true)
    (hrun : serviceRun config now past = some service) (hhandler : service.handler.inLoop = true)
    (hstep : serviceStep config service a = some service') : LoopStep config service a service' := by
  obtain ⟨first, before, -⟩ := h.init
  rw [before.run, Option.some.injEq] at hrun
  subst hrun
  obtain ⟨hist, isHistory, -, holds⟩ :=
    serviceRun_inStream before.run before.noShutdown before.requests before.events
  refine serviceStep_loopStep hstrategy hhandler isHistory holds before.settled
    (h.noShutdown a (List.mem_append_right _ (List.mem_singleton_self a))) ?_ ?_ h.noFailures hstep
  · rw [Machine.trail_actions before.run]
    exact h.requests
  · rw [Machine.trail_actions before.run]
    exact h.events

/-- Between two steps the channel has as many signals as there are invocations that are done and
still waited for. -/
theorem balanced (h : StreamRun config stream now actions service)
    (hstrategy : config.reportingStrategy.sendAfterInvocation = true) : Balanced service := by
  induction actions using List.reverseRecOn generalizing service with
  | nil =>
    cases h.run
    exact ⟨rfl, Nat.zero_le _, rfl⟩
  | append_singleton past a ih =>
    obtain ⟨before, hbefore, hstep⟩ := h.init
    have balanced := ih hbefore
    exact (h.step hstrategy hbefore.run balanced.handler hstep).balanced balanced
      h.runtimeDones_le

end StreamRun

end

end TelemetryExporter
