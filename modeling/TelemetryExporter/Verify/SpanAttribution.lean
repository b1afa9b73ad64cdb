import TelemetryExporter.Verify.Invocations
import TelemetryExporter.Verify.Progress

/-!
# Which invocation gets which function spans

Spans from an OTLP export wait in a queued invoke event or in `function_spans_buffer`, or the
current invocation gets them at once. The state in which they arrive decides for which invocation
they are (`spanTarget`). Over all interleavings every invocation has been given the spans that are
for it, once and in the order of their arrival, and the rest of them still waits
(`function_spans_attributed`).
-/

namespace TelemetryExporter

/-- The spans that a call gives to the invocation. -/
def ProcessorCall.spansFor (invocation : Nat) : ProcessorCall → List ResourceSpans
  | .functionSpans owner spans => if owner = invocation then spans else []
  | _ => []

/-- What `process_function_spans` has been given with the state of the invocation, in order. -/
def givenSpans (invocation : Nat) (trace : List ProcessorCall) : List ResourceSpans :=
  trace.flatMap (·.spansFor invocation)

/-- The spans in the invocation's queued invoke event. -/
def queuedSpans (invocation : Nat) (queue : List InvokeEventDataWithSpans) : List ResourceSpans :=
  queue.flatMap fun e => if e.serial = invocation then e.spans else []

/-- The invocation that becomes the current one next. -/
def TelemetryServiceState.nextInvocation (s : TelemetryServiceState) : Nat :=
  (s.invokeEventQueue.head?.map (·.serial)).getD s.enqueued

/-- The spans that wait for the invocation. `function_spans_buffer` waits for the next one. -/
def TelemetryServiceState.waitingSpans (invocation : Nat) (s : TelemetryServiceState) :
    List ResourceSpans :=
  (if invocation = s.nextInvocation then s.functionSpansBuffer else []) ++
    queuedSpans invocation s.invokeEventQueue

/-- The invocation's RuntimeDone has been processed, or the invocation has been concluded. -/
def ProcessorCall.endsSpansOf (invocation : Nat) : ProcessorCall → Bool
  | .telemetry owner event => owner == invocation && event.isRuntimeDone
  | .concluded owner _ => owner == invocation
  | _ => false

/-- The invocation that spans are for when they arrive in the state: the one enqueued last, or the
next one to be enqueued. -/
def TelemetryServiceState.spanTarget (s : TelemetryServiceState) : Nat :=
  match s.enqueued with
  | 0 => 0
  | last + 1 => if s.trace.any (·.endsSpansOf last) then last + 1 else last

/-- The spans for the invocation, in the order of their arrival. -/
def arrivedSpans (invocation : Nat)
    (arrivals : List (TelemetryServiceState × List ResourceSpans)) : List ResourceSpans :=
  (arrivals.filter fun arrival => arrival.1.spanTarget = invocation).flatMap (·.2)

/-! ## The target -/

theorem endsSpansOf_iff {trace : List ProcessorCall} {invocation : Nat} :
    trace.any (·.endsSpansOf invocation) = true ↔
      Processed LambdaTelemetry.isRuntimeDone trace invocation ∨ Concluded trace invocation := by
  constructor
  · intro h
    obtain ⟨call, hmem, hcall⟩ := List.any_eq_true.1 h
    cases call with
    | telemetry owner event =>
      simp only [ProcessorCall.endsSpansOf, Bool.and_eq_true, beq_iff_eq] at hcall
      obtain ⟨rfl, hdone⟩ := hcall
      exact .inl ⟨event, hmem, hdone⟩
    | concluded owner logs =>
      simp only [ProcessorCall.endsSpansOf, beq_iff_eq] at hcall
      subst hcall
      exact .inr ⟨logs, hmem⟩
    | _ => cases hcall
  · rintro (⟨event, hmem, hdone⟩ | ⟨logs, hmem⟩)
    · exact List.any_eq_true.2 ⟨_, hmem, by simp [ProcessorCall.endsSpansOf, hdone]⟩
    · exact List.any_eq_true.2 ⟨_, hmem, by simp [ProcessorCall.endsSpansOf]⟩

section

variable {requests : List InvokeEvent} {s : TelemetryServiceState}

/-- The last invocation still takes spans. -/
theorem spanTarget_last {last : Nat} (henqueued : s.enqueued = last + 1)
    (hdone : ¬ Processed LambdaTelemetry.isRuntimeDone s.trace last)
    (hconcluded : ¬ Concluded s.trace last) : s.spanTarget = last := by
  have hopen : ¬ s.trace.any (·.endsSpansOf last) = true := by
    intro h
    rcases endsSpansOf_iff.1 h with h | h
    · exact hdone h
    · exact hconcluded h
  unfold TelemetryServiceState.spanTarget
  rw [henqueued]
  exact if_neg hopen

/-- The last invocation, if there is one, takes no more spans. -/
theorem spanTarget_next
    (h : ∀ last, s.enqueued = last + 1 →
      Processed LambdaTelemetry.isRuntimeDone s.trace last ∨ Concluded s.trace last) :
    s.spanTarget = s.enqueued := by
  unfold TelemetryServiceState.spanTarget
  cases henqueued : s.enqueued with
  | zero => rfl
  | succ last => exact if_pos (endsSpansOf_iff.2 (h last henqueued))

namespace Enrolled

/-- Nothing has been processed with the state of an invocation whose invoke event is queued. -/
theorem untouched (h : Enrolled requests s) {e : InvokeEventDataWithSpans}
    (he : e ∈ s.invokeEventQueue) :
    ¬ Processed LambdaTelemetry.isRuntimeDone s.trace e.serial ∧ ¬ Concluded s.trace e.serial := by
  have hfresh := h.not_mem_taken he
  constructor
  · rintro ⟨event, hmem, -⟩
    exact hfresh (h.telemetry _ event hmem)
  · intro hconcluded
    exact hfresh (h.concluded _ hconcluded).1

/-- The invoke event at the end of the queue is the last one. -/
theorem getLast_serial (h : Enrolled requests s) {queue : List InvokeEventDataWithSpans}
    {e : InvokeEventDataWithSpans} (hqueue : s.invokeEventQueue = queue ++ [e]) :
    s.enqueued = e.serial + 1 := by
  have hlast := congrArg List.getLast? h.taken
  rw [hqueue, List.map_append, List.map_singleton, ← List.append_assoc, List.getLast?_concat,
    ← h.enqueued] at hlast
  cases henqueued : s.enqueued with
  | zero => simp [henqueued] at hlast
  | succ last =>
    rw [henqueued, List.range_succ, List.getLast?_concat, Option.some.injEq] at hlast
    rw [hlast]

/-- When no invoke event waits, all of them have left the queue. -/
theorem taken_of_empty (h : Enrolled requests s) (hqueue : s.invokeEventQueue = []) :
    takenInvocations s.trace = List.range s.enqueued := by
  rw [h.enqueued, ← h.taken, hqueue, List.map_nil, List.append_nil]

/-- When no invoke event waits, the current invocation is the last one. -/
theorem current_serial (h : Enrolled requests s) (hqueue : s.invokeEventQueue = [])
    {state : InvocationProcessingState} (hstate : s.invocationState = some state) :
    s.enqueued = state.serial + 1 := by
  rw [h.serial_add_one hstate, h.taken_of_empty hqueue, List.length_range]

theorem spanTarget_queued (h : Enrolled requests s) {queue : List InvokeEventDataWithSpans}
    {e : InvokeEventDataWithSpans} (hqueue : s.invokeEventQueue = queue ++ [e]) :
    s.spanTarget = e.serial := by
  have he : e ∈ s.invokeEventQueue := by
    rw [hqueue]
    exact List.mem_append_right _ (List.mem_singleton_self e)
  obtain ⟨hdone, hconcluded⟩ := h.untouched he
  exact spanTarget_last (h.getLast_serial hqueue) hdone hconcluded

theorem spanTarget_current (h : Enrolled requests s) (hqueue : s.invokeEventQueue = [])
    {state : InvocationProcessingState} (hstate : s.invocationState = some state)
    (hdone : state.runtimeDoneData.isSome = false) : s.spanTarget = state.serial := by
  refine spanTarget_last (h.current_serial hqueue hstate) ?_ ?_
  · intro hprocessed
    have := (h.runtimeDone state hstate).2 hprocessed
    rw [hdone] at this
    cases this
  · intro hconcluded
    exact (h.concluded _ hconcluded).2.2 state hstate rfl

/-- No invoke event has been dropped, and there is no invocation that could take the spans. -/
theorem spanTarget_waiting (h : Enrolled requests s) (haccepted : ∀ k, .rejected k ∉ s.trace)
    (hqueue : s.invokeEventQueue = [])
    (hstate : ∀ state, s.invocationState = some state → state.runtimeDoneData.isSome = true) :
    s.spanTarget = s.enqueued := by
  apply spanTarget_next
  intro last henqueued
  have htaken : last ∈ takenInvocations s.trace := by
    rw [h.taken_of_empty hqueue, henqueued]
    exact List.mem_range.2 (Nat.lt_succ_self last)
  obtain ⟨call, hmem, hcall⟩ := List.mem_filterMap.1 htaken
  have hcreated : .created last ∈ s.trace := by
    cases call with
    | created k =>
      cases hcall
      exact hmem
    | rejected k =>
      cases hcall
      exact absurd hmem (haccepted last)
    | _ => cases hcall
  rcases h.created last hcreated with hconcluded | ⟨state, hcurrent, rfl⟩
  · exact .inr hconcluded
  · exact .inl ((h.runtimeDone state hcurrent).1 (hstate state hcurrent))

end Enrolled

end

/-! ## Given and waiting spans -/

@[simp] theorem givenSpans_append (invocation : Nat) (a b : List ProcessorCall) :
    givenSpans invocation (a ++ b) = givenSpans invocation a ++ givenSpans invocation b :=
  List.flatMap_append

theorem givenSpans_eq_nil {invocation : Nat} {calls : List ProcessorCall}
    (h : ∀ call ∈ calls, call.spansFor invocation = []) : givenSpans invocation calls = [] :=
  List.flatMap_eq_nil_iff.2 h

@[simp] theorem queuedSpans_append (invocation : Nat) (a b : List InvokeEventDataWithSpans) :
    queuedSpans invocation (a ++ b) = queuedSpans invocation a ++ queuedSpans invocation b :=
  List.flatMap_append

theorem extendLastSpans_concat (spans : List ResourceSpans)
    (queue : List InvokeEventDataWithSpans) (e : InvokeEventDataWithSpans) :
    extendLastSpans spans (queue ++ [e]) = queue ++ [{ e with spans := e.spans ++ spans }] := by
  induction queue with
  | nil => rfl
  | cons first rest ih =>
    cases rest with
    | nil => rfl
    | cons second rest =>
      change first :: extendLastSpans spans (second :: rest ++ [e]) = _
      rw [ih]
      rfl

theorem arrivedSpans_concat (invocation : Nat) (s : TelemetryServiceState)
    (spans : List ResourceSpans)
    (arrivals : List (TelemetryServiceState × List ResourceSpans)) :
    arrivedSpans invocation (arrivals ++ [(s, spans)]) =
      arrivedSpans invocation arrivals ++ if s.spanTarget = invocation then spans else [] := by
  unfold arrivedSpans
  rw [List.filter_append, List.flatMap_append]
  by_cases htarget : s.spanTarget = invocation
  · rw [if_pos htarget, List.filter_cons_of_pos (by simpa using htarget), List.filter_nil,
      List.flatMap_singleton]
  · rw [if_neg htarget, List.filter_cons_of_neg (by simpa using htarget), List.filter_nil,
      List.flatMap_nil]

/-- The fields that say which spans wait for which invocation. -/
theorem waitingSpans_congr {s s' : TelemetryServiceState} (invocation : Nat)
    (hqueue : s'.invokeEventQueue = s.invokeEventQueue)
    (hbuffer : s'.functionSpansBuffer = s.functionSpansBuffer)
    (henqueued : s'.enqueued = s.enqueued) :
    s'.waitingSpans invocation = s.waitingSpans invocation := by
  unfold TelemetryServiceState.waitingSpans TelemetryServiceState.nextInvocation
  rw [hqueue, hbuffer, henqueued]

theorem waitingSpans_cons {s : TelemetryServiceState} {invocation : Nat}
    {e : InvokeEventDataWithSpans} {queue : List InvokeEventDataWithSpans}
    (hqueue : s.invokeEventQueue = e :: queue) :
    s.waitingSpans invocation =
      (if e.serial = invocation then s.functionSpansBuffer ++ e.spans else []) ++
        queuedSpans invocation queue := by
  unfold TelemetryServiceState.waitingSpans TelemetryServiceState.nextInvocation queuedSpans
  rw [hqueue, List.head?_cons, Option.map_some, Option.getD_some, List.flatMap_cons]
  by_cases heq : e.serial = invocation
  · rw [if_pos heq.symm, if_pos heq, if_pos heq, List.append_assoc]
  · rw [if_neg (Ne.symm heq), if_neg heq, if_neg heq, List.nil_append]

theorem waitingSpans_empty {s : TelemetryServiceState} {invocation : Nat}
    (hqueue : s.invokeEventQueue = []) :
    s.waitingSpans invocation = if invocation = s.enqueued then s.functionSpansBuffer else [] := by
  unfold TelemetryServiceState.waitingSpans TelemetryServiceState.nextInvocation queuedSpans
  rw [hqueue, List.flatMap_nil, List.append_nil]
  rfl

/-! ## The invariant -/

/-- What every invocation has been given and what waits for it is what has arrived for it. -/
def SpansAttributed (arrived : List (TelemetryServiceState × List ResourceSpans))
    (s : TelemetryServiceState) : Prop :=
  ∀ invocation, givenSpans invocation s.trace ++ s.waitingSpans invocation =
    arrivedSpans invocation arrived

namespace SpansAttributed

variable {arrived : List (TelemetryServiceState × List ResourceSpans)}
  {s s' : TelemetryServiceState}

theorem congr (h : SpansAttributed arrived s)
    (hgiven : ∀ invocation, givenSpans invocation s'.trace = givenSpans invocation s.trace)
    (hqueue : s'.invokeEventQueue = s.invokeEventQueue)
    (hbuffer : s'.functionSpansBuffer = s.functionSpansBuffer)
    (henqueued : s'.enqueued = s.enqueued) : SpansAttributed arrived s' := by
  intro invocation
  rw [hgiven, waitingSpans_congr invocation hqueue hbuffer henqueued]
  exact h invocation

/-- The next invocation is given what has waited for it. -/
theorem create (h : SpansAttributed arrived s) {e : InvokeEventDataWithSpans}
    {queue : List InvokeEventDataWithSpans} (hqueue : s.invokeEventQueue = e :: queue)
    (htrace : s'.trace = s.trace ++ [.created e.serial,
      .functionSpans e.serial s.functionSpansBuffer, .functionSpans e.serial e.spans])
    (hqueue' : s'.invokeEventQueue = queue) (hbuffer : s'.functionSpansBuffer = []) :
    SpansAttributed arrived s' := by
  intro invocation
  have hgiven : givenSpans invocation s'.trace = givenSpans invocation s.trace ++
      if e.serial = invocation then s.functionSpansBuffer ++ e.spans else [] := by
    rw [htrace, givenSpans_append]
    by_cases heq : e.serial = invocation
    · simp [givenSpans, ProcessorCall.spansFor, heq]
    · simp [givenSpans, ProcessorCall.spansFor, heq]
  have hwaiting : s'.waitingSpans invocation = queuedSpans invocation queue := by
    unfold TelemetryServiceState.waitingSpans
    rw [hbuffer, hqueue', ite_self, List.nil_append]
  rw [hgiven, hwaiting, List.append_assoc, ← waitingSpans_cons hqueue]
  exact h invocation

/-- A new invoke event has no spans, and the buffer waits for it if no other one is queued. -/
theorem enqueue (h : SpansAttributed arrived s) (e : InvokeEvent)
    (functionContext : FunctionContext) :
    SpansAttributed arrived (pushInvokeEvent e functionContext s) := by
  intro invocation
  have hnext : (pushInvokeEvent e functionContext s).nextInvocation = s.nextInvocation := by
    unfold TelemetryServiceState.nextInvocation pushInvokeEvent
    cases s.invokeEventQueue <;> rfl
  have hqueued : queuedSpans invocation (pushInvokeEvent e functionContext s).invokeEventQueue =
      queuedSpans invocation s.invokeEventQueue := by
    unfold pushInvokeEvent
    rw [queuedSpans_append]
    simp [queuedSpans]
  have hwaiting : (pushInvokeEvent e functionContext s).waitingSpans invocation =
      s.waitingSpans invocation := by
    unfold TelemetryServiceState.waitingSpans
    rw [hnext, hqueued]
    rfl
  rw [hwaiting]
  exact h invocation

/-- The spans that have arrived are for the target. -/
theorem receive (h : SpansAttributed arrived s) {spans : List ResourceSpans}
    (hreceived : ∀ invocation, givenSpans invocation s'.trace ++ s'.waitingSpans invocation =
      givenSpans invocation s.trace ++ s.waitingSpans invocation ++
        if s.spanTarget = invocation then spans else []) :
    SpansAttributed (arrived ++ [(s, spans)]) s' := by
  intro invocation
  rw [hreceived, h invocation, arrivedSpans_concat]

/-- The spans wait in the last invoke event of the queue. -/
theorem receive_queued (h : SpansAttributed arrived s) {spans : List ResourceSpans}
    {queue : List InvokeEventDataWithSpans} {e : InvokeEventDataWithSpans}
    (hqueue : s.invokeEventQueue = queue ++ [e]) (htarget : s.spanTarget = e.serial)
    (htrace : s'.trace = s.trace)
    (hqueue' : s'.invokeEventQueue = queue ++ [{ e with spans := e.spans ++ spans }])
    (hbuffer : s'.functionSpansBuffer = s.functionSpansBuffer) :
    SpansAttributed (arrived ++ [(s, spans)]) s' := by
  apply h.receive
  intro invocation
  have hnext : s'.nextInvocation = s.nextInvocation := by
    unfold TelemetryServiceState.nextInvocation
    rw [hqueue', hqueue]
    cases queue <;> rfl
  have hqueued : queuedSpans invocation s'.invokeEventQueue =
      queuedSpans invocation s.invokeEventQueue ++
        if s.spanTarget = invocation then spans else [] := by
    rw [hqueue', hqueue, queuedSpans_append, queuedSpans_append, htarget, List.append_assoc]
    refine congrArg _ ?_
    by_cases heq : e.serial = invocation
    · simp [queuedSpans, heq]
    · simp [queuedSpans, heq]
  unfold TelemetryServiceState.waitingSpans
  rw [htrace, hnext, hbuffer, hqueued]
  simp only [List.append_assoc]

/-- The current invocation is given the spans, and none wait for it. -/
theorem receive_current (h : SpansAttributed arrived s) {spans : List ResourceSpans} {current : Nat}
    (hqueue : s.invokeEventQueue = []) (htarget : s.spanTarget = current)
    (hlast : s.enqueued = current + 1)
    (htrace : s'.trace = s.trace ++ [.functionSpans current spans])
    (hqueue' : s'.invokeEventQueue = s.invokeEventQueue)
    (hbuffer : s'.functionSpansBuffer = s.functionSpansBuffer)
    (henqueued : s'.enqueued = s.enqueued) : SpansAttributed (arrived ++ [(s, spans)]) s' := by
  apply h.receive
  intro invocation
  rw [waitingSpans_congr invocation hqueue' hbuffer henqueued, waitingSpans_empty hqueue, htrace,
    givenSpans_append, htarget]
  by_cases heq : current = invocation
  · have hne : ¬ invocation = s.enqueued := by omega
    simp [givenSpans, ProcessorCall.spansFor, heq, hne]
  · simp [givenSpans, ProcessorCall.spansFor, heq]

/-- The spans wait for the next invocation, which is not queued yet. -/
theorem receive_waiting (h : SpansAttributed arrived s) {spans : List ResourceSpans}
    (hqueue : s.invokeEventQueue = []) (htarget : s.spanTarget = s.enqueued)
    (htrace : s'.trace = s.trace) (hqueue' : s'.invokeEventQueue = [])
    (hbuffer : s'.functionSpansBuffer = s.functionSpansBuffer ++ spans)
    (henqueued : s'.enqueued = s.enqueued) : SpansAttributed (arrived ++ [(s, spans)]) s' := by
  apply h.receive
  intro invocation
  rw [waitingSpans_empty hqueue', waitingSpans_empty hqueue, htrace, htarget, henqueued, hbuffer]
  by_cases heq : s.enqueued = invocation
  · rw [if_pos heq, if_pos heq.symm, if_pos heq.symm, List.append_assoc]
  · rw [if_neg heq, if_neg (Ne.symm heq), if_neg (Ne.symm heq), List.append_nil,
      List.append_nil]

end SpansAttributed

section

variable [External] {config : TelemetryServiceConfig} {requests : List InvokeEvent}
  {arrived : List (TelemetryServiceState × List ResourceSpans)} {s s' : TelemetryServiceState}

omit [External] in
theorem Acquired.spansAttributed [External] {o : Outcome (Option InvocationProcessingState)}
    (h : Acquired config s o) (haccepted : ∀ k, .rejected k ∉ o.1.trace)
    (hs : SpansAttributed arrived s) : SpansAttributed arrived o.1 := by
  cases h with
  | current => exact hs
  | nothing => exact hs
  | created e queue state out rng hnone hqueue fresh => exact hs.create hqueue rfl rfl rfl
  | rejected e queue rng error hnone hqueue =>
    exact absurd (List.mem_append_right _ (List.mem_singleton_self _)) (haccepted e.serial)

/-- Handling an event gives no spans to any invocation. -/
theorem Handled.givenSpans_eq {state : InvocationProcessingState} {event : LambdaTelemetry}
    {o : Outcome Bool} (h : Handled config state event s o) (invocation : Nat) :
    givenSpans invocation o.1.trace = givenSpans invocation s.trace := by
  have without {calls : List ProcessorCall}
      (hcalls : ∀ call ∈ calls, call.spansFor invocation = []) :
      givenSpans invocation (s.trace ++ calls) = givenSpans invocation s.trace := by
    rw [givenSpans_append, givenSpans_eq_nil hcalls, List.append_nil]
  have mapped {call : LambdaTelemetry → ProcessorCall}
      (hcall : ∀ event, (call event).spansFor invocation = []) (events : List LambdaTelemetry) :
      ∀ c ∈ events.map call, c.spansFor invocation = [] := by
    intro c hc
    obtain ⟨event, -, rfl⟩ := List.mem_map.1 hc
    exact hcall event
  have called {call : LambdaTelemetry → ProcessorCall}
      (hcall : ∀ event, (call event).spansFor invocation = []) (events : List LambdaTelemetry) :
      ∀ c ∈ callsFor call events, c.spansFor invocation = [] := by
    intro c hc
    rcases mem_callsFor hc with ⟨event, -, rfl | rfl⟩
    · exact hcall event
    · rfl
  cases h with
  | buffered => rfl
  | restarted => exact without (mapped (fun _ => rfl) _)
  | restartFailed => exact without (called (fun _ => rfl) _)
  | replayed => exact without (mapped (fun _ => rfl) _)
  | replayFailed => exact without (called (fun _ => rfl) _)
  | processed => exact without (by simp [ProcessorCall.spansFor])
  | concluded => exact without (by simp [ProcessorCall.spansFor])
  | failed => exact without (by simp [ProcessorCall.spansFor])

theorem Received.spansAttributed {spans : List ResourceSpans} (h : Received config spans s s')
    (enrolled : Enrolled requests s) (haccepted : ∀ k, .rejected k ∉ s'.trace)
    (hs : SpansAttributed arrived s) : SpansAttributed (arrived ++ [(s, spans)]) s' := by
  cases h with
  | queued hqueue =>
    have hlast := (List.dropLast_append_getLast hqueue).symm
    refine hs.receive_queued hlast (enrolled.spanTarget_queued hlast) rfl ?_ rfl
    exact (congrArg (extendLastSpans spans) hlast).trans (extendLastSpans_concat spans _ _)
  | processed state state' out hqueue hstate hdone =>
    exact hs.receive_current hqueue (enrolled.spanTarget_current hqueue hstate hdone)
      (enrolled.current_serial hqueue hstate) rfl rfl rfl rfl
  | waiting hqueue hstate =>
    exact hs.receive_waiting hqueue (enrolled.spanTarget_waiting haccepted hqueue hstate) rfl hqueue
      rfl rfl

theorem spansAttributed_invariant :
    InvariantUnder config (fun h s => Enrolled h.requests s)
      (fun h s => (∀ k, .rejected k ∉ s.trace) → SpansAttributed h.spans s) where
  start now _ invocation := by
    rw [waitingSpans_empty rfl]
    exact ite_self _
  core {h s s'} _ hs hcore := by
    intro haccepted
    have same := SameCore.of_core hcore
    rw [same.trace] at haccepted
    apply (hs haccepted).congr _ same.invokeEventQueue same.functionSpansBuffer same.enqueued
    intro invocation
    rw [same.trace]
  acquired {h s o} _ hs acquired := by
    intro haccepted
    refine acquired.spansAttributed haccepted (hs fun k hk => ?_)
    exact haccepted k (acquired.trace_grows.subset hk)
  handled {h s state event queue o} _ hs hstate hqueue handled := by
    intro haccepted
    have hgiven := handled.givenSpans_eq
    have hbefore := hs fun k hk => haccepted k (handled.trace_grows.subset hk)
    cases handled.proceeds hstate with
    | on state' calls progressed =>
      exact hbefore.congr hgiven progressed.queue progressed.functionSpans progressed.enqueued
    | off logs event progressed =>
      exact hbefore.congr hgiven progressed.queue progressed.functionSpans progressed.enqueued
  enqueued e functionContext _ hs haccepted := (hs haccepted).enqueue e functionContext
  accepted _ _ hs haccepted := (hs haccepted).congr (fun _ => rfl) rfl rfl rfl
  received {h s spans s'} enrolled hs received := by
    intro haccepted
    refine received.spansAttributed enrolled haccepted (hs fun k hk => ?_)
    exact haccepted k (received.trace_grows.subset hk)
  metrics _ _ _ hs haccepted := (hs haccepted).congr (fun _ => rfl) rfl rfl rfl
  sent {h s} functionContext _ hs := by
    intro haccepted
    obtain ⟨_, _, _, -, heq⟩ := @sendTelemetry_state config s functionContext
    rw [heq] at haccepted ⊢
    exact (hs haccepted).congr (fun _ => rfl) rfl rfl rfl

/-- The function spans given to an invocation, followed by those that wait for it, are the spans
that have arrived for it, in every run without a shutdown in which no invoke event is dropped. A
RuntimeDone counts for the invocation with whose state it has been processed. -/
theorem function_spans_attributed {now : Nat} {actions : List Action} {service : TelemetryService}
    (hrun : serviceRun config now actions = some service)
    (hshutdown : ∀ a ∈ actions, a.isShutdown = false)
    (haccepted : ∀ k, .rejected k ∉ service.state.trace) (invocation : Nat) :
    givenSpans invocation service.state.trace ++ service.state.waitingSpans invocation =
      arrivedSpans invocation
        (arrivals (Machine.trail (serviceStep config) (.new config now) actions)) := by
  have hrunning := (serviceRun_settled hrun hshutdown).1
  obtain ⟨h, hist, -, -, hs⟩ :=
    ((spansAttributed_invariant.and enrolled_invariant).run hrun).resolve_left hrunning
  rw [← hist.spans]
  exact hs haccepted invocation

end

/-- An OTLP export without spans, under a name. -/
def namedExport (name : String) : Action := .otlpSpans ⟨0, 0, 0⟩ [⟨none, [], name⟩]

/-- Exports before the first invocation, during it, after its RuntimeDone, and when the second
invocation is queued. -/
def attributedActions : List Action :=
  [namedExport "before", .invoke (sampleInvoke "r1") sampleContext, .handler 0, .handler 0,
    .handler 0, .handler 0, namedExport "during",
    sampleTelemetry [sampleInitStart 1, sampleStart 2 "r1", sampleRuntimeDone 3 "r1"],
    namedExport "after", .invoke (sampleInvoke "r2") sampleContext, .handler 0, .handler 0,
    .handler 0, namedExport "queued"]

theorem function_spans_attributed_two_requests :
    let config := sampleConfig .lowOverhead .otelInstrumentation
    ∃ service, @serviceRun sampleExternal config 0 attributedActions = some service ∧
      (givenSpans 0 service.state.trace).map (·.schemaUrl) = ["before", "during"] ∧
      (service.state.waitingSpans 1).map (·.schemaUrl) = ["after", "queued"] ∧
      ∀ invocation, givenSpans invocation service.state.trace ++
          service.state.waitingSpans invocation =
        arrivedSpans invocation (arrivals (Machine.trail (@serviceStep sampleExternal config)
          (TelemetryService.new config 0) attributedActions)) := by
  intro config
  obtain ⟨service, hrun, haccepted, hgiven, hwaiting⟩ := @exists_run sampleExternal config 0
    attributedActions
    (fun service => (∀ call ∈ service.state.trace, call.isFailure = false) ∧
      (givenSpans 0 service.state.trace).map (·.schemaUrl) = ["before", "during"] ∧
      (service.state.waitingSpans 1).map (·.schemaUrl) = ["after", "queued"]) _ (by decide +kernel)
  refine ⟨service, hrun, hgiven, hwaiting, ?_⟩
  refine @function_spans_attributed sampleExternal config 0 attributedActions service hrun
    (by decide) fun k hk => ?_
  have hfailure := haccepted _ hk
  cases hfailure

end TelemetryExporter
