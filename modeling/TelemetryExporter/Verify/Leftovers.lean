import Mathlib.Data.List.Induction
import TelemetryExporter.Verify.Accounting
import TelemetryExporter.Verify.Invocations
import TelemetryExporter.Verify.Progress

/-!
# Leftover telemetry of a crashed predecessor

Before the start of the first request, the stream may have events of requests that an earlier
instance of the function has handled. Those before the last `PlatformInitStart` are processed in
degraded mode. Those after it are replayed into the first invocation.
-/

namespace TelemetryExporter

/-! ## The stream -/

/-- Whether the event is about another request. -/
def LambdaTelemetry.isForeign (requestId : String) (event : LambdaTelemetry) : Bool :=
  event.requestId.any fun id => id ≠ requestId

/-- A telemetry stream of a request that may begin with events of other requests. `initStart` is
that of the current instance: the last one. -/
structure CrashStream (requestId : String) where
  earlier : List LambdaTelemetry
  initStart : LambdaTelemetry
  sinceInitStart : List LambdaTelemetry
  start : LambdaTelemetry
  logs : List LambdaTelemetry
  runtimeDone : LambdaTelemetry
  laterLogs : List LambdaTelemetry
  report : LambdaTelemetry
  isInitStart : initStart.isInitStart = true
  isLast : ∀ e ∈ sinceInitStart, e.isInitStart = false
  others : ∀ e ∈ earlier ++ sinceInitStart, e.requestId ≠ some requestId
  isStart : start.isStartOf requestId = true
  isFunction : ∀ e ∈ logs ++ laterLogs, e.isFunction = true
  isRuntimeDone : runtimeDone.isRuntimeDone = true ∧ runtimeDone.requestId = some requestId
  isReport : report.isReport = true ∧ report.requestId = some requestId

namespace CrashStream

variable {requestId : String}

/-- The events before the start. -/
def before (stream : CrashStream requestId) : List LambdaTelemetry :=
  stream.earlier ++ stream.initStart :: stream.sinceInitStart

/-- The events after the start. -/
def after (stream : CrashStream requestId) : List LambdaTelemetry :=
  stream.logs ++ stream.runtimeDone :: (stream.laterLogs ++ [stream.report])

/-- The events, in order. -/
def events (stream : CrashStream requestId) : List LambdaTelemetry :=
  stream.before ++ stream.start :: stream.after

/-- No event about another request lies between the last `PlatformInitStart` and the start. -/
def CleanInit (stream : CrashStream requestId) : Prop :=
  ∀ e ∈ stream.sinceInitStart, e.isForeign requestId = false

end CrashStream

/-- An invocation is concluded only after the request's own report has been processed with its
state. -/
def ConcludedByReport (requestId : String) (trace : List ProcessorCall) : Prop :=
  ∀ k logs before, before ++ [.concluded k logs] <+: trace →
    ∃ e, .telemetry k e ∈ before ∧ e.isReport = true ∧ e.requestId = some requestId

/-- Events about other requests are processed in degraded mode only. -/
def DegradedOnly (requestId : String) (trace : List ProcessorCall) : Prop :=
  ∀ call ∈ trace, ∀ e, call.event = some e → e.isForeign requestId = true →
    call = .degraded e ∨ call = .failed e

/-- What leftover telemetry must not do: the state of an invocation stays the current one until the
request's own report has been processed with it, and events about other requests are processed in
degraded mode only. -/
structure Uncorrupted (requestId : String) (s : TelemetryServiceState) : Prop where
  staysCurrent : ∀ k, .created k ∈ s.trace →
    Concluded s.trace k ∨ ∃ state, s.invocationState = some state ∧ state.serial = k
  concludedByReport : ConcludedByReport requestId s.trace
  degradedOnly : DegradedOnly requestId s.trace

/-! ## Harmless remainders -/

/-- A `PlatformInitStart` comes before any start of the request. -/
def Restarts (requestId : String) : List LambdaTelemetry → Prop
  | [] => False
  | e :: es => e.isInitStart = true ∨ e.isStartOf requestId = false ∧ Restarts requestId es

/-- Every event about another request comes before a `PlatformInitStart` that comes before the start
of the request. -/
def Harmless (requestId : String) : List LambdaTelemetry → Prop
  | [] => True
  | e :: es => (e.isForeign requestId = true → Restarts requestId es) ∧
      (e.isStartOf requestId = true → ∀ x ∈ es, x.isForeign requestId = false) ∧
      Harmless requestId es

section

variable {requestId : String}

theorem LambdaTelemetry.isForeign_eq_false {e : LambdaTelemetry}
    (h : e.requestId = some requestId ∨ e.requestId = none) : e.isForeign requestId = false := by
  rcases h with h | h <;> simp [LambdaTelemetry.isForeign, h]

theorem LambdaTelemetry.requestId_of_isStartOf {e : LambdaTelemetry}
    (h : e.isStartOf requestId = true) : e.requestId = some requestId := by
  unfold LambdaTelemetry.isStartOf at h
  unfold LambdaTelemetry.requestId
  split at h
  · next heq =>
    rw [heq]
    simpa using h
  · cases h

theorem LambdaTelemetry.not_isStartOf {e : LambdaTelemetry}
    (h : e.requestId ≠ some requestId) : e.isStartOf requestId = false := by
  by_contra hstart
  exact h (LambdaTelemetry.requestId_of_isStartOf (by simpa using hstart))

theorem LambdaTelemetry.isForeign_of_report {e : LambdaTelemetry} (h : e.isReport = true)
    (hne : e.requestId ≠ some requestId) : e.isForeign requestId = true := by
  unfold LambdaTelemetry.isReport at h
  split at h
  · next id _ _ _ _ _ heq =>
    have hid : e.requestId = some id := by
      unfold LambdaTelemetry.requestId
      rw [heq]
    rw [hid, ne_eq, Option.some.injEq] at hne
    simp [LambdaTelemetry.isForeign, hid, hne]
  · cases h

theorem LambdaTelemetry.isInitStart_not_start {e : LambdaTelemetry} (h : e.isInitStart = true) :
    e.isStartOf requestId = false := by
  unfold LambdaTelemetry.isInitStart at h
  unfold LambdaTelemetry.isStartOf
  split at h
  · next heq => rw [heq]
  · cases h

theorem LambdaTelemetry.requestId_of_isFunction {e : LambdaTelemetry} (h : e.isFunction = true) :
    e.requestId = none := by
  unfold LambdaTelemetry.isFunction at h
  unfold LambdaTelemetry.requestId
  split at h
  · next heq => rw [heq]
  · cases h

theorem LambdaTelemetry.requestId_of_isInitStart {e : LambdaTelemetry}
    (h : e.isInitStart = true) : e.requestId = none := by
  unfold LambdaTelemetry.isInitStart at h
  unfold LambdaTelemetry.requestId
  split at h
  · next heq => rw [heq]
  · cases h

theorem Harmless.suffix {a b : List LambdaTelemetry} (h : Harmless requestId (a ++ b)) :
    Harmless requestId b := by
  induction a with
  | nil => exact h
  | cons e a ih => exact ih h.2.2

theorem restarts_append {a b : List LambdaTelemetry} {i : LambdaTelemetry}
    (ha : ∀ e ∈ a, e.isStartOf requestId = false) (hi : i.isInitStart = true) :
    Restarts requestId (a ++ i :: b) := by
  induction a with
  | nil => exact .inl hi
  | cons e a ih =>
    exact .inr ⟨ha e List.mem_cons_self, ih fun x hx => ha x (List.mem_cons_of_mem _ hx)⟩

theorem not_restarts_append {a b : List LambdaTelemetry} {start : LambdaTelemetry}
    (ha : ∀ e ∈ a, e.isInitStart = false) (hstart : start.isStartOf requestId = true) :
    ¬ Restarts requestId (a ++ start :: b) := by
  induction a with
  | nil =>
    rintro (h | ⟨h, -⟩)
    · rw [LambdaTelemetry.isInitStart_not_start h] at hstart
      cases hstart
    · rw [hstart] at h
      cases h
  | cons e a ih =>
    rintro (h | ⟨-, h⟩)
    · rw [ha e List.mem_cons_self] at h
      cases h
    · exact ih (fun x hx => ha x (List.mem_cons_of_mem _ hx)) h

/-- At the start of the request nothing foreign is left, neither in the buffer nor behind it. -/
theorem Harmless.at_start {a b : List LambdaTelemetry} {start : LambdaTelemetry}
    (h : Harmless requestId (a ++ start :: b)) (ha : ∀ e ∈ a.tail, e.isInitStart = false)
    (hstart : start.isStartOf requestId = true) :
    (∀ e ∈ a, e.isForeign requestId = false) ∧
      ∀ e ∈ start :: b, e.isForeign requestId = false := by
  constructor
  · induction a with
    | nil => simp
    | cons e a ih =>
      have hforeign : e.isForeign requestId = false := by
        by_contra hne
        exact not_restarts_append ha hstart (h.1 (by simpa using hne))
      have htail : ∀ x ∈ a.tail, x.isInitStart = false :=
        fun x hx => ha x (List.mem_of_mem_tail hx)
      intro x hx
      rcases List.mem_cons.1 hx with rfl | hx
      · exact hforeign
      · exact ih h.2.2 htail x hx
  · have hrest := h.suffix.2.1 hstart
    intro x hx
    rcases List.mem_cons.1 hx with rfl | hx
    · exact LambdaTelemetry.isForeign_eq_false (.inl (LambdaTelemetry.requestId_of_isStartOf hstart))
    · exact hrest x hx

end

/-! ## The trace -/

section

variable {requestId : String} {trace calls : List ProcessorCall}

theorem ConcludedByReport.append (h : ConcludedByReport requestId trace)
    (hcalls : ∀ call ∈ calls, ∀ k logs, call ≠ .concluded k logs) :
    ConcludedByReport requestId (trace ++ calls) := by
  induction calls using List.reverseRecOn with
  | nil => simpa using h
  | append_singleton calls call ih =>
    have ih := ih fun c hc => hcalls c (List.mem_append_left _ hc)
    have hcall := hcalls call (List.mem_append_right _ (List.mem_singleton_self call))
    intro k logs before hpre
    rw [← List.append_assoc, List.prefix_concat_iff] at hpre
    rcases hpre with heq | hpre
    · obtain ⟨-, hlast⟩ := List.append_inj' heq rfl
      exact absurd (List.singleton_inj.1 hlast).symm (hcall k logs)
    · exact ih k logs before hpre

theorem ConcludedByReport.conclude {k : Nat} {logs : List RawFunctionLog}
    (h : ConcludedByReport requestId trace)
    (hreport : ∃ e, .telemetry k e ∈ trace ∧ e.isReport = true ∧ e.requestId = some requestId) :
    ConcludedByReport requestId (trace ++ [.concluded k logs]) := by
  intro k' logs' before hpre
  rw [List.prefix_concat_iff] at hpre
  rcases hpre with heq | hpre
  · obtain ⟨rfl, hlast⟩ := List.append_inj' heq rfl
    rw [List.singleton_inj, ProcessorCall.concluded.injEq] at hlast
    rw [hlast.1]
    exact hreport
  · exact h k' logs' before hpre

theorem DegradedOnly.append (h : DegradedOnly requestId trace)
    (hcalls : DegradedOnly requestId calls) : DegradedOnly requestId (trace ++ calls) := by
  intro call hcall
  rcases List.mem_append.1 hcall with hcall | hcall
  · exact h call hcall
  · exact hcalls call hcall

theorem degradedOnly_of_no_event (h : ∀ call ∈ calls, call.event = none) :
    DegradedOnly requestId calls := by
  intro call hcall e he
  rw [h call hcall] at he
  cases he

/-- The calls for a list of events, none of which is about another request. -/
theorem callsFor_telemetry_degradedOnly {invocation : Nat} {events : List LambdaTelemetry}
    (h : ∀ e ∈ events, e.isForeign requestId = false) :
    DegradedOnly requestId (callsFor (.telemetry invocation) events) := by
  intro call hcall e he hforeign
  rcases mem_callsFor hcall with ⟨event, hmem, rfl | rfl⟩
  · simp only [ProcessorCall.event, Option.some.injEq] at he
    rw [← he, h event hmem] at hforeign
    cases hforeign
  · simp only [ProcessorCall.event, Option.some.injEq] at he
    exact .inr (he ▸ rfl)

theorem telemetry_degradedOnly {invocation : Nat} {event : LambdaTelemetry}
    (h : event.isForeign requestId = false) :
    DegradedOnly requestId [.telemetry invocation event] := by
  intro call hcall e he hforeign
  rw [List.mem_singleton] at hcall
  subst hcall
  simp only [ProcessorCall.event, Option.some.injEq] at he
  rw [← he, h] at hforeign
  cases hforeign

theorem callsFor_degraded_degradedOnly {events : List LambdaTelemetry} :
    DegradedOnly requestId (callsFor .degraded events) := by
  intro call hcall e he hforeign
  rcases mem_callsFor hcall with ⟨event, -, rfl | rfl⟩
  · simp only [ProcessorCall.event, Option.some.injEq] at he
    exact .inl (he ▸ rfl)
  · simp only [ProcessorCall.event, Option.some.injEq] at he
    exact .inr (he ▸ rfl)

theorem callsFor_not_concluded (call : LambdaTelemetry → ProcessorCall)
    (h : ∀ e k logs, call e ≠ .concluded k logs) (events : List LambdaTelemetry) :
    ∀ c ∈ callsFor call events, ∀ k logs, c ≠ .concluded k logs := by
  intro c hc k logs hcall
  rcases mem_callsFor hc with ⟨event, -, rfl | rfl⟩
  · exact h event k logs hcall
  · cases hcall

end

/-! ## The invariant -/

/-- With only `rest` still to come, no event about another request can reach an invocation. -/
structure Shielded (requestId : String) (rest : List LambdaTelemetry) (s : TelemetryServiceState) :
    Prop where
  pending : s.initHandled = false →
    Harmless requestId (s.halfProcessedEventBuffer ++ (s.telemetryEventQueue ++ rest))
  noRestart : s.initHandled = false →
    ∀ e ∈ s.halfProcessedEventBuffer.tail, e.isInitStart = false
  clean : s.initHandled = true → ∀ e ∈ s.telemetryEventQueue ++ rest, e.isForeign requestId = false
  concludedByReport : ConcludedByReport requestId s.trace
  degradedOnly : DegradedOnly requestId s.trace

section

variable [External] {config : TelemetryServiceConfig} {requestId : String}
  {rest : List LambdaTelemetry} {s s' : TelemetryServiceState}

theorem Handled.shielded {state : InvocationProcessingState} {event : LambdaTelemetry}
    {queue : List LambdaTelemetry} {o : Outcome Bool}
    (h : Handled config state event { s with telemetryEventQueue := queue } o)
    (hqueue : s.telemetryEventQueue = event :: queue)
    (hid : state.invocationContext.requestId = requestId)
    (hreport : state.reportData.isSome = true →
      Processed LambdaTelemetry.isReport s.trace state.serial)
    (hs : Shielded requestId rest s) : Shielded requestId rest o.1 := by
  obtain ⟨pending, noRestart, clean, concludedByReport, degradedOnly⟩ := hs
  rw [hqueue] at pending clean
  cases h with
  | buffered hinit hevent hstart =>
    have handled : s.initHandled ≠ true := by
      rw [show s.initHandled = false from hinit]
      exact Bool.false_ne_true
    refine ⟨fun _ => ?_, fun _ e he => ?_, fun h => absurd h handled, concludedByReport,
      degradedOnly⟩
    · simpa [TelemetryServiceState.bufferEvent] using pending hinit
    · simp only [TelemetryServiceState.bufferEvent] at he
      cases hhalf : s.halfProcessedEventBuffer with
      | nil => simp [hhalf] at he
      | cons first more =>
        rw [hhalf, List.cons_append, List.tail_cons, List.mem_append, List.mem_singleton] at he
        rcases he with he | rfl
        · exact noRestart hinit e (by rwa [hhalf])
        · exact hevent
  | restarted m out rng hinit hevent htimes =>
    have handled : s.initHandled ≠ true := by
      rw [show s.initHandled = false from hinit]
      exact Bool.false_ne_true
    have hcalls : callsFor .degraded s.halfProcessedEventBuffer = _ :=
      callsFor_of_timestamps htimes
    refine ⟨fun _ => ?_, fun _ e he => (by cases he), fun h => absurd h handled,
      concludedByReport.append ?_, degradedOnly.append ?_⟩
    · exact (pending hinit).suffix
    · rw [← hcalls]
      exact callsFor_not_concluded .degraded (fun _ _ _ h => by cases h) _
    · rw [← hcalls]
      exact callsFor_degraded_degradedOnly
  | restartFailed m out rng e hinit hevent hfailed =>
    have handled : s.initHandled ≠ true := by
      rw [show s.initHandled = false from hinit]
      exact Bool.false_ne_true
    refine ⟨fun _ => ?_, fun _ e he => (by cases he), fun h => absurd h handled,
      concludedByReport.append (callsFor_not_concluded .degraded (fun _ _ _ h => by cases h) _),
      degradedOnly.append callsFor_degraded_degradedOnly⟩
    exact (pending hinit).suffix.2.2
  | replayed state' m out rng hinit hstarted hevent htimes carries =>
    obtain ⟨hhalf, hrest⟩ := (pending hinit).at_start (noRestart hinit) (hid ▸ hevent)
    have hcalls : callsFor (.telemetry state.serial) s.halfProcessedEventBuffer = _ :=
      callsFor_of_timestamps htimes
    refine ⟨fun h => (by cases h), fun h => (by cases h), fun _ => hrest,
      concludedByReport.append ?_, degradedOnly.append ?_⟩
    · rw [← hcalls]
      exact callsFor_not_concluded (.telemetry state.serial) (fun _ _ _ h => by cases h) _
    · rw [← hcalls]
      exact callsFor_telemetry_degradedOnly hhalf
  | replayFailed state' m out rng e hinit hstarted hevent hfailed carries =>
    obtain ⟨hhalf, hrest⟩ := (pending hinit).at_start (noRestart hinit) (hid ▸ hevent)
    have hconcluded := callsFor_not_concluded (.telemetry state.serial)
      (fun _ _ _ h => by cases h) s.halfProcessedEventBuffer
    exact ⟨fun h => (by cases h), fun h => (by cases h), fun _ => hrest,
      concludedByReport.append hconcluded,
      degradedOnly.append (callsFor_telemetry_degradedOnly hhalf)⟩
  | processed state' m out rng hinit htime carries hreport' =>
    have unhandled : s.initHandled ≠ false := by
      intro h
      cases h.symm.trans hinit
    have hclean := clean hinit
    refine ⟨fun h => absurd h unhandled, fun h => absurd h unhandled,
      fun _ e he => hclean e (List.mem_cons_of_mem _ he), concludedByReport.append (by simp),
      degradedOnly.append ?_⟩
    exact telemetry_degradedOnly (hclean event List.mem_cons_self)
  | concluded state' m out rng hinit htime carries hreport' hlogs =>
    have unhandled : s.initHandled ≠ false := by
      intro h
      cases h.symm.trans hinit
    have hclean := clean hinit
    have hevent : event.isForeign requestId = false := hclean event List.mem_cons_self
    have htrace : DegradedOnly requestId (s.trace ++ [.telemetry state.serial event]) :=
      degradedOnly.append (telemetry_degradedOnly hevent)
    -- the report that concludes the invocation is not about another request
    have report : ∃ e, .telemetry state.serial e ∈ s.trace ++ [.telemetry state.serial event] ∧
        e.isReport = true ∧ e.requestId = some requestId := by
      have processed : Processed LambdaTelemetry.isReport
          (s.trace ++ [.telemetry state.serial event]) state.serial := by
        rw [report_append (by simp [ProcessorCall.IsFor])]
        rw [carries.reportData, Bool.or_eq_true] at hreport'
        exact hreport'.imp hreport id
      obtain ⟨e, hmem, he⟩ := processed
      refine ⟨e, hmem, he, ?_⟩
      by_contra hne
      have hforeign : e.isForeign requestId = true := LambdaTelemetry.isForeign_of_report he hne
      rcases htrace _ hmem e rfl hforeign with h | h <;> cases h
    refine ⟨fun h => absurd h unhandled, fun h => absurd h unhandled,
      fun _ e he => hclean e (List.mem_cons_of_mem _ he), ?_, ?_⟩
    · have : ConcludedByReport requestId (s.trace ++ [.telemetry state.serial event] ++
          [.concluded state.serial state'.logs]) := (concludedByReport.append (by simp)).conclude report
      rwa [List.append_assoc] at this
    · have : DegradedOnly requestId (s.trace ++ [.telemetry state.serial event] ++
          [.concluded state.serial state'.logs]) :=
        htrace.append (degradedOnly_of_no_event (by simp [ProcessorCall.event]))
      rwa [List.append_assoc] at this
  | failed e hinit =>
    have unhandled : s.initHandled ≠ false := by
      intro h
      cases h.symm.trans hinit
    refine ⟨fun h => absurd h unhandled, fun h => absurd h unhandled,
      fun _ e he => clean hinit e (List.mem_cons_of_mem _ he), concludedByReport.append (by simp),
      degradedOnly.append ?_⟩
    simp [DegradedOnly, ProcessorCall.event]

omit [External] in
theorem Shielded.congr (h : Shielded requestId rest s)
    (hhalf : s'.halfProcessedEventBuffer = s.halfProcessedEventBuffer)
    (hqueue : s'.telemetryEventQueue = s.telemetryEventQueue)
    (hinit : s'.initHandled = s.initHandled) (htrace : s'.trace = s.trace) :
    Shielded requestId rest s' := by
  obtain ⟨h₁, h₂, h₃, h₄, h₅⟩ := h
  refine ⟨?_, ?_, ?_, ?_, ?_⟩ <;> simpa only [hhalf, hqueue, hinit, htrace]

omit [External] in
/-- Calls that process no event and conclude nothing. -/
theorem Shielded.calls {calls : List ProcessorCall} (h : Shielded requestId rest s)
    (hhalf : s'.halfProcessedEventBuffer = s.halfProcessedEventBuffer)
    (hqueue : s'.telemetryEventQueue = s.telemetryEventQueue)
    (hinit : s'.initHandled = s.initHandled) (htrace : s'.trace = s.trace ++ calls)
    (hcalls : ∀ call ∈ calls, call.event = none ∧ ∀ k logs, call ≠ .concluded k logs) :
    Shielded requestId rest s' := by
  obtain ⟨pending, noRestart, clean, concludedByReport, degradedOnly⟩ := h
  refine ⟨?_, ?_, ?_, ?_, ?_⟩
  · simpa only [hhalf, hqueue, hinit]
  · simpa only [hhalf, hinit]
  · simpa only [hqueue, hinit]
  · rw [htrace]
    exact concludedByReport.append fun call hcall => (hcalls call hcall).2
  · rw [htrace]
    exact degradedOnly.append (degradedOnly_of_no_event fun call hcall => (hcalls call hcall).1)

omit [External] in
theorem Acquired.shielded [External] {o : Outcome (Option InvocationProcessingState)}
    (h : Acquired config s o) (hs : Shielded requestId rest s) : Shielded requestId rest o.1 := by
  cases h with
  | current => exact hs
  | nothing => exact hs
  | created => exact hs.calls rfl rfl rfl rfl (by simp [ProcessorCall.event])
  | rejected => exact hs.calls rfl rfl rfl rfl (by simp [ProcessorCall.event])

theorem Received.shielded {spans : List ResourceSpans} (h : Received config spans s s')
    (hs : Shielded requestId rest s) : Shielded requestId rest s' := by
  cases h with
  | queued => exact hs.congr rfl rfl rfl rfl
  | waiting => exact hs.congr rfl rfl rfl rfl
  | processed => exact hs.calls rfl rfl rfl rfl (by simp [ProcessorCall.event])

omit [External] in
/-- The whole stream, before anything of it has arrived. -/
theorem CrashStream.harmless (stream : CrashStream requestId) (h : stream.CleanInit) :
    Harmless requestId stream.events := by
  have notStart (e : LambdaTelemetry) (he : e ∈ stream.earlier ++ stream.sinceInitStart) :
      e.isStartOf requestId = false := LambdaTelemetry.not_isStartOf (stream.others e he)
  have hinit : stream.initStart.isStartOf requestId = false :=
    LambdaTelemetry.isInitStart_not_start stream.isInitStart
  have hafter : ∀ e ∈ stream.after, e.isForeign requestId = false := by
    intro e he
    simp only [after, List.mem_append, List.mem_cons, List.not_mem_nil, or_false] at he
    refine LambdaTelemetry.isForeign_eq_false ?_
    rcases he with he | rfl | he | rfl
    · exact .inr (LambdaTelemetry.requestId_of_isFunction
        (stream.isFunction e (List.mem_append_left _ he)))
    · exact .inl stream.isRuntimeDone.2
    · exact .inr (LambdaTelemetry.requestId_of_isFunction
        (stream.isFunction e (List.mem_append_right _ he)))
    · exact .inl stream.isReport.2
  have harmless_of_clean : ∀ es : List LambdaTelemetry, (∀ e ∈ es, e.isForeign requestId = false) →
      Harmless requestId es := by
    intro es hes
    induction es with
    | nil => trivial
    | cons e es ih =>
      have hmore : ∀ x ∈ es, x.isForeign requestId = false :=
        fun x hx => hes x (List.mem_cons_of_mem _ hx)
      refine ⟨fun hforeign => ?_, fun _ => hmore, ih hmore⟩
      rw [hes e List.mem_cons_self] at hforeign
      cases hforeign
  -- before the last `PlatformInitStart` everything is harmless: it is followed by one
  have earlier : ∀ (es rest : List LambdaTelemetry), (∀ e ∈ es, e.isStartOf requestId = false) →
      Harmless requestId (stream.initStart :: rest) →
      Harmless requestId (es ++ stream.initStart :: rest) := by
    intro es rest hes hrest
    induction es with
    | nil => exact hrest
    | cons e es ih =>
      have hmore : ∀ x ∈ es, x.isStartOf requestId = false :=
        fun x hx => hes x (List.mem_cons_of_mem _ hx)
      refine ⟨fun _ => restarts_append hmore stream.isInitStart, fun hstart => ?_, ih hmore⟩
      rw [hes e List.mem_cons_self] at hstart
      cases hstart
  have clean : ∀ e ∈ stream.initStart :: (stream.sinceInitStart ++ stream.start :: stream.after),
      e.isForeign requestId = false := by
    intro e he
    simp only [List.mem_cons, List.mem_append] at he
    rcases he with rfl | he | rfl | he
    · exact LambdaTelemetry.isForeign_eq_false
        (.inr (LambdaTelemetry.requestId_of_isInitStart stream.isInitStart))
    · exact h e he
    · exact LambdaTelemetry.isForeign_eq_false
        (.inl (LambdaTelemetry.requestId_of_isStartOf stream.isStart))
    · exact hafter e he
  rw [events, before, List.append_assoc]
  exact earlier _ _ (fun e he => notStart e (List.mem_append_left _ he))
    (harmless_of_clean _ clean)

theorem shielded_invariant (stream : CrashStream requestId) (hclean : stream.CleanInit) :
    InvariantUnder config (fun h s => Enrolled h.requests s) fun h s =>
      (∀ e ∈ h.requests, e.requestId = requestId) → ∀ rest, h.events ++ rest = stream.events →
        Shielded requestId rest s where
  start now _ rest hrest := by
    refine ⟨fun _ => ?_, ?_, ?_, ?_, ?_⟩
    · rw [show rest = stream.events from hrest]
      exact stream.harmless hclean
    · exact fun _ e he => by cases he
    · exact fun h => by cases h
    · exact fun k logs before h => by simp [TelemetryService.new] at h
    · exact fun call h => by cases h
  core {h s s'} _ hs hcore hids rest hrest := by
    have same := SameCore.of_core hcore
    exact (hs hids rest hrest).congr same.halfProcessedEventBuffer same.telemetryEventQueue
      same.initHandled same.trace
  acquired _ hs acquired hids rest hrest := acquired.shielded (hs hids rest hrest)
  handled {h s state event queue o} enrolled hs hstate hqueue handled hids rest hrest := by
    have hid : state.invocationContext.requestId = requestId := by
      obtain ⟨e, he, heq⟩ := List.mem_map.1 (List.mem_of_getElem? (enrolled.current state hstate).1)
      rw [← heq]
      exact hids e he
    exact handled.shielded hqueue hid (enrolled.report state hstate).1 (hs hids rest hrest)
  enqueued e functionContext _ hs hids rest hrest :=
    (hs (fun e he => hids e (List.mem_append_left _ he)) rest hrest).congr rfl rfl rfl rfl
  accepted {h s} events _ hs hids rest hrest := by
    have shielded := hs hids (events ++ rest) (by rw [← hrest, List.append_assoc])
    exact ⟨by simpa using shielded.pending, shielded.noRestart, by simpa using shielded.clean,
      shielded.concludedByReport, shielded.degradedOnly⟩
  received _ hs received hids rest hrest := received.shielded (hs hids rest hrest)
  metrics _ _ _ hs hids rest hrest := (hs hids rest hrest).congr rfl rfl rfl rfl
  sent {h s} functionContext _ hs hids rest hrest := by
    obtain ⟨_, _, _, -, heq⟩ := @sendTelemetry_state config s functionContext
    rw [heq]
    exact (hs hids rest hrest).congr rfl rfl rfl rfl

end

end TelemetryExporter
