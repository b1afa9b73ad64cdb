import TelemetryExporter.Verify.SpanOutput

/-!
# Logs and the invocation span

A log record gets the trace and span ids that are current when it is made. Delayed logs wait until
the ids of the invocation span are known.
-/

namespace TelemetryExporter

open Machine

/-! ## Current ids -/

/-- The ids of a captured span. -/
def SpanWithScope.ref (s : SpanWithScope) : SpanRef :=
  { traceId := s.span.traceId, spanId := s.span.spanId }

/-- The ids of the invocation context. -/
def InvocationContext.ref (context : InvocationContext) : SpanRef :=
  { traceId := context.traceId, spanId := context.invocationSpanId }

/-- The ids of the invocation span, or of the context. -/
def InvocationProcessingState.invocationRef (state : InvocationProcessingState) : SpanRef :=
  ((state.tracingState.cxInvocationSpan
    |>.or state.tracingState.cxEarlyInvocationSpan
    |>.or state.tracingState.genericInvocationSpan).map (·.ref)).getD state.invocationContext.ref

/-- The init phase is over, or there was none. -/
def InvocationProcessingState.initDone (state : InvocationProcessingState) : Prop :=
  state.initStartData.isSome = true → state.initReportData.isSome = true

theorem currentTraceId_eq (state : InvocationProcessingState) :
    state.currentTraceId = state.invocationRef.traceId := by
  unfold InvocationProcessingState.currentTraceId InvocationProcessingState.invocationSpan
    InvocationProcessingState.invocationRef
  cases (state.tracingState.cxInvocationSpan.or state.tracingState.cxEarlyInvocationSpan).or
    state.tracingState.genericInvocationSpan <;> rfl

theorem currentSpanId_eq {state : InvocationProcessingState} (h : state.initDone) :
    state.currentSpanId = state.invocationRef.spanId := by
  have hinit : ¬ (state.initStartData.isSome = true ∧ state.initReportData.isNone = true) := by
    intro hboth
    have hreport := h hboth.1
    cases hdata : state.initReportData with
    | none =>
      rw [hdata] at hreport
      cases hreport
    | some data =>
      rw [hdata] at hboth
      cases hboth.2
  unfold InvocationProcessingState.currentSpanId InvocationProcessingState.invocationSpan
    InvocationProcessingState.invocationRef
  rw [if_neg hinit]
  cases (state.tracingState.cxInvocationSpan.or state.tracingState.cxEarlyInvocationSpan).or
    state.tracingState.genericInvocationSpan <;> rfl

/-- Nothing that the current ids depend on has changed. -/
structure KeepsIds (p p' : Processing InvocationProcessingState) : Prop where
  tracingState : p'.state.tracingState = p.state.tracingState
  invocationContext : p'.state.invocationContext = p.state.invocationContext
  initSpanId : p'.state.initSpanId = p.state.initSpanId
  initStartData : p'.state.initStartData = p.state.initStartData
  initReportData : p'.state.initReportData = p.state.initReportData

/-- Logs with the ids of a state have been pushed. -/
def PushesWith (state : InvocationProcessingState) (p p' : Processing InvocationProcessingState) :
    Prop :=
  ∃ records, p'.outputBuffers.logsBuffer = p.outputBuffers.logsBuffer ++ records ∧
    ∀ record ∈ records, record.traceId = state.currentTraceId ∧ record.spanId = state.currentSpanId

section

variable [External] {config : TelemetryProcessorConfig}
  {state : InvocationProcessingState} {p p' q : Processing InvocationProcessingState}

namespace KeepsIds

omit [External] in
theorem refl (p : Processing InvocationProcessingState) : KeepsIds p p := ⟨rfl, rfl, rfl, rfl, rfl⟩

omit [External] in
theorem trans (h : KeepsIds p q) (h' : KeepsIds q p') : KeepsIds p p' :=
  ⟨h'.tracingState.trans h.tracingState, h'.invocationContext.trans h.invocationContext,
    h'.initSpanId.trans h.initSpanId, h'.initStartData.trans h.initStartData,
    h'.initReportData.trans h.initReportData⟩

omit [External] in
theorem symm (h : KeepsIds p p') : KeepsIds p' p :=
  ⟨h.tracingState.symm, h.invocationContext.symm, h.initSpanId.symm, h.initStartData.symm,
    h.initReportData.symm⟩

omit [External] in
theorem currentTraceId (h : KeepsIds p p') : p'.state.currentTraceId = p.state.currentTraceId := by
  unfold InvocationProcessingState.currentTraceId InvocationProcessingState.invocationSpan
  rw [h.tracingState, h.invocationContext]

omit [External] in
theorem currentSpanId (h : KeepsIds p p') : p'.state.currentSpanId = p.state.currentSpanId := by
  unfold InvocationProcessingState.currentSpanId InvocationProcessingState.invocationSpan
  rw [h.tracingState, h.invocationContext, h.initSpanId, h.initStartData, h.initReportData]

end KeepsIds

namespace PushesWith

omit [External] in
theorem none (h : p'.outputBuffers.logsBuffer = p.outputBuffers.logsBuffer) :
    PushesWith state p p' := by
  refine ⟨[], by rw [h, List.append_nil], fun record hrecord => ?_⟩
  cases hrecord

omit [External] in
theorem trans (h : PushesWith state p q) (h' : PushesWith state q p') : PushesWith state p p' := by
  obtain ⟨records, hlogs, hids⟩ := h
  obtain ⟨records', hlogs', hids'⟩ := h'
  refine ⟨records ++ records', by rw [hlogs', hlogs, List.append_assoc], fun record hrecord => ?_⟩
  rcases List.mem_append.1 hrecord with hrecord | hrecord
  · exact hids record hrecord
  · exact hids' record hrecord

omit [External] in
/-- The ids are those of a state with the same current ids. -/
theorem of_keeps {p₀ q₀ : Processing InvocationProcessingState} (hkeeps : KeepsIds p₀ q₀)
    (h : PushesWith q₀.state p p') : PushesWith p₀.state p p' := by
  obtain ⟨records, hlogs, hids⟩ := h
  refine ⟨records, hlogs, fun record hrecord => ?_⟩
  rw [← hkeeps.currentTraceId, ← hkeeps.currentSpanId]
  exact hids record hrecord

omit [External] in
theorem pushLog {makeLog : InvocationProcessingState → LogRecord × InvocationProcessingState}
    (htrace : (makeLog p.state).1.traceId = p.state.currentTraceId)
    (hspan : (makeLog p.state).1.spanId = p.state.currentSpanId) :
    PushesWith p.state p (p.pushLog makeLog) := by
  refine ⟨[(makeLog p.state).1], rfl, fun record hrecord => ?_⟩
  obtain rfl := List.mem_singleton.1 hrecord
  exact ⟨htrace, hspan⟩

end PushesWith

/-! ## What pushes logs -/

/-- Logs with the ids of the state are pushed, and the ids stay. -/
def Pushes (p p' : Processing InvocationProcessingState) : Prop :=
  KeepsIds p p' ∧ PushesWith p.state p p'

namespace Pushes

omit [External] in
theorem trans (h : Pushes p q) (h' : Pushes q p') : Pushes p p' :=
  ⟨h.1.trans h'.1, h.2.trans (h'.2.of_keeps h.1)⟩

omit [External] in
theorem none (hkeeps : KeepsIds p p')
    (h : p'.outputBuffers.logsBuffer = p.outputBuffers.logsBuffer) : Pushes p p' :=
  ⟨hkeeps, .none h⟩

omit [External] in
theorem pushLog_if {makeLog : InvocationProcessingState → LogRecord × InvocationProcessingState}
    {enabled : Prop} [Decidable enabled] {l : LastLogState}
    (htrace : (makeLog p.state).1.traceId = p.state.currentTraceId)
    (hspan : (makeLog p.state).1.spanId = p.state.currentSpanId)
    (hstate : (makeLog p.state).2 = { p.state with lastLogState := l }) :
    Pushes p (if enabled then p.pushLog makeLog else p) := by
  by_cases h : enabled
  · rw [if_pos h]
    refine ⟨⟨?_, ?_, ?_, ?_, ?_⟩, .pushLog htrace hspan⟩
    iterate 5 rw [Processing.pushLog_state, hstate]
  · rw [if_neg h]
    exact .none (.refl p) rfl

end Pushes

theorem pushFunctionLogs_pushes (logs : List RawFunctionLog) :
    Pushes p (pushFunctionLogs config logs p) := by
  induction logs generalizing p with
  | nil => exact .none (.refl p) rfl
  | cons log logs ih =>
    have hfirst : Pushes p (p.pushLog fun s => makeFunctionLog config s log.logText log.time) :=
      ⟨⟨rfl, rfl, rfl, rfl, rfl⟩, .pushLog rfl rfl⟩
    exact hfirst.trans ih

theorem takeLogs_pushes : Pushes p (takeLogs config p) := by
  have htaken : Pushes p { p with state := { p.state with logs := [] } } :=
    .none ⟨rfl, rfl, rfl, rfl, rfl⟩ rfl
  exact htaken.trans (pushFunctionLogs_pushes p.state.logs)

omit [External] in
theorem pushStartLog_pushes (data : PlatformStartData) {enabled : Prop} [Decidable enabled] :
    Pushes p (if enabled then p.pushLog fun s => makePlatformStartLog config s data else p) := by
  have hstamped := makePlatformStartLog_stampedBy config p.state data
  exact .pushLog_if hstamped.traceId hstamped.spanId rfl

theorem processDelayedLogs_pushes : Pushes p (processDelayedLogs config p) := by
  unfold processDelayedLogs
  split
  · exact (pushStartLog_pushes _).trans takeLogs_pushes
  · exact takeLogs_pushes

theorem stopDelayingLogs_pushes : Pushes p (stopDelayingLogs config p) := by
  unfold stopDelayingLogs
  split
  · have hset : Pushes p { p with state := { p.state with delayingLogs := false } } :=
      .none ⟨rfl, rfl, rfl, rfl, rfl⟩ rfl
    exact hset.trans processDelayedLogs_pushes
  · exact .none (.refl p) rfl

theorem emitLogsOfEarlySpan_pushes : Pushes p (emitLogsOfEarlySpan config p) := by
  unfold emitLogsOfEarlySpan
  split
  · have hset : Pushes p { p with state := { p.state with delayingLogs := false } } :=
      .none ⟨rfl, rfl, rfl, rfl, rfl⟩ rfl
    exact hset.trans processDelayedLogs_pushes
  · exact .none (.refl p) rfl

theorem processRuntimeDone_pushes (data : PlatformRuntimeDoneData) :
    Pushes p (processRuntimeDone config data p) := by
  have hpush : Pushes (stopDelayingLogs config p)
      (pushRuntimeDoneLog config data (stopDelayingLogs config p)) := by
    unfold pushRuntimeDoneLog
    have hstamped := makePlatformRuntimeDoneLog_stampedBy config (stopDelayingLogs config p).state data
    exact .pushLog_if (hstamped _ _).traceId (hstamped _ _).spanId rfl
  have hrest : Pushes (pushRuntimeDoneLog config data (stopDelayingLogs config p))
      (processRuntimeDone config data p) := by
    obtain ⟨hstate, hlogs, -⟩ := @emitSpansAfterRuntimeDone_eq (setRuntimeDoneData data
      (pushRuntimeDoneLog config data (stopDelayingLogs config p))) config
    refine .none ⟨?_, ?_, ?_, ?_, ?_⟩ hlogs
    · exact congrArg (·.tracingState) hstate
    · exact congrArg (·.invocationContext) hstate
    · exact congrArg (·.initSpanId) hstate
    · exact congrArg (·.initStartData) hstate
    · exact congrArg (·.initReportData) hstate
  exact (stopDelayingLogs_pushes.trans hpush).trans hrest

theorem processReport_pushes (data : PlatformReportData) :
    Pushes p (processReport config data p) := by
  have hpush : Pushes p (pushReportLogs config data p) := by
    unfold pushReportLogs
    split
    · have hstamped := makePlatformReportLog_stampedBy config (takeLogs config p).state data
      exact takeLogs_pushes.trans (.pushLog_if hstamped.traceId hstamped.spanId rfl)
    · exact .none (.refl p) rfl
  have hrest : Pushes (pushReportLogs config data p) (processReport config data p) := by
    unfold processReport emitSpansAfterReport
    simp only
    split
    · exact .none ⟨rfl, rfl, rfl, rfl, rfl⟩ rfl
    · exact .none ⟨rfl, rfl, rfl, rfl, rfl⟩ rfl
  exact hpush.trans hrest

/-- An event's logs get the ids that are current before it. -/
theorem processRecord_pushes (event : LambdaTelemetry) :
    PushesWith p.state p (processRecord config event.nanos event.record p) := by
  unfold processRecord
  cases event.record with
  | function logText =>
    simp only
    rcases @processFunctionLog_cases p _ config logText event.nanos with
      heq | ⟨trace, heq⟩ | ⟨text, -, heq⟩ | ⟨text, -, heq⟩
    · rw [heq]
      exact .none rfl
    · rw [heq]
      exact .none rfl
    · rw [heq]
      exact .none rfl
    · rw [heq]
      exact .pushLog rfl rfl
  | platformStart =>
    unfold processPlatformStart
    exact (pushStartLog_pushes _).2.trans (.none rfl)
  | platformRuntimeDone => exact (processRuntimeDone_pushes _).2
  | platformReport => exact (processReport_pushes _).2
  | _ => exact .none rfl

/-- Only the init phase and the captured spans change the ids. -/
theorem processRecord_keepsIds {event : LambdaTelemetry} (hstart : event.isInitStart = false)
    (hreport : event.isInitReport = false) :
    KeepsIds p (processRecord config event.nanos event.record p) := by
  unfold LambdaTelemetry.isInitStart at hstart
  unfold LambdaTelemetry.isInitReport at hreport
  unfold processRecord
  cases hrecord : event.record with
  | function logText =>
    simp only
    obtain ⟨logs, l, records, traces, heq⟩ := @processFunctionLog_frame p _ config logText event.nanos
    rw [heq]
    exact ⟨rfl, rfl, rfl, rfl, rfl⟩
  | platformInitStart =>
    rw [hrecord] at hstart
    cases hstart
  | platformInitReport =>
    rw [hrecord] at hreport
    cases hreport
  | platformStart =>
    exact (pushStartLog_pushes _).1.trans ⟨rfl, rfl, rfl, rfl, rfl⟩
  | platformRuntimeDone => exact (processRuntimeDone_pushes _).1
  | platformReport => exact (processReport_pushes _).1
  | _ => exact ⟨rfl, rfl, rfl, rfl, rfl⟩

theorem processRecord_invocationContext (event : LambdaTelemetry) :
    (processRecord config event.nanos event.record p).state.invocationContext =
      p.state.invocationContext := by
  by_cases hstart : event.isInitStart = true
  · unfold LambdaTelemetry.isInitStart at hstart
    unfold processRecord
    split at hstart
    next heq => rw [heq]
    next => cases hstart
  by_cases hreport : event.isInitReport = true
  · unfold LambdaTelemetry.isInitReport at hreport
    unfold processRecord
    split at hreport
    next heq =>
      rw [heq]
      rfl
    next => cases hreport
  exact (processRecord_keepsIds (Bool.eq_false_of_not_eq_true hstart)
    (Bool.eq_false_of_not_eq_true hreport)).invocationContext

/-- The init phase begins and ends with its events. -/
theorem processRecord_initData (event : LambdaTelemetry) :
    (processRecord config event.nanos event.record p).state.initStartData.isSome =
        (p.state.initStartData.isSome || event.isInitStart) ∧
      (processRecord config event.nanos event.record p).state.initReportData.isSome =
        (p.state.initReportData.isSome || event.isInitReport) := by
  by_cases hstart : event.isInitStart = true
  · have hrecord := hstart
    unfold LambdaTelemetry.isInitStart at hrecord
    rw [hstart, Bool.or_true]
    unfold processRecord LambdaTelemetry.isInitReport
    split at hrecord
    next heq =>
      rw [heq]
      exact ⟨rfl, (Bool.or_false _).symm⟩
    next => cases hrecord
  by_cases hreport : event.isInitReport = true
  · have hrecord := hreport
    unfold LambdaTelemetry.isInitReport at hrecord
    rw [hreport, Bool.or_true]
    unfold processRecord LambdaTelemetry.isInitStart
    split at hrecord
    next heq =>
      rw [heq]
      exact ⟨(Bool.or_false _).symm, rfl⟩
    next => cases hrecord
  have hfalse := Bool.eq_false_of_not_eq_true hstart
  have hfalse' := Bool.eq_false_of_not_eq_true hreport
  have hkeeps := @processRecord_keepsIds _ config p event hfalse hfalse'
  rw [hkeeps.initStartData, hkeeps.initReportData, hfalse, hfalse', Bool.or_false, Bool.or_false]
  exact ⟨rfl, rfl⟩

/-! ## Delays -/

theorem stopDelayingLogs_delaying (hmode : config.logMode = .structured) :
    (stopDelayingLogs config p).state.delayingLogs = false := by
  unfold stopDelayingLogs
  by_cases hdelaying : p.state.delayingLogs = true
  · rw [if_pos ⟨hmode, hdelaying⟩]
    obtain ⟨l, records, heq, -⟩ := @processDelayedLogs_flushed
      { p with state := { p.state with delayingLogs := false } } _ config
    rw [heq]
  · rw [if_neg (fun h => hdelaying h.2)]
    exact Bool.eq_false_of_not_eq_true hdelaying

/-- Logs that are not delayed stay so, and the end of the runtime ends the delay. -/
theorem processRecord_notDelaying (hmode : config.logMode = .structured) {event : LambdaTelemetry}
    (h : p.state.delayingLogs = false ∨ event.isRuntimeDone = true) :
    (processRecord config event.nanos event.record p).state.delayingLogs = false := by
  unfold LambdaTelemetry.isRuntimeDone at h
  unfold processRecord
  cases hrecord : event.record with
  | platformRuntimeDone =>
    unfold processRuntimeDone pushRuntimeDoneLog setRuntimeDoneData
    simp only
    rw [emitSpansAfterRuntimeDone_eq.1]
    split
    · exact stopDelayingLogs_delaying hmode
    · exact stopDelayingLogs_delaying hmode
  | function logText =>
    simp only [hrecord, Bool.false_eq_true, or_false] at h
    simp only
    rcases @processFunctionLog_cases p _ config logText event.nanos with
      heq | ⟨trace, heq⟩ | ⟨text, hdelaying, -⟩ | ⟨text, -, heq⟩
    · rw [heq]
      exact h
    · rw [heq]
      exact h
    · exact absurd hdelaying (Bool.eq_false_iff.1 h)
    · rw [heq]
      exact h
  | platformStart =>
    simp only [hrecord, Bool.false_eq_true, or_false] at h
    unfold processPlatformStart
    simp only
    split <;> exact h
  | platformReport =>
    simp only [hrecord, Bool.false_eq_true, or_false] at h
    obtain ⟨l, records, heq, -⟩ := @takeLogs_flushed p _ config
    unfold processReport pushReportLogs setReportData emitSpansAfterReport
    simp only
    rw [heq]
    split <;> split <;> try split
    all_goals exact h
  | _ =>
    simp only [hrecord, Bool.false_eq_true, or_false] at h
    exact h

/-- While the logs are delayed, only the end of the runtime and a report emit any. -/
theorem processRecord_delayed {event : LambdaTelemetry} (hdelaying : p.state.delayingLogs = true)
    (hdone : event.isRuntimeDone = false) (hreport : event.isReport = false) :
    (processRecord config event.nanos event.record p).state.delayingLogs = true ∧
      (processRecord config event.nanos event.record p).outputBuffers.logsBuffer =
        p.outputBuffers.logsBuffer := by
  unfold processRecord
  unfold LambdaTelemetry.isRuntimeDone at hdone
  unfold LambdaTelemetry.isReport at hreport
  cases hrecord : event.record with
  | function logText =>
    simp only
    rcases @processFunctionLog_cases p _ config logText event.nanos with
      heq | ⟨trace, heq⟩ | ⟨text, -, heq⟩ | ⟨text, hnot, -⟩
    · rw [heq]
      exact ⟨hdelaying, rfl⟩
    · rw [heq]
      exact ⟨hdelaying, rfl⟩
    · rw [heq]
      exact ⟨hdelaying, rfl⟩
    · exact absurd hdelaying hnot
  | platformStart =>
    unfold processPlatformStart
    simp only
    rw [if_neg (fun h => h.2.2 hdelaying)]
    exact ⟨hdelaying, rfl⟩
  | platformRuntimeDone =>
    rw [hrecord] at hdone
    cases hdone
  | platformReport =>
    rw [hrecord] at hreport
    cases hreport
  | _ => exact ⟨hdelaying, rfl⟩

/-- The state in which spans of the function have been captured and forwarded. -/
theorem processFunctionSpans_eq (spans : List ResourceSpans) :
    ∃ q, processFunctionSpans config spans p = emitLogsOfEarlySpan config q ∧
      q.state = { p.state with
        tracingState := (processFunctionSpansTracing config p.state.tracingState spans).1 } ∧
      q.outputBuffers.logsBuffer = p.outputBuffers.logsBuffer := by
  refine ⟨_, rfl, ?_, ?_⟩
  · dsimp only
    unfold forwardSpans
    split <;> rfl
  · dsimp only
    unfold forwardSpans
    split
    · exact OutputBuffers.addFunctionResourceSpans_logsBuffer _ _
    · rfl

/-- Spans of the function change the ids by the captured spans only. -/
theorem processFunctionSpans_keepsIds (spans : List ResourceSpans) :
    KeepsIds { p with state := { p.state with
        tracingState := (processFunctionSpansTracing config p.state.tracingState spans).1 } }
      (processFunctionSpans config spans p) := by
  obtain ⟨q, heq, hstate, -⟩ := @processFunctionSpans_eq _ config p spans
  have hkeeps : KeepsIds q (emitLogsOfEarlySpan config q) := emitLogsOfEarlySpan_pushes.1
  rw [heq]
  exact KeepsIds.trans (q := q) ⟨by rw [hstate], by rw [hstate], by rw [hstate], by rw [hstate],
    by rw [hstate]⟩ hkeeps

/-- The logs that spans of the function release get the ids that are current after them. -/
theorem processFunctionSpans_pushesWith (spans : List ResourceSpans) :
    PushesWith (processFunctionSpans config spans p).state p
      (processFunctionSpans config spans p) := by
  obtain ⟨q, heq, -, hlogs⟩ := @processFunctionSpans_eq _ config p spans
  obtain ⟨hkeeps, hpushes⟩ := @emitLogsOfEarlySpan_pushes _ config q
  rw [heq]
  exact (PushesWith.none hlogs).trans (hpushes.of_keeps hkeeps.symm)

/-- Delayed logs are released when the early span has come. -/
theorem processFunctionSpans_delaying (hmode : config.logMode = .structured)
    (spans : List ResourceSpans) :
    ((processFunctionSpans config spans p).state.delayingLogs = true ↔
      p.state.delayingLogs = true ∧
        (processFunctionSpans config spans p).state.tracingState.cxEarlyInvocationSpan = none) ∧
    ((processFunctionSpans config spans p).state.delayingLogs = p.state.delayingLogs →
      (processFunctionSpans config spans p).outputBuffers.logsBuffer =
        p.outputBuffers.logsBuffer) := by
  obtain ⟨q, heq, hstate, hlogs⟩ := @processFunctionSpans_eq _ config p spans
  have hkeeps : KeepsIds q (emitLogsOfEarlySpan config q) := emitLogsOfEarlySpan_pushes.1
  have hdelaying : q.state.delayingLogs = p.state.delayingLogs := by rw [hstate]
  rw [heq, hkeeps.tracingState, ← hdelaying, ← hlogs]
  unfold emitLogsOfEarlySpan
  by_cases hemit : config.logMode = .structured ∧ q.state.delayingLogs = true ∧
      q.state.tracingState.cxEarlyInvocationSpan.isSome = true
  · obtain ⟨l, records, hflushed, -⟩ := @processDelayedLogs_flushed
      { q with state := { q.state with delayingLogs := false } } _ config
    rw [if_pos hemit, hflushed]
    refine ⟨⟨fun h => ?_, fun h => ?_⟩, fun h => ?_⟩
    · cases h
    · rw [h.2] at hemit
      cases hemit.2.2
    · rw [hemit.2.1] at h
      cases h
  · rw [if_neg hemit]
    refine ⟨⟨fun h => ⟨h, ?_⟩, And.left⟩, fun _ => rfl⟩
    by_contra hearly
    exact hemit ⟨hmode, h, Option.isSome_iff_ne_none.2 hearly⟩

end

/-- The telemetry comes in the platform's order, and no spans come after the end of the runtime. -/
structure PlatformOrder (before running after : List InvocationInput) (start : LambdaTelemetry) :
    Prop where
  beforeStart : ∀ event ∈ telemetryOf before, event.isRuntimeDone = false ∧ event.isReport = false
  init : (∃ event ∈ telemetryOf before, event.isInitStart = true) ↔
    ∃ event ∈ telemetryOf before, event.isInitReport = true
  isStart : start.isStart = true
  running : ∀ event ∈ telemetryOf running,
    event.isInitStart = false ∧ event.isRuntimeDone = false ∧ event.isReport = false
  noSpansAfter : functionSpansOf after = []
  afterDone : ∀ event ∈ telemetryOf after,
    event.isInitStart = false ∧ event.isRuntimeDone = false

section

variable [External] {config : TelemetryProcessorConfig}
  {p p₁ q q' : Processing InvocationProcessingState} {before running after : List InvocationInput}
  {start done : LambdaTelemetry} {data : PlatformRuntimeDoneData}

/-! ## Inputs -/

/-- The captured spans after an input. -/
theorem inputStep_hasCaptured {input : InvocationInput}
    {slots : SpanRole → Option SpanWithScope} (h : HasCaptured config slots q.state.tracingState)
    (hstep : inputStep config q input = some q') :
    HasCaptured config (captureSpans slots (receivedOf [input])).1 q'.state.tracingState := by
  cases input with
  | telemetry event =>
    rw [inputStep_telemetry hstep, processRecord_tracingState]
    exact h
  | functionSpans spans =>
    have hone : receivedOf [.functionSpans spans] = receivedSpans spans := List.flatMap_singleton ..
    rw [inputStep_functionSpans hstep, hone]
    exact (processFunctionSpans_received h spans).hasCaptured

/-- The init phase stays over. -/
theorem inputStep_initDone {input : InvocationInput}
    (hinit : ∀ event ∈ telemetryOf [input], event.isInitStart = false) (h : q.state.initDone)
    (hstep : inputStep config q input = some q') : q'.state.initDone := by
  unfold InvocationProcessingState.initDone at h ⊢
  cases input with
  | telemetry event =>
    have hevent : event.isInitStart = false := hinit event List.mem_cons_self
    obtain ⟨hstart, hreport⟩ := @processRecord_initData _ config q event
    rw [inputStep_telemetry hstep, hstart, hreport, hevent, Bool.or_false]
    intro hsome
    rw [h hsome, Bool.true_or]
  | functionSpans spans =>
    have hkeeps := @processFunctionSpans_keepsIds _ config q spans
    rw [inputStep_functionSpans hstep, hkeeps.initStartData, hkeeps.initReportData]
    exact h

theorem inputStep_invocationContext {input : InvocationInput}
    (hstep : inputStep config q input = some q') :
    q'.state.invocationContext = q.state.invocationContext := by
  cases input with
  | telemetry event =>
    rw [inputStep_telemetry hstep]
    exact processRecord_invocationContext event
  | functionSpans spans =>
    rw [inputStep_functionSpans hstep]
    exact (processFunctionSpans_keepsIds spans).invocationContext

theorem inputStep_initData {input : InvocationInput} (hstep : inputStep config q input = some q') :
    q'.state.initStartData.isSome =
        (q.state.initStartData.isSome || (telemetryOf [input]).any (·.isInitStart)) ∧
      q'.state.initReportData.isSome =
        (q.state.initReportData.isSome || (telemetryOf [input]).any (·.isInitReport)) := by
  cases input with
  | telemetry event =>
    obtain ⟨hstart, hreport⟩ := @processRecord_initData _ config q event
    have hone : telemetryOf [.telemetry event] = [event] := rfl
    rw [inputStep_telemetry hstep, hone, List.any_cons, List.any_cons, List.any_nil, List.any_nil,
      Bool.or_false, Bool.or_false]
    exact ⟨hstart, hreport⟩
  | functionSpans spans =>
    have hkeeps := @processFunctionSpans_keepsIds _ config q spans
    have hone : telemetryOf [.functionSpans spans] = [] := rfl
    rw [inputStep_functionSpans hstep, hone, List.any_nil, List.any_nil, Bool.or_false,
      Bool.or_false, hkeeps.initStartData, hkeeps.initReportData]
    exact ⟨rfl, rfl⟩

/-! ## Runs -/

omit [External] in
theorem captureSpans_cons {slots : SpanRole → Option SpanWithScope} (input : InvocationInput)
    (inputs : List InvocationInput) :
    (captureSpans slots (receivedOf (input :: inputs))).1 =
      (captureSpans (captureSpans slots (receivedOf [input])).1 (receivedOf inputs)).1 := by
  have happend : receivedOf (input :: inputs) = receivedOf [input] ++ receivedOf inputs :=
    receivedOf_append [input] inputs
  rw [happend]
  unfold captureSpans
  rw [Capture.capture_append]

theorem run_hasCaptured {inputs : List InvocationInput} {slots : SpanRole → Option SpanWithScope}
    (h : HasCaptured config slots q.state.tracingState)
    (hrun : run (inputStep config) q inputs = some q') :
    HasCaptured config (captureSpans slots (receivedOf inputs)).1 q'.state.tracingState := by
  induction inputs generalizing q slots with
  | nil =>
    cases hrun
    exact h
  | cons input inputs ih =>
    obtain ⟨m, hm, hrest⟩ := run_cons.1 hrun
    rw [captureSpans_cons]
    exact ih (inputStep_hasCaptured h hm) hrest

theorem run_initDone {inputs : List InvocationInput}
    (hinit : ∀ event ∈ telemetryOf inputs, event.isInitStart = false) (h : q.state.initDone)
    (hrun : run (inputStep config) q inputs = some q') : q'.state.initDone := by
  induction inputs generalizing q with
  | nil =>
    cases hrun
    exact h
  | cons input inputs ih =>
    obtain ⟨m, hm, hrest⟩ := run_cons.1 hrun
    have hsplit : telemetryOf (input :: inputs) = telemetryOf [input] ++ telemetryOf inputs :=
      telemetryOf_append [input] inputs
    rw [hsplit] at hinit
    have hmid := inputStep_initDone (fun e he => hinit e (List.mem_append_left _ he)) h hm
    exact ih (fun e he => hinit e (List.mem_append_right _ he)) hmid hrest

theorem run_invocationContext {inputs : List InvocationInput}
    (hrun : run (inputStep config) q inputs = some q') :
    q'.state.invocationContext = q.state.invocationContext :=
  run_invariant (I := fun p => p.state.invocationContext = q.state.invocationContext)
    (fun _ _ _ h hstep => (inputStep_invocationContext hstep).trans h) rfl hrun

/-- The init phase begins and ends with its events. -/
theorem run_initData {inputs : List InvocationInput}
    (hrun : run (inputStep config) q inputs = some q') :
    q'.state.initStartData.isSome =
        (q.state.initStartData.isSome || (telemetryOf inputs).any (·.isInitStart)) ∧
      q'.state.initReportData.isSome =
        (q.state.initReportData.isSome || (telemetryOf inputs).any (·.isInitReport)) := by
  refine run_actions (I := fun past p =>
    p.state.initStartData.isSome =
        (q.state.initStartData.isSome || (telemetryOf past).any (·.isInitStart)) ∧
      p.state.initReportData.isSome =
        (q.state.initReportData.isSome || (telemetryOf past).any (·.isInitReport))) ?_ ?_ hrun
  · exact ⟨(Bool.or_false _).symm, (Bool.or_false _).symm⟩
  · intro past p input p' h hstep
    obtain ⟨hstart, hreport⟩ := inputStep_initData hstep
    rw [hstart, hreport, h.1, h.2, telemetryOf_append, List.any_append, List.any_append,
      Bool.or_assoc, Bool.or_assoc]
    exact ⟨rfl, rfl⟩

/-! ## The platform's order -/

omit [External] in
theorem LambdaTelemetry.isStart_others (h : start.isStart = true) :
    start.isInitStart = false ∧ start.isRuntimeDone = false ∧ start.isReport = false := by
  unfold LambdaTelemetry.isStart at h
  unfold LambdaTelemetry.isInitStart LambdaTelemetry.isRuntimeDone LambdaTelemetry.isReport
  split at h
  next heq =>
    rw [heq]
    exact ⟨rfl, rfl, rfl⟩
  next => cases h

/-- When `PlatformStart` comes, the init phase is over. -/
theorem initDone_of_order (hfresh : IsFresh config p.state)
    (horder : PlatformOrder before running after start)
    (hbefore : run (inputStep config) p before = some p₁) : p₁.state.initDone := by
  obtain ⟨serial, functionContext, invocationContext, rng, h⟩ := hfresh
  have hnone : p.state.initStartData = none := by
    rw [h]
    rfl
  obtain ⟨hstart, hreport⟩ := run_initData hbefore
  intro hsome
  rw [hstart, hnone, Option.isSome_none, Bool.false_or, List.any_eq_true] at hsome
  rw [hreport, List.any_eq_true.2 (horder.init.1 hsome), Bool.or_true]

omit [External] in
/-- The emitted invocation span has the ids that are current. -/
theorem invocationOf_ref (state : InvocationProcessingState) :
    ((invocationOf data state.tracingState).map (·.ref)).getD state.invocationContext.ref =
      state.invocationRef := by
  have hlanguage (span : Span) : (addLanguageAttributeToSpan state.tracingState span).traceId =
      span.traceId ∧ (addLanguageAttributeToSpan state.tracingState span).spanId = span.spanId := by
    unfold addLanguageAttributeToSpan
    cases state.tracingState.language <;> exact ⟨rfl, rfl⟩
  have href (s : SpanWithScope) : SpanWithScope.ref
      { s with span := addLanguageAttributeToSpan state.tracingState s.span } = s.ref := by
    unfold SpanWithScope.ref
    rw [(hlanguage s.span).1, (hlanguage s.span).2]
  unfold invocationOf InvocationProcessingState.invocationRef
  cases state.tracingState.cxInvocationSpan with
  | some final => exact href final
  | none =>
    cases state.tracingState.cxEarlyInvocationSpan with
    | some early => exact href (early.concluded data)
    | none =>
      cases state.tracingState.genericInvocationSpan with
      | some generic => exact href generic
      | none => rfl

omit [External] in
theorem isInitStart_of_runtimeDoneData (h : done.runtimeDoneData? = some data) :
    done.isInitStart = false := by
  unfold LambdaTelemetry.runtimeDoneData? at h
  unfold LambdaTelemetry.isInitStart
  split at h
  next heq => rw [heq]
  next => cases h

end

/-! ## A sample batch -/

/-- A batch with one server span. -/
def sampleSpanBatch (attributes : List KeyValue) : List ResourceSpans :=
  [{ resource := none
     scopeSpans :=
      [{ scope := none
         spans :=
          [{ traceId := [7], spanId := [8], parentSpanId := [], name := "f", kind := spanKindServer
             startTimeUnixNano := 0, endTimeUnixNano := 0, status := none
             attributes }] }] }]

end TelemetryExporter
