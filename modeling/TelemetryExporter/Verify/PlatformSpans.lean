import TelemetryExporter.Verify.Correlation

/-!
# Platform spans

In TelemetryApi mode the exporter makes the spans of an invocation from the platform's events: the
init and the invocation span at `PlatformRuntimeDone`, the context span at `PlatformReport`.
-/

namespace TelemetryExporter

open Machine

/-! ## The data of the events -/

/-- What platform spans are made from, the ids of captured spans aside. -/
structure KeepsData (state state' : InvocationProcessingState) : Prop where
  functionContext : state'.functionContext = state.functionContext
  invocationContext : state'.invocationContext = state.invocationContext
  rootSpanId : state'.rootSpanId = state.rootSpanId
  initSpanId : state'.initSpanId = state.initSpanId
  initStartData : state'.initStartData = state.initStartData
  initRuntimeDoneData : state'.initRuntimeDoneData = state.initRuntimeDoneData
  initReportData : state'.initReportData = state.initReportData
  startData : state'.startData = state.startData
  runtimeDoneData : state'.runtimeDoneData = state.runtimeDoneData
  reportData : state'.reportData = state.reportData

/-- The data that an event sets. -/
def withEvent [External] (event : LambdaTelemetry) (rng : Rng) (state : InvocationProcessingState) :
    InvocationProcessingState :=
  match event.record with
  | .platformInitStart initializationType phase runtimeVersion runtimeVersionArn =>
    { state with
      initSpanId := some (randomSpanId rng).1
      initStartData := some
        { time := event.nanos, initializationType, phase, runtimeVersion, runtimeVersionArn } }
  | .platformInitRuntimeDone initializationType phase status errorType spans =>
    { state with
      initRuntimeDoneData :=
        some { time := event.nanos, initializationType, phase, status, errorType, spans } }
  | .platformInitReport initializationType phase metrics spans =>
    { state with
      initReportData := some { time := event.nanos, initializationType, phase, metrics, spans } }
  | .platformStart requestId version tracing =>
    { state with startData := some { time := event.nanos, requestId, version, tracing } }
  | .platformRuntimeDone requestId status errorType metrics spans tracing =>
    { state with
      runtimeDoneData :=
        some { time := event.nanos, requestId, status, errorType, metrics, spans, tracing } }
  | .platformReport requestId status errorType metrics spans tracing =>
    { state with
      reportData :=
        some { time := event.nanos, requestId, status, errorType, metrics, spans, tracing } }
  | _ => state

namespace KeepsData

variable {state state' state'' : InvocationProcessingState}
  {p p' : Processing InvocationProcessingState}

theorem refl (state : InvocationProcessingState) : KeepsData state state :=
  ⟨rfl, rfl, rfl, rfl, rfl, rfl, rfl, rfl, rfl, rfl⟩

theorem trans (h : KeepsData state state') (h' : KeepsData state' state'') :
    KeepsData state state'' :=
  ⟨h'.functionContext.trans h.functionContext, h'.invocationContext.trans h.invocationContext,
    h'.rootSpanId.trans h.rootSpanId, h'.initSpanId.trans h.initSpanId,
    h'.initStartData.trans h.initStartData, h'.initRuntimeDoneData.trans h.initRuntimeDoneData,
    h'.initReportData.trans h.initReportData, h'.startData.trans h.startData,
    h'.runtimeDoneData.trans h.runtimeDoneData, h'.reportData.trans h.reportData⟩

theorem of_flushed (h : Flushed p p') : KeepsData p.state p'.state := by
  obtain ⟨l, records, rfl, -⟩ := h
  exact ⟨rfl, rfl, rfl, rfl, rfl, rfl, rfl, rfl, rfl, rfl⟩

theorem of_endsDelay (h : EndsDelay p p') : KeepsData p.state p'.state := by
  rcases h with rfl | ⟨l, records, rfl, -⟩
  · exact .refl _
  · exact ⟨rfl, rfl, rfl, rfl, rfl, rfl, rfl, rfl, rfl, rfl⟩

theorem pushLog_if {makeLog : InvocationProcessingState → LogRecord × InvocationProcessingState}
    {enabled : Prop} [Decidable enabled] (h : KeepsData p.state (makeLog p.state).2) :
    KeepsData p.state (if enabled then p.pushLog makeLog else p).state := by
  by_cases hon : enabled
  · rw [if_pos hon]
    exact h
  · rw [if_neg hon]
    exact .refl p.state

theorem runtimeDone (h : KeepsData state state') (data : PlatformRuntimeDoneData) :
    KeepsData { state with runtimeDoneData := some data }
      { state' with runtimeDoneData := some data } :=
  ⟨h.functionContext, h.invocationContext, h.rootSpanId, h.initSpanId, h.initStartData,
    h.initRuntimeDoneData, h.initReportData, h.startData, rfl, h.reportData⟩

theorem report (h : KeepsData state state') (data : PlatformReportData) :
    KeepsData { state with reportData := some data } { state' with reportData := some data } :=
  ⟨h.functionContext, h.invocationContext, h.rootSpanId, h.initSpanId, h.initStartData,
    h.initRuntimeDoneData, h.initReportData, h.startData, h.runtimeDoneData, rfl⟩

theorem start (h : KeepsData state state') (data : PlatformStartData) :
    KeepsData { state with startData := some data } { state' with startData := some data } :=
  ⟨h.functionContext, h.invocationContext, h.rootSpanId, h.initSpanId, h.initStartData,
    h.initRuntimeDoneData, h.initReportData, rfl, h.runtimeDoneData, h.reportData⟩

end KeepsData

section

variable [External] {config : TelemetryProcessorConfig}
  {p p' : Processing InvocationProcessingState}

theorem processRuntimeDone_data (data : PlatformRuntimeDoneData) :
    KeepsData { p.state with runtimeDoneData := some data }
      (processRuntimeDone config data p).state := by
  have hstop : KeepsData p.state (stopDelayingLogs config p).state :=
    .of_endsDelay stopDelayingLogs_endsDelay
  have hpush : KeepsData (stopDelayingLogs config p).state
      (pushRuntimeDoneLog config data (stopDelayingLogs config p)).state := by
    unfold pushRuntimeDoneLog
    exact .pushLog_if ⟨rfl, rfl, rfl, rfl, rfl, rfl, rfl, rfl, rfl, rfl⟩
  unfold processRuntimeDone
  simp only
  rw [emitSpansAfterRuntimeDone_eq.1]
  exact (hstop.trans hpush).runtimeDone data

theorem processReport_data (data : PlatformReportData) :
    KeepsData { p.state with reportData := some data } (processReport config data p).state := by
  have hpush : KeepsData p.state (pushReportLogs config data p).state := by
    unfold pushReportLogs
    split
    · exact (KeepsData.of_flushed takeLogs_flushed).trans
        (.pushLog_if ⟨rfl, rfl, rfl, rfl, rfl, rfl, rfl, rfl, rfl, rfl⟩)
    · exact .refl p.state
  have hstate : (processReport config data p).state =
      { (pushReportLogs config data p).state with reportData := some data } := by
    unfold processReport emitSpansAfterReport
    simp only
    split <;> rfl
  rw [hstate]
  exact hpush.report data

/-- An event sets its data, and no other. -/
theorem processRecord_data (event : LambdaTelemetry) :
    KeepsData (withEvent event p.rng p.state)
      (processRecord config event.nanos event.record p).state := by
  unfold processRecord withEvent
  cases event.record with
  | function logText =>
    simp only
    obtain ⟨logs, l, records, traces, heq⟩ := @processFunctionLog_frame p _ config logText event.nanos
    rw [heq]
    exact ⟨rfl, rfl, rfl, rfl, rfl, rfl, rfl, rfl, rfl, rfl⟩
  | platformStart =>
    have hpush {data : PlatformStartData} {enabled : Prop} [Decidable enabled] :
        KeepsData p.state
          (if enabled then p.pushLog fun s => makePlatformStartLog config s data else p).state :=
      .pushLog_if ⟨rfl, rfl, rfl, rfl, rfl, rfl, rfl, rfl, rfl, rfl⟩
    exact hpush.start _
  | platformRuntimeDone => exact processRuntimeDone_data _
  | platformReport => exact processReport_data _
  | _ => exact ⟨rfl, rfl, rfl, rfl, rfl, rfl, rfl, rfl, rfl, rfl⟩

theorem processFunctionSpans_data (spans : List ResourceSpans) :
    KeepsData p.state (processFunctionSpans config spans p).state := by
  obtain ⟨q, heq, hstate, -⟩ := @processFunctionSpans_eq _ config p spans
  have hcaptured : KeepsData p.state q.state := by
    rw [hstate]
    exact ⟨rfl, rfl, rfl, rfl, rfl, rfl, rfl, rfl, rfl, rfl⟩
  rw [heq]
  exact hcaptured.trans (.of_endsDelay emitLogsOfEarlySpan_endsDelay)

/-! ## The spans buffer -/

/-- The spans that an event adds in TelemetryApi mode, made from the state after it. -/
def platformSpans (event : LambdaTelemetry) (state : InvocationProcessingState) : List Span :=
  if state.tracingState.shouldProduceSpans then
    match event.record with
    | .platformRuntimeDone .. => makeSpansAfterInvocation state
    | .platformReport .. => makeSpansAfterReport state
    | _ => []
  else []

omit [External] in
theorem spansBuffer_of_flushed (h : Flushed p p') :
    p'.outputBuffers.spansBuffer = p.outputBuffers.spansBuffer := by
  obtain ⟨l, records, rfl, -⟩ := h
  rfl

omit [External] in
theorem spansBuffer_of_endsDelay (h : EndsDelay p p') :
    p'.outputBuffers.spansBuffer = p.outputBuffers.spansBuffer := by
  rcases h with rfl | ⟨l, records, rfl, -⟩
  · rfl
  · rfl

omit [External] in
theorem spansBuffer_pushLog_if
    {makeLog : InvocationProcessingState → LogRecord × InvocationProcessingState} {enabled : Prop}
    [Decidable enabled] :
    (if enabled then p.pushLog makeLog else p).outputBuffers.spansBuffer =
      p.outputBuffers.spansBuffer := by
  split <;> rfl

/-- The spans that the exporter makes after `PlatformRuntimeDone`. -/
def madeAfterRuntimeDone (config : TelemetryProcessorConfig) (state : InvocationProcessingState) :
    List Span :=
  if state.tracingState.shouldProduceSpans then
    match config.tracingMode with
    | .otelInstrumentation => makeSpansAfterInvocationInOtelMode state
    | .telemetryApi => makeSpansAfterInvocation state
    | .disabled => []
  else []

/-- The spans that the exporter makes after `PlatformReport`. -/
def madeAfterReport (config : TelemetryProcessorConfig) (state : InvocationProcessingState) :
    List Span :=
  if state.tracingState.shouldProduceSpans ∧ config.tracingMode = .telemetryApi then
    makeSpansAfterReport state
  else []

/-- The spans that the exporter makes after an event, in any mode, from the state after it. -/
def madeSpansAfter (config : TelemetryProcessorConfig) (event : LambdaTelemetry)
    (state : InvocationProcessingState) : List Span :=
  match event.record with
  | .platformRuntimeDone .. => madeAfterRuntimeDone config state
  | .platformReport .. => madeAfterReport config state
  | _ => []

omit [External] in
theorem madeSpansAfter_of_telemetryApi (hmode : config.tracingMode = .telemetryApi)
    (event : LambdaTelemetry) (state : InvocationProcessingState) :
    madeSpansAfter config event state = platformSpans event state := by
  unfold madeSpansAfter platformSpans madeAfterRuntimeDone madeAfterReport
  rw [hmode]
  cases event.record <;> simp only [and_true, ite_self]

theorem processRuntimeDone_spansBuffer (data : PlatformRuntimeDoneData) :
    (processRuntimeDone config data p).outputBuffers.spansBuffer = p.outputBuffers.spansBuffer ++
      madeAfterRuntimeDone config (processRuntimeDone config data p).state := by
  have hstop : (stopDelayingLogs config p).outputBuffers.spansBuffer =
      p.outputBuffers.spansBuffer := spansBuffer_of_endsDelay stopDelayingLogs_endsDelay
  have hpush : (setRuntimeDoneData data (pushRuntimeDoneLog config data
      (stopDelayingLogs config p))).outputBuffers.spansBuffer = p.outputBuffers.spansBuffer :=
    spansBuffer_pushLog_if.trans hstop
  unfold processRuntimeDone
  simp only
  rw [emitSpansAfterRuntimeDone_eq.1, ← hpush]
  unfold emitSpansAfterRuntimeDone madeAfterRuntimeDone
  split
  · cases config.tracingMode with
    | otelInstrumentation =>
      exact congrArg (· ++ _) (OutputBuffers.addFunctionScopeSpans_spansBuffer _ _)
    | telemetryApi => rfl
    | disabled => exact (List.append_nil _).symm
  · exact (List.append_nil _).symm

theorem processReport_spansBuffer (data : PlatformReportData) :
    (processReport config data p).outputBuffers.spansBuffer = p.outputBuffers.spansBuffer ++
      madeAfterReport config (processReport config data p).state := by
  have hpush : (setReportData data (pushReportLogs config data p)).outputBuffers.spansBuffer =
      p.outputBuffers.spansBuffer := by
    unfold setReportData pushReportLogs
    simp only
    split
    · exact spansBuffer_pushLog_if.trans (spansBuffer_of_flushed takeLogs_flushed)
    · rfl
  have hstate : (processReport config data p).state =
      (setReportData data (pushReportLogs config data p)).state := by
    unfold processReport emitSpansAfterReport
    simp only
    split <;> rfl
  rw [hstate, ← hpush]
  unfold processReport emitSpansAfterReport madeAfterReport
  simp only
  split
  · rfl
  · exact (List.append_nil _).symm

/-- What an event adds to the spans buffer. -/
theorem processRecord_spansBuffer (event : LambdaTelemetry) :
    (processRecord config event.nanos event.record p).outputBuffers.spansBuffer =
      p.outputBuffers.spansBuffer ++
        madeSpansAfter config event (processRecord config event.nanos event.record p).state := by
  have hnone : p.outputBuffers.spansBuffer = p.outputBuffers.spansBuffer ++ [] :=
    (List.append_nil _).symm
  unfold madeSpansAfter processRecord
  cases event.record with
  | function logText =>
    simp only
    obtain ⟨logs, l, records, traces, heq⟩ := @processFunctionLog_frame p _ config logText event.nanos
    rw [heq]
    exact hnone
  | platformStart => exact spansBuffer_pushLog_if.trans hnone
  | platformRuntimeDone => exact processRuntimeDone_spansBuffer _
  | platformReport => exact processReport_spansBuffer _
  | _ => exact hnone

theorem processFunctionSpans_spansBuffer (spans : List ResourceSpans) :
    (processFunctionSpans config spans p).outputBuffers.spansBuffer =
      p.outputBuffers.spansBuffer := by
  have hforward (q : Processing InvocationProcessingState) (rss : List ResourceSpans) :
      (forwardSpans config rss q).outputBuffers.spansBuffer = q.outputBuffers.spansBuffer := by
    unfold forwardSpans
    split
    · exact OutputBuffers.addFunctionResourceSpans_spansBuffer _ _
    · rfl
  unfold processFunctionSpans
  simp only
  rw [spansBuffer_of_endsDelay emitLogsOfEarlySpan_endsDelay]
  exact hforward _ _

end

end TelemetryExporter
