import TelemetryExporter.Verify.Inputs

/-!
# What the processor depends on

The processor reads the state of the invocation and the random generator, and nothing of what has
been put out before or of the platform metrics. So two processors that are alike in this put out the
same, each after what it has put out before (`Alike`).
-/

namespace TelemetryExporter

open Machine

namespace OutputBuffers

/-- One output after the other. -/
def append (a b : OutputBuffers) : OutputBuffers where
  logsBuffer := a.logsBuffer ++ b.logsBuffer
  spansBuffer := a.spansBuffer ++ b.spansBuffer
  functionMetricsBuffer := a.functionMetricsBuffer ++ b.functionMetricsBuffer
  functionSpansBuffer := a.functionSpansBuffer ++ b.functionSpansBuffer
  functionSpansCount := a.functionSpansCount + b.functionSpansCount
  epsagonTracesBuffer := a.epsagonTracesBuffer ++ b.epsagonTracesBuffer

instance : Append OutputBuffers := ⟨append⟩

theorem append_def (a b : OutputBuffers) : a ++ b = a.append b := rfl

theorem append_nil (a : OutputBuffers) : a ++ ({} : OutputBuffers) = a := by
  simp [append_def, append]

theorem nil_append (a : OutputBuffers) : ({} : OutputBuffers) ++ a = a := by
  simp [append_def, append]

theorem append_assoc (a b c : OutputBuffers) : a ++ b ++ c = a ++ (b ++ c) := by
  simp [append_def, append, Nat.add_assoc]

/-- Spans of the function go to the end. -/
theorem append_addFunctionScopeSpans (a b : OutputBuffers) (ss : List ScopeSpans) :
    (a ++ b).addFunctionScopeSpans ss = a ++ b.addFunctionScopeSpans ss := by
  induction ss generalizing b with
  | nil => rfl
  | cons s ss ih =>
    have first : { a ++ b with
        functionSpansCount := (a ++ b).functionSpansCount + s.spans.length
        functionSpansBuffer := (a ++ b).functionSpansBuffer ++ [s] } =
      a ++ { b with
        functionSpansCount := b.functionSpansCount + s.spans.length
        functionSpansBuffer := b.functionSpansBuffer ++ [s] } := by
      simp [append_def, append, Nat.add_assoc]
    have rest := ih { b with
      functionSpansCount := b.functionSpansCount + s.spans.length
      functionSpansBuffer := b.functionSpansBuffer ++ [s] }
    rw [← first] at rest
    exact rest

theorem append_addFunctionResourceSpans (a b : OutputBuffers) (rss : List ResourceSpans) :
    (a ++ b).addFunctionResourceSpans rss = a ++ b.addFunctionResourceSpans rss := by
  induction rss generalizing b with
  | nil => rfl
  | cons rs rss ih =>
    have rest := ih (b.addFunctionScopeSpans rs.scopeSpans)
    rw [← append_addFunctionScopeSpans] at rest
    exact rest

end OutputBuffers

/-! ## Processors that are alike -/

/-- The processors are in the same state, and have put out the same since `a` and since `b`. -/
structure Alike {S : Type} (a b : OutputBuffers) (p q : Processing S) : Prop where
  state : q.state = p.state
  rng : q.rng = p.rng
  output : ∃ put, p.outputBuffers = a ++ put ∧ q.outputBuffers = b ++ put

namespace Alike

variable {S : Type} {a b : OutputBuffers} {p q : Processing S}

/-- At the start. -/
theorem start (hstate : q.state = p.state) (hrng : q.rng = p.rng) :
    Alike p.outputBuffers q.outputBuffers p q :=
  ⟨hstate, hrng, {}, (OutputBuffers.append_nil _).symm, (OutputBuffers.append_nil _).symm⟩

/-- Something else that both put out in the same way. -/
theorem put (h : Alike a b p q) {f : S → S} {g : OutputBuffers → OutputBuffers}
    (hg : ∀ c d, g (c ++ d) = c ++ g d) (m m' : PlatformMetricsState) :
    Alike a b
      { p with state := f p.state, metricsState := m, outputBuffers := g p.outputBuffers }
      { q with state := f q.state, metricsState := m', outputBuffers := g q.outputBuffers } := by
  obtain ⟨hstate, hrng, put, hp, hq⟩ := h
  refine ⟨by rw [hstate], hrng, g put, ?_, ?_⟩
  · rw [hp, hg]
  · rw [hq, hg]

/-- The state and the metrics change. -/
theorem setState (h : Alike a b p q) (f : S → S) (m m' : PlatformMetricsState) :
    Alike a b { p with state := f p.state, metricsState := m }
      { q with state := f q.state, metricsState := m' } :=
  h.put (g := id) (fun _ _ => rfl) m m'

theorem pushLog (h : Alike a b p q) (makeLog : S → LogRecord × S) :
    Alike a b (p.pushLog makeLog) (q.pushLog makeLog) := by
  have hput := h.put (f := fun state => (makeLog state).2)
    (g := fun out => { out with logsBuffer := out.logsBuffer ++ [(makeLog p.state).1] })
    (fun c d => by simp [OutputBuffers.append_def, OutputBuffers.append]) p.metricsState
    q.metricsState
  unfold Processing.pushLog
  rw [h.state] at hput ⊢
  exact hput

theorem pushEpsagonTrace (h : Alike a b p q) (trace : String) :
    Alike a b (p.pushEpsagonTrace trace) (q.pushEpsagonTrace trace) :=
  h.put (f := id) (g := fun out => { out with epsagonTracesBuffer := out.epsagonTracesBuffer ++ [trace] })
    (fun c d => by simp [OutputBuffers.append_def, OutputBuffers.append]) _ _

theorem appendSpans (h : Alike a b p q) (spans : List Span) :
    Alike a b (p.appendSpans spans) (q.appendSpans spans) :=
  h.put (f := id) (g := fun out => { out with spansBuffer := out.spansBuffer ++ spans })
    (fun c d => by simp [OutputBuffers.append_def, OutputBuffers.append]) _ _

end Alike

/-! ## Invocations -/

section

variable [External] (config : TelemetryProcessorConfig) {a b : OutputBuffers}
  {p q : Processing InvocationProcessingState}

theorem pushFunctionLogs_alike (h : Alike a b p q) (logs : List RawFunctionLog) :
    Alike a b (pushFunctionLogs config logs p) (pushFunctionLogs config logs q) := by
  induction logs generalizing p q with
  | nil => exact h
  | cons log logs ih => exact ih (h.pushLog _)

theorem takeLogs_alike (h : Alike a b p q) : Alike a b (takeLogs config p) (takeLogs config q) := by
  unfold takeLogs
  rw [h.state]
  have taken := h.setState (fun state => { state with logs := [] }) p.metricsState q.metricsState
  rw [h.state] at taken
  exact pushFunctionLogs_alike config taken _

theorem processDelayedLogs_alike (h : Alike a b p q) :
    Alike a b (processDelayedLogs config p) (processDelayedLogs config q) := by
  unfold processDelayedLogs
  rw [h.state]
  cases p.state.startData with
  | none => exact takeLogs_alike config h
  | some startData =>
    dsimp only
    split
    · exact takeLogs_alike config (h.pushLog _)
    · exact takeLogs_alike config h

theorem processFunctionLog_alike (h : Alike a b p q) (logText : String) (time : OffsetDateTime) :
    Alike a b (processFunctionLog config logText time p)
      (processFunctionLog config logText time q) := by
  unfold processFunctionLog
  split
  · cases detectEpsagonTrace logText with
    | epsagonTraceJson trace => exact h.pushEpsagonTrace trace
    | regularLog logText =>
      dsimp only
      rw [h.state]
      split
      · have kept := h.setState (fun state => { state with logs := state.logs ++ [{ logText, time }] })
          p.metricsState q.metricsState
        rw [h.state] at kept
        exact kept
      · exact h.pushLog _
  · exact h

omit [External] in
theorem processPlatformStart_alike (h : Alike a b p q) (startData : PlatformStartData) :
    Alike a b (processPlatformStart config startData p)
      (processPlatformStart config startData q) := by
  unfold processPlatformStart
  rw [h.state]
  dsimp only
  split
  · exact (h.pushLog _).setState (fun state => { state with startData := some startData }) _ _
  · exact h.setState (fun state => { state with startData := some startData }) _ _

omit [External] in
theorem emitSpansAfterRuntimeDone_alike (h : Alike a b p q) :
    Alike a b (emitSpansAfterRuntimeDone config p) (emitSpansAfterRuntimeDone config q) := by
  unfold emitSpansAfterRuntimeDone
  rw [h.state]
  split
  · cases config.tracingMode with
    | disabled => exact h
    | telemetryApi => exact h.appendSpans _
    | otelInstrumentation =>
      have added := h.put (f := id)
        (g := fun out => out.addFunctionScopeSpans (emitTriggerAndInvocationSpans p.state))
        (fun c d => OutputBuffers.append_addFunctionScopeSpans c d _) p.metricsState q.metricsState
      rw [h.state] at added
      exact added.appendSpans _
  · exact h

theorem stopDelayingLogs_alike (h : Alike a b p q) :
    Alike a b (stopDelayingLogs config p) (stopDelayingLogs config q) := by
  unfold stopDelayingLogs
  rw [h.state]
  split
  · have stopped := h.setState (fun state => { state with delayingLogs := false }) p.metricsState
      q.metricsState
    rw [h.state] at stopped
    exact processDelayedLogs_alike config stopped
  · exact h

omit [External] in
theorem pushRuntimeDoneLog_alike (h : Alike a b p q) (data : PlatformRuntimeDoneData) :
    Alike a b (pushRuntimeDoneLog config data p) (pushRuntimeDoneLog config data q) := by
  unfold pushRuntimeDoneLog
  rw [h.state]
  dsimp only
  split
  · exact h.pushLog _
  · exact h

theorem processRuntimeDone_alike (h : Alike a b p q) (data : PlatformRuntimeDoneData) :
    Alike a b (processRuntimeDone config data p) (processRuntimeDone config data q) := by
  have pushed := pushRuntimeDoneLog_alike config (stopDelayingLogs_alike config h) data
  exact emitSpansAfterRuntimeDone_alike config
    (pushed.setState (fun state => { state with runtimeDoneData := some data }) _ _)

theorem pushReportLogs_alike (h : Alike a b p q) (data : PlatformReportData) :
    Alike a b (pushReportLogs config data p) (pushReportLogs config data q) := by
  unfold pushReportLogs
  split
  · dsimp only
    split
    · exact (takeLogs_alike config h).pushLog _
    · exact takeLogs_alike config h
  · exact h

omit [External] in
theorem emitSpansAfterReport_alike (h : Alike a b p q) :
    Alike a b (emitSpansAfterReport config p) (emitSpansAfterReport config q) := by
  unfold emitSpansAfterReport
  rw [h.state]
  split
  · exact h.appendSpans _
  · exact h

theorem processReport_alike (h : Alike a b p q) (data : PlatformReportData) :
    Alike a b (processReport config data p) (processReport config data q) := by
  have pushed := pushReportLogs_alike config h data
  have updated : Alike a b (setReportData data (pushReportLogs config data p))
      (setReportData data (pushReportLogs config data q)) :=
    pushed.setState (fun state => { state with reportData := some data }) _ _
  exact (emitSpansAfterReport_alike config updated).setState id _ _

/-- Every event. -/
theorem processRecord_alike (h : Alike a b p q) (time : OffsetDateTime)
    (record : LambdaTelemetryRecord) :
    Alike a b (processRecord config time record p) (processRecord config time record q) := by
  unfold processRecord
  cases record with
  | function logText => exact processFunctionLog_alike config h logText time
  | platformInitStart =>
    obtain ⟨hstate, hrng, hput⟩ := h
    dsimp only
    rw [hstate, hrng]
    exact ⟨rfl, rfl, hput⟩
  | platformInitRuntimeDone =>
    obtain ⟨hstate, hrng, hput⟩ := h
    dsimp only
    rw [hstate]
    exact ⟨rfl, hrng, hput⟩
  | platformInitReport =>
    obtain ⟨hstate, hrng, hput⟩ := h
    unfold processInitReport
    rw [hstate]
    exact ⟨rfl, hrng, hput⟩
  | platformStart => exact processPlatformStart_alike config h _
  | platformRuntimeDone => exact processRuntimeDone_alike config h _
  | platformReport => exact processReport_alike config h _
  | _ => exact h

/-- Spans of the function. -/
theorem processFunctionSpans_alike (h : Alike a b p q) (spans : List ResourceSpans) :
    Alike a b (processFunctionSpans config spans p) (processFunctionSpans config spans q) := by
  have forward {p q : Processing InvocationProcessingState} (h : Alike a b p q)
      (rss : List ResourceSpans) : Alike a b (forwardSpans config rss p) (forwardSpans config rss q) := by
    unfold forwardSpans
    rw [h.state]
    split
    · have added := h.put (f := id) (g := fun out => out.addFunctionResourceSpans rss)
        (fun c d => OutputBuffers.append_addFunctionResourceSpans c d rss) p.metricsState q.metricsState
      rw [h.state] at added
      exact added
    · exact h
  have emit {p q : Processing InvocationProcessingState} (h : Alike a b p q) :
      Alike a b (emitLogsOfEarlySpan config p) (emitLogsOfEarlySpan config q) := by
    unfold emitLogsOfEarlySpan
    rw [h.state]
    split
    · have stopped := h.setState (fun state => { state with delayingLogs := false }) p.metricsState
        q.metricsState
      rw [h.state] at stopped
      exact processDelayedLogs_alike config stopped
    · exact h
  unfold processFunctionSpans
  rw [h.state]
  dsimp only
  refine emit (forward ?_ _)
  obtain ⟨hstate, hrng, hput⟩ := h
  exact ⟨rfl, hrng, hput⟩

/-- Every input. -/
theorem inputStep_alike {p' : Processing InvocationProcessingState} (h : Alike a b p q)
    {input : InvocationInput} (hstep : inputStep config p input = some p') :
    ∃ q', inputStep config q input = some q' ∧ Alike a b p' q' := by
  cases input with
  | functionSpans spans =>
    cases hstep
    exact ⟨_, rfl, processFunctionSpans_alike config h spans⟩
  | telemetry event =>
    unfold inputStep processTelemetry at hstep ⊢
    dsimp only at hstep ⊢
    cases htime : eventTimestamp event with
    | error e =>
      rw [htime] at hstep
      cases hstep
    | ok time =>
      rw [htime] at hstep
      cases hstep
      exact ⟨_, rfl, processRecord_alike config h time event.record⟩

end

/-! ## Degraded mode -/

section

variable [External] (config : TelemetryProcessorConfig) {a b : OutputBuffers}
  {p q : Processing DegradedProcessingState}

theorem processRecordInDegradedMode_alike (h : Alike a b p q) (time : OffsetDateTime)
    (record : LambdaTelemetryRecord) :
    Alike a b (processRecordInDegradedMode config time record p)
      (processRecordInDegradedMode config time record q) := by
  unfold processRecordInDegradedMode
  cases record with
  | function logText =>
    dsimp only
    split
    · cases detectEpsagonTrace logText with
      | epsagonTraceJson trace => exact h.pushEpsagonTrace trace
      | regularLog logText => exact h.pushLog _
    · exact h
  | platformInitRuntimeDone initializationType phase status errorType spans =>
    exact h.setState (fun state =>
      { state with
        initRuntimeDoneData := some { time, initializationType, phase, status, errorType, spans } }) _ _
  | platformInitReport initializationType phase metrics spans =>
    have kept := h.setState (fun state =>
      { state with initReportData := some { time, initializationType, phase, metrics, spans } })
      p.metricsState q.metricsState
    dsimp only
    split
    · rw [h.state] at kept ⊢
      exact kept.appendSpans _
    · exact kept
  | platformStart =>
    dsimp only
    split
    · exact h.pushLog _
    · exact h
  | platformRuntimeDone =>
    dsimp only
    split
    · exact h.pushLog _
    · exact h
  | platformReport requestId status errorType metrics spans tracing =>
    dsimp only
    split
    · exact (h.pushLog _).setState (fun state =>
        { state with
          reportData := some { time, requestId, status, errorType, metrics, spans, tracing } }) _ _
    · exact h.setState (fun state =>
        { state with
          reportData := some { time, requestId, status, errorType, metrics, spans, tracing } }) _ _
  | _ => exact h

end

end TelemetryExporter
