import TelemetryExporter.Verify.Processor

/-!
# Output buffers grow

Processing telemetry and spans only appends to the output buffers.
-/

namespace TelemetryExporter

/-- What the first buffers have is at the front of the second ones. -/
structure OutputBuffers.Grows (out out' : OutputBuffers) : Prop where
  logs : out.logsBuffer <+: out'.logsBuffer
  spans : out.spansBuffer <+: out'.spansBuffer
  functionMetrics : out.functionMetricsBuffer <+: out'.functionMetricsBuffer
  functionSpans : out.functionSpansBuffer <+: out'.functionSpansBuffer
  epsagonTraces : out.epsagonTracesBuffer <+: out'.epsagonTracesBuffer

namespace OutputBuffers

theorem Grows.refl (out : OutputBuffers) : Grows out out :=
  ⟨List.prefix_rfl, List.prefix_rfl, List.prefix_rfl, List.prefix_rfl, List.prefix_rfl⟩

theorem Grows.trans {a b c : OutputBuffers} (h : Grows a b) (h' : Grows b c) : Grows a c :=
  ⟨h.logs.trans h'.logs, h.spans.trans h'.spans, h.functionMetrics.trans h'.functionMetrics,
    h.functionSpans.trans h'.functionSpans, h.epsagonTraces.trans h'.epsagonTraces⟩

theorem addFunctionScopeSpans_grows (out : OutputBuffers) (ss : List ScopeSpans) :
    Grows out (out.addFunctionScopeSpans ss) := by
  induction ss generalizing out with
  | nil => exact .refl out
  | cons s ss ih =>
    have push : Grows out
        { out with
          functionSpansCount := out.functionSpansCount + s.spans.length
          functionSpansBuffer := out.functionSpansBuffer ++ [s] } :=
      ⟨List.prefix_rfl, List.prefix_rfl, List.prefix_rfl, List.prefix_append _ _, List.prefix_rfl⟩
    exact push.trans (ih _)

theorem addFunctionResourceSpans_grows (out : OutputBuffers) (rss : List ResourceSpans) :
    Grows out (out.addFunctionResourceSpans rss) := by
  induction rss generalizing out with
  | nil => exact .refl out
  | cons rs rss ih => exact (out.addFunctionScopeSpans_grows rs.scopeSpans).trans (ih _)

end OutputBuffers

namespace Processing

variable {S : Type}

/-- The output buffers have grown. -/
def Grows (p p' : Processing S) : Prop := p.outputBuffers.Grows p'.outputBuffers

theorem Grows.refl (p : Processing S) : Grows p p := OutputBuffers.Grows.refl _

theorem Grows.trans {a b c : Processing S} (h : Grows a b) (h' : Grows b c) : Grows a c :=
  OutputBuffers.Grows.trans h h'

theorem pushLog_grows (p : Processing S) (makeLog : S → LogRecord × S) :
    Grows p (p.pushLog makeLog) :=
  ⟨List.prefix_append _ _, List.prefix_rfl, List.prefix_rfl, List.prefix_rfl, List.prefix_rfl⟩

theorem pushEpsagonTrace_grows (p : Processing S) (trace : String) :
    Grows p (p.pushEpsagonTrace trace) :=
  ⟨List.prefix_rfl, List.prefix_rfl, List.prefix_rfl, List.prefix_rfl, List.prefix_append _ _⟩

theorem appendSpans_grows (p : Processing S) (spans : List Span) : Grows p (p.appendSpans spans) :=
  ⟨List.prefix_rfl, List.prefix_append _ _, List.prefix_rfl, List.prefix_rfl, List.prefix_rfl⟩

end Processing

section

variable [External] {config : TelemetryProcessorConfig} {p p' : Processing InvocationProcessingState}

open Processing

theorem pushFunctionLogs_grows (logs : List RawFunctionLog) :
    Grows p (pushFunctionLogs config logs p) := by
  induction logs generalizing p with
  | nil => exact .refl p
  | cons log logs ih => exact (p.pushLog_grows _).trans ih

theorem takeLogs_grows : Grows p (takeLogs config p) :=
  @pushFunctionLogs_grows _ config { p with state := { p.state with logs := [] } } p.state.logs

theorem processDelayedLogs_grows : Grows p (processDelayedLogs config p) := by
  unfold processDelayedLogs
  split
  · split
    · exact (p.pushLog_grows _).trans takeLogs_grows
    · exact takeLogs_grows
  · exact takeLogs_grows

theorem processFunctionLog_grows (logText : String) (time : OffsetDateTime) :
    Grows p (processFunctionLog config logText time p) := by
  unfold processFunctionLog
  split
  · split
    · exact p.pushEpsagonTrace_grows _
    · split
      · exact .refl p
      · exact p.pushLog_grows _
  · exact .refl p

omit [External] in
theorem emitSpansAfterRuntimeDone_grows : Grows p (emitSpansAfterRuntimeDone config p) := by
  unfold emitSpansAfterRuntimeDone
  split
  · split
    · have forward : Grows p
          { p with
            outputBuffers :=
              p.outputBuffers.addFunctionScopeSpans (emitTriggerAndInvocationSpans p.state) } :=
        p.outputBuffers.addFunctionScopeSpans_grows _
      exact forward.trans (appendSpans_grows _ _)
    · exact p.appendSpans_grows _
    · exact .refl p
  · exact .refl p

theorem processRuntimeDone_grows (data : PlatformRuntimeDoneData) :
    Grows p (processRuntimeDone config data p) := by
  have stop : Grows p (stopDelayingLogs config p) := by
    unfold stopDelayingLogs
    split
    · exact @processDelayedLogs_grows _ config
        { p with state := { p.state with delayingLogs := false } }
    · exact .refl p
  have push (q : Processing InvocationProcessingState) :
      Grows q (pushRuntimeDoneLog config data q) := by
    unfold pushRuntimeDoneLog
    dsimp only
    split
    · exact q.pushLog_grows _
    · exact .refl q
  have set (q : Processing InvocationProcessingState) : Grows q (setRuntimeDoneData data q) :=
    .refl q
  exact ((stop.trans (push _)).trans (set _)).trans emitSpansAfterRuntimeDone_grows

theorem processReport_grows (data : PlatformReportData) :
    Grows p (processReport config data p) := by
  have push : Grows p (pushReportLogs config data p) := by
    unfold pushReportLogs
    split
    · dsimp only
      split
      · exact takeLogs_grows.trans (pushLog_grows _ _)
      · exact takeLogs_grows
    · exact .refl p
  have set (q : Processing InvocationProcessingState) : Grows q (setReportData data q) := .refl q
  have emit (q : Processing InvocationProcessingState) : Grows q (emitSpansAfterReport config q) := by
    unfold emitSpansAfterReport
    split
    · exact q.appendSpans_grows _
    · exact .refl q
  exact (push.trans (set _)).trans (emit _)

theorem processRecord_grows (time : OffsetDateTime) (record : LambdaTelemetryRecord) :
    Grows p (processRecord config time record p) := by
  cases record with
  | function logText => exact processFunctionLog_grows logText time
  | platformStart =>
    simp only [processRecord, processPlatformStart]
    split
    · exact p.pushLog_grows fun state => makePlatformStartLog config state _
    · exact .refl p
  | platformRuntimeDone => exact processRuntimeDone_grows _
  | platformReport => exact processReport_grows _
  | _ => exact .refl p

theorem processTelemetry_grows {event : LambdaTelemetry}
    (h : processTelemetry config event p = .ok p') : Grows p p' := by
  rw [processTelemetry_ok h]
  exact processRecord_grows _ _

theorem processTelemetryInDegradedMode_grows {event : LambdaTelemetry}
    {d d' : Processing DegradedProcessingState}
    (h : processTelemetryInDegradedMode config event d = .ok d') : Grows d d' := by
  rw [processTelemetryInDegradedMode_ok h]
  cases event.record with
  | function logText =>
    simp only [processRecordInDegradedMode]
    split
    · split
      · exact d.pushEpsagonTrace_grows _
      · exact d.pushLog_grows _
    · exact .refl d
  | platformInitReport =>
    simp only [processRecordInDegradedMode]
    split
    · exact appendSpans_grows _ _
    · exact .refl d
  | platformStart =>
    simp only [processRecordInDegradedMode]
    split
    · exact d.pushLog_grows _
    · exact .refl d
  | platformRuntimeDone =>
    simp only [processRecordInDegradedMode]
    split
    · exact d.pushLog_grows fun state => makePlatformRuntimeDoneLog config state _ _ _
    · exact .refl d
  | platformReport =>
    simp only [processRecordInDegradedMode]
    split
    · exact d.pushLog_grows fun state => makePlatformReportLog config state _
    · exact .refl d
  | _ => exact .refl d

theorem processFunctionSpans_grows (spans : List ResourceSpans) :
    Grows p (processFunctionSpans config spans p) := by
  have forward (q : Processing InvocationProcessingState) (rss : List ResourceSpans) :
      Grows q (forwardSpans config rss q) := by
    unfold forwardSpans
    split
    · exact q.outputBuffers.addFunctionResourceSpans_grows rss
    · exact .refl q
  have emit (q : Processing InvocationProcessingState) : Grows q (emitLogsOfEarlySpan config q) := by
    unfold emitLogsOfEarlySpan
    split
    · exact @processDelayedLogs_grows _ config
        { q with state := { q.state with delayingLogs := false } }
    · exact .refl q
  have tracing (t : InvocationTracingState) :
      Grows p { p with state := { p.state with tracingState := t } } := .refl p
  exact (tracing _).trans ((forward _ _).trans (emit _))

end

end TelemetryExporter
