import TelemetryExporter.Model.TelemetryProcessor

/-!
# What processing one event does

Each function of `telemetry_processor` gets one lemma that says what it does to the identity of the
state, to the three facts that the service reads off it (`delaying_logs`, `runtime_done_data`,
`report_data`), and to the function logs. Logs are compared by their `source`: the logs that have
reached the output buffer, followed by those the state still delays, grow by exactly the log of the
processed event.
-/

namespace TelemetryExporter

/-! ## Log makers -/

section

variable {S : Type} [ProcessingState S] (config : TelemetryProcessorConfig) (state : S)

open ProcessingState

/-- What a log has from the state in which it is made, whatever its body. -/
structure LogRecord.StampedBy (state : S) (time : OffsetDateTime) (source : LogSource)
    (log : LogRecord) : Prop where
  timeUnixNano : log.timeUnixNano = (makeLogTimestamp (lastLogState state) time).1
  traceId : log.traceId = (currentSpanRef state).traceId
  spanId : log.spanId = (currentSpanRef state).spanId
  source : log.source = source

theorem platformLogRecord_stampedBy (fields : List (String × Option Json))
    (severity : SeverityNumber) (metadata : Option LogMetadata) (time : OffsetDateTime)
    (source : LogSource) :
    (platformLogRecord fields severity metadata (makeLogTimestamp (lastLogState state) time).1
      (currentSpanRef state) source).StampedBy state time source :=
  ⟨rfl, rfl, rfl, rfl⟩

@[simp] theorem makeFunctionLog_snd [External] (logText : String) (time : OffsetDateTime) :
    (makeFunctionLog config state logText time).2 =
      setLastLogState state (makeLogTimestamp (lastLogState state) time).2 := rfl

@[simp] theorem makeFunctionLog_source [External] (logText : String) (time : OffsetDateTime) :
    (makeFunctionLog config state logText time).1.source = .function (serial state) logText time :=
  rfl

@[simp] theorem makePlatformStartLog_snd (data : PlatformStartData) :
    (makePlatformStartLog config state data).2 =
      setLastLogState state (makeLogTimestamp (lastLogState state) data.time).2 := rfl

theorem makePlatformStartLog_stampedBy (data : PlatformStartData) :
    (makePlatformStartLog config state data).1.StampedBy state data.time (.start (serial state)) := by
  simp only [makePlatformStartLog]
  split
  · exact platformLogRecord_stampedBy ..
  · exact platformLogRecord_stampedBy ..

@[simp] theorem makePlatformStartLog_source (data : PlatformStartData) :
    (makePlatformStartLog config state data).1.source = .start (serial state) :=
  (makePlatformStartLog_stampedBy config state data).source

@[simp] theorem makePlatformRuntimeDoneLog_snd (data : PlatformRuntimeDoneData)
    (status description : Option String) :
    (makePlatformRuntimeDoneLog config state data status description).2 =
      setLastLogState state (makeLogTimestamp (lastLogState state) data.time).2 := rfl

theorem makePlatformRuntimeDoneLog_stampedBy (data : PlatformRuntimeDoneData)
    (status description : Option String) :
    (makePlatformRuntimeDoneLog config state data status description).1.StampedBy state data.time
      (.runtimeDone (serial state)) := by
  simp only [makePlatformRuntimeDoneLog]
  split
  · exact platformLogRecord_stampedBy ..
  · exact platformLogRecord_stampedBy ..

@[simp] theorem makePlatformRuntimeDoneLog_source (data : PlatformRuntimeDoneData)
    (status description : Option String) :
    (makePlatformRuntimeDoneLog config state data status description).1.source =
      .runtimeDone (serial state) :=
  (makePlatformRuntimeDoneLog_stampedBy config state data status description).source

@[simp] theorem makePlatformReportLog_snd (data : PlatformReportData) :
    (makePlatformReportLog config state data).2 =
      setLastLogState state (makeLogTimestamp (lastLogState state) data.time).2 := rfl

theorem makePlatformReportLog_stampedBy (data : PlatformReportData) :
    (makePlatformReportLog config state data).1.StampedBy state data.time (.report (serial state)) := by
  simp only [makePlatformReportLog]
  split
  · exact platformLogRecord_stampedBy ..
  · exact platformLogRecord_stampedBy ..

@[simp] theorem makePlatformReportLog_source (data : PlatformReportData) :
    (makePlatformReportLog config state data).1.source = .report (serial state) :=
  (makePlatformReportLog_stampedBy config state data).source

end

@[simp] theorem InvocationProcessingState.setLastLogState_eq (state : InvocationProcessingState)
    (l : LastLogState) :
    ProcessingState.setLastLogState state l = { state with lastLogState := l } := rfl

@[simp] theorem InvocationProcessingState.serial_eq (state : InvocationProcessingState) :
    ProcessingState.serial state = some state.serial := rfl

@[simp] theorem DegradedProcessingState.serial_eq (state : DegradedProcessingState) :
    ProcessingState.serial state = none := rfl

namespace Processing

variable {S : Type} (p : Processing S) (makeLog : S → LogRecord × S)

@[simp] theorem pushLog_state : (p.pushLog makeLog).state = (makeLog p.state).2 := rfl

@[simp] theorem pushLog_logsBuffer :
    (p.pushLog makeLog).outputBuffers.logsBuffer =
      p.outputBuffers.logsBuffer ++ [(makeLog p.state).1] := rfl

@[simp] theorem pushLog_functionSpansBuffer :
    (p.pushLog makeLog).outputBuffers.functionSpansBuffer = p.outputBuffers.functionSpansBuffer :=
  rfl

@[simp] theorem pushLog_metricsState : (p.pushLog makeLog).metricsState = p.metricsState := rfl

@[simp] theorem pushEpsagonTrace_state (trace : String) : (p.pushEpsagonTrace trace).state = p.state :=
  rfl

@[simp] theorem pushEpsagonTrace_metricsState (trace : String) :
    (p.pushEpsagonTrace trace).metricsState = p.metricsState := rfl

@[simp] theorem pushEpsagonTrace_logsBuffer (trace : String) :
    (p.pushEpsagonTrace trace).outputBuffers.logsBuffer = p.outputBuffers.logsBuffer := rfl

@[simp] theorem pushEpsagonTrace_functionSpansBuffer (trace : String) :
    (p.pushEpsagonTrace trace).outputBuffers.functionSpansBuffer =
      p.outputBuffers.functionSpansBuffer := rfl

@[simp] theorem appendSpans_state (spans : List Span) : (p.appendSpans spans).state = p.state := rfl

@[simp] theorem appendSpans_metricsState (spans : List Span) :
    (p.appendSpans spans).metricsState = p.metricsState := rfl

@[simp] theorem appendSpans_logsBuffer (spans : List Span) :
    (p.appendSpans spans).outputBuffers.logsBuffer = p.outputBuffers.logsBuffer := rfl

@[simp] theorem appendSpans_functionSpansBuffer (spans : List Span) :
    (p.appendSpans spans).outputBuffers.functionSpansBuffer =
      p.outputBuffers.functionSpansBuffer := rfl

end Processing

namespace OutputBuffers

variable (out : OutputBuffers)

@[simp] theorem addFunctionScopeSpans_functionSpansBuffer (ss : List ScopeSpans) :
    (out.addFunctionScopeSpans ss).functionSpansBuffer = out.functionSpansBuffer ++ ss := by
  induction ss generalizing out with
  | nil => simp [addFunctionScopeSpans]
  | cons s ss ih =>
    have := ih { out with
      functionSpansCount := out.functionSpansCount + s.spans.length
      functionSpansBuffer := out.functionSpansBuffer ++ [s] }
    simpa [addFunctionScopeSpans] using this

@[simp] theorem addFunctionScopeSpans_logsBuffer (ss : List ScopeSpans) :
    (out.addFunctionScopeSpans ss).logsBuffer = out.logsBuffer := by
  induction ss generalizing out with
  | nil => rfl
  | cons s ss ih =>
    have := ih { out with
      functionSpansCount := out.functionSpansCount + s.spans.length
      functionSpansBuffer := out.functionSpansBuffer ++ [s] }
    simpa [addFunctionScopeSpans] using this

@[simp] theorem addFunctionScopeSpans_spansBuffer (ss : List ScopeSpans) :
    (out.addFunctionScopeSpans ss).spansBuffer = out.spansBuffer := by
  induction ss generalizing out with
  | nil => rfl
  | cons s ss ih =>
    have := ih { out with
      functionSpansCount := out.functionSpansCount + s.spans.length
      functionSpansBuffer := out.functionSpansBuffer ++ [s] }
    simpa [addFunctionScopeSpans] using this

@[simp] theorem addFunctionResourceSpans_functionSpansBuffer (rss : List ResourceSpans) :
    (out.addFunctionResourceSpans rss).functionSpansBuffer =
      out.functionSpansBuffer ++ rss.flatMap (·.scopeSpans) := by
  induction rss generalizing out with
  | nil => simp [addFunctionResourceSpans]
  | cons rs rss ih =>
    have := ih (out.addFunctionScopeSpans rs.scopeSpans)
    simpa [addFunctionResourceSpans] using this

@[simp] theorem addFunctionResourceSpans_logsBuffer (rss : List ResourceSpans) :
    (out.addFunctionResourceSpans rss).logsBuffer = out.logsBuffer := by
  induction rss generalizing out with
  | nil => rfl
  | cons rs rss ih =>
    have := ih (out.addFunctionScopeSpans rs.scopeSpans)
    simpa [addFunctionResourceSpans] using this

@[simp] theorem addFunctionResourceSpans_spansBuffer (rss : List ResourceSpans) :
    (out.addFunctionResourceSpans rss).spansBuffer = out.spansBuffer := by
  induction rss generalizing out with
  | nil => rfl
  | cons rs rss ih =>
    have := ih (out.addFunctionScopeSpans rs.scopeSpans)
    simpa [addFunctionResourceSpans] using this

end OutputBuffers

/-! ## Function logs -/

/-- The time of an event, whether `event_timestamp` accepts it or not. -/
def LambdaTelemetry.nanos (event : LambdaTelemetry) : OffsetDateTime :=
  event.timestampMillis * 1000000

/-- The log of a `Function` event that is not an Epsagon trace. -/
def functionLog [External] (event : LambdaTelemetry) : Option RawFunctionLog :=
  match event.record with
  | .function logText =>
    match detectEpsagonTrace logText with
    | .regularLog logText => some { logText, time := event.nanos }
    | .epsagonTraceJson _ => none
  | _ => none

/-- The function logs of a list of events. -/
def functionLogs [External] (events : List LambdaTelemetry) : List RawFunctionLog :=
  events.filterMap functionLog

/-- The source of the log record that a function log becomes. -/
def RawFunctionLog.source (invocation : Option Nat) (log : RawFunctionLog) : LogSource :=
  .function invocation log.logText log.time

/-- Whether a log record was made from a function log. -/
def LogSource.isFunction : LogSource → Bool
  | .function .. => true
  | _ => false

/-- The sources of the records that were made from function logs. -/
def functionSources (logs : List LogRecord) : List LogSource :=
  (logs.map (·.source)).filter LogSource.isFunction

@[simp] theorem functionSources_append (a b : List LogRecord) :
    functionSources (a ++ b) = functionSources a ++ functionSources b := by
  simp [functionSources]

@[simp] theorem functionSources_nil : functionSources [] = [] := rfl

/-- The sources that the delayed logs of an invocation will have. -/
def InvocationProcessingState.delayedSources (state : InvocationProcessingState) : List LogSource :=
  state.logs.map (RawFunctionLog.source (some state.serial))

/-- The function logs that have been processed: those emitted, then those delayed. -/
def Processing.processedSources (p : Processing InvocationProcessingState) : List LogSource :=
  functionSources p.outputBuffers.logsBuffer ++ p.state.delayedSources

/-- Logs are only delayed while `delaying_logs`. -/
def InvocationProcessingState.DelaysInOrder (state : InvocationProcessingState) : Prop :=
  state.delayingLogs = false → state.logs = []

theorem eventTimestamp_eq {event : LambdaTelemetry} {time : OffsetDateTime}
    (h : eventTimestamp event = .ok time) : time = event.nanos := by
  simp only [eventTimestamp, fromUnixTimestampNanos] at h
  split at h
  · cases h
    rfl
  · cases h

/-! ## One event with an invocation's state -/

/-- The fields that identify an invocation are the same. -/
structure SameInvocation (state state' : InvocationProcessingState) : Prop where
  serial : state'.serial = state.serial
  invocationContext : state'.invocationContext = state.invocationContext
  functionContext : state'.functionContext = state.functionContext

namespace SameInvocation

theorem refl (state : InvocationProcessingState) : SameInvocation state state := ⟨rfl, rfl, rfl⟩

theorem trans {a b c : InvocationProcessingState} (h : SameInvocation a b)
    (h' : SameInvocation b c) : SameInvocation a c :=
  ⟨h'.serial.trans h.serial, h'.invocationContext.trans h.invocationContext,
    h'.functionContext.trans h.functionContext⟩

end SameInvocation

variable {p p' : Processing InvocationProcessingState}

/-- Records whose sources are function logs. -/
theorem functionSources_of_sources {records : List LogRecord} {invocation : Option Nat}
    {logs : List RawFunctionLog}
    (h : records.map (·.source) = logs.map (RawFunctionLog.source invocation)) :
    functionSources records = logs.map (RawFunctionLog.source invocation) := by
  rw [functionSources, h, List.filter_eq_self]
  intro source hsource
  obtain ⟨log, -, rfl⟩ := List.mem_map.1 hsource
  rfl

/-- The delayed logs have moved to the output buffer, and at most a start log with them. -/
def Flushed (p p' : Processing InvocationProcessingState) : Prop :=
  ∃ l records,
    p' = { p with
      state := { p.state with logs := [], lastLogState := l }
      outputBuffers :=
        { p.outputBuffers with logsBuffer := p.outputBuffers.logsBuffer ++ records } } ∧
    functionSources records = p.state.delayedSources

/-- The delay has ended with the delayed logs in the output buffer, or nothing has changed. -/
def EndsDelay (p p' : Processing InvocationProcessingState) : Prop :=
  p' = p ∨ Flushed { p with state := { p.state with delayingLogs := false } } p'

/-- A part of the processing that no event's log and no event's data enter. -/
structure Keeps (config : TelemetryProcessorConfig) (p p' : Processing InvocationProcessingState) :
    Prop where
  same : SameInvocation p.state p'.state
  reportData : p'.state.reportData = p.state.reportData
  runtimeDoneData : p'.state.runtimeDoneData = p.state.runtimeDoneData
  delaysInOrder : config.logMode = .structured → p.state.DelaysInOrder → p'.state.DelaysInOrder
  processedSources : p'.processedSources = p.processedSources
  noLogs : p.state.logs = [] → p'.state.logs = []

/-- What processing an event does to the state and to the function logs. -/
structure Advances [External] (config : TelemetryProcessorConfig) (event : LambdaTelemetry)
    (p p' : Processing InvocationProcessingState) : Prop where
  same : SameInvocation p.state p'.state
  reportData : p'.state.reportData.isSome = (p.state.reportData.isSome || event.isReport)
  runtimeDoneData :
    p'.state.runtimeDoneData.isSome = (p.state.runtimeDoneData.isSome || event.isRuntimeDone)
  delaysInOrder : config.logMode = .structured → p.state.DelaysInOrder → p'.state.DelaysInOrder
  processedSources : config.logMode = .structured → p.state.DelaysInOrder →
    p'.processedSources = p.processedSources ++
      (functionLog event).toList.map (RawFunctionLog.source (some p.state.serial))
  reported : config.logMode = .structured → event.isReport = true → p'.state.logs = []

namespace Keeps

variable {config : TelemetryProcessorConfig} {q : Processing InvocationProcessingState}

theorem refl (p : Processing InvocationProcessingState) : Keeps config p p :=
  ⟨.refl _, rfl, rfl, fun _ h => h, rfl, id⟩

theorem trans (h : Keeps config p q) (h' : Keeps config q p') : Keeps config p p' :=
  ⟨h.same.trans h'.same, h'.reportData.trans h.reportData,
    h'.runtimeDoneData.trans h.runtimeDoneData,
    fun hmode hp => h'.delaysInOrder hmode (h.delaysInOrder hmode hp),
    h'.processedSources.trans h.processedSources, fun hp => h'.noLogs (h.noLogs hp)⟩

/-- Moving the delayed logs, also after giving up on the invocation span. -/
theorem of_flushed {delayingLogs : Bool}
    (h : Flushed { p with state := { p.state with delayingLogs } } p') : Keeps config p p' := by
  obtain ⟨l, records, rfl, hsources⟩ := h
  refine ⟨⟨rfl, rfl, rfl⟩, rfl, rfl, fun _ _ _ => rfl, ?_, fun _ => rfl⟩
  simpa [Processing.processedSources, InvocationProcessingState.delayedSources] using hsources

theorem of_endsDelay (h : EndsDelay p p') : Keeps config p p' := by
  rcases h with rfl | h
  · exact .refl _
  · exact .of_flushed h

/-- Pushing a log that is not a function's. -/
theorem of_pushLog {makeLog : InvocationProcessingState → LogRecord × InvocationProcessingState}
    {l : LastLogState} (hstate : (makeLog p.state).2 = { p.state with lastLogState := l })
    (hsource : (makeLog p.state).1.source.isFunction = false) :
    Keeps config p (p.pushLog makeLog) := by
  refine ⟨⟨?_, ?_, ?_⟩, ?_, ?_, fun _ h => ?_, ?_, fun h => ?_⟩
  iterate 5 rw [Processing.pushLog_state, hstate]
  · rw [Processing.pushLog_state, hstate]
    exact h
  · simp [Processing.processedSources, InvocationProcessingState.delayedSources, hstate,
      functionSources, hsource]
  · rw [Processing.pushLog_state, hstate]
    exact h

/-- An event without a log, a runtime's end or a report. -/
theorem advances [External] {event : LambdaTelemetry} (h : Keeps config p p')
    (hlog : functionLog event = none) (hreport : event.isReport = false)
    (hdone : event.isRuntimeDone = false) : Advances config event p p' where
  same := h.same
  reportData := by simp [h.reportData, hreport]
  runtimeDoneData := by simp [h.runtimeDoneData, hdone]
  delaysInOrder := h.delaysInOrder
  processedSources _ _ := by simp [h.processedSources, hlog]
  reported _ h := by simp [hreport] at h

/-- An event processed from a state that has been kept. -/
theorem then_advances [External] {event : LambdaTelemetry} (h : Keeps config p q)
    (h' : Advances config event q p') : Advances config event p p' where
  same := h.same.trans h'.same
  reportData := by rw [h'.reportData, h.reportData]
  runtimeDoneData := by rw [h'.runtimeDoneData, h.runtimeDoneData]
  delaysInOrder hmode hp := h'.delaysInOrder hmode (h.delaysInOrder hmode hp)
  processedSources hmode hp := by
    rw [h'.processedSources hmode (h.delaysInOrder hmode hp), h.processedSources, h.same.serial]
  reported := h'.reported

end Keeps

section

variable [External] {config : TelemetryProcessorConfig}

theorem pushFunctionLogs_spec (logs : List RawFunctionLog) :
    ∃ l records,
      pushFunctionLogs config logs p =
        { p with
          state := { p.state with lastLogState := l }
          outputBuffers :=
            { p.outputBuffers with logsBuffer := p.outputBuffers.logsBuffer ++ records } } ∧
      records.map (·.source) = logs.map (RawFunctionLog.source (some p.state.serial)) := by
  induction logs generalizing p with
  | nil => exact ⟨p.state.lastLogState, [], by simp [pushFunctionLogs], rfl⟩
  | cons log logs ih =>
    obtain ⟨l, records, heq, hsources⟩ :=
      @ih (p.pushLog fun s => makeFunctionLog config s log.logText log.time)
    refine ⟨l, (makeFunctionLog config p.state log.logText log.time).1 :: records, ?_, ?_⟩
    · change pushFunctionLogs config logs (p.pushLog _) = _
      rw [heq]
      simp [Processing.pushLog]
    · simpa [RawFunctionLog.source] using hsources

theorem takeLogs_flushed : Flushed p (takeLogs config p) := by
  obtain ⟨l, records, heq, hsources⟩ := @pushFunctionLogs_spec
    { p with state := { p.state with logs := [] } } _ config p.state.logs
  exact ⟨l, records, heq, functionSources_of_sources hsources⟩

theorem processDelayedLogs_flushed : Flushed p (processDelayedLogs config p) := by
  have push (data : PlatformStartData) :
      Flushed p (takeLogs config (p.pushLog fun s => makePlatformStartLog config s data)) := by
    obtain ⟨l, records, heq, hsources⟩ :=
      @takeLogs_flushed (p.pushLog fun s => makePlatformStartLog config s data) _ config
    refine ⟨l, (makePlatformStartLog config p.state data).1 :: records, ?_, ?_⟩
    · rw [heq]
      simp [Processing.pushLog]
    · simpa [functionSources, LogSource.isFunction,
        InvocationProcessingState.delayedSources] using hsources
  unfold processDelayedLogs
  split
  · split
    · exact push _
    · exact takeLogs_flushed
  · exact takeLogs_flushed

theorem stopDelayingLogs_endsDelay : EndsDelay p (stopDelayingLogs config p) := by
  unfold stopDelayingLogs
  split
  · exact .inr processDelayedLogs_flushed
  · exact .inl rfl

theorem emitLogsOfEarlySpan_endsDelay : EndsDelay p (emitLogsOfEarlySpan config p) := by
  unfold emitLogsOfEarlySpan
  split
  · exact .inr processDelayedLogs_flushed
  · exact .inl rfl

/-- A log of the function is nothing to process, a trace, a delayed log or an emitted one. -/
theorem processFunctionLog_cases {logText : String} {time : OffsetDateTime} :
    processFunctionLog config logText time p = p ∨
    (∃ trace, processFunctionLog config logText time p = p.pushEpsagonTrace trace) ∨
    (∃ text, p.state.delayingLogs = true ∧ processFunctionLog config logText time p =
      { p with state := { p.state with logs := p.state.logs ++ [{ logText := text, time }] } }) ∨
    (∃ text, ¬ p.state.delayingLogs = true ∧ processFunctionLog config logText time p =
      p.pushLog fun s => makeFunctionLog config s text time) := by
  unfold processFunctionLog
  by_cases hmode : config.logMode = .structured
  · rw [if_pos hmode]
    cases detectEpsagonTrace logText with
    | epsagonTraceJson trace => exact .inr (.inl ⟨trace, rfl⟩)
    | regularLog text =>
      simp only
      by_cases hdelaying : p.state.delayingLogs = true
      · rw [if_pos hdelaying]
        exact .inr (.inr (.inl ⟨text, hdelaying, rfl⟩))
      · rw [if_neg hdelaying]
        exact .inr (.inr (.inr ⟨text, hdelaying, rfl⟩))
  · rw [if_neg hmode]
    exact .inl rfl

/-- Only the logs and the traces change. -/
theorem processFunctionLog_frame (logText : String) (time : OffsetDateTime) :
    ∃ logs l records traces, processFunctionLog config logText time p =
      { p with
        state := { p.state with logs, lastLogState := l }
        outputBuffers :=
          { p.outputBuffers with logsBuffer := records, epsagonTracesBuffer := traces } } := by
  rcases @processFunctionLog_cases p _ config logText time with
    heq | ⟨trace, heq⟩ | ⟨text, -, heq⟩ | ⟨text, -, heq⟩
  · exact ⟨_, _, _, _, heq⟩
  · exact ⟨_, _, _, _, heq⟩
  · exact ⟨_, _, _, _, heq⟩
  · exact ⟨_, _, _, _, heq⟩

theorem processFunctionLog_advances {event : LambdaTelemetry} {logText : String}
    (hrecord : event.record = .function logText) :
    Advances config event p (processFunctionLog config logText event.nanos p) := by
  have hlog : functionLog event =
      match detectEpsagonTrace logText with
      | .regularLog logText => some { logText, time := event.nanos }
      | .epsagonTraceJson _ => none := by
    simp only [functionLog, hrecord]
  have hreport : event.isReport = false := by simp [LambdaTelemetry.isReport, hrecord]
  have hdone : event.isRuntimeDone = false := by simp [LambdaTelemetry.isRuntimeDone, hrecord]
  unfold processFunctionLog
  split
  · split
    · next htrace =>
      exact Keeps.advances ⟨.refl _, rfl, rfl, fun _ h => h, rfl, id⟩ (by rw [hlog, htrace]) hreport
        hdone
    · next htext =>
      rw [htext] at hlog
      split
      · next hdelaying =>
        refine ⟨⟨rfl, rfl, rfl⟩, by simp [hreport], by simp [hdone], fun _ _ h => ?_, fun _ _ => ?_,
          by simp [hreport]⟩
        · simp [hdelaying] at h
        · simp [Processing.processedSources, InvocationProcessingState.delayedSources, hlog]
      · next hdelaying =>
        refine ⟨⟨rfl, rfl, rfl⟩, by simp [hreport], by simp [hdone], fun _ h => h, fun _ h => ?_,
          by simp [hreport]⟩
        -- the log is emitted at once, so none may still be delayed before it
        have hnone : p.state.logs = [] := h (by simpa using hdelaying)
        simp [Processing.processedSources, InvocationProcessingState.delayedSources, hlog, hnone,
          functionSources, LogSource.isFunction, RawFunctionLog.source]
  · next hmode =>
    exact ⟨.refl _, by simp [hreport], by simp [hdone], fun _ h => h, fun h => absurd h hmode,
      by simp [hreport]⟩

omit [External] in
theorem processPlatformStart_keeps (data : PlatformStartData) :
    Keeps config p (processPlatformStart config data p) := by
  have push : Keeps config p (p.pushLog fun s => makePlatformStartLog config s data) :=
    .of_pushLog rfl (by simp [LogSource.isFunction])
  unfold processPlatformStart
  split
  · exact push.trans ⟨⟨rfl, rfl, rfl⟩, rfl, rfl, fun _ h => h, rfl, id⟩
  · exact ⟨⟨rfl, rfl, rfl⟩, rfl, rfl, fun _ h => h, rfl, id⟩

omit [External] in
theorem emitSpansAfterRuntimeDone_eq :
    (emitSpansAfterRuntimeDone config p).state = p.state ∧
      (emitSpansAfterRuntimeDone config p).outputBuffers.logsBuffer = p.outputBuffers.logsBuffer ∧
      (emitSpansAfterRuntimeDone config p).metricsState = p.metricsState := by
  unfold emitSpansAfterRuntimeDone
  split
  · split <;> simp
  · simp

omit [External] in
theorem pushRuntimeDoneLog_keeps (data : PlatformRuntimeDoneData) :
    Keeps config p (pushRuntimeDoneLog config data p) := by
  unfold pushRuntimeDoneLog
  dsimp only
  split
  · exact .of_pushLog rfl (by simp [LogSource.isFunction])
  · exact .refl p

omit [External] in
theorem emitSpansAfterRuntimeDone_keeps : Keeps config p (emitSpansAfterRuntimeDone config p) := by
  obtain ⟨hstate, hlogs, -⟩ := @emitSpansAfterRuntimeDone_eq p config
  refine ⟨?_, ?_, ?_, fun _ h => ?_, ?_, fun h => ?_⟩
  · rw [hstate]
    exact .refl _
  · rw [hstate]
  · rw [hstate]
  · rwa [hstate]
  · simp [Processing.processedSources, hstate, hlogs]
  · rwa [hstate]

theorem pushReportLogs_keeps (data : PlatformReportData) :
    Keeps config p (pushReportLogs config data p) := by
  have take : Keeps config p (takeLogs config p) :=
    @Keeps.of_flushed p _ _ p.state.delayingLogs takeLogs_flushed
  unfold pushReportLogs
  split
  · dsimp only
    split
    · exact take.trans (.of_pushLog rfl (by simp [LogSource.isFunction]))
    · exact take
  · exact .refl p

/-- No log is delayed beyond the report. -/
theorem pushReportLogs_logs (data : PlatformReportData) (hmode : config.logMode = .structured) :
    (pushReportLogs config data p).state.logs = [] := by
  have take : (takeLogs config p).state.logs = [] := by
    obtain ⟨l, records, heq, -⟩ := @takeLogs_flushed p _ config
    rw [heq]
  unfold pushReportLogs
  rw [if_pos hmode]
  dsimp only
  split
  · exact take
  · exact take

omit [External] in
theorem emitSpansAfterReport_keeps : Keeps config p (emitSpansAfterReport config p) := by
  unfold emitSpansAfterReport
  split
  · exact ⟨.refl _, rfl, rfl, fun _ h => h, rfl, id⟩
  · exact .refl p

/-- The other direction of `Keeps.then_advances`. -/
theorem Advances.then_keeps {event : LambdaTelemetry} {q : Processing InvocationProcessingState}
    (h : Advances config event p q) (h' : Keeps config q p') : Advances config event p p' where
  same := h.same.trans h'.same
  reportData := by rw [h'.reportData, h.reportData]
  runtimeDoneData := by rw [h'.runtimeDoneData, h.runtimeDoneData]
  delaysInOrder hmode hp := h'.delaysInOrder hmode (h.delaysInOrder hmode hp)
  processedSources hmode hp := by rw [h'.processedSources, h.processedSources hmode hp]
  reported hmode hevent := h'.noLogs (h.reported hmode hevent)

theorem processRuntimeDone_advances {event : LambdaTelemetry} {data : PlatformRuntimeDoneData}
    (hlog : functionLog event = none) (hreport : event.isReport = false)
    (hdone : event.isRuntimeDone = true) :
    Advances config event p (processRuntimeDone config data p) := by
  have set (q : Processing InvocationProcessingState) :
      Advances config event q (setRuntimeDoneData data q) :=
    ⟨⟨rfl, rfl, rfl⟩, by simp [setRuntimeDoneData, hreport], by simp [setRuntimeDoneData, hdone],
      fun _ h => h, fun _ _ => by
        simp [setRuntimeDoneData, Processing.processedSources, hlog,
          InvocationProcessingState.delayedSources], by simp [hreport]⟩
  have before := (Keeps.of_endsDelay stopDelayingLogs_endsDelay).trans
    (@pushRuntimeDoneLog_keeps (stopDelayingLogs config p) config data)
  exact (before.then_advances (set _)).then_keeps emitSpansAfterRuntimeDone_keeps

theorem processReport_advances {event : LambdaTelemetry} {data : PlatformReportData}
    (hlog : functionLog event = none) (hreport : event.isReport = true)
    (hdone : event.isRuntimeDone = false) :
    Advances config event p (processReport config data p) := by
  have set (q : Processing InvocationProcessingState)
      (hq : config.logMode = .structured → q.state.logs = []) :
      Advances config event q (setReportData data q) :=
    ⟨⟨rfl, rfl, rfl⟩, by simp [setReportData, hreport], by simp [setReportData, hdone],
      fun _ h => h, fun _ _ => by
        simp [setReportData, Processing.processedSources, hlog,
          InvocationProcessingState.delayedSources], fun hmode _ => hq hmode⟩
  have after (q : Processing InvocationProcessingState) (m : PlatformMetricsState) :
      Keeps config q { q with metricsState := m } := ⟨.refl _, rfl, rfl, fun _ h => h, rfl, id⟩
  exact ((pushReportLogs_keeps data).then_advances (set _ (pushReportLogs_logs data))).then_keeps
    (emitSpansAfterReport_keeps.trans (after _ _))

theorem processRecord_advances (event : LambdaTelemetry) :
    Advances config event p (processRecord config event.nanos event.record p) := by
  cases hrecord : event.record with
  | function logText => exact processFunctionLog_advances hrecord
  | platformStart requestId version tracing =>
    exact (processPlatformStart_keeps _).advances (by simp [functionLog, hrecord])
      (by simp [LambdaTelemetry.isReport, hrecord]) (by simp [LambdaTelemetry.isRuntimeDone, hrecord])
  | platformRuntimeDone =>
    exact processRuntimeDone_advances (by simp [functionLog, hrecord])
      (by simp [LambdaTelemetry.isReport, hrecord]) (by simp [LambdaTelemetry.isRuntimeDone, hrecord])
  | platformReport =>
    exact processReport_advances (by simp [functionLog, hrecord])
      (by simp [LambdaTelemetry.isReport, hrecord]) (by simp [LambdaTelemetry.isRuntimeDone, hrecord])
  | _ =>
    exact Keeps.advances ⟨⟨rfl, rfl, rfl⟩, rfl, rfl, fun _ h => h, rfl, id⟩
      (by simp [functionLog, hrecord]) (by simp [LambdaTelemetry.isReport, hrecord])
      (by simp [LambdaTelemetry.isRuntimeDone, hrecord])

/-- An event that is processed has been processed with its time. -/
theorem processTelemetry_ok {event : LambdaTelemetry}
    (h : processTelemetry config event p = .ok p') :
    p' = processRecord config event.nanos event.record p := by
  unfold processTelemetry at h
  split at h
  · cases h
  next time htime =>
    cases h
    rw [eventTimestamp_eq htime]

theorem processTelemetry_advances {event : LambdaTelemetry}
    (h : processTelemetry config event p = .ok p') : Advances config event p p' := by
  rw [processTelemetry_ok h]
  exact processRecord_advances event

theorem processFunctionSpans_keeps (spans : List ResourceSpans) :
    Keeps config p (processFunctionSpans config spans p) := by
  have tracing (q : Processing InvocationProcessingState) (t : InvocationTracingState) :
      Keeps config q { q with state := { q.state with tracingState := t } } :=
    ⟨⟨rfl, rfl, rfl⟩, rfl, rfl, fun _ h => h, rfl, id⟩
  have forward (q : Processing InvocationProcessingState) (rss : List ResourceSpans) :
      Keeps config q (forwardSpans config rss q) := by
    unfold forwardSpans
    split
    · exact ⟨.refl _, rfl, rfl, fun _ h => h, by simp [Processing.processedSources], id⟩
    · exact .refl q
  exact (tracing p _).trans ((forward _ _).trans (.of_endsDelay emitLogsOfEarlySpan_endsDelay))

/-! ## One event in degraded mode -/

theorem processTelemetryInDegradedMode_ok {event : LambdaTelemetry}
    {d d' : Processing DegradedProcessingState}
    (h : processTelemetryInDegradedMode config event d = .ok d') :
    d' = processRecordInDegradedMode config event.nanos event.record d := by
  unfold processTelemetryInDegradedMode at h
  split at h
  · cases h
  next time htime =>
    cases h
    rw [eventTimestamp_eq htime]

/-- In degraded mode a function log is emitted at once, with no invocation. -/
theorem processTelemetryInDegradedMode_sources {event : LambdaTelemetry}
    {d d' : Processing DegradedProcessingState} (hmode : config.logMode = .structured)
    (h : processTelemetryInDegradedMode config event d = .ok d') :
    functionSources d'.outputBuffers.logsBuffer = functionSources d.outputBuffers.logsBuffer ++
      (functionLog event).toList.map (RawFunctionLog.source none) := by
  rw [processTelemetryInDegradedMode_ok h]
  cases hrecord : event.record with
  | function logText =>
    simp only [processRecordInDegradedMode, functionLog, hrecord, hmode]
    cases htext : detectEpsagonTrace logText <;>
      simp [functionSources, LogSource.isFunction, RawFunctionLog.source]
  | platformInitReport =>
    simp only [processRecordInDegradedMode, functionLog, hrecord]
    split <;> simp
  | platformStart =>
    simp only [processRecordInDegradedMode, functionLog, hrecord]
    split <;> simp [functionSources, LogSource.isFunction]
  | platformRuntimeDone =>
    simp only [processRecordInDegradedMode, functionLog, hrecord]
    split <;> simp [functionSources, LogSource.isFunction]
  | platformReport =>
    simp only [processRecordInDegradedMode, functionLog, hrecord]
    split <;> simp [functionSources, LogSource.isFunction]
  | _ => simp [processRecordInDegradedMode, functionLog, hrecord]

end

end TelemetryExporter
