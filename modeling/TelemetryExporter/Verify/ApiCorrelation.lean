import TelemetryExporter.Lib.Split
import TelemetryExporter.Verify.LogOrder
import TelemetryExporter.Verify.PlatformSpans

/-!
# Correlation in TelemetryApi mode

Logs do not wait in this mode: each gets the ids that are current when it is made, and the platform's
invocation span gets those of the end of the runtime. The function's spans are not exported, but
they are captured, and a captured span replaces the ids of the invocation context.
-/

namespace TelemetryExporter

open Machine

/-! ## Ids by the received spans -/

/-- The ids that logs and platform spans get after the received spans. -/
def refAfter (config : TelemetryProcessorConfig) (context : InvocationContext)
    (received : List SpanWithScope) : SpanRef :=
  ((invocationSpanOf received).map fun s => (s.prepared config).ref).getD context.ref

theorem invocationRef_eq {config : TelemetryProcessorConfig} {received : List SpanWithScope}
    {state : InvocationProcessingState}
    (h : HasCaptured config (captureSpans (fun _ => none) received).1 state.tracingState) :
    state.invocationRef = refAfter config state.invocationContext received := by
  have hfinal : state.tracingState.cxInvocationSpan = _ := slot_eq_firstOf h .invocation
  have hearly : state.tracingState.cxEarlyInvocationSpan = _ := slot_eq_firstOf h .earlyInvocation
  have hgeneric : state.tracingState.genericInvocationSpan = _ := slot_eq_firstOf h .generic
  unfold InvocationProcessingState.invocationRef refAfter invocationSpanOf
  rw [hfinal, hearly, hgeneric]
  cases firstOf received .invocation with
  | some final => rfl
  | none =>
    cases firstOf received .earlyInvocation with
    | some early => rfl
    | none => cases firstOf received .generic <;> rfl

/-- Logs with the current ids have been pushed, if there is one to push. -/
def PushesIff (emits : Prop) (p p' : Processing InvocationProcessingState) : Prop :=
  ∃ records, p'.outputBuffers.logsBuffer = p.outputBuffers.logsBuffer ++ records ∧
    (∀ record ∈ records,
      record.traceId = p.state.currentTraceId ∧ record.spanId = p.state.currentSpanId) ∧
    (records ≠ [] ↔ emits)

/-- No logs are held back. -/
structure Immediate (p : Processing InvocationProcessingState) : Prop where
  delayingLogs : p.state.delayingLogs = false
  logs : p.state.logs = []

section

variable [External] {config : TelemetryProcessorConfig}
  {p p' : Processing InvocationProcessingState}

namespace PushesIff

omit [External] in
theorem none {emits : Prop} (h : p'.outputBuffers.logsBuffer = p.outputBuffers.logsBuffer)
    (hemits : ¬ emits) : PushesIff emits p p' := by
  refine ⟨[], by rw [h, List.append_nil], fun record hrecord => ?_, ?_⟩
  · cases hrecord
  · exact ⟨fun hne => absurd rfl hne, fun h => absurd h hemits⟩

omit [External] in
theorem congr {emits emits' : Prop} (h : PushesIff emits p p') (hiff : emits ↔ emits') :
    PushesIff emits' p p' := by
  obtain ⟨records, hlogs, hids, hne⟩ := h
  exact ⟨records, hlogs, hids, hne.trans hiff⟩

omit [External] in
theorem pushLog_if {emits : Prop} {q : Processing InvocationProcessingState}
    {makeLog : InvocationProcessingState → LogRecord × InvocationProcessingState}
    {enabled : Prop} [Decidable enabled]
    (htrace : (makeLog p.state).1.traceId = p.state.currentTraceId)
    (hspan : (makeLog p.state).1.spanId = p.state.currentSpanId)
    (hq : q.outputBuffers.logsBuffer =
      (if enabled then p.pushLog makeLog else p).outputBuffers.logsBuffer)
    (hemits : emits ↔ enabled) : PushesIff emits p q := by
  by_cases h : enabled
  · rw [if_pos h] at hq
    refine ⟨[(makeLog p.state).1], hq, fun record hrecord => ?_, ?_⟩
    · obtain rfl := List.mem_singleton.1 hrecord
      exact ⟨htrace, hspan⟩
    · exact ⟨fun _ => hemits.2 h, fun _ => List.cons_ne_nil _ _⟩
  · rw [if_neg h] at hq
    exact .none hq (fun hem => h (hemits.1 hem))

end PushesIff

theorem stopDelayingLogs_of_immediate (h : Immediate p) : stopDelayingLogs config p = p := by
  unfold stopDelayingLogs
  rw [h.delayingLogs]
  exact if_neg fun hboth => Bool.false_ne_true hboth.2

theorem takeLogs_of_immediate (h : Immediate p) : takeLogs config p = p := by
  unfold takeLogs
  rw [h.logs]
  change { p with state := { p.state with logs := [] } } = p
  rw [← h.logs]

/-- The logs of the end of the runtime. -/
theorem processRuntimeDone_pushesIff (h : Immediate p) (hmode : config.logMode = .structured)
    (data : PlatformRuntimeDoneData) :
    PushesIff (config.platformLogSet.runtimeDone = true) p (processRuntimeDone config data p) := by
  have hlogs := (@emitSpansAfterRuntimeDone_eq (setRuntimeDoneData data
    (pushRuntimeDoneLog config data (stopDelayingLogs config p))) config).2.1
  rw [stopDelayingLogs_of_immediate h] at hlogs
  unfold processRuntimeDone
  simp only
  rw [stopDelayingLogs_of_immediate h]
  have hstamped := makePlatformRuntimeDoneLog_stampedBy config p.state data
  refine .pushLog_if (hstamped _ _).traceId (hstamped _ _).spanId hlogs ⟨fun hon => ?_, And.right⟩
  exact ⟨hmode, hon⟩

theorem processRuntimeDone_immediate (h : Immediate p) (data : PlatformRuntimeDoneData) :
    Immediate (processRuntimeDone config data p) := by
  unfold processRuntimeDone setRuntimeDoneData pushRuntimeDoneLog
  simp only
  constructor
  · rw [emitSpansAfterRuntimeDone_eq.1, stopDelayingLogs_of_immediate h]
    split <;> exact h.delayingLogs
  · rw [emitSpansAfterRuntimeDone_eq.1, stopDelayingLogs_of_immediate h]
    split <;> exact h.logs

/-- The log of a report. -/
theorem processReport_immediate (h : Immediate p) (hmode : config.logMode = .structured)
    (data : PlatformReportData) :
    PushesIff (config.platformLogSet.report = true) p (processReport config data p) ∧
      Immediate (processReport config data p) := by
  have hlogs : pushReportLogs config data p =
      if config.platformLogSet.report then p.pushLog fun s => makePlatformReportLog config s data
      else p := by
    unfold pushReportLogs
    rw [if_pos hmode, takeLogs_of_immediate h]
  have hbuffer : (processReport config data p).outputBuffers.logsBuffer =
      (pushReportLogs config data p).outputBuffers.logsBuffer := by
    unfold processReport emitSpansAfterReport
    simp only
    split <;> rfl
  have hstate : (processReport config data p).state =
      (setReportData data (pushReportLogs config data p)).state := by
    unfold processReport emitSpansAfterReport
    simp only
    split <;> rfl
  rw [hlogs] at hbuffer hstate
  have hstamped := makePlatformReportLog_stampedBy config p.state data
  refine ⟨.pushLog_if hstamped.traceId hstamped.spanId hbuffer Iff.rfl, ?_, ?_⟩
  · rw [hstate]
    unfold setReportData
    split <;> exact h.delayingLogs
  · rw [hstate]
    unfold setReportData
    split <;> exact h.logs

omit [External] in
theorem processPlatformStart_immediate (h : Immediate p) (data : PlatformStartData) :
    Immediate (processPlatformStart config data p) := by
  unfold processPlatformStart
  constructor
  · simp only
    split <;> exact h.delayingLogs
  · simp only
    split <;> exact h.logs

/-- A log of the function. -/
theorem processFunctionLog_immediate (h : Immediate p) (hmode : config.logMode = .structured)
    {event : LambdaTelemetry} {logText : String} (hrecord : event.record = .function logText) :
    PushesIff ((functionLog event).isSome = true) p
        (processFunctionLog config logText event.nanos p) ∧
      Immediate (processFunctionLog config logText event.nanos p) := by
  unfold processFunctionLog functionLog
  rw [if_pos hmode, hrecord]
  simp only
  cases detectEpsagonTrace logText with
  | epsagonTraceJson trace => exact ⟨.none rfl Bool.false_ne_true, h.delayingLogs, h.logs⟩
  | regularLog text =>
    simp only
    rw [if_neg (Bool.eq_false_iff.1 h.delayingLogs)]
    have hpush : PushesIff
        ((some ({ logText := text, time := event.nanos } : RawFunctionLog)).isSome = true) p
        (if True then p.pushLog fun s => makeFunctionLog config s text event.nanos else p) :=
      .pushLog_if rfl rfl rfl ⟨fun _ => trivial, fun _ => rfl⟩
    rw [if_pos trivial] at hpush
    exact ⟨hpush, h.delayingLogs, h.logs⟩

/-- An event pushes a log exactly if it causes one, with the ids that are current. -/
theorem processRecord_immediate (h : Immediate p) (hmode : config.logMode = .structured)
    (event : LambdaTelemetry) :
    PushesIff ((causedLog config none event).isSome = true) p
        (processRecord config event.nanos event.record p) ∧
      Immediate (processRecord config event.nanos event.record p) := by
  unfold causedLog
  rw [if_pos hmode]
  cases hrecord : event.record with
  | function logText =>
    have hlog := processFunctionLog_immediate h hmode hrecord
    simp only [Option.isSome_map]
    exact hlog
  | platformStart requestId version tracing =>
    rw [Option.isSome_ite]
    have hpush : PushesIff (config.logMode = .structured ∧ config.platformLogSet.start = true ∧
        ¬ p.state.delayingLogs = true) p (processPlatformStart config
          { time := event.nanos, requestId, version, tracing } p) := by
      have hstamped := makePlatformStartLog_stampedBy config p.state
        { time := event.nanos, requestId, version, tracing }
      exact .pushLog_if hstamped.traceId hstamped.spanId rfl Iff.rfl
    refine ⟨hpush.congr ⟨fun hall => hall.2.1, fun hon => ⟨hmode, hon, ?_⟩⟩, ?_⟩
    · exact Bool.eq_false_iff.1 h.delayingLogs
    · exact processPlatformStart_immediate h _
  | platformRuntimeDone =>
    rw [Option.isSome_ite]
    exact ⟨processRuntimeDone_pushesIff h hmode _, processRuntimeDone_immediate h _⟩
  | platformReport =>
    rw [Option.isSome_ite]
    exact processReport_immediate h hmode _
  | _ => exact ⟨.none rfl Bool.false_ne_true, h.delayingLogs, h.logs⟩

theorem processFunctionSpans_immediate (h : Immediate p) (spans : List ResourceSpans) :
    Immediate (processFunctionSpans config spans p) ∧
      (processFunctionSpans config spans p).outputBuffers.logsBuffer =
        p.outputBuffers.logsBuffer := by
  obtain ⟨q, heq, hstate, hlogs⟩ := @processFunctionSpans_eq _ config p spans
  have hdelaying : q.state.delayingLogs = false := by
    rw [hstate]
    exact h.delayingLogs
  have hemit : emitLogsOfEarlySpan config q = q := by
    unfold emitLogsOfEarlySpan
    rw [hdelaying]
    exact if_neg fun hall => Bool.false_ne_true hall.2.1
  rw [heq, hemit]
  refine ⟨⟨hdelaying, ?_⟩, hlogs⟩
  rw [hstate]
  exact h.logs

/-! ## A run -/

/-- The ids of a log. -/
def LogRecord.ref (record : LogRecord) : SpanRef :=
  { traceId := record.traceId, spanId := record.spanId }

/-- Before each event that causes a log, the received spans give the ids. -/
def LogsGet (config : TelemetryProcessorConfig) (context : InvocationContext)
    (past : List SpanWithScope) (ref : SpanRef) (before : List InvocationInput)
    (input : InvocationInput) : Prop :=
  ∀ event, input = .telemetry event → (causedLog config none event).isSome = true →
    refAfter config context (past ++ receivedOf before) = ref

omit [External] in
/-- Where logs are pushed if and only if there is one to push, that decides about their ids. -/
theorem PushesIff.refs {emits : Prop} (h : PushesIff emits p p') (hdone : p.state.initDone) :
    ∃ records, p'.outputBuffers.logsBuffer = p.outputBuffers.logsBuffer ++ records ∧
      ∀ ref, (∀ record ∈ records, record.ref = ref) ↔ (emits → p.state.invocationRef = ref) := by
  obtain ⟨records, hlogs, hids, hne⟩ := h
  have href : ∀ record ∈ records, record.ref = p.state.invocationRef := by
    intro record hrecord
    obtain ⟨htrace, hspan⟩ := hids record hrecord
    unfold LogRecord.ref
    rw [htrace, hspan, currentTraceId_eq, currentSpanId_eq hdone]
  refine ⟨records, hlogs, fun ref => ⟨fun hall hemits => ?_, fun hemits record hrecord => ?_⟩⟩
  · obtain ⟨record, hrecord⟩ := List.exists_mem_of_ne_nil records (hne.2 hemits)
    rw [← href record hrecord]
    exact hall record hrecord
  · rw [href record hrecord]
    exact hemits (hne.1 (List.ne_nil_of_mem hrecord))

/-- The ids of the logs of one input. -/
theorem inputStep_refs {input : InvocationInput} {past : List SpanWithScope}
    (hmode : config.logMode = .structured) (hdone : p.state.initDone) (h : Immediate p)
    (hcaptured : HasCaptured config (captureSpans (fun _ => none) past).1 p.state.tracingState)
    (hstep : inputStep config p input = some p') :
    Immediate p' ∧ ∃ records,
      p'.outputBuffers.logsBuffer = p.outputBuffers.logsBuffer ++ records ∧
      ∀ ref, (∀ record ∈ records, record.ref = ref) ↔
        LogsGet config p.state.invocationContext past ref [] input := by
  unfold LogsGet
  have hnil : past ++ receivedOf [] = past := List.append_nil past
  rw [hnil, ← invocationRef_eq hcaptured]
  cases input with
  | telemetry event =>
    obtain ⟨hpushes, himmediate⟩ := processRecord_immediate h hmode event
    obtain ⟨records, hlogs, hrefs⟩ := hpushes.refs hdone
    rw [inputStep_telemetry hstep]
    refine ⟨himmediate, records, hlogs, fun ref => (hrefs ref).trans ⟨?_, ?_⟩⟩
    · rintro hall _ ⟨⟩
      exact hall
    · intro hall
      exact hall event rfl
  | functionSpans spans =>
    obtain ⟨himmediate, hlogs⟩ := @processFunctionSpans_immediate _ config p h spans
    rw [inputStep_functionSpans hstep]
    refine ⟨himmediate, [], by rw [hlogs, List.append_nil], fun ref => ⟨?_, ?_⟩⟩
    · rintro - event ⟨⟩
    · intro _ record hrecord
      cases hrecord

/-- The ids of the logs of a run. -/
theorem run_refs {inputs : List InvocationInput} {past : List SpanWithScope}
    (hmode : config.logMode = .structured)
    (hinit : ∀ event ∈ telemetryOf inputs, event.isInitStart = false) (hdone : p.state.initDone)
    (h : Immediate p)
    (hcaptured : HasCaptured config (captureSpans (fun _ => none) past).1 p.state.tracingState)
    (hrun : run (inputStep config) p inputs = some p') :
    Immediate p' ∧ ∃ records,
      p'.outputBuffers.logsBuffer = p.outputBuffers.logsBuffer ++ records ∧
      ∀ ref, (∀ record ∈ records, record.ref = ref) ↔
        inputs.EachAfter (LogsGet config p.state.invocationContext past ref) := by
  induction inputs generalizing p past with
  | nil =>
    cases hrun
    refine ⟨h, [], (List.append_nil _).symm, fun ref => ⟨fun _ => List.eachAfter_nil, ?_⟩⟩
    intro _ record hrecord
    cases hrecord
  | cons input inputs ih =>
    obtain ⟨q, hq, hrest⟩ := run_cons.1 hrun
    have hsplit : telemetryOf (input :: inputs) = telemetryOf [input] ++ telemetryOf inputs :=
      telemetryOf_append [input] inputs
    rw [hsplit] at hinit
    have hcaptured' := inputStep_hasCaptured hcaptured hq
    have hjoin : (captureSpans (captureSpans (fun _ => none) past).1 (receivedOf [input])).1 =
        (captureSpans (fun _ => none) (past ++ receivedOf [input])).1 := by
      unfold captureSpans
      rw [Capture.capture_append]
    rw [hjoin] at hcaptured'
    have hdone' := inputStep_initDone (fun e he => hinit e (List.mem_append_left _ he)) hdone hq
    have hcontext := inputStep_invocationContext hq
    have hfirst : Immediate q ∧ ∃ records,
        q.outputBuffers.logsBuffer = p.outputBuffers.logsBuffer ++ records ∧
        ∀ ref, (∀ record ∈ records, record.ref = ref) ↔
          LogsGet config p.state.invocationContext past ref [] input :=
      inputStep_refs hmode hdone h hcaptured hq
    obtain ⟨himmediate, records, hlogs, hrefs⟩ := hfirst
    obtain ⟨himmediate', records', hlogs', hrefs'⟩ :=
      ih (fun e he => hinit e (List.mem_append_right _ he)) hdone' himmediate hcaptured' hrest
    refine ⟨himmediate', records ++ records', ?_, ?_⟩
    · rw [hlogs', hlogs, List.append_assoc]
    · intro ref
      rw [List.forall_mem_append, hrefs, hrefs', List.eachAfter_cons, hcontext]
      refine and_congr Iff.rfl (List.eachAfter_congr fun before x => ?_)
      unfold LogsGet
      have hreceived : receivedOf (input :: before) = receivedOf [input] ++ receivedOf before :=
        receivedOf_append [input] before
      rw [hreceived, List.append_assoc]

/-! ## The platform spans -/

/-- The ids of a span. -/
def Span.ref (span : Span) : SpanRef := { traceId := span.traceId, spanId := span.spanId }

omit [External] in
theorem makeInvocationSpan_ref {state : InvocationProcessingState} (hdone : state.initDone)
    (start : PlatformStartData) (done : PlatformRuntimeDoneData) :
    (makeInvocationSpan state start done).ref = state.invocationRef := by
  unfold makeInvocationSpan Span.ref
  simp only
  rw [currentTraceId_eq, currentSpanId_eq hdone]

/-- The spans of the end of the runtime. -/
theorem processRuntimeDone_platformSpans (hmode : config.tracingMode = .telemetryApi)
    (hproduce : p.state.tracingState.shouldProduceSpans = true)
    (hstart : p.state.startData.isSome = true) (data : PlatformRuntimeDoneData) :
    ∃ initSpans startData,
      (processRuntimeDone config data p).state.startData = some startData ∧
      (processRuntimeDone config data p).outputBuffers.spansBuffer =
        p.outputBuffers.spansBuffer ++
          (initSpans ++ [makeInvocationSpan (processRuntimeDone config data p).state startData data]) ∧
      ∀ span ∈ initSpans,
        span.traceId = (processRuntimeDone config data p).state.currentTraceId := by
  have hdata := @processRuntimeDone_data _ config p data
  have hspans := @processRuntimeDone_spansBuffer _ config p data
  unfold madeAfterRuntimeDone at hspans
  rw [(processRuntimeDone_spans data).1, if_pos hproduce, hmode] at hspans
  obtain ⟨startData, hstartData⟩ := Option.isSome_iff_exists.1 hstart
  have hstart' : (processRuntimeDone config data p).state.startData = some startData :=
    hdata.startData.trans hstartData
  unfold makeSpansAfterInvocation at hspans
  simp only at hspans
  rw [hstart', hdata.runtimeDoneData] at hspans
  refine ⟨_, startData, hstart', hspans, fun span hspan => ?_⟩
  split at hspan
  · obtain rfl := List.mem_singleton.1 hspan
    rfl
  · cases hspan

omit [External] in
theorem makeSpansAfterReport_traceId {state : InvocationProcessingState} :
    ∀ span ∈ makeSpansAfterReport state, span.traceId = state.currentTraceId := by
  intro span hspan
  unfold makeSpansAfterReport at hspan
  split at hspan
  · obtain rfl := List.mem_singleton.1 hspan
    rfl
  · cases hspan

/-- After the end of the runtime, platform spans have its trace id. -/
theorem run_contextSpans {inputs : List InvocationInput} (hmode : config.tracingMode = .telemetryApi)
    (hspans : functionSpansOf inputs = [])
    (hevents : ∀ event ∈ telemetryOf inputs, event.isRuntimeDone = false)
    (hrun : run (inputStep config) p inputs = some p') :
    ∃ contextSpans, p'.outputBuffers.spansBuffer = p.outputBuffers.spansBuffer ++ contextSpans ∧
      ∀ span ∈ contextSpans, span.traceId = p.state.currentTraceId := by
  induction inputs generalizing p with
  | nil =>
    cases hrun
    refine ⟨[], (List.append_nil _).symm, fun span hspan => ?_⟩
    cases hspan
  | cons input inputs ih =>
    obtain ⟨q, hq, hrest⟩ := run_cons.1 hrun
    cases input with
    | functionSpans => cases hspans
    | telemetry event =>
      have hdone : event.isRuntimeDone = false := hevents event List.mem_cons_self
      have hcontext := inputStep_invocationContext hq
      obtain rfl := inputStep_telemetry hq
      have hcurrent : (processRecord config event.nanos event.record p).state.currentTraceId =
          p.state.currentTraceId := by
        unfold InvocationProcessingState.currentTraceId InvocationProcessingState.invocationSpan
        rw [(processRecord_keepsSpans hdone).tracingState, hcontext]
      obtain ⟨contextSpans, hbuffer, hids⟩ :=
        ih hspans (fun e he => hevents e (List.mem_cons_of_mem _ he)) hrest
      refine ⟨platformSpans event (processRecord config event.nanos event.record p).state ++
        contextSpans, ?_, fun span hspan => ?_⟩
      · rw [hbuffer, processRecord_spansBuffer,
          madeSpansAfter_of_telemetryApi hmode, List.append_assoc]
      · rcases List.mem_append.1 hspan with hspan | hspan
        · rw [← hcurrent]
          unfold platformSpans at hspan
          split at hspan
          · split at hspan
            next heq =>
              unfold LambdaTelemetry.isRuntimeDone at hdone
              rw [heq] at hdone
              cases hdone
            next => exact makeSpansAfterReport_traceId span hspan
            next => cases hspan
          · cases hspan
        · rw [hids span hspan, hcurrent]

end

/-! ## Influence -/

section

variable [External] {config : TelemetryProcessorConfig}
  {p p₁ p₂ p₃ p' : Processing InvocationProcessingState}
  {before running after : List InvocationInput} {start done : LambdaTelemetry}
  {data : PlatformRuntimeDoneData}

/-- The start's data is set by `PlatformStart`, and stays. -/
theorem run_startData (hstart : start.isStart = true)
    (hrun : run (inputStep config) p (.telemetry start :: running) = some p') :
    p'.state.startData.isSome = true := by
  obtain ⟨q, hq, hrest⟩ := run_cons.1 hrun
  refine run_invariant (I := fun p => p.state.startData.isSome = true) ?_ ?_ hrest
  · intro s input s' h hstep
    cases input with
    | telemetry event =>
      rw [inputStep_telemetry hstep, (processRecord_data event).startData]
      unfold withEvent
      split <;> first | exact h | rfl
    | functionSpans spans =>
      rw [inputStep_functionSpans hstep, (processFunctionSpans_data spans).startData]
      exact h
  · rw [inputStep_telemetry hq, (processRecord_data start).startData]
    unfold LambdaTelemetry.isStart at hstart
    unfold withEvent
    split at hstart
    next heq =>
      rw [heq]
      rfl
    next => cases hstart

theorem immediate_of_isFresh (htracing : config.tracingMode = .telemetryApi)
    (hfresh : IsFresh config p.state) : Immediate p := by
  obtain ⟨serial, functionContext, invocationContext, rng, h⟩ := hfresh
  constructor
  · rw [h]
    apply decide_eq_false
    intro hotel
    rw [htracing] at hotel
    cases hotel
  · rw [h]
    rfl

theorem run_immediate {inputs : List InvocationInput} (hmode : config.logMode = .structured)
    (h : Immediate p) (hrun : run (inputStep config) p inputs = some p') : Immediate p' := by
  refine run_invariant (I := Immediate) ?_ h hrun
  intro s input s' hs hstep
  cases input with
  | telemetry event =>
    rw [inputStep_telemetry hstep]
    exact (processRecord_immediate hs hmode event).2
  | functionSpans spans =>
    rw [inputStep_functionSpans hstep]
    exact (processFunctionSpans_immediate hs spans).1

/-- From `PlatformStart` on, the logs and the platform's invocation span have the ids of the context,
exactly if no received span has given other ids before a log is made or the runtime is done. -/
theorem api_ids_iff (hfresh : IsFresh config p.state) (htracing : config.tracingMode = .telemetryApi)
    (hmode : config.logMode = .structured)
    (hproduce : p.state.tracingState.shouldProduceSpans = true)
    (horder : PlatformOrder before running after start) (hdata : done.runtimeDoneData? = some data)
    (hbefore : run (inputStep config) p before = some p₁)
    (hrunning : run (inputStep config) p₁ (.telemetry start :: running) = some p₂)
    (hdone : inputStep config p₂ (.telemetry done) = some p₃)
    (hafter : run (inputStep config) p₃ after = some p') :
    ∃ (logs : List LogRecord) (initSpans contextSpans : List Span) (startData : PlatformStartData)
      (invocation : Span),
      p'.outputBuffers.logsBuffer = p₁.outputBuffers.logsBuffer ++ logs ∧
      p₃.outputBuffers.spansBuffer = p₂.outputBuffers.spansBuffer ++ (initSpans ++ [invocation]) ∧
      p'.outputBuffers.spansBuffer = p₃.outputBuffers.spansBuffer ++ contextSpans ∧
      invocation = makeInvocationSpan p₃.state startData data ∧
      (∀ span ∈ initSpans ++ contextSpans, span.traceId = invocation.traceId) ∧
      (((∀ record ∈ logs, record.ref = invocation.ref) ∧
          invocation.ref = p.state.invocationContext.ref) ↔
        (.telemetry start :: running ++ .telemetry done :: after).EachAfter
            (LogsGet config p.state.invocationContext (receivedOf before)
              p.state.invocationContext.ref) ∧
          refAfter config p.state.invocationContext
            (receivedOf before ++ receivedOf (.telemetry start :: running)) =
              p.state.invocationContext.ref) := by
  have hquiet : ∀ event ∈ telemetryOf (.telemetry start :: running),
      event.isInitStart = false ∧ event.isRuntimeDone = false ∧ event.isReport = false := by
    intro event hevent
    rcases List.mem_cons.1 hevent with rfl | hevent
    · exact LambdaTelemetry.isStart_others horder.isStart
    · exact horder.running event hevent
  have hdoneInit : done.isInitStart = false := isInitStart_of_runtimeDoneData hdata
  have hreceived := run_spansReceived (fun e he => (horder.beforeStart e he).1)
    (hasCaptured_of_isFresh hfresh) hbefore
  have hreceived' := run_spansReceived (fun e he => (hquiet e he).2.1) hreceived.hasCaptured hrunning
  have hcaptured := hreceived'.hasCaptured
  have hjoin : (captureSpans (captureSpans (fun _ => none) (receivedOf before)).1
        (receivedOf (.telemetry start :: running))).1 =
      (captureSpans (fun _ => none)
        (receivedOf before ++ receivedOf (.telemetry start :: running))).1 := by
    unfold captureSpans
    rw [Capture.capture_append]
  rw [hjoin] at hcaptured
  have hcontext₁ := run_invocationContext hbefore
  have hcontext₂ : p₂.state.invocationContext = p.state.invocationContext :=
    (run_invocationContext hrunning).trans hcontext₁
  have hinit₁ : p₁.state.initDone := initDone_of_order hfresh horder hbefore
  have hinit₂ : p₂.state.initDone := run_initDone (fun e he => (hquiet e he).1) hinit₁ hrunning
  -- the spans of the end of the runtime
  have hstep : p₃ = processRuntimeDone config data p₂ := by
    rw [inputStep_telemetry hdone, processRecord_runtimeDone hdata]
  have hproduce₂ : p₂.state.tracingState.shouldProduceSpans = true :=
    (hreceived'.shouldProduceSpans.trans hreceived.shouldProduceSpans).trans hproduce
  obtain ⟨initSpans, startData, -, hspans, hinitSpans⟩ := @processRuntimeDone_platformSpans _ config
    p₂ htracing hproduce₂ (run_startData horder.isStart hrunning) data
  rw [← hstep] at hspans hinitSpans
  have hinit₃ : p₃.state.initDone := by
    refine inputStep_initDone (fun e he => ?_) hinit₂ hdone
    rw [List.mem_singleton.1 he]
    exact hdoneInit
  have href : (makeInvocationSpan p₃.state startData data).ref =
      refAfter config p.state.invocationContext
        (receivedOf before ++ receivedOf (.telemetry start :: running)) := by
    rw [makeInvocationSpan_ref hinit₃, ← hcontext₂, ← invocationRef_eq hcaptured]
    unfold InvocationProcessingState.invocationRef
    rw [hstep, (processRuntimeDone_spans data).1, ← hstep, inputStep_invocationContext hdone]
  obtain ⟨contextSpans, hcontextSpans, hcontextIds⟩ := run_contextSpans htracing horder.noSpansAfter
    (fun e he => (horder.afterDone e he).2) hafter
  -- the logs since the start
  have hall : run (inputStep config) p₁
      (.telemetry start :: running ++ .telemetry done :: after) = some p' :=
    run_append_iff.2 ⟨p₂, hrunning, run_cons.2 ⟨p₃, hdone, hafter⟩⟩
  have himmediate : Immediate p₁ := run_immediate hmode (immediate_of_isFresh htracing hfresh) hbefore
  have hinit : ∀ event ∈ telemetryOf (.telemetry start :: running ++ .telemetry done :: after),
      event.isInitStart = false := by
    intro event hevent
    rw [telemetryOf_append] at hevent
    rcases List.mem_append.1 hevent with hevent | hevent
    · exact (hquiet event hevent).1
    · rcases List.mem_cons.1 hevent with rfl | hevent
      · exact hdoneInit
      · exact (horder.afterDone event hevent).1
  obtain ⟨-, logs, hlogs, hrefs⟩ :=
    run_refs hmode hinit hinit₁ himmediate hreceived.hasCaptured hall
  rw [hcontext₁] at hrefs
  refine ⟨logs, initSpans, contextSpans, startData, _, hlogs, hspans, hcontextSpans, rfl, ?_, ?_⟩
  · intro span hspan
    have hid : (makeInvocationSpan p₃.state startData data).traceId = p₃.state.currentTraceId := rfl
    rw [hid]
    rcases List.mem_append.1 hspan with hspan | hspan
    · exact hinitSpans span hspan
    · exact hcontextIds span hspan
  · rw [href, ← hrefs p.state.invocationContext.ref]
    constructor
    · rintro ⟨hids, hsame⟩
      rw [hsame] at hids
      exact ⟨hids, hsame⟩
    · rintro ⟨hids, hsame⟩
      rw [hsame]
      exact ⟨hids, rfl⟩

end

/-! ## A span that is captured but not exported -/

/-- A run in which the function's only span comes between the start and the end of the runtime. -/
def capturedSpanInputs : List InvocationInput :=
  [.telemetry (sampleStart 1 "r"), .functionSpans (sampleSpanBatch []),
    .telemetry (sampleRuntimeDone 2 "r"), .telemetry (sampleReport 3 "r")]

/-- Some log is in the trace of no platform span. -/
def hasOtherTrace (out : OutputBuffers) : Bool :=
  out.logsBuffer.any fun record => out.spansBuffer.all fun span => record.traceId ≠ span.traceId

/-- The platform spans have the trace of the function's span, which is not exported, and a log is not
in this trace. -/
theorem captured_span_changes_ids :
    ∃ p', run (@inputStep sampleExternal (sampleProcessorConfig .telemetryApi))
        (freshProcessing .telemetryApi) capturedSpanInputs = some p' ∧
      p'.outputBuffers.functionSpansBuffer.isEmpty = true ∧
      p'.outputBuffers.spansBuffer.length = 2 ∧
      ∃ record ∈ p'.outputBuffers.logsBuffer, ∀ span ∈ p'.outputBuffers.spansBuffer,
        record.traceId ≠ span.traceId := by
  have hother : ((run (@inputStep sampleExternal (sampleProcessorConfig .telemetryApi))
      (freshProcessing .telemetryApi) capturedSpanInputs).any fun p' =>
      p'.outputBuffers.functionSpansBuffer.isEmpty && p'.outputBuffers.spansBuffer.length == 2 &&
        hasOtherTrace p'.outputBuffers) = true := by
    decide +kernel
  obtain ⟨p', hrun, hall⟩ := (Option.any_eq_true _ _).1 hother
  rw [Bool.and_eq_true, Bool.and_eq_true] at hall
  obtain ⟨⟨hempty, hlength⟩, htrace⟩ := hall
  obtain ⟨record, hrecord, hne⟩ := List.any_eq_true.1 htrace
  refine ⟨p', hrun, hempty, beq_iff_eq.1 hlength, record, hrecord, fun span hspan => ?_⟩
  exact of_decide_eq_true (List.all_eq_true.1 hne span hspan)

/-- A span that is not captured. -/
def innerSpanBatch : List ResourceSpans :=
  [{ resource := none
     scopeSpans :=
      [{ scope := none
         spans :=
          [{ traceId := [7], spanId := [8], parentSpanId := [9], name := "f", kind := 1
             startTimeUnixNano := 0, endTimeUnixNano := 0, status := none }] }] }]

/-- Logs of the function before and after it has exported such a span. -/
def innerSpanInputs : List InvocationInput :=
  [.telemetry (sampleLog 3 "a"), .functionSpans innerSpanBatch, .telemetry (sampleLog 4 "b")]

/-- The platform's events around them. -/
def innerSpanRun : List InvocationInput :=
  .telemetry (sampleStart 2 "r") :: innerSpanInputs ++
    .telemetry (sampleRuntimeDone 5 "r") :: [.telemetry (sampleReport 6 "r")]

/-- The ids stay those of the context. -/
theorem logsGet_innerSpanRun :
    innerSpanRun.EachAfter (@LogsGet sampleExternal (sampleProcessorConfig .telemetryApi)
      ⟨sampleContext.arn, "r", [1], [2], true⟩ (receivedOf []) ⟨[1], [2]⟩) := by
  simp only [innerSpanRun, innerSpanInputs, List.cons_append, List.nil_append, List.eachAfter_cons,
    List.eachAfter_nil, and_true]
  refine ⟨?_, ?_, ?_, ?_, ?_, ?_⟩
  all_goals
    intro event _ _
    rfl

/-- The logs and the invocation span of a run in which the function exports a span. -/
theorem api_ids_iff_inner_span :
    ∃ (p' : Processing InvocationProcessingState) (logs : List LogRecord) (invocation : Span),
      run (@inputStep sampleExternal (sampleProcessorConfig .telemetryApi))
        (freshProcessing .telemetryApi) innerSpanRun = some p' ∧
      p'.outputBuffers.logsBuffer = [] ++ logs ∧ logs.length = 5 ∧
      invocation ∈ p'.outputBuffers.spansBuffer ∧
      (∀ record ∈ logs, record.ref = invocation.ref) ∧ invocation.ref = ⟨[1], [2]⟩ := by
  have horder : PlatformOrder [] innerSpanInputs [.telemetry (sampleReport 6 "r")]
      (sampleStart 2 "r") := by
    refine ⟨by decide, by decide, rfl, by decide, rfl, by decide⟩
  obtain ⟨logs, initSpans, contextSpans, startData, invocation, hlogs, hspans, hcontext, -, -, hids⟩ :=
    @api_ids_iff sampleExternal (sampleProcessorConfig .telemetryApi) (freshProcessing .telemetryApi)
      _ _ _ _ [] innerSpanInputs [.telemetry (sampleReport 6 "r")] (sampleStart 2 "r")
      (sampleRuntimeDone 5 "r") _ (isFresh_freshProcessing _) rfl rfl rfl horder rfl rfl rfl rfl rfl
  obtain ⟨hrefs, href⟩ := hids.2 ⟨logsGet_innerSpanRun, rfl⟩
  refine ⟨_, logs, invocation, rfl, hlogs, ?_, ?_, hrefs, href⟩
  · have hlength := congrArg List.length hlogs
    rw [List.length_append] at hlength
    change _ = 0 + logs.length at hlength
    rw [Nat.zero_add] at hlength
    rw [← hlength]
    decide +kernel
  · rw [hcontext, hspans]
    simp only [List.mem_append, List.mem_singleton, or_true, true_or]

end TelemetryExporter
