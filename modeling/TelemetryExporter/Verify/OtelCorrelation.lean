import TelemetryExporter.Verify.Correlation

/-!
# Correlation in OTel mode

Until the early invocation span has come, the logs wait. A log that does not wait has the ids of the
early span, and those are the ids of the span that is emitted as the invocation span in the end.
-/

namespace TelemetryExporter

open Machine

/-! ## The early span -/

/-- A captured final span has the ids of a captured early span. -/
def InvocationTracingState.IdsAgree (state : InvocationTracingState) : Prop :=
  ∀ final early, state.cxInvocationSpan = some final →
    state.cxEarlyInvocationSpan = some early → final.ref = early.ref

theorem invocationRef_of_early {state : InvocationProcessingState} {early : SpanWithScope}
    (hagree : state.tracingState.IdsAgree)
    (hearly : state.tracingState.cxEarlyInvocationSpan = some early) :
    state.invocationRef = early.ref := by
  unfold InvocationProcessingState.invocationRef
  rw [hearly]
  cases hfinal : state.tracingState.cxInvocationSpan with
  | none => rfl
  | some final => exact hagree final early hfinal hearly

/-- Logs have been pushed, with the trace id, and with the span id if the init phase is over. -/
def CarriesRef (ref : SpanRef) (initDone : Prop) (p p' : Processing InvocationProcessingState) : Prop :=
  ∃ records, p'.outputBuffers.logsBuffer = p.outputBuffers.logsBuffer ++ records ∧
    ∀ record ∈ records, record.traceId = ref.traceId ∧ (initDone → record.spanId = ref.spanId)

/-- The logs are delayed until the early span comes. -/
def Waiting (p : Processing InvocationProcessingState) : Prop :=
  p.state.delayingLogs = true ↔ p.state.tracingState.cxEarlyInvocationSpan = none

section

variable [External] {config : TelemetryProcessorConfig}
  {p p' q q' : Processing InvocationProcessingState}

namespace CarriesRef

variable {ref : SpanRef} {initDone initDone' : Prop}

omit [External] in
theorem none (h : p'.outputBuffers.logsBuffer = p.outputBuffers.logsBuffer) :
    CarriesRef ref initDone p p' := by
  refine ⟨[], by rw [h, List.append_nil], fun record hrecord => ?_⟩
  cases hrecord

omit [External] in
theorem trans (h : CarriesRef ref initDone p q) (h' : CarriesRef ref initDone q p') :
    CarriesRef ref initDone p p' := by
  obtain ⟨records, hlogs, hids⟩ := h
  obtain ⟨records', hlogs', hids'⟩ := h'
  refine ⟨records ++ records', by rw [hlogs', hlogs, List.append_assoc], fun record hrecord => ?_⟩
  rcases List.mem_append.1 hrecord with hrecord | hrecord
  · exact hids record hrecord
  · exact hids' record hrecord

omit [External] in
theorem imp (himp : initDone' → initDone) (h : CarriesRef ref initDone p p') :
    CarriesRef ref initDone' p p' := by
  obtain ⟨records, hlogs, hids⟩ := h
  exact ⟨records, hlogs, fun record hrecord =>
    ⟨(hids record hrecord).1, fun hdone => (hids record hrecord).2 (himp hdone)⟩⟩

omit [External] in
theorem of_pushesWith {state : InvocationProcessingState} (h : PushesWith state p p') :
    CarriesRef state.invocationRef state.initDone p p' := by
  obtain ⟨records, hlogs, hids⟩ := h
  refine ⟨records, hlogs, fun record hrecord => ?_⟩
  obtain ⟨htrace, hspan⟩ := hids record hrecord
  exact ⟨htrace.trans (currentTraceId_eq state),
    fun hdone => hspan.trans (currentSpanId_eq hdone)⟩

end CarriesRef

/-! ## One input -/

omit [External] in
/-- What has been captured stays. -/
theorem captureSpans_some {slots : SpanRole → Option SpanWithScope} {role : SpanRole}
    {s : SpanWithScope} (h : slots role = some s) (received : List SpanWithScope) :
    (captureSpans slots received).1 role = some s := by
  rw [Capture.slot_eq, h, Option.some_or]

omit [External] in
/-- The captured spans of the earlier state are captured in the later one. -/
theorem slot_of_captureSpans {slots : SpanRole → Option SpanWithScope}
    {received : List SpanWithScope} {state state' : InvocationTracingState}
    (h : HasCaptured config slots state)
    (h' : HasCaptured config (captureSpans slots received).1 state') {role : SpanRole}
    {s : SpanWithScope} (hslot : state.slot role = some s) : state'.slot role = some s := by
  rw [h role] at hslot
  obtain ⟨x, hx, rfl⟩ := Option.map_eq_some_iff.1 hslot
  rw [h' role, captureSpans_some hx]
  rfl

omit [External] in
theorem early_none_of_captureSpans {slots : SpanRole → Option SpanWithScope}
    {received : List SpanWithScope} {state state' : InvocationTracingState}
    (h : HasCaptured config slots state)
    (h' : HasCaptured config (captureSpans slots received).1 state')
    (hnone : state'.cxEarlyInvocationSpan = none) : state.cxEarlyInvocationSpan = none := by
  cases hearly : state.cxEarlyInvocationSpan with
  | none => rfl
  | some early =>
    have hslot : state'.slot .earlyInvocation = some early := slot_of_captureSpans h h' hearly
    exact absurd (hnone.symm.trans hslot) (Option.some_ne_none early).symm

omit [External] in
theorem idsAgree_of_captureSpans {slots : SpanRole → Option SpanWithScope}
    {received : List SpanWithScope} {state state' : InvocationTracingState}
    (h : HasCaptured config slots state)
    (h' : HasCaptured config (captureSpans slots received).1 state') (hagree : state'.IdsAgree) :
    state.IdsAgree := by
  intro final early hfinal hearly
  have hfinal' : state'.slot .invocation = some final := slot_of_captureSpans h h' hfinal
  have hearly' : state'.slot .earlyInvocation = some early := slot_of_captureSpans h h' hearly
  exact hagree final early hfinal' hearly'

/-- What an input does while the runtime is not done. -/
theorem inputStep_waiting {input : InvocationInput} {slots : SpanRole → Option SpanWithScope}
    (hmode : config.logMode = .structured)
    (hquiet : ∀ event ∈ telemetryOf [input], event.isRuntimeDone = false ∧ event.isReport = false)
    (h : HasCaptured config slots q.state.tracingState) (hwaiting : Waiting q)
    (hstep : inputStep config q input = some q') :
    Waiting q' ∧
      (q'.state.tracingState.cxEarlyInvocationSpan = none →
        q'.outputBuffers.logsBuffer = q.outputBuffers.logsBuffer) ∧
      ∀ early, q'.state.tracingState.cxEarlyInvocationSpan = some early →
        q'.state.tracingState.IdsAgree → CarriesRef early.ref q.state.initDone q q' := by
  cases input with
  | telemetry event =>
    obtain ⟨hdone, hreport⟩ := hquiet event List.mem_cons_self
    obtain rfl := inputStep_telemetry hstep
    have htracing := (@processRecord_keepsSpans _ config q event hdone).tracingState
    unfold Waiting at hwaiting ⊢
    rw [htracing]
    by_cases hdelaying : q.state.delayingLogs = true
    · obtain ⟨hdelaying', hlogs⟩ := @processRecord_delayed _ config q event hdelaying hdone hreport
      refine ⟨?_, fun _ => hlogs, fun early hearly _ => .none hlogs⟩
      rw [hdelaying', ← hwaiting, hdelaying]
    · have hfalse := Bool.eq_false_of_not_eq_true hdelaying
      have hfalse' := @processRecord_notDelaying _ config q hmode event (.inl hfalse)
      refine ⟨?_, fun hnone => absurd (hwaiting.2 hnone) hdelaying, fun early hearly hagree => ?_⟩
      · rw [hfalse', ← hwaiting, hfalse]
      · rw [← invocationRef_of_early hagree hearly]
        exact .of_pushesWith (processRecord_pushes event)
  | functionSpans spans =>
    obtain rfl := inputStep_functionSpans hstep
    have hcaptured := (processFunctionSpans_received h spans).hasCaptured
    have hkept : (processFunctionSpans config spans q).state.tracingState.cxEarlyInvocationSpan = none →
        q.state.tracingState.cxEarlyInvocationSpan = none := by
      exact early_none_of_captureSpans h hcaptured
    obtain ⟨hdelaying, hlogs⟩ := @processFunctionSpans_delaying _ config q hmode spans
    refine ⟨?_, fun hnone => hlogs ?_, fun early hearly hagree => ?_⟩
    · refine ⟨fun h => (hdelaying.1 h).2, fun hnone => hdelaying.2 ⟨?_, hnone⟩⟩
      exact hwaiting.2 (hkept hnone)
    · have hbefore := hwaiting.2 (hkept hnone)
      rw [hbefore]
      exact hdelaying.2 ⟨hbefore, hnone⟩
    · have hkeeps := @processFunctionSpans_keepsIds _ config q spans
      have hcarries := CarriesRef.of_pushesWith (@processFunctionSpans_pushesWith _ config q spans)
      rw [invocationRef_of_early hagree hearly] at hcarries
      apply hcarries.imp
      intro hinit
      unfold InvocationProcessingState.initDone
      rw [hkeeps.initStartData, hkeeps.initReportData]
      exact hinit

/-! ## Runs -/

/-- What a run does while the runtime is not done. -/
theorem run_waiting {inputs : List InvocationInput} {slots : SpanRole → Option SpanWithScope}
    (hmode : config.logMode = .structured)
    (hquiet : ∀ event ∈ telemetryOf inputs, event.isRuntimeDone = false ∧ event.isReport = false)
    (h : HasCaptured config slots q.state.tracingState) (hwaiting : Waiting q)
    (hrun : run (inputStep config) q inputs = some q') :
    Waiting q' ∧
      (q'.state.tracingState.cxEarlyInvocationSpan = none →
        q'.outputBuffers.logsBuffer = q.outputBuffers.logsBuffer) ∧
      ∀ early, q'.state.tracingState.cxEarlyInvocationSpan = some early →
        q'.state.tracingState.IdsAgree →
        CarriesRef early.ref
          (q.state.initDone ∧ ∀ event ∈ telemetryOf inputs, event.isInitStart = false) q q' := by
  induction inputs generalizing q slots with
  | nil =>
    cases hrun
    exact ⟨hwaiting, fun _ => rfl, fun early _ _ => .none rfl⟩
  | cons input inputs ih =>
    obtain ⟨m, hm, hrest⟩ := run_cons.1 hrun
    have hsplit : telemetryOf (input :: inputs) = telemetryOf [input] ++ telemetryOf inputs :=
      telemetryOf_append [input] inputs
    rw [hsplit] at hquiet ⊢
    have hmid := inputStep_hasCaptured h hm
    obtain ⟨hwaiting', hnone, hsome⟩ :=
      inputStep_waiting hmode (fun e he => hquiet e (List.mem_append_left _ he)) h hwaiting hm
    obtain ⟨hwaiting'', hnone', hsome'⟩ :=
      ih (fun e he => hquiet e (List.mem_append_right _ he)) hmid hwaiting' hrest
    have hlast := run_hasCaptured hmid hrest
    refine ⟨hwaiting'', fun hnever => ?_, fun early hearly hagree => ?_⟩
    · rw [hnone' hnever, hnone (early_none_of_captureSpans hmid hlast hnever)]
    · have hmagree := idsAgree_of_captureSpans hmid hlast hagree
      have hafter : CarriesRef early.ref (q.state.initDone ∧
          ∀ event ∈ telemetryOf [input] ++ telemetryOf inputs, event.isInitStart = false) m q' :=
        (hsome' early hearly hagree).imp fun hinit =>
          ⟨inputStep_initDone (fun e he => hinit.2 e (List.mem_append_left _ he)) hinit.1 hm,
            fun e he => hinit.2 e (List.mem_append_right _ he)⟩
      cases hmearly : m.state.tracingState.cxEarlyInvocationSpan with
      | none => exact (CarriesRef.none (hnone hmearly)).trans hafter
      | some early' =>
        have hslot : q'.state.tracingState.slot .earlyInvocation = some early' :=
          slot_of_captureSpans hmid hlast hmearly
        have hsame : early' = early := Option.some.inj (hslot.symm.trans hearly)
        subst hsame
        exact ((hsome early' hmearly hmagree).imp And.left).trans hafter

/-- After the end of the runtime the captured spans are final. -/
theorem run_released {inputs : List InvocationInput} (hspans : functionSpansOf inputs = [])
    (hevents : ∀ event ∈ telemetryOf inputs,
      event.isInitStart = false ∧ event.isRuntimeDone = false)
    (hrun : run (inputStep config) q inputs = some q') :
    q'.state.tracingState = q.state.tracingState ∧
      CarriesRef q.state.invocationRef q.state.initDone q q' := by
  induction inputs generalizing q with
  | nil =>
    cases hrun
    exact ⟨rfl, .none rfl⟩
  | cons input inputs ih =>
    obtain ⟨m, hm, hrest⟩ := run_cons.1 hrun
    cases input with
    | functionSpans => cases hspans
    | telemetry event =>
      obtain ⟨hinit, hdone⟩ := hevents event List.mem_cons_self
      obtain ⟨htracing, hafter⟩ := ih hspans (fun e he => hevents e (List.mem_cons_of_mem _ he)) hrest
      have hcontext := inputStep_invocationContext hm
      have hinitDone (h : q.state.initDone) : m.state.initDone :=
        inputStep_initDone (fun e he => by rwa [List.mem_singleton.1 he]) h hm
      have hstep := inputStep_telemetry hm
      have hkept : m.state.tracingState = q.state.tracingState := by
        rw [hstep]
        exact (processRecord_keepsSpans hdone).tracingState
      have href : m.state.invocationRef = q.state.invocationRef := by
        unfold InvocationProcessingState.invocationRef
        rw [hkept, hcontext]
      rw [href] at hafter
      refine ⟨htracing.trans hkept, ?_⟩
      have hfirst : CarriesRef q.state.invocationRef q.state.initDone q m := by
        rw [hstep]
        exact .of_pushesWith (processRecord_pushes event)
      exact hfirst.trans (hafter.imp hinitDone)

end

/-! ## The platform's order -/

section

variable [External] {config : TelemetryProcessorConfig}
  {p p₁ p₂ p₃ p' : Processing InvocationProcessingState}
  {before running after : List InvocationInput} {start done : LambdaTelemetry}
  {data : PlatformRuntimeDoneData}

theorem waiting_of_isFresh (htracing : config.tracingMode = .otelInstrumentation)
    (hfresh : IsFresh config p.state) : Waiting p := by
  obtain ⟨serial, functionContext, invocationContext, rng, h⟩ := hfresh
  unfold Waiting
  rw [h]
  refine ⟨fun _ => rfl, fun _ => ?_⟩
  exact decide_eq_true htracing

/-- In OTel mode, the logs of an invocation have one trace id. From `PlatformStart` on they have the
ids of the span that is emitted as the invocation span, or of the context if there is none. -/
theorem otel_logs_correlate (hfresh : IsFresh config p.state)
    (htracing : config.tracingMode = .otelInstrumentation) (hmode : config.logMode = .structured)
    (hproduce : p.state.tracingState.shouldProduceSpans = true)
    (horder : PlatformOrder before running after start)
    (hdata : done.runtimeDoneData? = some data)
    (hbefore : run (inputStep config) p before = some p₁)
    (hrunning : run (inputStep config) p₁ (.telemetry start :: running) = some p₂)
    (hdone : inputStep config p₂ (.telemetry done) = some p₃)
    (hafter : run (inputStep config) p₃ after = some p')
    (hagree : p'.state.tracingState.IdsAgree) :
    ∃ (initLogs logs : List LogRecord) (ref : SpanRef),
      p₁.outputBuffers.logsBuffer = p.outputBuffers.logsBuffer ++ initLogs ∧
      p'.outputBuffers.logsBuffer = p₁.outputBuffers.logsBuffer ++ logs ∧
      p₃.functionSpans = p₂.functionSpans ++
        ((triggerOf data p₂.state.tracingState).toList ++
          (invocationOf data p₂.state.tracingState).toList ++
          (demotedOf p₂.state.tracingState).toList) ∧
      ref = ((invocationOf data p₂.state.tracingState).map (·.ref)).getD
        p.state.invocationContext.ref ∧
      (∀ record ∈ initLogs, record.traceId = ref.traceId) ∧
      ∀ record ∈ logs, record.traceId = ref.traceId ∧ record.spanId = ref.spanId := by
  have hquiet : ∀ event ∈ telemetryOf (.telemetry start :: running),
      event.isInitStart = false ∧ event.isRuntimeDone = false ∧ event.isReport = false := by
    intro event hevent
    rcases List.mem_cons.1 hevent with rfl | hevent
    · exact LambdaTelemetry.isStart_others horder.isStart
    · exact horder.running event hevent
  have hcaptured := hasCaptured_of_isFresh hfresh
  have hcaptured₁ := run_hasCaptured hcaptured hbefore
  have hcaptured₂ := run_hasCaptured hcaptured₁ hrunning
  -- the state before `PlatformRuntimeDone` has the ids that are final
  have hcontext : p₂.state.invocationContext = p.state.invocationContext :=
    (run_invocationContext hrunning).trans (run_invocationContext hbefore)
  have hstep := inputStep_telemetry hdone
  have hdoneSpans := @processRuntimeDone_spans _ config p₂ data
  rw [← processRecord_runtimeDone hdata, ← hstep] at hdoneSpans
  obtain ⟨htracing', hlogs'⟩ := run_released horder.noSpansAfter horder.afterDone hafter
  have hagree₂ : p₂.state.tracingState.IdsAgree := by
    rw [← hdoneSpans.1, ← htracing']
    exact hagree
  -- the init phase is over from `PlatformStart` on
  have hinit₁ : p₁.state.initDone := initDone_of_order hfresh horder hbefore
  have hinit₂ : p₂.state.initDone := run_initDone (fun e he => (hquiet e he).1) hinit₁ hrunning
  have hwaiting : Waiting p := waiting_of_isFresh htracing hfresh
  obtain ⟨hwaiting₁, hnone₁, hsome₁⟩ :=
    run_waiting hmode horder.beforeStart hcaptured hwaiting hbefore
  obtain ⟨-, hnone₂, hsome₂⟩ :=
    run_waiting hmode (fun e he => (hquiet e he).2) hcaptured₁ hwaiting₁ hrunning
  have hrefs : CarriesRef p₂.state.invocationRef False p p₁ ∧
      CarriesRef p₂.state.invocationRef True p₁ p₂ := by
    cases hearly : p₂.state.tracingState.cxEarlyInvocationSpan with
    | none =>
      refine ⟨.none (hnone₁ ?_), .none (hnone₂ hearly)⟩
      exact early_none_of_captureSpans hcaptured₁ hcaptured₂ hearly
    | some early =>
      rw [invocationRef_of_early hagree₂ hearly]
      refine ⟨?_, (hsome₂ early hearly hagree₂).imp fun _ => ⟨hinit₁, fun e he => (hquiet e he).1⟩⟩
      cases hearly₁ : p₁.state.tracingState.cxEarlyInvocationSpan with
      | none => exact .none (hnone₁ hearly₁)
      | some early' =>
        have hslot : p₂.state.tracingState.slot .earlyInvocation = some early' :=
          slot_of_captureSpans hcaptured₁ hcaptured₂ hearly₁
        obtain rfl := Option.some.inj (hslot.symm.trans hearly)
        have hagree₁ := idsAgree_of_captureSpans hcaptured₁ hcaptured₂ hagree₂
        exact (hsome₁ early' hearly₁ hagree₁).imp False.elim
  have hrest : CarriesRef p₂.state.invocationRef True p₂ p' := by
    have hpushed : CarriesRef p₂.state.invocationRef p₂.state.initDone p₂ p₃ := by
      rw [hstep]
      exact .of_pushesWith (processRecord_pushes done)
    have hsame : p₃.state.invocationRef = p₂.state.invocationRef := by
      unfold InvocationProcessingState.invocationRef
      rw [hdoneSpans.1, inputStep_invocationContext hdone]
    have hinit₃ : p₃.state.initDone := by
      refine inputStep_initDone (fun e he => ?_) hinit₂ hdone
      rw [List.mem_singleton.1 he]
      exact isInitStart_of_runtimeDoneData hdata
    rw [hsame] at hlogs'
    exact (hpushed.imp fun _ => hinit₂).trans (hlogs'.imp fun _ => hinit₃)
  obtain ⟨initLogs, hinitLogs, hinitIds⟩ := hrefs.1
  obtain ⟨logs, hlogs, hids⟩ := hrefs.2.trans hrest
  have hspans : p₃.functionSpans = p₂.functionSpans ++
      ((triggerOf data p₂.state.tracingState).toList ++
        (invocationOf data p₂.state.tracingState).toList ++
        (demotedOf p₂.state.tracingState).toList) := by
    have hreceived := run_spansReceived (fun e he => (horder.beforeStart e he).1) hcaptured hbefore
    have hreceived' := run_spansReceived (fun e he => (hquiet e he).2.1) hreceived.hasCaptured hrunning
    have hbuffer := hdoneSpans.2
    rw [if_pos ⟨(hreceived'.shouldProduceSpans.trans hreceived.shouldProduceSpans).trans hproduce,
      htracing⟩] at hbuffer
    unfold Processing.functionSpans
    rw [hbuffer, scopedSpans_append, scopedSpans_emittedSpans]
  refine ⟨initLogs, logs, p₂.state.invocationRef, hinitLogs, hlogs, hspans, ?_,
    fun record hrecord => (hinitIds record hrecord).1, fun record hrecord => ?_⟩
  · rw [← hcontext, invocationOf_ref]
  · exact ⟨(hids record hrecord).1, (hids record hrecord).2 trivial⟩

end

/-- An early invocation span. -/
def earlySpanBatch : List ResourceSpans :=
  sampleSpanBatch
    [stringAttribute spanRoleAttribute "invocation", stringAttribute spanStateAttribute "early"]

theorem otel_logs_correlate_early :
    ∃ (p₁ p₂ p₃ p' : Processing InvocationProcessingState) (data : PlatformRuntimeDoneData)
      (initLogs logs : List LogRecord) (ref : SpanRef),
      p₁.outputBuffers.logsBuffer = [] ++ initLogs ∧
      p'.outputBuffers.logsBuffer = p₁.outputBuffers.logsBuffer ++ logs ∧
      p₃.functionSpans = p₂.functionSpans ++
        ((triggerOf data p₂.state.tracingState).toList ++
          (invocationOf data p₂.state.tracingState).toList ++
          (demotedOf p₂.state.tracingState).toList) ∧
      ref = ((invocationOf data p₂.state.tracingState).map (·.ref)).getD ⟨[1], [2]⟩ ∧
      (∀ record ∈ initLogs, record.traceId = ref.traceId) ∧
      ∀ record ∈ logs, record.traceId = ref.traceId ∧ record.spanId = ref.spanId := by
  have horder : PlatformOrder [.telemetry (sampleLog 1 "init")] [.functionSpans earlySpanBatch]
      [.telemetry (sampleReport 4 "r")] (sampleStart 2 "r") := by
    refine ⟨by decide, by decide, rfl, by decide, rfl, by decide⟩
  refine ⟨_, _, _, _, _, @otel_logs_correlate sampleExternal
    (sampleProcessorConfig .otelInstrumentation) (freshProcessing .otelInstrumentation) _ _ _ _
    [.telemetry (sampleLog 1 "init")] [.functionSpans earlySpanBatch]
    [.telemetry (sampleReport 4 "r")] (sampleStart 2 "r") (sampleRuntimeDone 3 "r") _
    (isFresh_freshProcessing _) rfl rfl rfl horder rfl rfl rfl rfl rfl ?_⟩
  intro final early hfinal
  cases hfinal

end TelemetryExporter
