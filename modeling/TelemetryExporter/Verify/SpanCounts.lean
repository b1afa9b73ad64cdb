import TelemetryExporter.Verify.FunctionSpans

/-!
# How many spans of the function the processor adds

What `process_telemetry` and `process_function_spans` add to `function_spans_buffer` they add to
`function_spans_count` as well. An event adds spans only when the runtime is done: those that were
captured. A batch adds at most its own.
-/

namespace TelemetryExporter

open Machine

/-! ## Numbers of spans -/

/-- The number of spans of a list of scopes. -/
def scopeTotal : List ScopeSpans → Nat
  | [] => 0
  | ss :: rest => ss.spans.length + scopeTotal rest

/-- The number of spans of a batch. -/
def batchTotal (batch : List ResourceSpans) : Nat := scopeTotal (batch.flatMap (·.scopeSpans))

@[simp] theorem scopeTotal_nil : scopeTotal [] = 0 := rfl

@[simp] theorem scopeTotal_cons (ss : ScopeSpans) (rest : List ScopeSpans) :
    scopeTotal (ss :: rest) = ss.spans.length + scopeTotal rest := rfl

@[simp] theorem scopeTotal_append (a b : List ScopeSpans) :
    scopeTotal (a ++ b) = scopeTotal a + scopeTotal b := by
  induction a with
  | nil => exact (Nat.zero_add _).symm
  | cons ss rest ih => rw [List.cons_append, scopeTotal_cons, scopeTotal_cons, ih, Nat.add_assoc]

@[simp] theorem batchTotal_nil : batchTotal [] = 0 := rfl

@[simp] theorem batchTotal_append (a b : List ResourceSpans) :
    batchTotal (a ++ b) = batchTotal a + batchTotal b := by
  simp [batchTotal]

/-- The spans of the buffer and their count have both grown by `n`. -/
structure AddsSpans (n : Nat) (out out' : OutputBuffers) : Prop where
  buffer : scopeTotal out'.functionSpansBuffer = scopeTotal out.functionSpansBuffer + n
  count : out'.functionSpansCount = out.functionSpansCount + n

namespace AddsSpans

variable {out out' out'' : OutputBuffers} {n m : Nat}

theorem same (hbuffer : out'.functionSpansBuffer = out.functionSpansBuffer)
    (hcount : out'.functionSpansCount = out.functionSpansCount) : AddsSpans 0 out out' := by
  refine ⟨?_, hcount⟩
  rw [hbuffer]
  rfl

theorem trans (h : AddsSpans n out out') (h' : AddsSpans m out' out'') :
    AddsSpans (n + m) out out'' := by
  refine ⟨?_, ?_⟩
  · rw [h'.buffer, h.buffer]
    omega
  · rw [h'.count, h.count]
    omega

theorem trans_zero (h : AddsSpans 0 out out') (h' : AddsSpans n out' out'') :
    AddsSpans n out out'' := by
  have both := h.trans h'
  rwa [Nat.zero_add] at both

theorem zero_trans (h : AddsSpans n out out') (h' : AddsSpans 0 out' out'') :
    AddsSpans n out out'' := h.trans h'

end AddsSpans

theorem addFunctionScopeSpans_adds (out : OutputBuffers) (ss : List ScopeSpans) :
    AddsSpans (scopeTotal ss) out (out.addFunctionScopeSpans ss) := by
  refine ⟨by rw [OutputBuffers.addFunctionScopeSpans_functionSpansBuffer, scopeTotal_append], ?_⟩
  unfold OutputBuffers.addFunctionScopeSpans
  induction ss generalizing out with
  | nil => rfl
  | cons s ss ih =>
    rw [List.foldl_cons, ih, scopeTotal_cons]
    dsimp only
    omega

theorem addFunctionResourceSpans_adds (out : OutputBuffers) (rss : List ResourceSpans) :
    AddsSpans (batchTotal rss) out (out.addFunctionResourceSpans rss) := by
  unfold OutputBuffers.addFunctionResourceSpans
  induction rss generalizing out with
  | nil => exact .same rfl rfl
  | cons rs rss ih =>
    have htotal : batchTotal (rs :: rss) = scopeTotal rs.scopeSpans + batchTotal rss := by
      simp [batchTotal]
    rw [List.foldl_cons, htotal]
    exact (addFunctionScopeSpans_adds out rs.scopeSpans).trans (ih _)

/-! ## Captured spans -/

/-- The number of captured spans that `emit_trigger_and_invocation_spans` emits. -/
def InvocationTracingState.emittedTotal (state : InvocationTracingState) : Nat :=
  (if state.cxTriggerSpan.isSome ∨ state.cxEarlyTriggerSpan.isSome then 1 else 0) +
    (if state.cxInvocationSpan.isSome ∨ state.cxEarlyInvocationSpan.isSome ∨
      state.genericInvocationSpan.isSome then 1 else 0) +
    (if (state.cxInvocationSpan.isSome ∨ state.cxEarlyInvocationSpan.isSome) ∧
      state.genericInvocationSpan.isSome then 1 else 0)

theorem emittedTotal_le (state : InvocationTracingState) : state.emittedTotal ≤ 3 := by
  unfold InvocationTracingState.emittedTotal
  split <;> split <;> split <;> omega

theorem scopeTotal_emittedSpans (data : PlatformRuntimeDoneData) (state : InvocationTracingState) :
    scopeTotal (emittedSpans data state) = state.emittedTotal := by
  unfold emittedSpans emitTriggerSpan emitInvocationSpan emitUnexpectedGenericSpan
    InvocationTracingState.emittedTotal
  rw [scopeTotal_append, scopeTotal_append]
  cases state.cxTriggerSpan <;> cases state.cxEarlyTriggerSpan <;> cases state.cxInvocationSpan <;>
    cases state.cxEarlyInvocationSpan <;> cases state.genericInvocationSpan <;> rfl

/-! ## Forwarded spans -/

section

variable {config : TelemetryProcessorConfig}

theorem processSpan_length (scope : Option InstrumentationScope)
    (acc : InvocationTracingState × List Span) (span : Span) :
    (processSpan config scope acc span).2.length ≤ acc.2.length + 1 := by
  unfold processSpan
  dsimp only
  split
  · exact Nat.le_succ _
  · exact Nat.le_succ _
  · rw [List.length_append]
    rfl
  · rw [List.length_append]
    rfl

theorem processScopeSpans_length (state : InvocationTracingState) (ss : ScopeSpans) :
    (processScopeSpans config state ss).2.spans.length ≤ ss.spans.length := by
  have fold (spans : List Span) (acc : InvocationTracingState × List Span) :
      (spans.foldl (processSpan config ss.scope) acc).2.length ≤ acc.2.length + spans.length := by
    induction spans generalizing acc with
    | nil => exact Nat.le_refl _
    | cons span spans ih =>
      rw [List.foldl_cons, List.length_cons]
      have hfirst := @processSpan_length config ss.scope acc span
      have hrest := ih (processSpan config ss.scope acc span)
      omega
  have hfold := fold ss.spans
    ({ state with processedFunctionSpans := state.processedFunctionSpans + ss.spans.length }, [])
  rw [List.length_nil, Nat.zero_add] at hfold
  exact hfold

theorem processScopeSpansList_total (state : InvocationTracingState) (sss : List ScopeSpans) :
    scopeTotal (processScopeSpansList config state sss).2 ≤ scopeTotal sss := by
  induction sss generalizing state with
  | nil => exact Nat.le_refl _
  | cons ss sss ih =>
    simp only [processScopeSpansList, scopeTotal_cons]
    have hfirst := @processScopeSpans_length config state ss
    have hrest := ih (processScopeSpans config state ss).1
    omega

theorem scopeTotal_filter (sss : List ScopeSpans) (f : ScopeSpans → Bool) :
    scopeTotal (sss.filter f) ≤ scopeTotal sss := by
  induction sss with
  | nil => exact Nat.le_refl _
  | cons ss sss ih =>
    rw [List.filter_cons, scopeTotal_cons]
    split
    · rw [scopeTotal_cons]
      omega
    · omega

/-- No more spans are forwarded than have been received. -/
theorem processSpans_total (state : InvocationTracingState) (rss : List ResourceSpans) :
    batchTotal (processSpans config state rss).2 ≤ batchTotal rss := by
  have hcons (rs : ResourceSpans) (rss : List ResourceSpans) :
      batchTotal (rs :: rss) = scopeTotal rs.scopeSpans + batchTotal rss := by
    simp [batchTotal]
  induction rss generalizing state with
  | nil => exact Nat.le_refl _
  | cons rs rss ih =>
    simp only [processSpans, hcons]
    have hscopes := @processScopeSpansList_total config state rs.scopeSpans
    have hfilter := scopeTotal_filter (processScopeSpansList config state rs.scopeSpans).2
      fun ss => !ss.spans.isEmpty
    have hrest := ih (processScopeSpansList config state rs.scopeSpans).1
    omega

end

/-! ## The processor -/

section

variable [External] {config : TelemetryProcessorConfig}
  {p p' : Processing InvocationProcessingState}

omit [External] in
theorem addsSpans_of_flushed (h : Flushed p p') : AddsSpans 0 p.outputBuffers p'.outputBuffers := by
  obtain ⟨l, records, rfl, -⟩ := h
  exact .same rfl rfl

omit [External] in
theorem addsSpans_of_endsDelay (h : EndsDelay p p') :
    AddsSpans 0 p.outputBuffers p'.outputBuffers := by
  rcases h with rfl | ⟨l, records, rfl, -⟩
  · exact .same rfl rfl
  · exact .same rfl rfl

omit [External] in
theorem addsSpans_pushLog_if {S : Type} {p : Processing S} {makeLog : S → LogRecord × S}
    {enabled : Prop} [Decidable enabled] :
    AddsSpans 0 p.outputBuffers (if enabled then p.pushLog makeLog else p).outputBuffers := by
  split
  · exact .same rfl rfl
  · exact .same rfl rfl

/-- The spans that the state emits when its runtime is done. -/
def TelemetryProcessorConfig.emittedTotal (config : TelemetryProcessorConfig)
    (state : InvocationTracingState) : Nat :=
  if state.shouldProduceSpans = true ∧ config.tracingMode = .otelInstrumentation then
    state.emittedTotal
  else 0

theorem processRuntimeDone_adds (data : PlatformRuntimeDoneData) :
    AddsSpans (config.emittedTotal p.state.tracingState) p.outputBuffers
      (processRuntimeDone config data p).outputBuffers := by
  let q := setRuntimeDoneData data (pushRuntimeDoneLog config data (stopDelayingLogs config p))
  have before : AddsSpans 0 p.outputBuffers q.outputBuffers := by
    have hstop : AddsSpans 0 p.outputBuffers (stopDelayingLogs config p).outputBuffers :=
      addsSpans_of_endsDelay stopDelayingLogs_endsDelay
    refine hstop.trans_zero ?_
    exact (addsSpans_pushLog_if : AddsSpans 0 (stopDelayingLogs config p).outputBuffers
      (pushRuntimeDoneLog config data (stopDelayingLogs config p)).outputBuffers)
  have htracing : q.state.tracingState = p.state.tracingState := by
    have hkeeps : KeepsSpans p q := by
      have hpush : KeepsSpans (stopDelayingLogs config p)
          (pushRuntimeDoneLog config data (stopDelayingLogs config p)) := .pushLog_if rfl
      exact ((KeepsSpans.of_endsDelay stopDelayingLogs_endsDelay).trans hpush).trans ⟨rfl, rfl⟩
    exact hkeeps.tracingState
  refine before.trans_zero ?_
  change AddsSpans _ q.outputBuffers (emitSpansAfterRuntimeDone config q).outputBuffers
  unfold emitSpansAfterRuntimeDone TelemetryProcessorConfig.emittedTotal
  rw [← htracing]
  by_cases hproduce : q.state.tracingState.shouldProduceSpans = true
  · rw [if_pos hproduce]
    cases hmode : config.tracingMode with
    | otelInstrumentation =>
      rw [if_pos ⟨hproduce, rfl⟩, ← scopeTotal_emittedSpans data]
      exact (addFunctionScopeSpans_adds q.outputBuffers _).zero_trans (.same rfl rfl)
    | telemetryApi =>
      rw [if_neg fun h => by cases h.2]
      exact .same rfl rfl
    | disabled =>
      rw [if_neg fun h => by cases h.2]
      exact .same rfl rfl
  · rw [if_neg hproduce, if_neg fun h => hproduce h.1]
    exact .same rfl rfl

theorem processReport_adds (data : PlatformReportData) :
    AddsSpans 0 p.outputBuffers (processReport config data p).outputBuffers := by
  have pushed : AddsSpans 0 p.outputBuffers (pushReportLogs config data p).outputBuffers := by
    unfold pushReportLogs
    split
    · exact (addsSpans_of_flushed takeLogs_flushed).trans_zero addsSpans_pushLog_if
    · exact .same rfl rfl
  refine pushed.trans_zero ?_
  unfold processReport emitSpansAfterReport
  dsimp only
  split
  · exact .same rfl rfl
  · exact .same rfl rfl

theorem processFunctionLog_adds (logText : String) (time : OffsetDateTime) :
    AddsSpans 0 p.outputBuffers (processFunctionLog config logText time p).outputBuffers := by
  obtain ⟨logs, l, records, traces, heq⟩ := @processFunctionLog_frame p _ config logText time
  rw [heq]
  exact .same rfl rfl

/-- What one event adds to the spans. -/
theorem processRecord_adds (event : LambdaTelemetry) :
    AddsSpans (if event.isRuntimeDone then config.emittedTotal p.state.tracingState else 0)
      p.outputBuffers (processRecord config event.nanos event.record p).outputBuffers := by
  unfold processRecord LambdaTelemetry.isRuntimeDone
  cases event.record with
  | function logText => exact processFunctionLog_adds logText event.nanos
  | platformStart => exact addsSpans_pushLog_if
  | platformRuntimeDone => exact processRuntimeDone_adds _
  | platformReport => exact processReport_adds _
  | _ => exact .same rfl rfl

/-- No event adds spans in degraded mode. -/
theorem processRecordInDegradedMode_adds {time : OffsetDateTime} {record : LambdaTelemetryRecord}
    {d : Processing DegradedProcessingState} :
    AddsSpans 0 d.outputBuffers
      (processRecordInDegradedMode config time record d).outputBuffers := by
  unfold processRecordInDegradedMode
  cases record with
  | function logText =>
    simp only
    split
    · split <;> exact .same rfl rfl
    · exact .same rfl rfl
  | platformInitReport =>
    simp only
    split <;> exact .same rfl rfl
  | platformStart => exact addsSpans_pushLog_if
  | platformRuntimeDone => exact addsSpans_pushLog_if
  | platformReport =>
    simp only
    split <;> exact .same rfl rfl
  | _ => exact .same rfl rfl

/-- What a batch adds to the spans: some of its own. -/
theorem processFunctionSpans_adds (spans : List ResourceSpans) :
    ∃ n, AddsSpans n p.outputBuffers (processFunctionSpans config spans p).outputBuffers ∧
      n ≤ batchTotal spans ∧ (config.tracingMode ≠ .otelInstrumentation → n = 0) := by
  have emitted (q : Processing InvocationProcessingState) :
      AddsSpans 0 q.outputBuffers (emitLogsOfEarlySpan config q).outputBuffers :=
    addsSpans_of_endsDelay emitLogsOfEarlySpan_endsDelay
  have htotal := @processSpans_total config (detectLanguage p.state.tracingState spans) spans
  unfold processFunctionSpans
  dsimp only
  by_cases hforward : (processFunctionSpansTracing config p.state.tracingState
      spans).1.shouldProduceSpans = true ∧ config.tracingMode = .otelInstrumentation
  · refine ⟨batchTotal (processFunctionSpansTracing config p.state.tracingState spans).2,
      AddsSpans.zero_trans ?_ (emitted _), htotal, fun h => absurd hforward.2 h⟩
    unfold forwardSpans
    rw [if_pos hforward]
    exact addFunctionResourceSpans_adds _ _
  · refine ⟨0, AddsSpans.zero_trans ?_ (emitted _), Nat.zero_le _, fun _ => rfl⟩
    unfold forwardSpans
    rw [if_neg hforward]
    exact .same rfl rfl

end

end TelemetryExporter
