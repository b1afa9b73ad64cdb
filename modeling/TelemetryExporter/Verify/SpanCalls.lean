import TelemetryExporter.Verify.InvokeEvents
import TelemetryExporter.Verify.Parts
import TelemetryExporter.Verify.PlatformSpans

/-!
# The spans that each call of the processor adds

A call of the processor appends spans to the output buffers: those of the function, and those that
the exporter makes. What it appends is a function of the call and of the state it is made with. The
modes and the sampling decision of the invocation say when this is nothing.
-/

namespace TelemetryExporter

/-- A call of the processor, with the state that its spans depend on: for an event the state after
it, for spans of the function the state before. -/
inductive SpanCall where
  | telemetry (event : LambdaTelemetry) (state : InvocationProcessingState)
  | functionSpans (spans : List ResourceSpans) (state : InvocationProcessingState)
  | degraded (event : LambdaTelemetry) (state : DegradedProcessingState)

/-- The captured spans that an event releases. -/
def releasedSpans (config : TelemetryProcessorConfig) (event : LambdaTelemetry)
    (state : InvocationProcessingState) : List ScopeSpans :=
  if state.tracingState.shouldProduceSpans ∧ config.tracingMode = .otelInstrumentation then
    (event.runtimeDoneData?.map fun data => emittedSpans data state.tracingState).getD []
  else []

/-- The spans of a batch that are forwarded. -/
def forwardedSpans (config : TelemetryProcessorConfig) (spans : List ResourceSpans)
    (state : InvocationProcessingState) : List ScopeSpans :=
  if state.tracingState.shouldProduceSpans ∧ config.tracingMode = .otelInstrumentation then
    (processFunctionSpansTracing config state.tracingState spans).2.flatMap (·.scopeSpans)
  else []

/-- The spans that the exporter makes after an event in degraded mode. -/
def madeSpansInDegradedMode (config : TelemetryProcessorConfig) (event : LambdaTelemetry)
    (state : DegradedProcessingState) : List Span :=
  match event.record with
  | .platformInitReport .. =>
    if config.tracingMode ≠ .disabled then makeDegradedSpansAfterInit state else []
  | _ => []

namespace SpanCall

/-- The call. -/
def call : SpanCall → ProcessorCall
  | telemetry event state => .telemetry state.serial event
  | functionSpans spans state => .functionSpans state.serial spans
  | degraded event _ => .degraded event

/-- The state of the invocation that the call is for. -/
def state? : SpanCall → Option InvocationProcessingState
  | telemetry _ state => some state
  | functionSpans _ state => some state
  | degraded _ _ => none

/-- The function's spans that the call appends. -/
def addedFunctionSpans (config : TelemetryProcessorConfig) : SpanCall → List ScopeSpans
  | telemetry event state => releasedSpans config event state
  | functionSpans spans state => forwardedSpans config spans state
  | degraded _ _ => []

/-- The spans made by the exporter that the call appends. -/
def addedPlatformSpans (config : TelemetryProcessorConfig) : SpanCall → List Span
  | telemetry event state => madeSpansAfter config event state
  | functionSpans _ _ => []
  | degraded event state => madeSpansInDegradedMode config event state

end SpanCall

/-! ## The sampling decision stays -/

section

variable {config : TelemetryProcessorConfig} {state : InvocationTracingState}

theorem captureSpan_shouldProduceSpans (category : SpanCategorization) (span : Span)
    (scope : Option InstrumentationScope) :
    (captureSpan state category span scope).1.shouldProduceSpans = state.shouldProduceSpans := by
  cases category <;> rfl

theorem foldl_processSpan_shouldProduceSpans (scope : Option InstrumentationScope)
    (spans kept : List Span) :
    (spans.foldl (processSpan config scope) (state, kept)).1.shouldProduceSpans =
      state.shouldProduceSpans := by
  induction spans generalizing state kept with
  | nil => rfl
  | cons span spans ih =>
    have hstep : (processSpan config scope (state, kept) span).1.shouldProduceSpans =
        state.shouldProduceSpans := by
      have hcapture := @captureSpan_shouldProduceSpans state (processAndCategorizeSpan span).2
        (filterSpanAttributes config (processAndCategorizeSpan span).1) scope
      unfold processSpan
      simp only
      split <;> exact hcapture
    rw [List.foldl_cons]
    exact (ih _).trans hstep

theorem processScopeSpansList_shouldProduceSpans (sss : List ScopeSpans) :
    (processScopeSpansList config state sss).1.shouldProduceSpans = state.shouldProduceSpans := by
  induction sss generalizing state with
  | nil => rfl
  | cons ss rest ih =>
    have hstep : (processScopeSpans config state ss).1.shouldProduceSpans =
        state.shouldProduceSpans :=
      foldl_processSpan_shouldProduceSpans ss.scope ss.spans []
    exact ih.trans hstep

theorem processFunctionSpansTracing_shouldProduceSpans (spans : List ResourceSpans) :
    (processFunctionSpansTracing config state spans).1.shouldProduceSpans =
      state.shouldProduceSpans := by
  have processed (state : InvocationTracingState) :
      (processSpans config state spans).1.shouldProduceSpans = state.shouldProduceSpans := by
    induction spans generalizing state with
    | nil => rfl
    | cons rs rest ih =>
      exact (ih _).trans (processScopeSpansList_shouldProduceSpans rs.scopeSpans)
  unfold processFunctionSpansTracing
  rw [processed]
  unfold detectLanguage
  split <;> rfl

end

/-! ## What a call appends -/

section

variable [External] {config : TelemetryProcessorConfig}
  {p p' : Processing InvocationProcessingState}

theorem processRecord_functionSpansBuffer (event : LambdaTelemetry) :
    (processRecord config event.nanos event.record p).outputBuffers.functionSpansBuffer =
      p.outputBuffers.functionSpansBuffer ++
        releasedSpans config event (processRecord config event.nanos event.record p).state := by
  unfold releasedSpans
  rw [processRecord_tracingState]
  cases hdata : event.runtimeDoneData? with
  | some data =>
    rw [processRecord_runtimeDone hdata, (processRuntimeDone_spans data).2]
    rfl
  | none =>
    have hdone : event.isRuntimeDone = false := by
      rw [← event.runtimeDoneData?_isSome, hdata]
      rfl
    rw [(processRecord_keepsSpans hdone).functionSpansBuffer]
    split <;> exact (List.append_nil _).symm

theorem processFunctionSpans_functionSpansBuffer (spans : List ResourceSpans) :
    (processFunctionSpans config spans p).outputBuffers.functionSpansBuffer =
      p.outputBuffers.functionSpansBuffer ++ forwardedSpans config spans p.state := by
  have emitted (q : Processing InvocationProcessingState) :
      KeepsSpans q (emitLogsOfEarlySpan config q) := .of_endsDelay emitLogsOfEarlySpan_endsDelay
  unfold processFunctionSpans
  dsimp only
  rw [(emitted _).functionSpansBuffer]
  unfold forwardSpans forwardedSpans
  dsimp only
  rw [processFunctionSpansTracing_shouldProduceSpans]
  split
  · exact OutputBuffers.addFunctionResourceSpans_functionSpansBuffer _ _
  · exact (List.append_nil _).symm

/-- In degraded mode the exporter makes the init span, and no span of the function is added. -/
theorem processRecordInDegradedMode_spans {d : Processing DegradedProcessingState}
    (event : LambdaTelemetry) :
    (processRecordInDegradedMode config event.nanos event.record d).outputBuffers.functionSpansBuffer =
        d.outputBuffers.functionSpansBuffer ∧
      (processRecordInDegradedMode config event.nanos event.record d).outputBuffers.spansBuffer =
        d.outputBuffers.spansBuffer ++ madeSpansInDegradedMode config event
          (processRecordInDegradedMode config event.nanos event.record d).state := by
  have hnone : d.outputBuffers.spansBuffer = d.outputBuffers.spansBuffer ++ [] :=
    (List.append_nil _).symm
  unfold processRecordInDegradedMode madeSpansInDegradedMode
  cases event.record with
  | function logText =>
    simp only
    split
    · split <;> exact ⟨rfl, hnone⟩
    · exact ⟨rfl, hnone⟩
  | platformInitReport =>
    simp only
    split
    · exact ⟨rfl, rfl⟩
    · exact ⟨rfl, hnone⟩
  | platformStart =>
    simp only
    split <;> exact ⟨rfl, hnone⟩
  | platformRuntimeDone =>
    simp only
    split <;> exact ⟨rfl, hnone⟩
  | platformReport =>
    simp only
    split <;> exact ⟨rfl, hnone⟩
  | _ => exact ⟨rfl, hnone⟩

end

/-! ## Modes and sampling -/

namespace SpanCall

variable {config : TelemetryProcessorConfig} {c : SpanCall}

/-- Spans of the function are added in one mode only. -/
theorem addedFunctionSpans_of_mode (hmode : config.tracingMode ≠ .otelInstrumentation)
    (c : SpanCall) : c.addedFunctionSpans config = [] := by
  cases c with
  | telemetry event state => exact if_neg fun h => hmode h.2
  | functionSpans spans state => exact if_neg fun h => hmode h.2
  | degraded event state => rfl

/-- No spans are made when tracing is disabled. -/
theorem addedPlatformSpans_of_disabled (hmode : config.tracingMode = .disabled) (c : SpanCall) :
    c.addedPlatformSpans config = [] := by
  cases c with
  | telemetry event state =>
    change madeSpansAfter config event state = []
    unfold madeSpansAfter madeAfterRuntimeDone madeAfterReport
    rw [hmode]
    cases event.record with
    | platformRuntimeDone => exact ite_self []
    | platformReport =>
      apply if_neg
      intro h
      cases h.2
    | _ => rfl
  | functionSpans spans state => rfl
  | degraded event state =>
    change madeSpansInDegradedMode config event state = []
    unfold madeSpansInDegradedMode
    cases event.record with
    | platformInitReport => exact if_neg fun h => h hmode
    | _ => rfl

/-- Nothing is added with the state of an invocation that does not produce spans. -/
theorem added_of_unsampled {state : InvocationProcessingState} (hstate : c.state? = some state)
    (hproduce : state.tracingState.shouldProduceSpans = false) :
    c.addedFunctionSpans config = [] ∧ c.addedPlatformSpans config = [] := by
  have hnot : ¬ state.tracingState.shouldProduceSpans = true := by
    rw [hproduce]
    exact Bool.false_ne_true
  cases c with
  | telemetry event state' =>
    cases hstate
    refine ⟨if_neg fun h => hnot h.1, ?_⟩
    change madeSpansAfter config event state = []
    unfold madeSpansAfter madeAfterRuntimeDone madeAfterReport
    cases event.record with
    | platformRuntimeDone => exact if_neg hnot
    | platformReport => exact if_neg fun h => hnot h.1
    | _ => rfl
  | functionSpans spans state' =>
    cases hstate
    exact ⟨if_neg fun h => hnot h.1, rfl⟩
  | degraded event state' => cases hstate

end SpanCall

end TelemetryExporter
