import TelemetryExporter.Lib.Capture
import TelemetryExporter.Verify.Inputs

/-!
# The function's spans

What `process_spans` keeps and what it forwards. The spans of all batches, in order, go through one
slot for each of five roles: the first span of a role is captured, the others are forwarded, and
warmup spans are dropped.
-/

namespace TelemetryExporter

open Machine

/-! ## Roles -/

/-- The roles of the spans that are captured. -/
inductive SpanRole where
  | earlyTrigger
  | earlyInvocation
  | trigger
  | invocation
  | generic
  deriving DecidableEq

/-- All roles. -/
def spanRoles : List SpanRole := [.earlyTrigger, .earlyInvocation, .trigger, .invocation, .generic]

theorem nodup_spanRoles : spanRoles.Nodup := by decide

theorem mem_spanRoles (role : SpanRole) : role ∈ spanRoles := by
  cases role <;> decide

/-- The role of a category. -/
def SpanCategorization.role : SpanCategorization → Option SpanRole
  | cxEarlyTrigger => some .earlyTrigger
  | cxEarlyInvocation => some .earlyInvocation
  | cxTrigger => some .trigger
  | cxInvocation => some .invocation
  | genericInvocation => some .generic
  | cxWarmup => none
  | other => none

/-- The storage of a role. -/
def InvocationTracingState.slot (state : InvocationTracingState) : SpanRole → Option SpanWithScope
  | .earlyTrigger => state.cxEarlyTriggerSpan
  | .earlyInvocation => state.cxEarlyInvocationSpan
  | .trigger => state.cxTriggerSpan
  | .invocation => state.cxInvocationSpan
  | .generic => state.genericInvocationSpan

namespace SpanWithScope

/-- The category that a received span has. -/
def category (received : SpanWithScope) : SpanCategorization :=
  (processAndCategorizeSpan received.span).2

/-- The role that a received span has. -/
def role (received : SpanWithScope) : Option SpanRole := received.category.role

/-- Whether a received span is discarded. -/
def isWarmup (received : SpanWithScope) : Bool := received.category = .cxWarmup

/-- A received span as it is captured or forwarded. -/
def prepared (config : TelemetryProcessorConfig) (received : SpanWithScope) : SpanWithScope :=
  { received with span := filterSpanAttributes config (processAndCategorizeSpan received.span).1 }

@[simp] theorem prepared_scope (config : TelemetryProcessorConfig) (received : SpanWithScope) :
    (received.prepared config).scope = received.scope := rfl

end SpanWithScope

/-- The spans of a list of scopes. -/
def scopedSpans (scopeSpans : List ScopeSpans) : List SpanWithScope :=
  scopeSpans.flatMap fun ss => ss.spans.map fun span => { span, scope := ss.scope }

/-- The spans of a batch. -/
def receivedSpans (functionSpans : List ResourceSpans) : List SpanWithScope :=
  functionSpans.flatMap fun rs => scopedSpans rs.scopeSpans

@[simp] theorem scopedSpans_append (a b : List ScopeSpans) :
    scopedSpans (a ++ b) = scopedSpans a ++ scopedSpans b :=
  List.flatMap_append

/-- The slots after the received spans, and the spans that are forwarded. -/
abbrev captureSpans (slots : SpanRole → Option SpanWithScope) (received : List SpanWithScope) :
    (SpanRole → Option SpanWithScope) × List SpanWithScope :=
  Capture.capture SpanWithScope.isWarmup SpanWithScope.role slots received

/-! ## One batch -/

/-- From a state that has captured `slots`, the received spans lead to a state that has captured the
slots after them, and to the forwarded spans. -/
structure Sorts (config : TelemetryProcessorConfig) (slots : SpanRole → Option SpanWithScope)
    (received : List SpanWithScope) (state state' : InvocationTracingState)
    (forwarded : List SpanWithScope) : Prop where
  slot : ∀ role, state'.slot role =
    ((captureSpans slots received).1 role).map (·.prepared config)
  forwarded : forwarded = (captureSpans slots received).2.map (·.prepared config)
  shouldProduceSpans : state'.shouldProduceSpans = state.shouldProduceSpans
  language : state'.language = state.language

/-- The state has captured `slots`. -/
def HasCaptured (config : TelemetryProcessorConfig) (slots : SpanRole → Option SpanWithScope)
    (state : InvocationTracingState) : Prop :=
  ∀ role, state.slot role = (slots role).map (·.prepared config)

section

variable {config : TelemetryProcessorConfig} {slots : SpanRole → Option SpanWithScope}
  {state state' state'' : InvocationTracingState}

theorem Sorts.nil (h : HasCaptured config slots state) : Sorts config slots [] state state [] :=
  ⟨h, rfl, rfl, rfl⟩

theorem Sorts.trans {a b forwarded forwarded' : List SpanWithScope}
    (h : Sorts config slots a state state' forwarded)
    (h' : Sorts config (captureSpans slots a).1 b state' state'' forwarded') :
    Sorts config slots (a ++ b) state state'' (forwarded ++ forwarded') := by
  refine ⟨fun role => ?_, ?_, h'.shouldProduceSpans.trans h.shouldProduceSpans,
    h'.language.trans h.language⟩
  · rw [h'.slot role]
    unfold captureSpans
    rw [Capture.capture_append]
  · rw [h.forwarded, h'.forwarded]
    unfold captureSpans
    rw [Capture.capture_append, List.map_append]

/-- What `try_capture_span` does with the storage of a role. -/
theorem captureSpan_of_role {category : SpanCategorization} {role : SpanRole}
    (hrole : category.role = some role) (span : Span) (scope : Option InstrumentationScope) :
    ∃ state', captureSpan state category span scope =
        (state', (tryCaptureSpan (state.slot role) span scope).2) ∧
      state'.slot role = (tryCaptureSpan (state.slot role) span scope).1 ∧
      (∀ other, other ≠ role → state'.slot other = state.slot other) ∧
      state'.shouldProduceSpans = state.shouldProduceSpans ∧ state'.language = state.language := by
  cases category <;> cases hrole <;>
    refine ⟨_, rfl, rfl, fun other hother => ?_, rfl, rfl⟩ <;>
    cases other <;> first | rfl | exact absurd rfl hother

theorem capture_one_dropped {received : SpanWithScope} (h : received.isWarmup = true) :
    captureSpans slots [received] = (slots, []) :=
  Capture.capture_cons_dropped h

theorem processSpan_sorts (h : HasCaptured config slots state) (scope : Option InstrumentationScope)
    (out : List Span) (span : Span) :
    ∃ state' forwarded, processSpan config scope (state, out) span = (state', out ++ forwarded) ∧
      Sorts config slots [{ span, scope }] state state'
        (forwarded.map fun span => { span, scope }) := by
  let received : SpanWithScope := { span, scope }
  unfold processSpan
  cases hprepared : processAndCategorizeSpan span with
  | mk span' category =>
    have hcategory : received.category = category := congrArg Prod.snd hprepared
    have hspan : received.prepared config = ⟨filterSpanAttributes config span', scope⟩ :=
      congrArg (fun p : Span × SpanCategorization =>
        (⟨filterSpanAttributes config p.1, scope⟩ : SpanWithScope)) hprepared
    simp only
    cases hrole : category.role with
    | none =>
      cases category with
      | cxWarmup =>
        have hdropped : received.isWarmup = true := decide_eq_true hcategory
        refine ⟨state, [], ?_, ⟨fun role => ?_, ?_, rfl, rfl⟩⟩
        · rw [List.append_nil]
          rfl
        · rw [capture_one_dropped hdropped]
          exact h role
        · rw [capture_one_dropped hdropped]
          rfl
      | other =>
        have hkept : received.isWarmup = false := by
          unfold SpanWithScope.isWarmup
          rw [hcategory]
          rfl
        have hother : received.role = none := by
          unfold SpanWithScope.role
          rw [hcategory]
          rfl
        have hcapture : captureSpans slots [received] = (slots, [received]) :=
          Capture.capture_cons_other hkept hother
        refine ⟨state, [filterSpanAttributes config span'], rfl, ⟨fun role => ?_, ?_, rfl, rfl⟩⟩
        · rw [hcapture]
          exact h role
        · rw [hcapture]
          exact congrArg (fun x => [x]) hspan.symm
      | _ => cases hrole
    | some role =>
      have hkept : received.isWarmup = false := by
        unfold SpanWithScope.isWarmup
        rw [hcategory]
        cases category <;> first | rfl | cases hrole
      have hsome : received.role = some role := by
        unfold SpanWithScope.role
        rw [hcategory, hrole]
      obtain ⟨state', hcaptured, hslot, hothers, hproduce, hlanguage⟩ :=
        @captureSpan_of_role state _ _ hrole (filterSpanAttributes config span') scope
      rw [hcaptured]
      cases hempty : slots role with
      | none =>
        have hstate : state.slot role = none := by
          rw [h role, hempty]
          rfl
        have hcapture : captureSpans slots [received] =
            (Function.update slots role (some received), []) :=
          Capture.capture_cons_first hkept hsome hempty
        rw [hstate] at hslot ⊢
        refine ⟨state', [], ?_, ⟨fun other => ?_, ?_, hproduce, hlanguage⟩⟩
        · rw [List.append_nil]
          rfl
        · rw [hcapture]
          by_cases hother : other = role
          · subst hother
            rw [hslot]
            simp only [Function.update_self, Option.map_some, hspan]
            rfl
          · rw [hothers other hother]
            simp only [Function.update_of_ne hother]
            exact h other
        · rw [hcapture]
          rfl
      | some first =>
        have hstate : state.slot role = some (first.prepared config) := by
          rw [h role, hempty]
          rfl
        have hcapture : captureSpans slots [received] = (slots, [received]) :=
          Capture.capture_cons_duplicate hkept hsome hempty
        rw [hstate] at hslot ⊢
        refine ⟨state', [filterSpanAttributes config span'], rfl,
          ⟨fun other => ?_, ?_, hproduce, hlanguage⟩⟩
        · rw [hcapture]
          by_cases hother : other = role
          · subst hother
            rw [hslot]
            simp only [hempty]
            rfl
          · rw [hothers other hother]
            exact h other
        · rw [hcapture]
          exact congrArg (fun x => [x]) hspan.symm

theorem Sorts.hasCaptured {received forwarded : List SpanWithScope}
    (h : Sorts config slots received state state' forwarded) :
    HasCaptured config (captureSpans slots received).1 state' := h.slot

theorem foldl_processSpan_sorts (h : HasCaptured config slots state)
    (scope : Option InstrumentationScope) (out spans : List Span) :
    ∃ state' forwarded,
      spans.foldl (processSpan config scope) (state, out) = (state', out ++ forwarded) ∧
      Sorts config slots (spans.map fun span => { span, scope }) state state'
        (forwarded.map fun span => { span, scope }) := by
  induction spans generalizing state slots out with
  | nil => exact ⟨state, [], by rw [List.append_nil]; rfl, .nil h⟩
  | cons span spans ih =>
    obtain ⟨first, forwarded, hfirst, hsorts⟩ := processSpan_sorts h scope out span
    obtain ⟨state', forwarded', hrest, hsorts'⟩ := ih hsorts.hasCaptured (out ++ forwarded)
    refine ⟨state', forwarded ++ forwarded', ?_, ?_⟩
    · rw [List.foldl_cons, hfirst, hrest, List.append_assoc]
    · rw [List.map_append]
      exact hsorts.trans hsorts'

theorem processScopeSpans_sorts (h : HasCaptured config slots state) (ss : ScopeSpans) :
    Sorts config slots (scopedSpans [ss]) state (processScopeSpans config state ss).1
      (scopedSpans [(processScopeSpans config state ss).2]) := by
  have hcounted : HasCaptured config slots
      { state with processedFunctionSpans := state.processedFunctionSpans + ss.spans.length } := by
    intro role
    rw [← h role]
    cases role <;> rfl
  obtain ⟨state', forwarded, hfold, hsorts⟩ :=
    foldl_processSpan_sorts hcounted ss.scope [] ss.spans
  rw [List.nil_append] at hfold
  have hprocess : processScopeSpans config state ss = (state', { ss with spans := forwarded }) := by
    unfold processScopeSpans
    simp only [hfold]
  rw [hprocess]
  unfold scopedSpans
  rw [List.flatMap_singleton, List.flatMap_singleton]
  exact ⟨hsorts.slot, hsorts.forwarded, hsorts.shouldProduceSpans, hsorts.language⟩

theorem processScopeSpansList_sorts (h : HasCaptured config slots state) (sss : List ScopeSpans) :
    Sorts config slots (scopedSpans sss) state (processScopeSpansList config state sss).1
      (scopedSpans (processScopeSpansList config state sss).2) := by
  induction sss generalizing state slots with
  | nil => exact .nil h
  | cons ss sss ih =>
    have hfirst := processScopeSpans_sorts h ss
    have hrest := ih hfirst.hasCaptured
    have hboth := hfirst.trans hrest
    rw [← scopedSpans_append, ← scopedSpans_append] at hboth
    exact hboth

/-- Scopes without spans are dropped, which no span notices. -/
theorem scopedSpans_filter (sss : List ScopeSpans) :
    scopedSpans (sss.filter fun ss => !ss.spans.isEmpty) = scopedSpans sss := by
  induction sss with
  | nil => rfl
  | cons ss sss ih =>
    unfold scopedSpans at ih ⊢
    cases hspans : ss.spans with
    | nil =>
      rw [List.filter_cons_of_neg (by simp [hspans]), List.flatMap_cons, ih, hspans]
      rfl
    | cons span spans =>
      rw [List.filter_cons_of_pos (by simp [hspans]), List.flatMap_cons, List.flatMap_cons, ih]

theorem processSpans_sorts (h : HasCaptured config slots state) (rss : List ResourceSpans) :
    Sorts config slots (receivedSpans rss) state (processSpans config state rss).1
      (receivedSpans (processSpans config state rss).2) := by
  induction rss generalizing state slots with
  | nil => exact .nil h
  | cons rs rss ih =>
    have hfirst := processScopeSpansList_sorts h rs.scopeSpans
    have hboth := hfirst.trans (ih hfirst.hasCaptured)
    rw [← scopedSpans_filter (processScopeSpansList config state rs.scopeSpans).2] at hboth
    exact hboth

/-- The language, once it has been detected. -/
theorem detectLanguage_eq (state : InvocationTracingState) (rss : List ResourceSpans) :
    detectLanguage state rss =
      { state with
        language := state.language.or ((rss.filterMap (·.resource)).findSome? fun r =>
          findAttribute r.attributes languageAttribute) } := by
  unfold detectLanguage
  cases hlanguage : state.language with
  | none => rfl
  | some language =>
    rw [if_neg (by simp)]
    rw [Option.some_or, ← hlanguage]

/-- One call of `process_function_spans`. -/
theorem processFunctionSpansTracing_sorts (h : HasCaptured config slots state)
    (rss : List ResourceSpans) :
    Sorts config slots (receivedSpans rss) (detectLanguage state rss)
      (processFunctionSpansTracing config state rss).1
      (receivedSpans (processFunctionSpansTracing config state rss).2) := by
  refine processSpans_sorts (fun role => ?_) rss
  rw [detectLanguage_eq, ← h role]
  cases role <;> rfl

end

/-! ## The emitted spans -/

section

variable [External] {config : TelemetryProcessorConfig}
  {p p' : Processing InvocationProcessingState}

/-- The function spans in the output buffers. -/
def Processing.functionSpans {S : Type} (p : Processing S) : List SpanWithScope :=
  scopedSpans p.outputBuffers.functionSpansBuffer

/-- Nothing about the function's spans has changed. -/
structure KeepsSpans (p p' : Processing InvocationProcessingState) : Prop where
  tracingState : p'.state.tracingState = p.state.tracingState
  functionSpansBuffer :
    p'.outputBuffers.functionSpansBuffer = p.outputBuffers.functionSpansBuffer

namespace KeepsSpans

omit [External] in
theorem trans {q : Processing InvocationProcessingState} (h : KeepsSpans p q)
    (h' : KeepsSpans q p') : KeepsSpans p p' :=
  ⟨h'.tracingState.trans h.tracingState, h'.functionSpansBuffer.trans h.functionSpansBuffer⟩

omit [External] in
theorem of_flushed (h : Flushed p p') : KeepsSpans p p' := by
  obtain ⟨l, records, rfl, -⟩ := h
  exact ⟨rfl, rfl⟩

omit [External] in
theorem of_endsDelay (h : EndsDelay p p') : KeepsSpans p p' := by
  rcases h with rfl | ⟨l, records, rfl, -⟩
  · exact ⟨rfl, rfl⟩
  · exact ⟨rfl, rfl⟩

omit [External] in
theorem pushLog_if {makeLog : InvocationProcessingState → LogRecord × InvocationProcessingState}
    {enabled : Prop} [Decidable enabled]
    (hstate : (makeLog p.state).2.tracingState = p.state.tracingState) :
    KeepsSpans p (if enabled then p.pushLog makeLog else p) := by
  by_cases h : enabled
  · rw [if_pos h]
    exact ⟨hstate, rfl⟩
  · rw [if_neg h]
    exact ⟨rfl, rfl⟩

end KeepsSpans

theorem pushReportLogs_keepsSpans (data : PlatformReportData) :
    KeepsSpans p (pushReportLogs config data p) := by
  unfold pushReportLogs
  split
  · exact (KeepsSpans.of_flushed takeLogs_flushed).trans (.pushLog_if rfl)
  · exact ⟨rfl, rfl⟩

/-- The spans that `emit_trigger_and_invocation_spans` makes from the captured ones. -/
def emittedSpans (data : PlatformRuntimeDoneData) (state : InvocationTracingState) :
    List ScopeSpans :=
  emitTriggerSpan data state ++ emitInvocationSpan data state ++ emitUnexpectedGenericSpan state

/-- `PlatformRuntimeDone` emits the captured spans. -/
theorem processRuntimeDone_spans (data : PlatformRuntimeDoneData) :
    (processRuntimeDone config data p).state.tracingState = p.state.tracingState ∧
      (processRuntimeDone config data p).outputBuffers.functionSpansBuffer =
        p.outputBuffers.functionSpansBuffer ++
          if p.state.tracingState.shouldProduceSpans = true ∧
              config.tracingMode = .otelInstrumentation then
            emittedSpans data p.state.tracingState
          else [] := by
  have hkeeps : KeepsSpans p (setRuntimeDoneData data
      (pushRuntimeDoneLog config data (stopDelayingLogs config p))) := by
    have hpush : KeepsSpans (stopDelayingLogs config p)
        (pushRuntimeDoneLog config data (stopDelayingLogs config p)) := by
      unfold pushRuntimeDoneLog
      exact .pushLog_if rfl
    exact ((KeepsSpans.of_endsDelay stopDelayingLogs_endsDelay).trans hpush).trans ⟨rfl, rfl⟩
  obtain ⟨hstate, -, -⟩ := @emitSpansAfterRuntimeDone_eq (setRuntimeDoneData data
    (pushRuntimeDoneLog config data (stopDelayingLogs config p))) config
  unfold processRuntimeDone
  refine ⟨?_, ?_⟩
  · simp only
    rw [hstate, hkeeps.tracingState]
  · unfold emitSpansAfterRuntimeDone
    simp only
    rw [← hkeeps.functionSpansBuffer, ← hkeeps.tracingState]
    by_cases hproduce : (setRuntimeDoneData data (pushRuntimeDoneLog config data
        (stopDelayingLogs config p))).state.tracingState.shouldProduceSpans = true
    · rw [if_pos hproduce]
      cases hmode : config.tracingMode with
      | otelInstrumentation =>
        rw [if_pos ⟨hproduce, rfl⟩, Processing.appendSpans_functionSpansBuffer]
        exact OutputBuffers.addFunctionScopeSpans_functionSpansBuffer _ _
      | telemetryApi =>
        rw [if_neg (fun h => by cases h.2), List.append_nil]
        rfl
      | disabled => rw [if_neg (fun h => by cases h.2), List.append_nil]
    · rw [if_neg hproduce, if_neg (fun h => hproduce h.1), List.append_nil]

theorem processReport_keepsSpans (data : PlatformReportData) :
    KeepsSpans p (processReport config data p) := by
  have hrest : KeepsSpans (pushReportLogs config data p) (processReport config data p) := by
    unfold processReport emitSpansAfterReport
    simp only
    split
    · exact ⟨rfl, rfl⟩
    · exact ⟨rfl, rfl⟩
  exact (pushReportLogs_keepsSpans data).trans hrest

/-- Every other event leaves the spans alone. -/
theorem processRecord_keepsSpans {event : LambdaTelemetry} (h : event.isRuntimeDone = false) :
    KeepsSpans p (processRecord config event.nanos event.record p) := by
  unfold LambdaTelemetry.isRuntimeDone at h
  unfold processRecord
  cases hrecord : event.record with
  | function logText =>
    simp only
    obtain ⟨logs, l, records, traces, heq⟩ := @processFunctionLog_frame p _ config logText event.nanos
    rw [heq]
    exact ⟨rfl, rfl⟩
  | platformStart =>
    unfold processPlatformStart
    exact (KeepsSpans.pushLog_if rfl).trans ⟨rfl, rfl⟩
  | platformRuntimeDone =>
    rw [hrecord] at h
    cases h
  | platformReport => exact processReport_keepsSpans _
  | _ => exact ⟨rfl, rfl⟩

/-- No event changes what has been captured. -/
theorem processRecord_tracingState (event : LambdaTelemetry) :
    (processRecord config event.nanos event.record p).state.tracingState =
      p.state.tracingState := by
  by_cases hdone : event.isRuntimeDone = true
  · unfold LambdaTelemetry.isRuntimeDone at hdone
    unfold processRecord
    split at hdone
    next hrecord =>
      rw [hrecord]
      exact (processRuntimeDone_spans _).1
    next => cases hdone
  · exact (processRecord_keepsSpans (Bool.eq_false_iff.2 hdone)).tracingState

/-- `process_function_spans` captures some spans and forwards the others. -/
theorem processFunctionSpans_spans (spans : List ResourceSpans) :
    (processFunctionSpans config spans p).state.tracingState =
        (processFunctionSpansTracing config p.state.tracingState spans).1 ∧
      (processFunctionSpans config spans p).functionSpans = p.functionSpans ++
        if (processFunctionSpansTracing config p.state.tracingState spans).1.shouldProduceSpans = true ∧
            config.tracingMode = .otelInstrumentation then
          receivedSpans (processFunctionSpansTracing config p.state.tracingState spans).2
        else [] := by
  have hemit (q : Processing InvocationProcessingState) :
      KeepsSpans q (emitLogsOfEarlySpan config q) := .of_endsDelay emitLogsOfEarlySpan_endsDelay
  unfold processFunctionSpans Processing.functionSpans
  dsimp only
  rw [(hemit _).tracingState, (hemit _).functionSpansBuffer]
  unfold forwardSpans
  dsimp only
  split
  next h =>
    refine ⟨rfl, ?_⟩
    rw [OutputBuffers.addFunctionResourceSpans_functionSpansBuffer, scopedSpans_append]
    unfold receivedSpans scopedSpans
    rw [List.flatMap_assoc]
  next => exact ⟨rfl, (List.append_nil _).symm⟩

/-! ## A run -/

/-- The spans of a run's batches, in order. -/
def receivedOf (inputs : List InvocationInput) : List SpanWithScope :=
  (functionSpansOf inputs).flatMap receivedSpans

omit [External] in
theorem receivedOf_append (a b : List InvocationInput) :
    receivedOf (a ++ b) = receivedOf a ++ receivedOf b := by
  unfold receivedOf
  rw [functionSpansOf_append, List.flatMap_append]

/-- What the spans of a run without `PlatformRuntimeDone` have become. -/
structure SpansReceived (config : TelemetryProcessorConfig) (slots : SpanRole → Option SpanWithScope)
    (received : List SpanWithScope) (p p' : Processing InvocationProcessingState) : Prop where
  hasCaptured : HasCaptured config (captureSpans slots received).1 p'.state.tracingState
  shouldProduceSpans :
    p'.state.tracingState.shouldProduceSpans = p.state.tracingState.shouldProduceSpans
  functionSpans : p'.functionSpans = p.functionSpans ++
    if p.state.tracingState.shouldProduceSpans = true ∧ config.tracingMode = .otelInstrumentation then
      (captureSpans slots received).2.map (·.prepared config)
    else []

omit [External] in
theorem SpansReceived.nil {slots : SpanRole → Option SpanWithScope}
    (h : HasCaptured config slots p.state.tracingState) (hkeeps : KeepsSpans p p') :
    SpansReceived config slots [] p p' := by
  refine ⟨?_, by rw [hkeeps.tracingState], ?_⟩
  · rw [hkeeps.tracingState]
    exact h
  · unfold Processing.functionSpans
    rw [hkeeps.functionSpansBuffer]
    split
    · exact (List.append_nil _).symm
    · exact (List.append_nil _).symm

omit [External] in
theorem SpansReceived.trans {slots : SpanRole → Option SpanWithScope} {a b : List SpanWithScope}
    {q : Processing InvocationProcessingState} (h : SpansReceived config slots a p q)
    (h' : SpansReceived config (captureSpans slots a).1 b q p') :
    SpansReceived config slots (a ++ b) p p' := by
  refine ⟨?_, h'.shouldProduceSpans.trans h.shouldProduceSpans, ?_⟩
  · unfold captureSpans
    rw [Capture.capture_append]
    exact h'.hasCaptured
  · rw [h'.functionSpans, h.functionSpans, h.shouldProduceSpans, List.append_assoc]
    unfold captureSpans
    rw [Capture.capture_append]
    split
    · rw [List.map_append]
    · rfl

theorem processFunctionSpans_received {slots : SpanRole → Option SpanWithScope}
    (h : HasCaptured config slots p.state.tracingState) (spans : List ResourceSpans) :
    SpansReceived config slots (receivedSpans spans) p (processFunctionSpans config spans p) := by
  have hsorts := processFunctionSpansTracing_sorts h spans
  obtain ⟨htracing, hspans⟩ := @processFunctionSpans_spans _ config p spans
  have hproduce : (processFunctionSpansTracing config p.state.tracingState spans).1.shouldProduceSpans =
      p.state.tracingState.shouldProduceSpans := by
    rw [hsorts.shouldProduceSpans, detectLanguage_eq]
  refine ⟨?_, ?_, ?_⟩
  · rw [htracing]
    exact hsorts.hasCaptured
  · rw [htracing, hproduce]
  · rw [hspans, hproduce, hsorts.forwarded]

/-- A run without `PlatformRuntimeDone`. -/
theorem run_spansReceived {inputs : List InvocationInput} {slots : SpanRole → Option SpanWithScope}
    (hdone : ∀ event ∈ telemetryOf inputs, event.isRuntimeDone = false)
    (h : HasCaptured config slots p.state.tracingState)
    (hrun : run (inputStep config) p inputs = some p') :
    SpansReceived config slots (receivedOf inputs) p p' := by
  induction inputs generalizing p slots with
  | nil =>
    cases hrun
    exact .nil h ⟨rfl, rfl⟩
  | cons input inputs ih =>
    obtain ⟨q, hq, hrest⟩ := run_cons.1 hrun
    cases input with
    | telemetry event =>
      have hevent : event.isRuntimeDone = false := hdone event List.mem_cons_self
      have hfirst : SpansReceived config slots [] p q := by
        rw [inputStep_telemetry hq]
        exact .nil h (processRecord_keepsSpans hevent)
      exact hfirst.trans (ih (fun e he => hdone e (List.mem_cons_of_mem _ he)) hfirst.hasCaptured hrest)
    | functionSpans spans =>
      have hfirst : SpansReceived config slots (receivedSpans spans) p q := by
        rw [inputStep_functionSpans hq]
        exact processFunctionSpans_received h spans
      exact hfirst.trans (ih hdone hfirst.hasCaptured hrest)

/-- Nothing has been captured in a fresh state. -/
theorem hasCaptured_of_isFresh (h : IsFresh config p.state) :
    HasCaptured config (fun _ => none) p.state.tracingState := by
  obtain ⟨serial, functionContext, invocationContext, rng, h⟩ := h
  rw [h]
  intro role
  cases role <;> rfl

end

end TelemetryExporter
