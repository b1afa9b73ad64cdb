import TelemetryExporter.Verify.History

/-!
# Invoke events

An invoke event arrives with the context of its function, is queued with its serial, and leaves the
queue when a state is made for it. `MadeFor` is that state, and `IsFor` what is left of it while the
invocation goes on: the contexts stay, and so does the sampling decision, which is that of the sampling
mode and of the event's X-Ray header.
-/

namespace TelemetryExporter

/-! ## Arrival -/

/-- The invoke events that the actions have delivered, each with the context of its function. -/
def acceptedInvokes (actions : List Action) : List (InvokeEvent × FunctionContext) :=
  actions.flatMap Action.invokes

theorem acceptedInvokes_snoc (past : List Action) (a : Action) :
    acceptedInvokes (past ++ [a]) = acceptedInvokes past ++ a.invokes := by
  simp [acceptedInvokes]

theorem acceptedInvokes_fst (actions : List Action) :
    (acceptedInvokes actions).map Prod.fst = acceptedRequests actions := by
  unfold acceptedInvokes acceptedRequests
  rw [List.map_flatMap]
  exact List.flatMap_congr fun a _ => a.invokes_fst

/-- The invoke event in the queue, with the spans that have been added to it. -/
def InvokeEvent.queued (e : InvokeEvent) (serial : Nat) (functionContext : FunctionContext)
    (spans : List ResourceSpans) : InvokeEventDataWithSpans where
  serial := serial
  deadlineMs := e.deadlineMs
  requestId := e.requestId
  invokedFunctionArn := e.invokedFunctionArn
  tracing := e.tracing
  spans := spans
  functionContext := functionContext

/-- Each invoke event in the queue is the one that was delivered at the position of its serial. -/
structure Queued (invokes : List (InvokeEvent × FunctionContext)) (s : TelemetryServiceState) :
    Prop where
  enqueued : s.enqueued = invokes.length
  queue : ∀ q ∈ s.invokeEventQueue, ∃ e functionContext spans,
    invokes[q.serial]? = some (e, functionContext) ∧
      q = e.queued q.serial functionContext spans

/-- Spans are added to an invoke event, and nothing else changes in the queue. -/
theorem extendLastSpans_data {spans : List ResourceSpans} {queue : List InvokeEventDataWithSpans}
    {q : InvokeEventDataWithSpans} (h : q ∈ extendLastSpans spans queue) :
    ∃ q' ∈ queue, ∃ spans', q = { q' with spans := spans' } := by
  induction queue using extendLastSpans.induct with
  | case1 => cases h
  | case2 last =>
    rw [extendLastSpans, List.mem_singleton] at h
    exact ⟨last, List.mem_cons_self, _, h⟩
  | case3 first second rest ih =>
    rw [extendLastSpans, List.mem_cons] at h
    rcases h with rfl | h
    · exact ⟨q, List.mem_cons_self, q.spans, rfl⟩
    · obtain ⟨q', hq', spans', heq⟩ := ih h
      exact ⟨q', List.mem_cons_of_mem _ hq', spans', heq⟩

/-- Later invoke events do not change the earlier ones. -/
theorem getElem?_append_of_some {A : Type} {xs : List A} {k : Nat} {x : A} (h : xs[k]? = some x)
    (more : List A) : (xs ++ more)[k]? = some x := by
  obtain ⟨hlt, -⟩ := List.getElem?_eq_some_iff.1 h
  rw [List.getElem?_append_left hlt, h]

namespace Queued

variable {invokes : List (InvokeEvent × FunctionContext)} {s s' : TelemetryServiceState}

theorem initial {s : TelemetryServiceState} (hqueue : s.invokeEventQueue = []) (hs : s.enqueued = 0) :
    Queued [] s := by
  refine ⟨hs, fun q hq => ?_⟩
  rw [hqueue] at hq
  cases hq

/-- Only the queue and the count matter. -/
theorem congr (h : Queued invokes s) (hqueue : s'.invokeEventQueue = s.invokeEventQueue)
    (henqueued : s'.enqueued = s.enqueued) : Queued invokes s' := by
  refine ⟨henqueued.trans h.enqueued, ?_⟩
  rw [hqueue]
  exact h.queue

/-- An invoke event has left the queue. -/
theorem take (h : Queued invokes s) {q : InvokeEventDataWithSpans}
    {queue : List InvokeEventDataWithSpans} (hqueue : s.invokeEventQueue = q :: queue)
    (hqueue' : s'.invokeEventQueue = queue) (henqueued : s'.enqueued = s.enqueued) :
    Queued invokes s' := by
  refine ⟨henqueued.trans h.enqueued, fun q' hq' => h.queue q' ?_⟩
  rw [hqueue, ← hqueue']
  exact List.mem_cons_of_mem _ hq'

/-- Spans have been added to the last one. -/
theorem extend (h : Queued invokes s) {spans : List ResourceSpans}
    (hqueue : s'.invokeEventQueue = extendLastSpans spans s.invokeEventQueue)
    (henqueued : s'.enqueued = s.enqueued) : Queued invokes s' := by
  refine ⟨henqueued.trans h.enqueued, fun q hq => ?_⟩
  rw [hqueue] at hq
  obtain ⟨q', hq', spans', rfl⟩ := extendLastSpans_data hq
  obtain ⟨e, functionContext, spans'', he, heq⟩ := h.queue q' hq'
  exact ⟨e, functionContext, spans', he,
    congrArg (fun q : InvokeEventDataWithSpans => { q with spans := spans' }) heq⟩

/-- An invoke event is queued. -/
theorem push (h : Queued invokes s) (e : InvokeEvent) (functionContext : FunctionContext) :
    Queued (invokes ++ [(e, functionContext)]) (pushInvokeEvent e functionContext s) := by
  refine ⟨?_, ?_⟩
  · rw [List.length_append, ← h.enqueued]
    rfl
  · intro q hq
    rcases List.mem_append.1 hq with hq | hq
    · obtain ⟨e', functionContext', spans, he', hdata⟩ := h.queue q hq
      exact ⟨e', functionContext', spans, getElem?_append_of_some he' _, hdata⟩
    · rw [List.mem_singleton.1 hq]
      refine ⟨e, functionContext, [], ?_, rfl⟩
      dsimp only
      rw [h.enqueued, List.getElem?_concat_length]

end Queued

/-! ## Sampling -/

/-- X-Ray samples the request: its header says so, or it is malformed and a new context takes its
place, which is sampled. -/
def InvokeEvent.IsSampled (e : InvokeEvent) : Prop :=
  ∀ xray, XRayTraceContext.tryFrom e.tracing.value = some xray → xray.sampled = true

/-- The sampling mode lets the request produce spans. -/
def TraceSamplingMode.Lets (mode : TraceSamplingMode) (e : InvokeEvent) : Prop :=
  mode = .followXray → e.IsSampled

/-! ## The state of an invocation -/

section

variable [External] {config : TelemetryProcessorConfig} {e : InvokeEvent}
  {functionContext : FunctionContext} {state : InvocationProcessingState}

/-- The state that is made for the invoke event, queued with its serial and the context of its function:
by `try_from` and then `InvocationProcessingState::new`, with the generator where it stands then. -/
def MadeFor (config : TelemetryProcessorConfig) (e : InvokeEvent) (functionContext : FunctionContext)
    (rng : Rng) (state : InvocationProcessingState) : Prop :=
  ∃ (context : InvocationContext) (rng' : Rng),
    InvocationContext.tryFrom (e.queued state.serial functionContext []) rng = (.ok context, rng') ∧
    state = (InvocationProcessingState.new state.serial functionContext context
      config.traceSamplingMode config.tracingMode rng').1

/-- The state is one that the invocation of the request has: it keeps the contexts that it was made
with, and produces spans if the sampling mode lets the request. -/
structure InvocationProcessingState.IsFor (config : TelemetryProcessorConfig) (e : InvokeEvent)
    (functionContext : FunctionContext) (state : InvocationProcessingState) : Prop where
  function : state.functionContext = functionContext
  invocationContext : ∃ rng,
    (InvocationContext.tryFrom (e.queued state.serial functionContext []) rng).1 =
      .ok state.invocationContext
  sampling : state.tracingState.shouldProduceSpans = true ↔ config.traceSamplingMode.Lets e

/-- The context is sampled as the header says. -/
theorem tryFrom_sampled {serial : Nat} {rng : Rng} {context : InvocationContext}
    (h : (InvocationContext.tryFrom (e.queued serial functionContext []) rng).1 = .ok context) :
    context.sampled = true ↔ e.IsSampled := by
  unfold InvocationContext.tryFrom at h
  dsimp only [InvokeEvent.queued] at h
  unfold InvokeEvent.IsSampled
  cases hxray : XRayTraceContext.tryFrom e.tracing.value with
  | none =>
    rw [hxray] at h
    cases harn : LambdaFunctionArn.fromStr e.invokedFunctionArn with
    | error error =>
      rw [harn] at h
      cases h
    | ok arn =>
      rw [harn] at h
      cases h
      exact ⟨nofun, fun _ => rfl⟩
  | some xray =>
    rw [hxray] at h
    cases harn : LambdaFunctionArn.fromStr e.invokedFunctionArn with
    | error error =>
      rw [harn] at h
      cases h
    | ok arn =>
      rw [harn] at h
      cases h
      refine ⟨fun hsampled xray' heq => ?_, fun hall => hall xray rfl⟩
      cases heq
      exact hsampled

omit [External] in
/-- In each mode the decision of `InvocationTracingState::new` is the one that the mode asks for. -/
theorem new_shouldProduceSpans {mode : TraceSamplingMode} {context : InvocationContext}
    (h : context.sampled = true ↔ e.IsSampled) :
    (InvocationTracingState.new mode context).shouldProduceSpans = true ↔ mode.Lets e := by
  cases mode with
  | all => exact ⟨nofun, fun _ => rfl⟩
  | followXray => exact h.trans ⟨fun hsampled _ => hsampled, fun hlets => hlets rfl⟩

theorem MadeFor.isFor {rng : Rng} (h : MadeFor config e functionContext rng state) :
    state.IsFor config e functionContext := by
  obtain ⟨context, rng', hcontext, hstate⟩ := h
  have hok : (InvocationContext.tryFrom (e.queued state.serial functionContext []) rng).1 =
      .ok context := by
    rw [hcontext]
  rw [hstate]
  exact ⟨rfl, ⟨rng, hok⟩, new_shouldProduceSpans (tryFrom_sampled hok)⟩

theorem InvocationProcessingState.IsFor.requestId (h : state.IsFor config e functionContext) :
    state.invocationContext.requestId = e.requestId := by
  obtain ⟨rng, hcontext⟩ := h.invocationContext
  exact InvocationContext.tryFrom_requestId (Prod.ext hcontext rfl)

/-- The context is that of a request that X-Ray samples. -/
theorem InvocationProcessingState.IsFor.sampled (h : state.IsFor config e functionContext) :
    state.invocationContext.sampled = true ↔ e.IsSampled := by
  obtain ⟨rng, hcontext⟩ := h.invocationContext
  exact tryFrom_sampled hcontext

/-- A later state of the same invocation. -/
theorem InvocationProcessingState.IsFor.same {state' : InvocationProcessingState}
    (h : state.IsFor config e functionContext) (hsame : SameInvocation state state')
    (hproduce : state'.tracingState.shouldProduceSpans = state.tracingState.shouldProduceSpans) :
    state'.IsFor config e functionContext := by
  obtain ⟨rng, hcontext⟩ := h.invocationContext
  refine ⟨hsame.functionContext.trans h.function, ⟨rng, ?_⟩, ?_⟩
  · rw [hsame.serial, hsame.invocationContext]
    exact hcontext
  · rw [hproduce]
    exact h.sampling

/-- The state is one of the invocation that its serial names: of the invoke event that arrived at this
position. -/
def InvocationProcessingState.BelongsTo (config : TelemetryProcessorConfig)
    (invokes : List (InvokeEvent × FunctionContext)) (state : InvocationProcessingState) : Prop :=
  ∃ e functionContext, invokes[state.serial]? = some (e, functionContext) ∧
    state.IsFor config e functionContext

namespace InvocationProcessingState.BelongsTo

variable {invokes more : List (InvokeEvent × FunctionContext)} {state' : InvocationProcessingState}

theorem mono (h : state.BelongsTo config invokes) : state.BelongsTo config (invokes ++ more) := by
  obtain ⟨e, functionContext, he, hfor⟩ := h
  exact ⟨e, functionContext, getElem?_append_of_some he more, hfor⟩

theorem same (h : state.BelongsTo config invokes) (hsame : SameInvocation state state')
    (hproduce : state'.tracingState.shouldProduceSpans = state.tracingState.shouldProduceSpans) :
    state'.BelongsTo config invokes := by
  obtain ⟨e, functionContext, he, hfor⟩ := h
  rw [← hsame.serial] at he
  exact ⟨e, functionContext, he, hfor.same hsame hproduce⟩

/-- With `FollowXray` an invocation that is not sampled produces no spans. -/
theorem not_shouldProduceSpans (h : state.BelongsTo config invokes)
    (hmode : config.traceSamplingMode = .followXray)
    (hunsampled : state.invocationContext.sampled = false) :
    state.tracingState.shouldProduceSpans = false := by
  obtain ⟨e, functionContext, -, hfor⟩ := h
  apply Bool.eq_false_of_not_eq_true
  intro hproduce
  have hsampled := hfor.sampled.2 (hfor.sampling.1 hproduce hmode)
  rw [hunsampled] at hsampled
  cases hsampled

end InvocationProcessingState.BelongsTo

/-- A state that is made for an invoke event of the queue. The spans that have been added to it do
not matter for the context. -/
theorem madeFor_of_queued {q : InvokeEventDataWithSpans} {spans : List ResourceSpans}
    (hq : q = e.queued q.serial functionContext spans) {rng rng' : Rng} {context : InvocationContext}
    (hcontext : InvocationContext.tryFrom q rng = (.ok context, rng')) :
    MadeFor config e functionContext rng
      (InvocationProcessingState.new q.serial q.functionContext context config.traceSamplingMode
        config.tracingMode rng').1 := by
  have hfunction : q.functionContext = functionContext := congrArg (·.functionContext) hq
  have hsame : InvocationContext.tryFrom (e.queued q.serial functionContext []) rng =
      InvocationContext.tryFrom q rng := by
    rw [hq]
    rfl
  rw [hfunction]
  exact ⟨context, rng', hsame.trans hcontext, rfl⟩

end

end TelemetryExporter
