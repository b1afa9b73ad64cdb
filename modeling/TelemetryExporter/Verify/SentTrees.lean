import TelemetryExporter.Verify.SpanTree
import TelemetryExporter.Verify.StreamOutput

/-!
# Span trees over all runs

Every invocation makes the spans of its tree from the events processed with its state. As these are
the events of its section of the telemetry, and as the service keeps the invocations apart, what the
batches have in TelemetryApi mode is one tree after the other.
-/

namespace TelemetryExporter

open Machine

/-! ## Trees -/

/-- The tree of an invocation, with the events that it is made from. -/
structure InvocationTree where
  state : InvocationProcessingState
  events : List LambdaTelemetry
  init : Option Span
  invocation : Option Span
  context : Option Span

namespace InvocationTree

/-- The spans, in the order in which they are put out. -/
def spans (tree : InvocationTree) : List Span :=
  tree.init.toList ++ tree.invocation.toList ++ tree.context.toList

/-- The tree is that of an invocation of the stream: its state is the one that the invocation has
reached, which is still one of the request that the invoke event is for, and it is made from the events
that the invocation has been given. There are no spans if the sampling mode does not let the request. -/
structure IsOf [External] (config : TelemetryProcessorConfig) (stream : TelemetryStream)
    (actions : List Action) (trace : List ProcessorCall) (e : InvokeEvent)
    (functionContext : FunctionContext) (tree : InvocationTree) : Prop where
  invocation : ∃ start final,
    InvocationOf config stream actions trace e functionContext start final ∧ final.state = tree.state
  state : tree.state.IsFor config e functionContext
  events : tree.events = telemetryOf (inputsOf tree.state.serial trace)
  sampled : config.traceSamplingMode.Lets e →
    SpanTree (platformKinds tree.events) tree.state tree.init tree.invocation tree.context
  unsampled : ¬ config.traceSamplingMode.Lets e → tree.spans = []

end InvocationTree

/-- The tree of an invocation that is in the state after the events. -/
def InvocationTree.of (events : List LambdaTelemetry) (state : InvocationProcessingState) :
    InvocationTree :=
  if state.tracingState.shouldProduceSpans then
    ⟨state, events, emittedInitSpan state, platformInvocationSpan state, platformContextSpan state⟩
  else ⟨state, events, none, none, none⟩

theorem InvocationTree.of_sampled {state : InvocationProcessingState} (events : List LambdaTelemetry)
    (h : state.tracingState.shouldProduceSpans = true) :
    InvocationTree.of events state = ⟨state, events, emittedInitSpan state,
      platformInvocationSpan state, platformContextSpan state⟩ :=
  if_pos h

theorem InvocationTree.of_unsampled {state : InvocationProcessingState}
    (events : List LambdaTelemetry) (h : state.tracingState.shouldProduceSpans = false) :
    InvocationTree.of events state = ⟨state, events, none, none, none⟩ := by
  refine if_neg ?_
  rw [h]
  exact Bool.false_ne_true

/-- The events of each section come in the platform's order, with times that fit in a span. -/
structure TelemetryStream.InPlatformOrder (stream : TelemetryStream) : Prop where
  kinds : ∀ k, ((stream.ownedBy k).filterMap LambdaTelemetry.position?).Pairwise (· < ·)
  times : ∀ k, EventsInTime (stream.ownedBy k)
  range : ∀ k, ∀ event ∈ stream.ownedBy k, event.nanos < UInt64.size

/-- Fewer events. -/
theorem EventsInTime.of_isPrefix {events more : List LambdaTelemetry} (h : EventsInTime more)
    (hsofar : events <+: more) : EventsInTime events := by
  obtain ⟨rest, rfl⟩ := hsofar
  refine ⟨(List.pairwise_append.1 h.times).1, fun event hevent => ?_, fun event hevent => ?_⟩
  · exact h.epoch event (List.mem_append_left _ hevent)
  · exact h.initDuration event (List.mem_append_left _ hevent)

section

variable [External] {config : TelemetryProcessorConfig} {inputs : List InvocationInput}
  {start final : Processing InvocationProcessingState}

/-- Without sampling no span is made. -/
theorem run_unsampled (hproduce : start.state.tracingState.shouldProduceSpans = false)
    (hrun : run (inputStep config) start inputs = some final) :
    final.outputBuffers.spansBuffer = start.outputBuffers.spansBuffer := by
  induction inputs generalizing start with
  | nil =>
    cases hrun
    rfl
  | cons input inputs ih =>
    obtain ⟨p, hp, hrest⟩ := run_cons.1 hrun
    have hproduce' : p.state.tracingState.shouldProduceSpans = false := by
      have hsame := (@run_same _ config [input] start p (run_cons.2 ⟨p, hp, rfl⟩)).2
      rw [hsame, hproduce]
    rw [ih hproduce' hrest]
    cases input with
    | functionSpans spans =>
      rw [inputStep_functionSpans hp]
      exact processFunctionSpans_spansBuffer spans
    | telemetry event =>
      rw [inputStep_telemetry hp] at hproduce' ⊢
      rw [processRecord_spansBuffer]
      have hnot : ¬ (processRecord config event.nanos event.record
          start).state.tracingState.shouldProduceSpans = true := by
        rw [hproduce']
        exact Bool.false_ne_true
      refine (congrArg (_ ++ ·) ?_).trans (List.append_nil _)
      unfold madeSpansAfter madeAfterRuntimeDone madeAfterReport
      cases hrecord : event.record with
      | platformRuntimeDone =>
        rw [hrecord] at hnot
        exact if_neg hnot
      | platformReport =>
        rw [hrecord] at hnot
        exact if_neg fun h => hnot h.1
      | _ => rfl

end

section

variable [External] {config : TelemetryServiceConfig} {stream : TelemetryStream}
  {service : TelemetryService}

/-- The spans that an invocation puts out are those of its tree. -/
theorem InvocationOf.tree {actions : List Action} {trace : List ProcessorCall} {e : InvokeEvent}
    {functionContext : FunctionContext} {start final : Processing InvocationProcessingState}
    (h : InvocationOf config.processorConfig stream actions trace e functionContext start final)
    (hmode : config.processorConfig.tracingMode = .telemetryApi) (horder : stream.InPlatformOrder) :
    let tree := InvocationTree.of (telemetryOf (inputsOf final.state.serial trace)) final.state
    final.outputBuffers.spansBuffer = tree.spans ∧
      tree.IsOf config.processorConfig stream actions trace e functionContext := by
  intro tree
  have hfor := h.isFor
  obtain ⟨rng, hmade⟩ := h.made
  have hproduce := (run_same h.inputs).2
  cases hsampled : final.state.tracingState.shouldProduceSpans with
  | false =>
    have htree : tree = _ := InvocationTree.of_unsampled _ hsampled
    rw [htree]
    refine ⟨?_, ⟨start, final, h, rfl⟩, hfor, rfl, fun hlets => ?_, fun _ => rfl⟩
    · have hnone := run_unsampled (hproduce.symm.trans hsampled) h.inputs
      rw [h.fresh] at hnone
      exact hnone
    · exact absurd (hsampled.symm.trans (hfor.sampling.2 hlets)) Bool.false_ne_true
  | true =>
    have hkinds : ((telemetryOf (inputsOf final.state.serial trace)).filterMap
        LambdaTelemetry.position?).Pairwise (· < ·) :=
      (horder.kinds _).sublist (h.events.sublist.filterMap _)
    have made := run_spansMade hmade.isFresh hmode (hproduce.symm.trans hsampled) ⟨hkinds, h.spans⟩
      h.inputs
    have htree : tree = _ := InvocationTree.of_sampled _ hsampled
    rw [htree]
    refine ⟨?_, ⟨start, final, h, rfl⟩, hfor, rfl, fun _ => ?_, fun hnot => ?_⟩
    · have hbuffer := made.spansBuffer
      rw [h.fresh, madeSpans_eq] at hbuffer
      exact hbuffer
    · exact spanTree_of_hasData made.hasData ((horder.times _).of_isPrefix h.events) hkinds
        fun event hevent => horder.range _ event (h.events.subset hevent)
    · exact absurd (hfor.sampling.1 hsampled) hnot

omit [External] in
/-- Of the tree's two first fields. -/
theorem InvocationTree.of_fields (events : List LambdaTelemetry) (state : InvocationProcessingState) :
    (InvocationTree.of events state).state = state ∧
      (InvocationTree.of events state).events = events := by
  unfold InvocationTree.of
  split <;> exact ⟨rfl, rfl⟩

/-- **The spans of a stream.** In TelemetryApi mode, whatever the batching and the interleaving of the
telemetry with invoke events, OTLP exports and sends, the spans made by the exporter are, in the
batches and the buffer, the trees of the requests in their order, each from the events of its own
section: none for a request that the sampling mode does not let. Once everything has arrived there is a
tree for each request, from all of its events. -/
theorem span_trees_sent {now : Nat} {actions : List Action}
    (hmode : config.processorConfig.tracingMode = .telemetryApi) (horder : stream.InPlatformOrder)
    (h : StreamRun config stream now actions service) :
    ∃ (parts : List SentSpans) (trees : List InvocationTree),
      service.sent.map (·.spans) = parts.map (SentSpans.prepared config) ∧
      parts.flatMap (·.platformSpans) ++ service.state.outputBuffers.spansBuffer =
        trees.flatMap InvocationTree.spans ∧
      trees.map (·.state.serial) = List.range trees.length ∧
      (∀ tree ∈ trees, ∃ e functionContext,
        tree.IsOf config.processorConfig stream actions service.state.trace e functionContext) ∧
      (∀ tree ∈ trees, tree.events <+: stream.ownedBy tree.state.serial) ∧
      (Delivered stream actions service → trees.length = stream.requests.length ∧
        ∀ tree ∈ trees, tree.events = stream.ownedBy tree.state.serial) := by
  obtain ⟨parts, finals, put⟩ := h.output
  let treeOf (final : Processing InvocationProcessingState) : InvocationTree :=
    .of (telemetryOf (inputsOf final.state.serial service.state.trace)) final.state
  have hfields (final : Processing InvocationProcessingState) :=
    InvocationTree.of_fields (telemetryOf (inputsOf final.state.serial service.state.trace)) final.state
  refine ⟨parts, finals.map treeOf, put.spans, ?_, ?_, ?_, ?_, fun delivered => ⟨?_, ?_⟩⟩
  · rw [put.platformSpans, List.flatMap_map]
    apply List.flatMap_congr
    intro final hfinal
    obtain ⟨e, functionContext, start, invocation⟩ := put.invocation final hfinal
    exact (invocation.tree hmode horder).1
  · rw [List.length_map, ← put.serials, List.map_map]
    exact List.map_congr_left fun final _ => congrArg (·.serial) (hfields final).1
  · intro tree htrees
    obtain ⟨final, hfinal, rfl⟩ := List.mem_map.1 htrees
    obtain ⟨e, functionContext, start, invocation⟩ := put.invocation final hfinal
    exact ⟨e, functionContext, (invocation.tree hmode horder).2⟩
  · intro tree htrees
    obtain ⟨final, hfinal, rfl⟩ := List.mem_map.1 htrees
    obtain ⟨e, functionContext, start, invocation⟩ := put.invocation final hfinal
    rw [(hfields final).1, (hfields final).2]
    exact invocation.events
  · rw [List.length_map]
    exact (put.complete delivered).1
  · intro tree htrees
    obtain ⟨final, hfinal, rfl⟩ := List.mem_map.1 htrees
    rw [(hfields final).1, (hfields final).2]
    exact (put.complete delivered).2 _

end

theorem inPlatformOrder_sampleStream : sampleStream.InPlatformOrder := by
  have inTime {events : List LambdaTelemetry}
      (htimes : events.Pairwise fun a b => a.timestampMillis ≤ b.timestampMillis)
      (hevents : ∀ event ∈ events, 0 ≤ event.timestampMillis ∧ event.initReportData?.isNone = true) :
      EventsInTime events := by
    refine ⟨htimes, fun event hevent => (hevents event hevent).1, fun event hevent report heq => ?_⟩
    have hnone := (hevents event hevent).2
    rw [heq] at hnone
    cases hnone
  have empty (k : Nat) : sampleStream.ownedBy (k + 2) = [] := rfl
  refine ⟨fun k => ?_, fun k => ?_, fun k => ?_⟩
  · match k with
    | 0 => decide
    | 1 => decide
    | k + 2 =>
      rw [empty]
      exact List.Pairwise.nil
  · match k with
    | 0 => exact inTime (by decide) (by decide)
    | 1 => exact inTime (by decide) (by decide)
    | k + 2 =>
      rw [empty]
      exact inTime List.Pairwise.nil (by simp)
  · match k with
    | 0 => decide
    | 1 => decide
    | k + 2 =>
      rw [empty]
      simp

/-- The spans of two requests: those of the first have been sent, and those of the second wait. -/
theorem span_trees_sent_two :
    ∃ (service : TelemetryService) (parts : List SentSpans) (trees : List InvocationTree),
      @serviceRun sampleExternal (sampleConfig .reportAfterInvocation .telemetryApi) 0
        sampleStreamActions = some service ∧
      (service.sent.flatMap (·.spans)).length = 1 ∧
      service.state.outputBuffers.spansBuffer.length = 2 ∧
      service.sent.map (·.spans) =
        parts.map (SentSpans.prepared (sampleConfig .reportAfterInvocation .telemetryApi)) ∧
      parts.flatMap (·.platformSpans) ++ service.state.outputBuffers.spansBuffer =
        trees.flatMap InvocationTree.spans ∧
      trees.length = 2 ∧ ∀ tree ∈ trees, ∃ e functionContext,
        @InvocationTree.IsOf sampleExternal
          (sampleConfig .reportAfterInvocation .telemetryApi).processorConfig sampleStream
          sampleStreamActions service.state.trace e functionContext tree := by
  obtain ⟨service, hrun, hn, hqueued, hlength, hbuffer⟩ := @exists_run sampleExternal
    (sampleConfig .reportAfterInvocation .telemetryApi) 0 sampleStreamActions
    (fun service => (∀ call ∈ service.state.trace, call.isFailure = false) ∧
      service.handler.requests.isEmpty = true ∧ (service.sent.flatMap (·.spans)).length = 1 ∧
      service.state.outputBuffers.spansBuffer.length = 2) _ (by decide +kernel)
  obtain ⟨parts, trees, hsent, hspans, -, htrees, -, hall⟩ :=
    @span_trees_sent sampleExternal (sampleConfig .reportAfterInvocation .telemetryApi) sampleStream
      service 0 sampleStreamActions rfl inPlatformOrder_sampleStream
      (@StreamRun.mk sampleExternal _ _ _ _ _ hrun
        (by simp [sampleStreamActions, sampleTelemetry, Action.isShutdown]) ⟨[], rfl⟩ ⟨[], rfl⟩ hn)
  obtain ⟨htwo, -⟩ := hall ⟨by simp [sampleStream], rfl, List.isEmpty_iff.1 hqueued, rfl⟩
  exact ⟨service, parts, trees, hrun, hlength, hbuffer, hsent, hspans, htwo, htrees⟩

end TelemetryExporter
