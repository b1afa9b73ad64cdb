import TelemetryExporter.Verify.Correlation
import TelemetryExporter.Verify.SentLogs
import TelemetryExporter.Verify.SpanAttribution

/-!
# The function's spans over all runs

The spans that the function exports are processed with the state of the invocation that they are for.
As the service keeps the invocations apart, and none is given spans after the end of its runtime, what
the batches have is what each invocation emits of the spans that have arrived for it.
-/

namespace TelemetryExporter

open Machine

/-! ## One invocation -/

section

variable [External] {config : TelemetryProcessorConfig} {inputs : List InvocationInput}
  {p p' : Processing InvocationProcessingState}

/-- What an invocation has emitted: nothing if it is not sampled. Until the end of the runtime the
spans that are not captured, and then all of them. -/
structure EmittedSpans (config : TelemetryProcessorConfig) (sampled : Prop)
    (received : List SpanWithScope) (events : List LambdaTelemetry) (state : InvocationTracingState)
    (emitted : List SpanWithScope) : Prop where
  unsampled : ¬ sampled → emitted = []
  running : sampled → events.find? LambdaTelemetry.isRuntimeDone = none →
    emitted = (captureSpans (fun _ => none) received).2.map (·.prepared config)
  ended : sampled → ∀ done data,
    events.find? LambdaTelemetry.isRuntimeDone = some done → done.runtimeDoneData? = some data →
    SpansEmitted config data state received emitted

/-- Without spans and without the end of the runtime nothing is emitted. -/
theorem run_keepsSpans (hdone : ∀ event ∈ telemetryOf inputs, event.isRuntimeDone = false)
    (hspans : ∀ input ∈ inputs, input.spans? = none)
    (hrun : run (inputStep config) p inputs = some p') : KeepsSpans p p' := by
  induction inputs generalizing p with
  | nil =>
    cases hrun
    exact ⟨rfl, rfl⟩
  | cons input inputs ih =>
    obtain ⟨q, hq, hrest⟩ := run_cons.1 hrun
    have hspans' := fun input hinput => hspans input (List.mem_cons_of_mem _ hinput)
    cases input with
    | functionSpans spans => cases hspans _ List.mem_cons_self
    | telemetry event =>
      refine KeepsSpans.trans ?_ (ih (fun e he => hdone e (List.mem_cons_of_mem _ he)) hspans' hrest)
      rw [inputStep_telemetry hq]
      exact processRecord_keepsSpans (hdone event List.mem_cons_self)

omit [External] in
theorem receivedOf_eq_nil (hspans : ∀ input ∈ inputs, input.spans? = none) :
    receivedOf inputs = [] := by
  unfold receivedOf functionSpansOf
  rw [List.filterMap_eq_nil_iff.2 hspans, List.flatMap_nil]

omit [External] in
/-- The inputs around the only end of the runtime. -/
theorem exists_runtimeDone
    (hspans : inputs.Pairwise fun a b => a.isRuntimeDone = true → b.spans? = none)
    (hcount : (telemetryOf inputs).countP LambdaTelemetry.isRuntimeDone ≤ 1) {done : LambdaTelemetry}
    (hmem : done ∈ telemetryOf inputs) (hdone : done.isRuntimeDone = true) :
    ∃ before after, inputs = before ++ .telemetry done :: after ∧
      (∀ event ∈ telemetryOf before, event.isRuntimeDone = false) ∧
      (∀ event ∈ telemetryOf after, event.isRuntimeDone = false) ∧
      ∀ input ∈ after, input.spans? = none := by
  obtain ⟨input, hinput, hevent⟩ := List.mem_filterMap.1 hmem
  cases input with
  | functionSpans => cases hevent
  | telemetry event =>
    cases hevent
    obtain ⟨before, after, rfl⟩ := List.append_of_mem hinput
    have hsplit : telemetryOf (before ++ .telemetry done :: after) =
        telemetryOf before ++ done :: telemetryOf after := by
      rw [telemetryOf_append]
      rfl
    rw [hsplit, List.countP_append, List.countP_cons_of_pos hdone] at hcount
    have none {events : List LambdaTelemetry} (h : events.countP LambdaTelemetry.isRuntimeDone = 0) :
        ∀ event ∈ events, event.isRuntimeDone = false := by
      intro event hevent
      exact Bool.eq_false_of_not_eq_true (List.countP_eq_zero.1 h event hevent)
    refine ⟨before, after, rfl, none (by omega), none (by omega), ?_⟩
    intro input hinput
    exact (List.pairwise_cons.1 (List.pairwise_append.1 hspans).2.1).1 input hinput hdone

/-- Without sampling nothing is emitted. -/
theorem run_functionSpans_unsampled (hproduce : p.state.tracingState.shouldProduceSpans = false)
    (hrun : run (inputStep config) p inputs = some p') : p'.functionSpans = p.functionSpans := by
  induction inputs generalizing p with
  | nil =>
    cases hrun
    rfl
  | cons input inputs ih =>
    obtain ⟨q, hq, hrest⟩ := run_cons.1 hrun
    have hproduce' : q.state.tracingState.shouldProduceSpans = false := by
      have hsame := (@run_same _ config [input] p q (run_cons.2 ⟨q, hq, rfl⟩)).2
      rw [hsame, hproduce]
    rw [ih hproduce' hrest]
    cases input with
    | functionSpans spans =>
      have hstate := (@processFunctionSpans_spans _ config p spans).1
      have hspans := (@processFunctionSpans_spans _ config p spans).2
      rw [← hstate, ← inputStep_functionSpans hq, hproduce', if_neg (by simp), List.append_nil] at hspans
      exact hspans
    | telemetry event =>
      rw [inputStep_telemetry hq]
      cases hdata : event.runtimeDoneData? with
      | some data =>
        rw [processRecord_runtimeDone hdata]
        have hbuffer := (@processRuntimeDone_spans _ config p data).2
        rw [hproduce, if_neg (by simp), List.append_nil] at hbuffer
        unfold Processing.functionSpans
        rw [hbuffer]
      | none =>
        have hdone : event.isRuntimeDone = false := by
          rw [← event.runtimeDoneData?_isSome, hdata]
          rfl
        have hkeeps := @processRecord_keepsSpans _ config p event hdone
        unfold Processing.functionSpans
        rw [hkeeps.functionSpansBuffer]

/-- What a run of an invocation emits. -/
theorem run_emittedSpans (hfresh : IsFresh config p.state)
    (hmode : config.tracingMode = .otelInstrumentation) (hempty : p.functionSpans = [])
    (hspans : inputs.Pairwise fun a b => a.isRuntimeDone = true → b.spans? = none)
    (hcount : (telemetryOf inputs).countP LambdaTelemetry.isRuntimeDone ≤ 1)
    (hrun : run (inputStep config) p inputs = some p') :
    EmittedSpans config (p'.state.tracingState.shouldProduceSpans = true) (receivedOf inputs)
      (telemetryOf inputs) p'.state.tracingState p'.functionSpans := by
  have hsame := (run_same hrun).2
  refine ⟨?_, ?_, ?_⟩
  · intro hnot
    have hproduce := Bool.eq_false_of_not_eq_true hnot
    rw [run_functionSpans_unsampled (hsame.symm.trans hproduce) hrun, hempty]
  · intro hproduce hnone
    have hdone : ∀ event ∈ telemetryOf inputs, event.isRuntimeDone = false := by
      intro event hevent
      exact Bool.eq_false_of_not_eq_true (List.find?_eq_none.1 hnone event hevent)
    have hreceived := run_spansReceived hdone (hasCaptured_of_isFresh hfresh) hrun
    have hforwarded := hreceived.functionSpans
    rw [if_pos ⟨hsame.symm.trans hproduce, hmode⟩, hempty, List.nil_append] at hforwarded
    exact hforwarded
  · intro hproduce done data hfind hdata
    obtain ⟨before, after, rfl, hbefore, hafter, hnone⟩ :=
      exists_runtimeDone hspans hcount (List.mem_of_find?_eq_some hfind) (List.find?_some hfind)
    have hsplit : before ++ .telemetry done :: after = (before ++ [.telemetry done]) ++ after := by
      rw [List.append_assoc]
      rfl
    rw [hsplit] at hrun
    obtain ⟨q, hq, hrest⟩ := run_append_iff.1 hrun
    have hproduce' := hsame.symm.trans hproduce
    obtain ⟨emitted, hspans', hemitted⟩ := run_spansEmitted hfresh hmode hproduce' hbefore hdata hq
    -- what comes after the end of the runtime changes nothing
    have hkeeps := run_keepsSpans hafter hnone hrest
    have hfunction : p'.functionSpans = emitted := by
      unfold Processing.functionSpans at hspans' hempty ⊢
      rw [hkeeps.functionSpansBuffer, hspans', hempty, List.nil_append]
    have hreceived : receivedOf (before ++ .telemetry done :: after) = receivedOf before := by
      have hdone : receivedOf [.telemetry done] = [] := rfl
      rw [hsplit, receivedOf_append, receivedOf_append, hdone, receivedOf_eq_nil hnone, List.append_nil,
        List.append_nil]
    rw [hfunction, hreceived, hkeeps.tracingState]
    exact hemitted

end

/-! ## A stream -/

/-- A section has at most one end of the runtime. -/
theorem TelemetryStream.countP_runtimeDone (stream : TelemetryStream) (k : Nat) :
    (stream.ownedBy k).countP LambdaTelemetry.isRuntimeDone ≤ 1 := by
  rw [stream.ownedBy_eq, List.countP_append]
  have hinit : (if k = 0 then stream.init else []).countP LambdaTelemetry.isRuntimeDone = 0 := by
    apply List.countP_eq_zero.2
    intro e he
    split at he
    · rw [stream.init_not_runtimeDone e he]
      exact Bool.false_ne_true
    · cases he
  rw [hinit, Nat.zero_add]
  cases stream.requests[k]? with
  | none => exact Nat.zero_le _
  | some request =>
    rw [Option.map_some, Option.getD_some, List.countP_eq_length_filter, request.filter_runtimeDone]
    exact Nat.le_refl _

/-- The spans that are given to an invocation. -/
theorem givenSpans_eq (k : Nat) (trace : List ProcessorCall) :
    givenSpans k trace = (functionSpansOf (inputsOf k trace)).flatten := by
  induction trace with
  | nil => rfl
  | cons call trace ih =>
    have hcons : givenSpans k (call :: trace) = call.spansFor k ++ givenSpans k trace := rfl
    rw [hcons, ih]
    unfold inputsOf functionSpansOf
    cases call with
    | functionSpans invocation spans =>
      by_cases hk : invocation = k
      · simp [ProcessorCall.spansFor, ProcessorCall.inputFor, InvocationInput.spans?, hk]
      · simp [ProcessorCall.spansFor, ProcessorCall.inputFor, hk]
    | telemetry invocation event =>
      by_cases hk : invocation = k
      · simp [ProcessorCall.spansFor, ProcessorCall.inputFor, hk]
        rfl
      · simp [ProcessorCall.spansFor, ProcessorCall.inputFor, hk]
    | _ => rfl

/-- No spans wait for an invocation whose invoke event has left the queue. -/
theorem Enrolled.waitingSpans_eq_nil {requests : List InvokeEvent} {s : TelemetryServiceState}
    (h : Enrolled requests s) {k : Nat} (hk : k ∈ takenInvocations s.trace) :
    s.waitingSpans k = [] := by
  have hqueued : queuedSpans k s.invokeEventQueue = [] := by
    apply List.flatMap_eq_nil_iff.2
    intro e he
    apply if_neg
    intro heq
    exact h.not_mem_taken he (heq ▸ hk)
  have hnext : k ≠ s.nextInvocation := by
    unfold TelemetryServiceState.nextInvocation
    cases hqueue : s.invokeEventQueue with
    | nil =>
      have hmem : k ∈ takenInvocations s.trace ++ s.invokeEventQueue.map (·.serial) :=
        List.mem_append_left _ hk
      rw [h.taken, List.mem_range, ← h.enqueued] at hmem
      exact Nat.ne_of_lt hmem
    | cons e queue =>
      intro heq
      have hnext : k = e.serial := heq
      refine h.not_mem_taken (e := e) ?_ ?_
      · rw [hqueue]
        exact List.mem_cons_self
      · exact hnext ▸ hk
  unfold TelemetryServiceState.waitingSpans
  rw [if_neg hnext, hqueued]
  rfl

section

variable [External] {config : TelemetryServiceConfig} {stream : TelemetryStream}
  {service : TelemetryService} {now : Nat} {actions : List Action}

/-- An invocation of a run has been given the spans that have arrived for it. -/
theorem StreamRun.receivedOf_eq (h : StreamRun config stream now actions service) {k : Nat}
    (hk : k ∈ takenInvocations service.state.trace) :
    receivedOf (inputsOf k service.state.trace) =
      receivedSpans (arrivedSpans k (arrivals (trail (serviceStep config) (.new config now) actions))) := by
  obtain ⟨hrun, hshutdown, -, -, hn⟩ := h
  have hrunning := (serviceRun_settled hrun hshutdown).1
  obtain ⟨history, hist, -, enrolled, hspans⟩ :=
    ((spansAttributed_invariant.and enrolled_invariant).run hrun).resolve_left hrunning
  have haccepted : ∀ k, .rejected k ∉ service.state.trace := by
    intro k hmem
    have hfailed := hn _ hmem
    cases hfailed
  have hgiven := hspans haccepted k
  rw [enrolled.waitingSpans_eq_nil hk, List.append_nil, givenSpans_eq] at hgiven
  rw [← hist.spans, ← hgiven]
  unfold receivedOf receivedSpans
  rw [← List.flatMap_id, List.flatMap_assoc]
  rfl

/-- The spans that an invocation of a stream emits. -/
theorem InvocationOf.emittedSpans {trace : List ProcessorCall} {e : InvokeEvent}
    {functionContext : FunctionContext} {start final : Processing InvocationProcessingState}
    (h : InvocationOf config.processorConfig stream actions trace e functionContext start final)
    (hmode : config.processorConfig.tracingMode = .otelInstrumentation) :
    EmittedSpans config.processorConfig (config.processorConfig.traceSamplingMode.Lets e)
      (receivedOf (inputsOf final.state.serial trace))
      (telemetryOf (inputsOf final.state.serial trace)) final.state.tracingState
      final.functionSpans := by
  obtain ⟨rng, hmade⟩ := h.made
  rw [← propext h.isFor.sampling]
  refine run_emittedSpans hmade.isFresh hmode ?_ h.spans ?_ h.inputs
  · unfold Processing.functionSpans
    rw [h.fresh]
    rfl
  · exact Nat.le_trans h.events.sublist.countP_le (stream.countP_runtimeDone _)

/-- **The function's spans of a stream.** In OtelInstrumentation mode, whatever the batching and the
interleaving of the telemetry with invoke events, OTLP exports and sends, the function's spans in the
batches and the buffer are what the invocations of the requests emit, in their order, each of the spans
that have arrived for it. Once everything has arrived every invocation has had all of its events. -/
theorem function_spans_sent (hmode : config.processorConfig.tracingMode = .otelInstrumentation)
    (h : StreamRun config stream now actions service) :
    ∃ (parts : List SentSpans) (finals : List (Processing InvocationProcessingState)),
      service.sent.map (·.spans) = parts.map (SentSpans.prepared config) ∧
      scopedSpans (parts.flatMap (·.functionSpans) ++ service.state.outputBuffers.functionSpansBuffer) =
        finals.flatMap (·.functionSpans) ∧
      finals.map (·.state.serial) = List.range finals.length ∧
      (∀ final ∈ finals, ∃ e functionContext start,
        InvocationOf config.processorConfig stream actions service.state.trace e functionContext start
          final ∧
        EmittedSpans config.processorConfig (config.processorConfig.traceSamplingMode.Lets e)
          (receivedSpans (arrivedSpans final.state.serial
            (arrivals (trail (serviceStep config) (.new config now) actions))))
          (telemetryOf (inputsOf final.state.serial service.state.trace)) final.state.tracingState
          final.functionSpans) ∧
      (Delivered stream actions service → finals.length = stream.requests.length ∧
        ∀ k, telemetryOf (inputsOf k service.state.trace) = stream.ownedBy k) := by
  obtain ⟨parts, finals, put⟩ := h.output
  refine ⟨parts, finals, put.spans, ?_, put.serials, ?_, put.complete⟩
  · rw [put.functionSpans]
    unfold scopedSpans Processing.functionSpans scopedSpans
    rw [List.flatMap_assoc]
  · intro final hfinal
    obtain ⟨e, functionContext, start, invocation⟩ := put.invocation final hfinal
    refine ⟨e, functionContext, start, invocation, ?_⟩
    have hk : final.state.serial ∈ takenInvocations service.state.trace := by
      rw [put.taken, ← put.serials]
      exact List.mem_map_of_mem hfinal
    rw [← h.receivedOf_eq hk]
    exact invocation.emittedSpans hmode

end

/-- The spans of the function arrive for the first request. -/
def streamActionsWithSpans : List Action :=
  [.invoke (sampleInvoke "r1") sampleContext, .handler 0, .otlpSpans ⟨0, 0, 0⟩ (sampleSpanBatch []),
    sampleTelemetry sampleStream.events, .handler 0, .handler 0, .handler 0, .handler 0, .handler 0,
    .handler 0, .invoke (sampleInvoke "r2") sampleContext, .handler 0]

/-- The span is emitted by the first of two requests. -/
theorem function_spans_sent_two :
    ∃ (service : TelemetryService) (parts : List SentSpans)
      (finals : List (Processing InvocationProcessingState)),
      @serviceRun sampleExternal (sampleConfig .reportAfterInvocation .otelInstrumentation) 0
        streamActionsWithSpans = some service ∧
      (service.sent.flatMap (·.spans)).length = 1 ∧
      service.sent.map (·.spans) = parts.map
        (SentSpans.prepared (sampleConfig .reportAfterInvocation .otelInstrumentation)) ∧
      scopedSpans (parts.flatMap (·.functionSpans) ++ service.state.outputBuffers.functionSpansBuffer) =
        finals.flatMap (·.functionSpans) ∧
      finals.length = 2 := by
  obtain ⟨service, hrun, hn, hqueued, hlength⟩ := @exists_run sampleExternal
    (sampleConfig .reportAfterInvocation .otelInstrumentation) 0 streamActionsWithSpans
    (fun service => (∀ call ∈ service.state.trace, call.isFailure = false) ∧
      service.handler.requests.isEmpty = true ∧ (service.sent.flatMap (·.spans)).length = 1) _
    (by decide +kernel)
  obtain ⟨parts, finals, hsent, hspans, -, -, hall⟩ :=
    @function_spans_sent sampleExternal (sampleConfig .reportAfterInvocation .otelInstrumentation)
      sampleStream service 0 streamActionsWithSpans rfl
      (@StreamRun.mk sampleExternal _ _ _ _ _ hrun
        (by simp [streamActionsWithSpans, sampleTelemetry, Action.isShutdown]) ⟨[], rfl⟩ ⟨[], rfl⟩ hn)
  obtain ⟨hfinals, -⟩ := hall ⟨by simp [sampleStream], rfl, List.isEmpty_iff.1 hqueued, rfl⟩
  exact ⟨service, parts, finals, hrun, hlength, hsent, hspans, hfinals⟩

end TelemetryExporter
