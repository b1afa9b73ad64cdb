import TelemetryExporter.Verify.IsolatedRuns
import TelemetryExporter.Verify.PlatformEvents
import TelemetryExporter.Verify.Signals

/-!
# What a stream puts out

With well-formed telemetry the invocations that the service keeps apart are those of the requests:
each is given the events of its own section, and nothing is processed in degraded mode. So what is in
the batches and what is buffered is what these invocations put out, in their order.
-/

namespace TelemetryExporter

open Machine

/-! ## Spans come before the end of the runtime -/

/-- No spans of the function are processed with the state of an invocation whose runtime is done. -/
def SpansBeforeDone (trace : List ProcessorCall) : Prop :=
  trace.Pairwise fun a b => ∀ k event spans, a = .telemetry k event → event.isRuntimeDone = true →
    b ≠ .functionSpans k spans

namespace SpansBeforeDone

variable {trace calls : List ProcessorCall}

theorem append (h : SpansBeforeDone trace)
    (hspans : ∀ k spans, .functionSpans k spans ∈ calls →
      ¬ Processed LambdaTelemetry.isRuntimeDone trace k)
    (hcalls : (∀ k event, .telemetry k event ∉ calls) ∨ ∀ k spans, .functionSpans k spans ∉ calls) :
    SpansBeforeDone (trace ++ calls) := by
  refine List.pairwise_append.2 ⟨h, ?_, ?_⟩
  · apply List.pairwise_of_forall_mem_list
    intro a ha b hb k event spans haeq hdone hbeq
    rw [haeq] at ha
    rw [hbeq] at hb
    rcases hcalls with hnone | hnone
    · exact hnone k event ha
    · exact hnone k spans hb
  · intro a ha b hb k event spans haeq hdone hbeq
    rw [haeq] at ha
    rw [hbeq] at hb
    exact hspans k spans hb ⟨event, ha, hdone⟩

/-- Calls without spans of the function. -/
theorem append_of_none (h : SpansBeforeDone trace)
    (hcalls : ∀ k spans, .functionSpans k spans ∉ calls) : SpansBeforeDone (trace ++ calls) :=
  h.append (fun k spans hmem => absurd hmem (hcalls k spans)) (.inr hcalls)

end SpansBeforeDone

section

variable [External] {config : TelemetryServiceConfig} {s s' : TelemetryServiceState}

theorem Handled.spansBeforeDone {state : InvocationProcessingState} {event : LambdaTelemetry}
    {queue : List LambdaTelemetry} {o : Outcome Bool}
    (h : Handled config state event { s with telemetryEventQueue := queue } o)
    (hs : SpansBeforeDone s.trace) : SpansBeforeDone o.1.trace := by
  have none {call : LambdaTelemetry → ProcessorCall} {events : List LambdaTelemetry}
      (hcall : ∀ event k spans, call event ≠ .functionSpans k spans) :
      ∀ k spans, .functionSpans k spans ∉ callsFor call events := by
    intro k spans hmem
    obtain ⟨event, -, heq | heq⟩ := mem_callsFor hmem
    · exact hcall event k spans heq.symm
    · cases heq
  cases h with
  | buffered => exact hs
  | restarted m out rng hinit hevent htimes =>
    refine hs.append_of_none ?_
    rw [← callsFor_of_timestamps htimes]
    exact none fun event k spans heq => (by cases heq)
  | restartFailed => exact hs.append_of_none (none fun event k spans heq => (by cases heq))
  | replayed state' m out rng hinit hstarted hevent htimes =>
    refine hs.append_of_none ?_
    rw [← callsFor_of_timestamps htimes]
    exact none fun event k spans heq => (by cases heq)
  | replayFailed => exact hs.append_of_none (none fun event k spans heq => (by cases heq))
  | processed => exact hs.append_of_none (by simp)
  | concluded => exact hs.append_of_none (by simp)
  | failed => exact hs.append_of_none (by simp)

/-- In every run: the spans of a new invocation are processed first, and those that come after the
end of its runtime wait for the next one. -/
theorem spansBeforeDone_invariant :
    InvariantUnder config (fun h s => Enrolled h.requests s) fun _ s => SpansBeforeDone s.trace where
  start _ := List.Pairwise.nil
  core _ hs hcore := by
    rw [(SameCore.of_core hcore).trace]
    exact hs
  acquired enrolled hs acquired := by
    cases acquired with
    | current => exact hs
    | nothing => exact hs
    | created e queue state out rng hnone hqueue fresh =>
      refine hs.append (fun k spans hmem => ?_) (.inl (by simp))
      have hk : k = e.serial := by
        simp only [List.mem_cons, reduceCtorEq, ProcessorCall.functionSpans.injEq, List.not_mem_nil,
          or_false, false_or] at hmem
        rcases hmem with ⟨hk, -⟩ | ⟨hk, -⟩
        · exact hk
        · exact hk
      rintro ⟨event, hevent, -⟩
      rw [hk] at hevent
      refine enrolled.not_mem_taken ?_ (enrolled.telemetry _ event hevent)
      rw [hqueue]
      exact List.mem_cons_self
    | rejected => exact hs.append_of_none (by simp)
  handled _ hs _ _ handled := handled.spansBeforeDone hs
  enqueued _ _ _ hs := hs
  accepted _ _ hs := hs
  received enrolled hs received := by
    cases received with
    | queued => exact hs
    | waiting => exact hs
    | processed state state' out hqueue hstate hdone carries noLogs =>
      refine hs.append (fun k spans hmem => ?_) (.inl (by simp))
      obtain ⟨rfl, -⟩ : k = state.serial ∧ _ := by simpa using hmem
      rw [← enrolled.runtimeDone state hstate, hdone]
      exact Bool.false_ne_true
  metrics _ _ _ hs := hs
  sent {h s} functionContext _ hs := by
    rw [(@sendTelemetry_spans config s functionContext).2.2.2.1]
    exact hs

end

/-- So none of the inputs of an invocation comes after the end of its runtime but telemetry. -/
theorem SpansBeforeDone.inputsOf {trace : List ProcessorCall} (h : SpansBeforeDone trace)
    (serial : Nat) :
    (inputsOf serial trace).Pairwise fun a b => a.isRuntimeDone = true → b.spans? = none := by
  refine List.Pairwise.filterMap (ProcessorCall.inputFor serial) ?_ h
  intro a b hab input ha input' hb hdone
  cases a with
  | telemetry k event =>
    obtain ⟨rfl, rfl⟩ : k = serial ∧ .telemetry event = input := by
      simpa [ProcessorCall.inputFor] using ha
    cases b with
    | functionSpans k' spans =>
      obtain ⟨rfl, -⟩ : k' = k ∧ .functionSpans spans = input' := by
        simpa [ProcessorCall.inputFor] using hb
      exact absurd rfl (hab k' event spans rfl hdone)
    | telemetry k' event' =>
      obtain ⟨-, rfl⟩ : k' = k ∧ .telemetry event' = input' := by
        simpa [ProcessorCall.inputFor] using hb
      rfl
    | _ => cases hb
  | functionSpans k spans =>
    obtain ⟨-, rfl⟩ : k = serial ∧ .functionSpans spans = input := by
      simpa [ProcessorCall.inputFor] using ha
    cases hdone
  | _ => cases ha

/-! ## The telemetry of an invocation -/

/-- The events of the section with the number. The init phase is in the first one. -/
def TelemetryStream.ownedBy (stream : TelemetryStream) (k : Nat) : List LambdaTelemetry :=
  Sections.numbered k stream.owned

/-- The telemetry that is given to an invocation. -/
theorem telemetryOf_inputsOf (k : Nat) (trace : List ProcessorCall) :
    telemetryOf (inputsOf k trace) = Sections.numbered (some k) (ownedEvents trace) := by
  unfold telemetryOf inputsOf Sections.numbered ownedEvents
  rw [List.filterMap_filterMap, List.filterMap_filterMap]
  apply List.filterMap_congr
  intro call _
  cases call with
  | telemetry invocation event =>
    by_cases hk : invocation = k
    · simp [ProcessorCall.inputFor, ProcessorCall.owned, InvocationInput.event?, hk]
    · simp [ProcessorCall.inputFor, ProcessorCall.owned, hk]
  | functionSpans invocation spans =>
    by_cases hk : invocation = k
    · simp [ProcessorCall.inputFor, ProcessorCall.owned, InvocationInput.event?, hk]
    · simp [ProcessorCall.inputFor, ProcessorCall.owned, hk]
  | _ => rfl

section

variable [External] {config : TelemetryServiceConfig} {stream : TelemetryStream}
  {s : TelemetryServiceState}

omit [External] in
/-- It is what the stream has for it, as far as the stream has been processed. -/
theorem Attributed.telemetryOf_inputsOf (h : Attributed config.processorConfig stream s) (k : Nat) :
    telemetryOf (inputsOf k s.trace) = Sections.numbered k
      (Sections.numberBy LambdaTelemetry.isReport 0 (processedEvents s.trace)) := by
  rw [TelemetryExporter.telemetryOf_inputsOf, h.owned]
  exact Sections.numbered_map (fun _ _ => Option.some.inj) k _

omit [External] in
theorem Attributed.inputs_isPrefix (h : Attributed config.processorConfig stream s)
    (hprocessed : processedEvents s.trace <+: stream.events) (k : Nat) :
    telemetryOf (inputsOf k s.trace) <+: stream.ownedBy k := by
  rw [h.telemetryOf_inputsOf, TelemetryStream.ownedBy, stream.owned_eq]
  exact Sections.numbered_isPrefix (Sections.numberBy_isPrefix 0 hprocessed)

omit [External] in
/-- Nothing is processed in degraded mode. -/
theorem Attributed.degraded_eq_nil (h : Attributed config.processorConfig stream s) :
    s.trace.filterMap ProcessorCall.degradedEvent = [] := by
  apply List.filterMap_eq_nil_iff.2
  intro call hcall
  cases call with
  | degraded event =>
    have hmem : (none, event) ∈ ownedEvents s.trace := List.mem_filterMap.2 ⟨_, hcall, rfl⟩
    rw [h.owned] at hmem
    obtain ⟨x, -, heq⟩ := List.mem_map.1 hmem
    cases heq
  | _ => rfl

end

/-- Where nothing has failed, every invocation whose invoke event has left the queue is created. -/
theorem created_eq_taken {trace : List ProcessorCall} (hn : NoFailures trace) :
    trace.filterMap ProcessorCall.creates = takenInvocations trace := by
  apply List.filterMap_congr
  intro call hcall
  have hcall := hn call hcall
  cases call with
  | rejected => cases hcall
  | _ => rfl

/-! ## The invocations -/

/-- The state of an invocation, if the episode is one. -/
def Episode.final? : Episode → Option (Processing InvocationProcessingState)
  | .invocation _ _ final => some final
  | .session _ _ _ => none

section

variable [External]

/-- The invocation stays the same, and its sampling decision too. -/
theorem run_same {config : TelemetryProcessorConfig} {inputs : List InvocationInput}
    {start final : Processing InvocationProcessingState}
    (hrun : run (inputStep config) start inputs = some final) :
    SameInvocation start.state final.state ∧
      final.state.tracingState.shouldProduceSpans = start.state.tracingState.shouldProduceSpans := by
  refine run_invariant (I := fun p => SameInvocation start.state p.state ∧
    p.state.tracingState.shouldProduceSpans = start.state.tracingState.shouldProduceSpans)
    ?_ ⟨.refl _, rfl⟩ hrun
  rintro p input p' ⟨hsame, hproduce⟩ hstep
  refine ⟨hsame.trans (inputStep_same hstep), ?_⟩
  cases input with
  | telemetry event =>
    rw [inputStep_telemetry hstep, processRecord_tracingState]
    exact hproduce
  | functionSpans spans =>
    rw [inputStep_functionSpans hstep, (processFunctionSpans_spans spans).1,
      processFunctionSpansTracing_shouldProduceSpans]
    exact hproduce

/-- The invocation is that of the request at its position: its state has been made for the invoke event
that arrived there, and it has been given the events of the section so far. -/
structure InvocationOf (config : TelemetryProcessorConfig) (stream : TelemetryStream)
    (actions : List Action) (trace : List ProcessorCall) (e : InvokeEvent)
    (functionContext : FunctionContext) (start final : Processing InvocationProcessingState) :
    Prop where
  accepted : (acceptedInvokes actions)[final.state.serial]? = some (e, functionContext)
  requestId : stream.requestIds[final.state.serial]? = some e.requestId
  made : ∃ rng, MadeFor config e functionContext rng start.state
  fresh : start.outputBuffers = {}
  inputs : run (inputStep config) start (inputsOf final.state.serial trace) = some final
  events : telemetryOf (inputsOf final.state.serial trace) <+: stream.ownedBy final.state.serial
  spans : (inputsOf final.state.serial trace).Pairwise fun a b =>
    a.isRuntimeDone = true → b.spans? = none

/-- The invocation keeps the contexts and the sampling decision that it was made with. -/
theorem InvocationOf.isFor {config : TelemetryProcessorConfig} {stream : TelemetryStream}
    {actions : List Action} {trace : List ProcessorCall} {e : InvokeEvent}
    {functionContext : FunctionContext} {start final : Processing InvocationProcessingState}
    (h : InvocationOf config stream actions trace e functionContext start final) :
    final.state.IsFor config e functionContext := by
  obtain ⟨rng, hmade⟩ := h.made
  obtain ⟨hsame, hproduce⟩ := run_same h.inputs
  exact hmade.isFor.same hsame hproduce

/-- The whole stream and all invoke events have arrived. -/
structure Delivered (stream : TelemetryStream) (actions : List Action) (service : TelemetryService) :
    Prop where
  nonempty : stream.requests ≠ []
  requests : (acceptedRequests actions).map (·.requestId) = stream.requestIds
  queued : service.handler.requests = []
  events : acceptedEvents actions = stream.events

/-- What has been sent and what is buffered is what the invocations have put out, one after the
other. -/
structure StreamOutput (config : TelemetryServiceConfig) (stream : TelemetryStream)
    (actions : List Action) (parts : List SentSpans)
    (finals : List (Processing InvocationProcessingState)) (service : TelemetryService) : Prop where
  serials : finals.map (·.state.serial) = List.range finals.length
  taken : takenInvocations service.state.trace = List.range finals.length
  invocation : ∀ final ∈ finals, ∃ e functionContext start,
    InvocationOf config.processorConfig stream actions service.state.trace e functionContext start final
  spans : service.sent.map (·.spans) = parts.map (SentSpans.prepared config)
  functionSpans :
    parts.flatMap (·.functionSpans) ++ service.state.outputBuffers.functionSpansBuffer =
      finals.flatMap (·.outputBuffers.functionSpansBuffer)
  platformSpans : parts.flatMap (·.platformSpans) ++ service.state.outputBuffers.spansBuffer =
    finals.flatMap (·.outputBuffers.spansBuffer)
  logs : service.sent.flatMap (·.logRecords) ++ service.state.outputBuffers.logsBuffer =
    finals.flatMap (·.outputBuffers.logsBuffer)
  complete : Delivered stream actions service → finals.length = stream.requests.length ∧
    ∀ k, telemetryOf (inputsOf k service.state.trace) = stream.ownedBy k

/-- An episode is an invocation of the stream, or puts out nothing. -/
theorem PutOutBy.episode {config : TelemetryServiceConfig} {stream : TelemetryStream}
    {actions : List Action} {parts : List SentSpans} {episodes : List Episode}
    {service : TelemetryService}
    (put : PutOutBy config (acceptedInvokes actions) parts episodes service)
    (hrequests : (acceptedRequests actions).map (·.requestId) <+: stream.requestIds)
    (attributed : Attributed config.processorConfig stream service.state)
    (hprocessed : processedEvents service.state.trace <+: stream.events)
    (hspans : SpansBeforeDone service.state.trace) :
    ∀ episode ∈ episodes,
      episode.output = (episode.final?.map fun final => final.outputBuffers.signals).getD {} ∧
      episode.final?.map (·.state.serial) = episode.serial? ∧
      ∀ final, episode.final? = some final → ∃ e functionContext start,
        InvocationOf config.processorConfig stream actions service.state.trace e functionContext start
          final := by
  intro episode hepisode
  have halone := put.alone episode hepisode
  cases episode with
  | session start events final =>
    have hevents : events = [] := by
      have hnone := put.trace.degraded
      rw [attributed.degraded_eq_nil] at hnone
      exact List.flatMap_eq_nil_iff.1 hnone.symm _ hepisode
    subst hevents
    obtain ⟨-, hstart, hrun⟩ := halone
    cases hrun
    exact ⟨congrArg OutputBuffers.signals hstart, rfl, fun final heq => by cases heq⟩
  | invocation start inputs final =>
    obtain ⟨⟨e, functionContext, rng, he, hmade⟩, hstart, hrun⟩ := halone
    have hserial := (run_same hrun).1.serial
    have hinputs := put.inputs start inputs final hepisode
    rw [← hserial] at he hinputs
    refine ⟨rfl, congrArg some hserial, fun final' heq => ?_⟩
    cases heq
    refine ⟨e, functionContext, start, he, ?_, ⟨rng, hmade⟩, hstart, hinputs ▸ hrun,
      attributed.inputs_isPrefix hprocessed _, hspans.inputsOf _⟩
    have hrequest : ((acceptedRequests actions).map (·.requestId))[final.state.serial]? =
        some e.requestId := by
      rw [← acceptedInvokes_fst, List.getElem?_map, List.getElem?_map, he]
      rfl
    obtain ⟨more, hmore⟩ := hrequests
    rw [← hmore]
    exact getElem?_append_of_some hrequest more

omit [External] in
/-- Only the invocations put something out. -/
theorem flatMap_finals {A : Type} {f : OutputBuffers → List A} (hnil : f {} = [])
    {episodes : List Episode}
    (h : ∀ episode ∈ episodes,
      episode.output = (episode.final?.map fun final => final.outputBuffers.signals).getD {}) :
    episodes.flatMap (fun episode => f episode.output) =
      (episodes.filterMap Episode.final?).flatMap fun final => f final.outputBuffers.signals := by
  induction episodes with
  | nil => rfl
  | cons episode episodes ih =>
    have ih := ih fun e he => h e (List.mem_cons_of_mem _ he)
    rw [List.flatMap_cons, h episode List.mem_cons_self, ih]
    cases episode with
    | session =>
      rw [List.filterMap_cons_none rfl]
      exact (congrArg (· ++ _) hnil).trans (List.nil_append _)
    | invocation => rfl

/-- In every run of a stream, with any batching and any interleaving. -/
theorem StreamRun.output {config : TelemetryServiceConfig} {stream : TelemetryStream}
    {service : TelemetryService} {now : Nat} {actions : List Action}
    (h : StreamRun config stream now actions service) :
    ∃ parts finals, StreamOutput config stream actions parts finals service := by
  obtain ⟨hrun, hshutdown, hrequests, hevents, hn⟩ := h
  obtain ⟨hrunning, -, -, hdrained⟩ := serviceRun_settled hrun hshutdown
  obtain ⟨requests, heq, enrolled, accounted, attributed⟩ :=
    serviceRun_attributed hrun hshutdown hrequests hevents hn
  obtain ⟨-, -, -, -, hspans⟩ :=
    ((spansBeforeDone_invariant.and enrolled_invariant).run hrun).resolve_left hrunning
  obtain ⟨⟨parts, episodes, put⟩, -⟩ := serviceRun_putOutBy hrun (.inl hrunning)
  have hprocessed : processedEvents service.state.trace <+: stream.events := by
    refine List.IsPrefix.trans ?_ hevents
    rw [← accounted.events, List.append_assoc]
    exact List.prefix_append _ _
  have hepisode := put.episode hrequests attributed hprocessed hspans
  have houtput := fun episode hmem => (hepisode episode hmem).1
  have hserials : (episodes.filterMap Episode.final?).map (·.state.serial) =
      takenInvocations service.state.trace := by
    rw [← created_eq_taken hn, put.trace.created, List.map_filterMap]
    exact List.filterMap_congr fun episode hmem => (hepisode episode hmem).2.1
  have hlength : (episodes.filterMap Episode.final?).length =
      (takenInvocations service.state.trace).length := by
    rw [← hserials, List.length_map]
  have htaken : takenInvocations service.state.trace =
      List.range (episodes.filterMap Episode.final?).length := by
    rw [hlength]
    exact enrolled.taken_eq_range
  refine ⟨parts, episodes.filterMap Episode.final?, hserials.trans htaken, htaken, ?_, put.spans, ?_, ?_,
    ?_, ?_⟩
  · intro final hfinal
    obtain ⟨episode, hmem, heq⟩ := List.mem_filterMap.1 hfinal
    exact (hepisode episode hmem).2.2 final heq
  · rw [put.functionSpans]
    exact flatMap_finals (f := (·.functionSpansBuffer)) rfl houtput
  · rw [put.platformSpans]
    exact flatMap_finals (f := (·.spansBuffer)) rfl houtput
  · rw [put.logs]
    exact flatMap_finals (f := (·.logsBuffer)) rfl houtput
  · rintro ⟨hne, hall, hqueued, hdelivered⟩
    rw [hqueued, List.append_nil] at heq
    rw [hdelivered] at accounted
    have hcount : requests.length = stream.requests.length := by
      have hids := congrArg List.length hall
      rwa [heq, List.length_map, TelemetryStream.requestIds, List.length_map] at hids
    obtain ⟨hprocessed, hnone⟩ := attributed.complete enrolled accounted (hdrained hn) hcount hne
    constructor
    · rw [hlength, attributed.taken, hprocessed, stream.countP_reports, hnone]
      rfl
    · intro k
      rw [attributed.telemetryOf_inputsOf, hprocessed, ← stream.owned_eq]
      rfl

end

end TelemetryExporter
