import TelemetryExporter.Verify.Isolation

/-!
# Isolation over all runs

The invariant of `Isolation` with the other steps of the service: spans of the function that arrive
alone, invoke events that are queued, and batches that are sent. The shutdown adds one more session,
with the events that still wait in the queue.
-/

namespace TelemetryExporter

open Machine

/-! ## The other steps -/

/-- Later invoke events do not matter. -/
theorem Episode.Alone.mono [External] {config : TelemetryProcessorConfig}
    {invokes more : List (InvokeEvent × FunctionContext)} {episode : Episode}
    (h : episode.Alone config invokes) : episode.Alone config (invokes ++ more) := by
  cases episode with
  | session => exact h
  | invocation start inputs final =>
    obtain ⟨⟨e, functionContext, rng, he, hmade⟩, hstart, hrun⟩ := h
    exact ⟨⟨e, functionContext, rng, getElem?_append_of_some he more, hmade⟩, hstart, hrun⟩

section

variable {config : TelemetryServiceConfig} {s : TelemetryServiceState}

/-- A batch takes what is buffered. -/
theorem sendTelemetry_signals (functionContext : FunctionContext) :
    (sendTelemetry config functionContext s).2.outputBuffers.signals = {} ∧
      (sendTelemetry config functionContext s).2.rng = s.rng := by
  unfold sendTelemetry prepareTelemetryBatch prepareMetrics takeScopeMetrics
  dsimp only
  split <;> split <;> exact ⟨rfl, rfl⟩

end

section

variable [External] {config : TelemetryServiceConfig}
  {invokes : List (InvokeEvent × FunctionContext)} {taken : OutputBuffers}
  {o : Option InvocationProcessingState} {s s' : TelemetryServiceState}

/-- The fields that coordinate sending do not matter. -/
theorem HasIsolation.core (h : HasIsolation config invokes taken o s) (hcore : s'.core = s.core) :
    HasIsolation config invokes taken o s' := by
  obtain ⟨closed, current, h⟩ := h
  have same := SameCore.of_core hcore
  refine ⟨closed, current, h.congr ⟨?_, congrArg (·.rng) hcore, ?_⟩ ?_ ?_ same.trace⟩
  · rw [same.outputBuffers]
  · intro hinit
    rw [same.initHandled]
    exact hinit
  · exact same.phase h.phase
  · exact h.queued.congr same.invokeEventQueue same.enqueued

theorem HasIsolation.receiveSpans (h : HasIsolation config invokes taken s.invocationState s)
    (spans : List ResourceSpans) :
    HasIsolation config invokes taken (receiveSpans config spans s).invocationState
      (receiveSpans config spans s) := by
  obtain ⟨closed, current, h⟩ := h
  unfold TelemetryExporter.receiveSpans
  split
  · exact ⟨closed, current, h.congr ⟨rfl, rfl, id⟩ h.phase (h.queued.extend rfl rfl) rfl⟩
  · split
    · next state hstate =>
      split
      · exact ⟨closed, current, h.congr ⟨rfl, rfl, id⟩ h.phase (h.queued.congr rfl rfl) rfl⟩
      · rw [hstate] at h
        obtain ⟨closed, current, called⟩ := h.functionSpans spans
        exact ⟨closed, current, called.phase, called.queued.congr rfl rfl,
          called.alone, called.output, called.isCurrent, called.trace⟩
    · exact ⟨closed, current, h.congr ⟨rfl, rfl, id⟩ h.phase (h.queued.congr rfl rfl) rfl⟩

/-- An invoke event is queued with the data of its request. -/
theorem HasIsolation.enqueue (h : HasIsolation config invokes taken o s) (e : InvokeEvent)
    (functionContext : FunctionContext) :
    HasIsolation config (invokes ++ [(e, functionContext)]) taken o
      (pushInvokeEvent e functionContext s) := by
  obtain ⟨closed, current, hphase, hqueued, halone, houtput, hcurrent, htrace⟩ := h
  exact ⟨closed, current, hphase, hqueued.push e functionContext,
    fun episode hepisode => (halone episode hepisode).mono, houtput, hcurrent, htrace⟩

theorem HasIsolation.metrics (h : HasIsolation config invokes taken o s)
    (metrics : List ResourceMetrics) :
    HasIsolation config invokes taken o (processFunctionMetrics config metrics s) := by
  obtain ⟨closed, current, h⟩ := h
  obtain ⟨acc, buffer, heq⟩ := @processFunctionMetrics_state _ config metrics s
  rw [heq]
  exact ⟨closed, current, h.congr ⟨rfl, rfl, id⟩ h.phase (h.queued.congr rfl rfl) rfl⟩

/-- A batch is sent. -/
theorem HasIsolation.send (h : HasIsolation config invokes taken o s)
    (functionContext : FunctionContext) :
    HasIsolation config invokes (taken ++ s.outputBuffers.signals) o
      (sendTelemetry config functionContext s).2 := by
  obtain ⟨closed, current, hphase, hqueued, halone, houtput, hcurrent, htrace⟩ := h
  obtain ⟨hsignals, hrng⟩ := @sendTelemetry_signals config s functionContext
  obtain ⟨m, acc, out, -, heq⟩ := @sendTelemetry_state config s functionContext
  refine ⟨closed, current, ?_, ?_, halone, ?_, ?_, ?_⟩
  · rw [heq]
    exact hphase
  · rw [heq]
    exact hqueued.congr rfl rfl
  · rw [hsignals, OutputBuffers.append_nil]
    exact houtput
  · rw [heq]
    exact hcurrent
  · rw [heq]
    exact htrace

/-- The flush is a session after the current invocation. -/
theorem HasIsolation.flush (h : HasIsolation config invokes taken o s)
    (functionContext : FunctionContext) :
    HasIsolation config invokes taken none (flushEnqueuedTelemetry config functionContext s) := by
  obtain ⟨closed, current, h⟩ := h
  unfold flushEnqueuedTelemetry
  have started : Isolates config invokes taken none
      { s with shutdownFlushStarted := true, telemetryEventQueue := [] } (closed ++ current) [] :=
    h.close.congr ⟨rfl, rfl, id⟩ h.phase (h.queued.congr rfl rfl) rfl
  exact started.session (fun hsome => by cases hsome) functionContext _

end

/-! ## Batches -/

/-- What has been taken for the batches is what is in them. -/
structure Taken (config : TelemetryServiceConfig) (parts : List SentSpans) (taken : OutputBuffers)
    (sent : List TelemetryBatch) : Prop where
  logs : sent.flatMap (·.logRecords) = taken.logsBuffer
  epsagonTraces : sent.flatMap (·.epsagonTraces) = taken.epsagonTracesBuffer
  spans : sent.map (·.spans) = parts.map (SentSpans.prepared config)
  functionSpans : parts.flatMap (·.functionSpans) = taken.functionSpansBuffer
  platformSpans : parts.flatMap (·.platformSpans) = taken.spansBuffer

/-- One more batch. -/
theorem Taken.send {config : TelemetryServiceConfig} {parts : List SentSpans} {taken : OutputBuffers}
    {sent : List TelemetryBatch} (h : Taken config parts taken sent)
    (functionContext : FunctionContext) (s : TelemetryServiceState) :
    Taken config
      (parts ++ [⟨functionContext, s.outputBuffers.functionSpansBuffer, s.outputBuffers.spansBuffer⟩])
      (taken ++ s.outputBuffers.signals)
      (sent ++ [(sendTelemetry config functionContext s).1]) := by
  refine ⟨?_, ?_, ?_, ?_, ?_⟩
  · rw [List.flatMap_append, List.flatMap_singleton, sendTelemetry_logRecords, h.logs]
    rfl
  · rw [List.flatMap_append, List.flatMap_singleton,
      (sendTelemetry_epsagonTraces functionContext s).1, h.epsagonTraces]
    rfl
  · rw [List.map_append, List.map_append, h.spans, List.map_singleton, List.map_singleton,
      (sendTelemetry_spans functionContext).1]
  · rw [List.flatMap_append, List.flatMap_singleton, h.functionSpans]
    rfl
  · rw [List.flatMap_append, List.flatMap_singleton, h.platformSpans]
    rfl

section

variable [External] {config : TelemetryServiceConfig} {parts : List SentSpans}
  {service service' : TelemetryService} {past : List Action}

/-- The invariant of the service, with the actions so far. -/
def IsIsolated (config : TelemetryServiceConfig) (past : List Action) (service : TelemetryService) :
    Prop :=
  ∃ invokes parts taken, acceptedInvokes past = invokes ++ service.handler.invokes ∧
    Taken config parts taken service.sent ∧
    HasIsolation config invokes taken service.state.invocationState service.state

/-- One step that does not shut down. -/
theorem serviceStep_isIsolated {a : Action} (h : IsIsolated config past service)
    (hstep : serviceStep config service a = some service') :
    service'.handler = .shutDown ∨ IsIsolated config (past ++ [a]) service' := by
  obtain ⟨invokes, parts, taken, hinvokes, htaken, h⟩ := h
  have current {s s' : TelemetryServiceState} {invokes : List (InvokeEvent × FunctionContext)}
      {taken : OutputBuffers} (hcore : s'.core = s.core)
      (h : HasIsolation config invokes taken s.invocationState s) :
      HasIsolation config invokes taken s'.invocationState s' := by
    rw [(SameCore.of_core hcore).invocationState]
    exact h.core hcore
  cases serviceStep_coreStep hstep with
  | still a service' hstate hsent hevents hspans hhandler =>
    refine .inr ⟨invokes, parts, taken, ?_, hsent ▸ htaken, current hstate h⟩
    rw [acceptedInvokes_snoc, hinvokes, hhandler, List.append_assoc]
  | enqueued now e functionContext service' hstate hsent hhandler hhandler' =>
    refine .inr ⟨invokes ++ [(e, functionContext)], parts, taken, ?_, hsent ▸ htaken,
      current hstate (HasIsolation.processQueues ?_)⟩
    · simp [acceptedInvokes_snoc, hinvokes, hhandler, hhandler', Action.invokes]
    · exact h.enqueue e functionContext
  | sent now functionContext service' hstate hsent hhandler hhandler' =>
    refine .inr ⟨invokes, _, _, ?_, hsent ▸ htaken.send functionContext service.state,
      current hstate ?_⟩
    · simp [acceptedInvokes_snoc, hinvokes, hhandler, hhandler', Action.invokes]
    · rw [(sendTelemetry_spans functionContext).2.2.2.2]
      exact h.send functionContext
  | telemetry clock events s service' hs hstate hsent hhandler =>
    refine .inr ⟨invokes, parts, taken, ?_, hsent ▸ htaken,
      current hstate (HasIsolation.processQueues (current hs ?_))⟩
    · simp [acceptedInvokes_snoc, hinvokes, hhandler, Action.invokes]
    · obtain ⟨closed, current, h⟩ := h
      exact ⟨closed, current, h.congr ⟨rfl, rfl, id⟩ h.phase (h.queued.congr rfl rfl) rfl⟩
  | otlpSpans clock spans service' hstate hsent hhandler =>
    refine .inr ⟨invokes, parts, taken, ?_, hsent ▸ htaken, current hstate (h.receiveSpans spans)⟩
    simp [acceptedInvokes_snoc, hinvokes, hhandler, Action.invokes]
  | otlpMetrics clock metrics service' hstate hsent hhandler =>
    refine .inr ⟨invokes, parts, taken, ?_, hsent ▸ htaken, current hstate ?_⟩
    · simp [acceptedInvokes_snoc, hinvokes, hhandler, Action.invokes]
    · obtain ⟨acc, buffer, heq⟩ := @processFunctionMetrics_state _ config metrics service.state
      have kept : (processFunctionMetrics config metrics service.state).invocationState =
          service.state.invocationState := by
        rw [heq]
      rw [kept]
      exact h.metrics metrics
  | shutDown functionContext service' hstate hsent hhandler hhandler' => exact .inl hhandler'

/-- A run that has not shut down. -/
theorem serviceRun_isIsolated {now : Nat} {actions : List Action}
    (hrun : serviceRun config now actions = some service) (hrunning : service.handler ≠ .shutDown) :
    IsIsolated config actions service := by
  refine (run_actions (I := fun past service => service.handler = .shutDown ∨
    IsIsolated config past service) ?_ ?_ hrun).resolve_left hrunning
  · refine .inr ⟨[], [], {}, rfl, ⟨rfl, rfl, rfl, rfl, rfl⟩, [], [], ?_⟩
    refine ⟨fun h => (by cases h), ⟨rfl, ?_⟩, ?_, rfl, .none, fun _ => rfl, rfl, rfl⟩
    · intro q hq
      cases hq
    · intro episode hepisode
      cases hepisode
  · intro past service a service' hs hstep
    rcases hs with hs | hs
    · exact .inl (serviceStep_shutDown hs hstep)
    · exact serviceStep_isIsolated hs hstep

end

/-! ## The episodes of a run -/

/-- An invocation without inputs in the trace. -/
theorem flatMap_inputsFor_of_not_mem {episodes : List Episode} {serial : Nat}
    (h : serial ∉ episodes.filterMap Episode.serial?) :
    episodes.flatMap (Episode.inputsFor serial) = [] := by
  apply List.flatMap_eq_nil_iff.2
  intro episode hepisode
  cases episode with
  | session => rfl
  | invocation start inputs final =>
    refine if_neg fun heq => h ?_
    rw [← heq]
    exact List.mem_filterMap.2 ⟨_, hepisode, rfl⟩

/-- Where every invocation has one episode, its inputs are those with its serial. -/
theorem flatMap_inputsFor {episodes : List Episode}
    (hnodup : (episodes.filterMap Episode.serial?).Nodup)
    {start final : Processing InvocationProcessingState} {inputs : List InvocationInput}
    (hmem : .invocation start inputs final ∈ episodes) :
    episodes.flatMap (Episode.inputsFor start.state.serial) = inputs := by
  induction episodes with
  | nil => cases hmem
  | cons episode episodes ih =>
    rw [List.flatMap_cons]
    cases episode with
    | session start' events final' =>
      rw [List.filterMap_cons_none rfl] at hnodup
      rcases List.mem_cons.1 hmem with heq | hmem
      · cases heq
      · exact ih hnodup hmem
    | invocation start' inputs' final' =>
      obtain ⟨hnot, hnodup⟩ := List.nodup_cons.1 hnodup
      rcases List.mem_cons.1 hmem with heq | hmem
      · cases heq
        rw [flatMap_inputsFor_of_not_mem hnot, List.append_nil]
        exact if_pos rfl
      · have hne : start'.state.serial ≠ start.state.serial := by
          intro heq
          apply hnot
          rw [heq]
          exact List.mem_filterMap.2 ⟨_, hmem, rfl⟩
        rw [Episode.inputsFor, if_neg hne, ih hnodup hmem]
        rfl

/-- The invocations created are among those whose invoke events have left the queue. -/
theorem created_sublist (trace : List ProcessorCall) :
    (trace.filterMap ProcessorCall.creates).Sublist (takenInvocations trace) := by
  unfold takenInvocations
  induction trace with
  | nil => exact List.Sublist.slnil
  | cons call trace ih =>
    cases call with
    | created => exact ih.cons_cons _
    | rejected => exact ih.cons _
    | _ => exact ih

/-- What has been sent and what is buffered is what the episodes have put out. Each is a run of its
own, with the inputs that the trace has for it. -/
structure PutOutBy [External] (config : TelemetryServiceConfig)
    (invokes : List (InvokeEvent × FunctionContext))
    (parts : List SentSpans) (episodes : List Episode) (service : TelemetryService) : Prop where
  alone : ∀ episode ∈ episodes, episode.Alone config.processorConfig invokes
  trace : TraceOf episodes service.state.trace
  inputs : ∀ start inputs final, .invocation start inputs final ∈ episodes →
    inputs = inputsOf start.state.serial service.state.trace
  spans : service.sent.map (·.spans) = parts.map (SentSpans.prepared config)
  functionSpans :
    parts.flatMap (·.functionSpans) ++ service.state.outputBuffers.functionSpansBuffer =
      episodes.flatMap (·.output.functionSpansBuffer)
  platformSpans : parts.flatMap (·.platformSpans) ++ service.state.outputBuffers.spansBuffer =
    episodes.flatMap (·.output.spansBuffer)
  logs : service.sent.flatMap (·.logRecords) ++ service.state.outputBuffers.logsBuffer =
    episodes.flatMap (·.output.logsBuffer)
  epsagonTraces :
    service.sent.flatMap (·.epsagonTraces) ++ service.state.outputBuffers.epsagonTracesBuffer =
      episodes.flatMap (·.output.epsagonTracesBuffer)

section

variable [External] {config : TelemetryServiceConfig} {service : TelemetryService} {now : Nat}
  {actions : List Action}

/-- The invariant gives the episodes. -/
theorem HasIsolation.putOutBy {invokes : List (InvokeEvent × FunctionContext)} {parts : List SentSpans}
    {taken : OutputBuffers} {o : Option InvocationProcessingState}
    (h : HasIsolation config invokes taken o service.state) (more : List (InvokeEvent × FunctionContext))
    (htaken : Taken config parts taken service.sent)
    (hnodup : (service.state.trace.filterMap ProcessorCall.creates).Nodup) :
    ∃ episodes, PutOutBy config (invokes ++ more) parts episodes service := by
  obtain ⟨closed, current, -, -, halone, houtput, -, htrace⟩ := h
  obtain ⟨hlogs, hspans, hfunction, htraces⟩ := outputs_fields (closed ++ current)
  rw [← houtput] at hlogs hspans hfunction htraces
  refine ⟨closed ++ current, fun episode hepisode => (halone episode hepisode).mono, htrace, ?_,
    htaken.spans, ?_, ?_, ?_, ?_⟩
  · intro start inputs final hmem
    rw [htrace.inputs]
    rw [htrace.created] at hnodup
    exact (flatMap_inputsFor hnodup hmem).symm
  · rw [htaken.functionSpans]
    exact hfunction
  · rw [htaken.platformSpans]
    exact hspans
  · rw [htaken.logs]
    exact hlogs
  · rw [htaken.epsagonTraces]
    exact htraces

/-- No invocation is created twice. -/
theorem serviceRun_created_nodup (hrun : serviceRun config now actions = some service)
    (hrunning : service.handler ≠ .shutDown) :
    (service.state.trace.filterMap ProcessorCall.creates).Nodup := by
  obtain ⟨h, -, -, enrolled⟩ := (enrolled_invariant.run hrun).resolve_left hrunning
  refine (created_sublist _).nodup ?_
  rw [enrolled.taken_eq_range]
  exact List.nodup_range

/-- The flush creates no invocation. -/
theorem flushEnqueuedTelemetry_created {s : TelemetryServiceState}
    (functionContext : FunctionContext) :
    (flushEnqueuedTelemetry config functionContext s).trace.filterMap ProcessorCall.creates =
      s.trace.filterMap ProcessorCall.creates := by
  obtain ⟨m, out, rng, heq, -⟩ := @flushEnqueuedTelemetry_spec _ config s functionContext
  have hnone : (callsFor .degraded s.telemetryEventQueue).filterMap ProcessorCall.creates = [] := by
    apply List.filterMap_eq_nil_iff.2
    intro call hcall
    rcases mem_callsFor hcall with ⟨event, -, rfl | rfl⟩
    · rfl
    · rfl
  rw [heq, List.filterMap_append, hnone, List.append_nil]

/-- A run up to the shutdown. -/
theorem serviceRun_putOutBy (hrun : serviceRun config now actions = some service)
    (hup : service.handler ≠ .shutDown ∨ ∃ past functionContext,
      actions = past ++ [.shutdown functionContext]) :
    (∃ parts episodes, PutOutBy config (acceptedInvokes actions) parts episodes service) ∧
      (service.handler = .shutDown → service.state.outputBuffers.signals = {}) := by
  by_cases hrunning : service.handler ≠ .shutDown
  · obtain ⟨invokes, parts, taken, hinvokes, htaken, h⟩ := serviceRun_isIsolated hrun hrunning
    obtain ⟨episodes, put⟩ := h.putOutBy service.handler.invokes htaken
      (serviceRun_created_nodup hrun hrunning)
    rw [← hinvokes] at put
    exact ⟨⟨parts, episodes, put⟩, fun hdown => absurd hdown hrunning⟩
  · obtain ⟨past, functionContext, rfl⟩ := hup.resolve_left hrunning
    obtain ⟨before, hbefore, hstep⟩ := run_snoc.1 hrun
    obtain ⟨hidle, rfl⟩ := serviceStep_shutdown hstep
    have hbefore' : before.handler ≠ .shutDown := by
      rw [hidle]
      intro heq
      cases heq
    let flushed := flushEnqueuedTelemetry config functionContext before.state
    have hsignals := (@sendTelemetry_signals config flushed functionContext).1
    have hnodup := serviceRun_created_nodup hbefore hbefore'
    rw [← flushEnqueuedTelemetry_created functionContext] at hnodup
    obtain ⟨invokes, parts, taken, hinvokes, htaken, h⟩ := serviceRun_isIsolated hbefore hbefore'
    have htrace : (sendTelemetry config functionContext flushed).2.trace = flushed.trace :=
      (sendTelemetry_spans functionContext).2.2.2.1
    rw [← htrace] at hnodup
    let service : TelemetryService :=
      { before with
        state := (sendTelemetry config functionContext flushed).2
        handler := .shutDown
        sent := before.sent ++ [(sendTelemetry config functionContext flushed).1] }
    have hsent : HasIsolation config invokes (taken ++ flushed.outputBuffers.signals) none
        service.state := (h.flush functionContext).send functionContext
    obtain ⟨episodes, put⟩ := hsent.putOutBy [] (htaken.send functionContext flushed) hnodup
    rw [hidle] at hinvokes
    have heq : acceptedInvokes (past ++ [.shutdown functionContext]) = invokes ++ [] := by
      rw [acceptedInvokes_snoc, hinvokes]
      exact List.append_nil _
    rw [← heq] at put
    exact ⟨⟨_, episodes, put⟩, fun _ => hsignals⟩

/-- **Isolation.** In every run up to the shutdown, what is in the batches and what is buffered is what
the invocations and the sessions of degraded processing put out on their own, one after the other.
An invocation starts with the state made for its invoke event and with nothing put out, and is given
its own events and spans. The shutdown leaves nothing behind. -/
theorem invocations_isolated (hrun : serviceRun config now actions = some service)
    (hup : service.handler ≠ .shutDown ∨ ∃ past functionContext,
      actions = past ++ [.shutdown functionContext]) :
    ∃ parts episodes, PutOutBy config (acceptedInvokes actions) parts episodes service ∧
      (service.handler = .shutDown →
        service.sent.flatMap (·.logRecords) = episodes.flatMap (·.output.logsBuffer) ∧
        parts.flatMap (·.functionSpans) = episodes.flatMap (·.output.functionSpansBuffer) ∧
        parts.flatMap (·.platformSpans) = episodes.flatMap (·.output.spansBuffer) ∧
        service.sent.flatMap (·.epsagonTraces) =
          episodes.flatMap (·.output.epsagonTracesBuffer)) := by
  obtain ⟨⟨parts, episodes, put⟩, hdown⟩ := serviceRun_putOutBy hrun hup
  refine ⟨parts, episodes, put, fun hshutDown => ?_⟩
  have hempty := hdown hshutDown
  have hlogs : service.state.outputBuffers.logsBuffer = [] := congrArg (·.logsBuffer) hempty
  have hspans : service.state.outputBuffers.spansBuffer = [] := congrArg (·.spansBuffer) hempty
  have hfunction : service.state.outputBuffers.functionSpansBuffer = [] :=
    congrArg (·.functionSpansBuffer) hempty
  have htraces : service.state.outputBuffers.epsagonTracesBuffer = [] :=
    congrArg (·.epsagonTracesBuffer) hempty
  refine ⟨?_, ?_, ?_, ?_⟩
  · rw [← put.logs, hlogs, List.append_nil]
  · rw [← put.functionSpans, hfunction, List.append_nil]
  · rw [← put.platformSpans, hspans, List.append_nil]
  · rw [← put.epsagonTraces, htraces, List.append_nil]

end

/-- Two invocations after a log of another instance, and the shutdown. -/
def isolatedActions : List Action :=
  [.invoke (sampleInvoke "a") sampleContext, .handler 0, .handler 0, .handler 0, .handler 0,
    sampleTelemetry [sampleLog 1 "old", sampleInitStart 2, sampleStart 3 "a", sampleLog 4 "x",
      sampleRuntimeDone 5 "a", sampleReport 6 "a"],
    .invoke (sampleInvoke "b") sampleContext, .handler 0, .handler 0, .handler 0, .handler 0,
    .handler 0, sampleTelemetry [sampleStart 7 "b", sampleLog 8 "y"], .shutdown sampleContext]

theorem invocations_isolated_two :
    ∃ service,
      @serviceRun sampleExternal (sampleConfig .lowOverhead .disabled) 0 isolatedActions =
        some service ∧
      service.state.trace.filterMap ProcessorCall.creates = [0, 1] ∧
      (service.sent.flatMap (·.logRecords)).length = 3 ∧
      ∃ parts episodes, @PutOutBy sampleExternal (sampleConfig .lowOverhead .disabled)
        (acceptedInvokes isolatedActions) parts episodes service := by
  obtain ⟨service, hrun, hcreated, hlogs⟩ :=
    @exists_run sampleExternal (sampleConfig .lowOverhead .disabled) 0 isolatedActions
      (fun service => service.state.trace.filterMap ProcessorCall.creates = [0, 1] ∧
        (service.sent.flatMap (·.logRecords)).length = 3) _ (by decide +kernel)
  obtain ⟨parts, episodes, put, -⟩ := @invocations_isolated sampleExternal
    (sampleConfig .lowOverhead .disabled) service 0 isolatedActions hrun
    (.inr ⟨isolatedActions.dropLast, sampleContext, rfl⟩)
  exact ⟨service, hrun, hcreated, hlogs, parts, episodes, put⟩

end TelemetryExporter
