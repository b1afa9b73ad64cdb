import TelemetryExporter.Verify.SpanModes

/-!
# Kinds of output

What the calls of the processor have put out is what has been sent and what is still buffered, in
order. This is shown once, for any kind of output that the calls determine. The Epsagon traces are
such a kind, and so are the log records when logs are disabled: no call puts one out.
-/

namespace TelemetryExporter

open Machine

/-! ## What one call puts out -/

/-- The Epsagon trace of a function log, which is not exported as a log. -/
def epsagonTraces [External] (config : TelemetryProcessorConfig) (event : LambdaTelemetry) :
    List String :=
  match event.record with
  | .function logText =>
    if config.logMode = .structured then
      match detectEpsagonTrace logText with
      | .epsagonTraceJson trace => [trace]
      | .regularLog _ => []
    else []
  | _ => []

/-- The traces that are put out, no logs unless they are exported, and no metrics. -/
structure PutsOut (config : TelemetryProcessorConfig) (traces : List String)
    (out out' : OutputBuffers) : Prop where
  epsagonTraces : out'.epsagonTracesBuffer = out.epsagonTracesBuffer ++ traces
  logs : config.logMode = .disabled → out'.logsBuffer = out.logsBuffer
  functionMetrics : out'.functionMetricsBuffer = out.functionMetricsBuffer

namespace PutsOut

variable {config : TelemetryProcessorConfig} {traces traces' : List String} {a b c : OutputBuffers}

theorem refl (out : OutputBuffers) : PutsOut config [] out out :=
  ⟨(List.append_nil _).symm, fun _ => rfl, rfl⟩

theorem trans (h : PutsOut config traces a b) (h' : PutsOut config traces' b c) :
    PutsOut config (traces ++ traces') a c := by
  refine ⟨?_, fun hmode => ?_, ?_⟩
  · rw [h'.epsagonTraces, h.epsagonTraces, List.append_assoc]
  · rw [h'.logs hmode, h.logs hmode]
  · rw [h'.functionMetrics, h.functionMetrics]

/-- Two calls that put out no traces. -/
theorem trans_nil (h : PutsOut config [] a b) (h' : PutsOut config [] b c) : PutsOut config [] a c :=
  h.trans h'

theorem pushLog {S : Type} (hmode : config.logMode = .structured) (p : Processing S)
    (makeLog : S → LogRecord × S) :
    PutsOut config [] p.outputBuffers (p.pushLog makeLog).outputBuffers := by
  refine ⟨(List.append_nil _).symm, fun hdisabled => ?_, rfl⟩
  rw [hmode] at hdisabled
  cases hdisabled

theorem pushEpsagonTrace {S : Type} (p : Processing S) (trace : String) :
    PutsOut config [trace] p.outputBuffers (p.pushEpsagonTrace trace).outputBuffers :=
  ⟨rfl, fun _ => rfl, rfl⟩

theorem appendSpans {S : Type} (p : Processing S) (spans : List Span) :
    PutsOut config [] p.outputBuffers (p.appendSpans spans).outputBuffers :=
  ⟨(List.append_nil _).symm, fun _ => rfl, rfl⟩

theorem addFunctionScopeSpans (out : OutputBuffers) (ss : List ScopeSpans) :
    PutsOut config [] out (out.addFunctionScopeSpans ss) := by
  induction ss generalizing out with
  | nil => exact .refl out
  | cons s ss ih =>
    have first : PutsOut config [] out
        { out with
          functionSpansCount := out.functionSpansCount + s.spans.length
          functionSpansBuffer := out.functionSpansBuffer ++ [s] } :=
      ⟨(List.append_nil _).symm, fun _ => rfl, rfl⟩
    exact first.trans_nil (ih _)

theorem addFunctionResourceSpans (out : OutputBuffers) (rss : List ResourceSpans) :
    PutsOut config [] out (out.addFunctionResourceSpans rss) := by
  induction rss generalizing out with
  | nil => exact .refl out
  | cons rs rss ih => exact (addFunctionScopeSpans out rs.scopeSpans).trans_nil (ih _)

end PutsOut

section

variable [External] {config : TelemetryProcessorConfig} {p p' : Processing InvocationProcessingState}

theorem pushFunctionLogs_putsOut (hmode : config.logMode = .structured)
    (logs : List RawFunctionLog) (p : Processing InvocationProcessingState) :
    PutsOut config [] p.outputBuffers (pushFunctionLogs config logs p).outputBuffers := by
  induction logs generalizing p with
  | nil => exact .refl _
  | cons log logs ih => exact (PutsOut.pushLog hmode p _).trans_nil (ih _)

theorem takeLogs_putsOut (hmode : config.logMode = .structured)
    (p : Processing InvocationProcessingState) :
    PutsOut config [] p.outputBuffers (takeLogs config p).outputBuffers :=
  pushFunctionLogs_putsOut hmode _ { p with state := { p.state with logs := [] } }

theorem processDelayedLogs_putsOut (hmode : config.logMode = .structured)
    (p : Processing InvocationProcessingState) :
    PutsOut config [] p.outputBuffers (processDelayedLogs config p).outputBuffers := by
  unfold processDelayedLogs
  split
  · split
    · exact (PutsOut.pushLog hmode p _).trans_nil (takeLogs_putsOut hmode _)
    · exact takeLogs_putsOut hmode p
  · exact takeLogs_putsOut hmode p

theorem processRuntimeDone_putsOut (data : PlatformRuntimeDoneData)
    (p : Processing InvocationProcessingState) :
    PutsOut config [] p.outputBuffers (processRuntimeDone config data p).outputBuffers := by
  have stop : PutsOut config [] p.outputBuffers (stopDelayingLogs config p).outputBuffers := by
    unfold stopDelayingLogs
    split
    · next h =>
      exact processDelayedLogs_putsOut h.1 { p with state := { p.state with delayingLogs := false } }
    · exact .refl _
  have push (q : Processing InvocationProcessingState) :
      PutsOut config [] q.outputBuffers (pushRuntimeDoneLog config data q).outputBuffers := by
    unfold pushRuntimeDoneLog
    dsimp only
    split
    · next h => exact .pushLog h.1 q _
    · exact .refl _
  have emit (q : Processing InvocationProcessingState) :
      PutsOut config [] q.outputBuffers (emitSpansAfterRuntimeDone config q).outputBuffers := by
    unfold emitSpansAfterRuntimeDone
    split
    · split
      · exact (PutsOut.addFunctionScopeSpans q.outputBuffers _).trans_nil (.appendSpans
          { q with
            outputBuffers :=
              q.outputBuffers.addFunctionScopeSpans (emitTriggerAndInvocationSpans q.state) } _)
      · exact .appendSpans q _
      · exact .refl _
    · exact .refl _
  exact (stop.trans_nil (push _)).trans_nil
    (emit (setRuntimeDoneData data (pushRuntimeDoneLog config data (stopDelayingLogs config p))))

theorem processReport_putsOut (data : PlatformReportData)
    (p : Processing InvocationProcessingState) :
    PutsOut config [] p.outputBuffers (processReport config data p).outputBuffers := by
  have push : PutsOut config [] p.outputBuffers (pushReportLogs config data p).outputBuffers := by
    unfold pushReportLogs
    split
    · next hmode =>
      dsimp only
      split
      · exact (takeLogs_putsOut hmode p).trans_nil (.pushLog hmode _ _)
      · exact takeLogs_putsOut hmode p
    · exact .refl _
  have emit (q : Processing InvocationProcessingState) :
      PutsOut config [] q.outputBuffers (emitSpansAfterReport config q).outputBuffers := by
    unfold emitSpansAfterReport
    split
    · exact .appendSpans q _
    · exact .refl _
  exact push.trans_nil (emit (setReportData data (pushReportLogs config data p)))

theorem processTelemetry_putsOut {event : LambdaTelemetry}
    (h : processTelemetry config event p = .ok p') :
    PutsOut config (epsagonTraces config event) p.outputBuffers p'.outputBuffers := by
  rw [processTelemetry_ok h]
  unfold epsagonTraces
  cases event.record with
  | function logText =>
    simp only [processRecord, processFunctionLog]
    split
    · next hmode =>
      cases detectEpsagonTrace logText with
      | epsagonTraceJson trace => exact .pushEpsagonTrace p trace
      | regularLog logText =>
        dsimp only
        split
        · exact .refl _
        · exact .pushLog hmode p fun state => makeFunctionLog config state logText _
    · exact .refl _
  | platformStart =>
    simp only [processRecord, processPlatformStart]
    split
    · next hlog => exact .pushLog hlog.1 p fun state => makePlatformStartLog config state _
    · exact .refl _
  | platformRuntimeDone => exact processRuntimeDone_putsOut _ p
  | platformReport => exact processReport_putsOut _ p
  | _ => exact .refl _

theorem processTelemetryInDegradedMode_putsOut {event : LambdaTelemetry}
    {d d' : Processing DegradedProcessingState}
    (h : processTelemetryInDegradedMode config event d = .ok d') :
    PutsOut config (epsagonTraces config event) d.outputBuffers d'.outputBuffers := by
  rw [processTelemetryInDegradedMode_ok h]
  unfold epsagonTraces
  cases event.record with
  | function logText =>
    simp only [processRecordInDegradedMode]
    split
    · next hmode =>
      cases detectEpsagonTrace logText with
      | epsagonTraceJson trace => exact .pushEpsagonTrace d trace
      | regularLog logText =>
        exact .pushLog hmode d fun state => makeFunctionLog config state logText _
    · exact .refl _
  | platformInitReport initializationType phase metrics spans =>
    simp only [processRecordInDegradedMode]
    split
    · let q : Processing DegradedProcessingState :=
        { d with
          state :=
            { d.state with
              initReportData :=
                some { time := event.nanos, initializationType, phase, metrics, spans } } }
      exact .appendSpans q _
    · exact .refl _
  | platformStart =>
    simp only [processRecordInDegradedMode]
    split
    · next hlog => exact .pushLog hlog.1 d fun state => makePlatformStartLog config state _
    · exact .refl _
  | platformRuntimeDone =>
    simp only [processRecordInDegradedMode]
    split
    · next hlog =>
      exact .pushLog hlog.1 d fun state => makePlatformRuntimeDoneLog config state _ none none
    · exact .refl _
  | platformReport =>
    simp only [processRecordInDegradedMode]
    split
    · next hlog => exact .pushLog hlog.1 d fun state => makePlatformReportLog config state _
    · exact .refl _
  | _ => exact .refl _

theorem processFunctionSpans_putsOut (spans : List ResourceSpans)
    (p : Processing InvocationProcessingState) :
    PutsOut config [] p.outputBuffers (processFunctionSpans config spans p).outputBuffers := by
  have forward (q : Processing InvocationProcessingState) (rss : List ResourceSpans) :
      PutsOut config [] q.outputBuffers (forwardSpans config rss q).outputBuffers := by
    unfold forwardSpans
    split
    · exact .addFunctionResourceSpans _ _
    · exact .refl _
  have emit (q : Processing InvocationProcessingState) :
      PutsOut config [] q.outputBuffers (emitLogsOfEarlySpan config q).outputBuffers := by
    unfold emitLogsOfEarlySpan
    split
    · next h =>
      exact processDelayedLogs_putsOut h.1 { q with state := { q.state with delayingLogs := false } }
    · exact .refl _
  let tracing := processFunctionSpansTracing config p.state.tracingState spans
  let q : Processing InvocationProcessingState :=
    { p with state := { p.state with tracingState := tracing.1 } }
  exact (forward q tracing.2).trans_nil (emit (forwardSpans config tracing.2 q))

end

/-! ## Kinds -/

/-- A kind of output that the calls of the processor determine: where it is buffered, what a batch
carries of it, and what a call puts out. -/
structure OutputKind [External] (config : TelemetryServiceConfig) (A : Type) where
  buffered : OutputBuffers → List A
  carried : TelemetryBatch → List A
  putOut : ProcessorCall → List A
  buffered_new : buffered {} = []
  telemetry : ∀ {event p p'}, processTelemetry config.processorConfig event p = .ok p' →
    buffered p'.outputBuffers =
      buffered p.outputBuffers ++ putOut (.telemetry p.state.serial event)
  degraded : ∀ {event p p'}, processTelemetryInDegradedMode config.processorConfig event p = .ok p' →
    buffered p'.outputBuffers = buffered p.outputBuffers ++ putOut (.degraded event)
  functionSpans : ∀ spans p,
    buffered (processFunctionSpans config.processorConfig spans p).outputBuffers =
      buffered p.outputBuffers ++ putOut (.functionSpans p.state.serial spans)
  functionMetrics : ∀ out functionMetricsBuffer,
    buffered { out with functionMetricsBuffer } = buffered out
  created : ∀ i, putOut (.created i) = []
  rejected : ∀ i, putOut (.rejected i) = []
  failed : ∀ event, putOut (.failed event) = []
  concluded : ∀ i logs, putOut (.concluded i logs) = []
  carried_send : ∀ functionContext s,
    carried (sendTelemetry config functionContext s).1 = buffered s.outputBuffers
  buffered_send : ∀ functionContext s,
    buffered (sendTelemetry config functionContext s).2.outputBuffers = []

namespace OutputKind

variable [External] {config : TelemetryServiceConfig} {A : Type} (kind : OutputKind config A)
  {sent : List A} {s s' : TelemetryServiceState} {service service' : TelemetryService}

/-- What has been sent and what is buffered is what the calls have put out. -/
def Conserved (sent : List A) (s : TelemetryServiceState) : Prop :=
  sent ++ kind.buffered s.outputBuffers = s.trace.flatMap kind.putOut

variable {kind}

namespace Conserved

/-- What it is about. -/
theorem congr (h : kind.Conserved sent s) (hout : s'.outputBuffers = s.outputBuffers)
    (htrace : s'.trace = s.trace) : kind.Conserved sent s' := by
  unfold Conserved
  rw [hout, htrace]
  exact h

theorem core (h : kind.Conserved sent s) (hcore : s'.core = s.core) : kind.Conserved sent s' :=
  h.congr (SameCore.of_core hcore).outputBuffers (SameCore.of_core hcore).trace

/-- One more call. -/
theorem append (h : kind.Conserved sent s) (call : ProcessorCall)
    (hout : kind.buffered s'.outputBuffers = kind.buffered s.outputBuffers ++ kind.putOut call)
    (htrace : s'.trace = s.trace ++ [call]) : kind.Conserved sent s' := by
  unfold Conserved
  rw [hout, htrace, ← List.append_assoc, h, List.flatMap_append, List.flatMap_singleton]

/-- A call that puts nothing out. -/
theorem skip (h : kind.Conserved sent s) {call : ProcessorCall} (hnone : kind.putOut call = [])
    (hout : s'.outputBuffers = s.outputBuffers) (htrace : s'.trace = s.trace ++ [call]) :
    kind.Conserved sent s' :=
  h.append call (by rw [hout, hnone, List.append_nil]) htrace

theorem callProcessFunctionSpans (h : kind.Conserved sent s) (spans : List ResourceSpans)
    (state : InvocationProcessingState) :
    kind.Conserved sent (callProcessFunctionSpans config spans state s).2 :=
  h.append _ (kind.functionSpans spans ⟨state, s.metricsState, s.outputBuffers, s.rng⟩) rfl

/-- Another invocation has become the current one. -/
theorem setCurrent (h : kind.Conserved sent s) (state : InvocationProcessingState) :
    kind.Conserved sent { s with invocationState := some state } := h

/-- Every part of `process_telemetry_events`. -/
theorem part (h : kind.Conserved sent s) (hpart : Part config s s') : kind.Conserved sent s' := by
  cases hpart with
  | acquired =>
    unfold acquireInvocation
    split
    · exact h
    · split
      · exact h
      · next invokeEvent queue hqueue =>
        dsimp only
        split
        · exact h.skip (kind.rejected _) rfl rfl
        · next context rng hcontext =>
          let new := InvocationProcessingState.new invokeEvent.serial invokeEvent.functionContext
            context config.processorConfig.traceSamplingMode config.processorConfig.tracingMode rng
          have created : kind.Conserved sent
              { s with
                invokeEventQueue := queue
                functionSpansBuffer := []
                rng := new.2
                trace := s.trace ++ [.created invokeEvent.serial] } :=
            h.skip (kind.created _) rfl rfl
          have first := created.callProcessFunctionSpans s.functionSpansBuffer new.1
          exact (first.callProcessFunctionSpans invokeEvent.spans _).setCurrent _
  | telemetry event state hs =>
    unfold callProcessTelemetry
    split
    · exact h.skip (kind.failed _) rfl rfl
    · next p' hprocess => exact h.append _ (kind.telemetry hprocess) rfl
  | degraded event p p' hmetrics hout hprocess =>
    refine h.append (.degraded event) ?_ rfl
    rw [← hout]
    exact kind.degraded hprocess
  | failed event => exact h.skip (kind.failed _) rfl rfl
  | moved => exact h.congr rfl rfl
  | concluded state hs hreport => exact h.skip (kind.concluded _ _) rfl rfl

theorem processQueues (h : kind.Conserved sent s) :
    kind.Conserved sent (processQueues config s) :=
  processQueues_parts (fun _ _ => part) h

theorem receiveSpans (h : kind.Conserved sent s) (spans : List ResourceSpans) :
    kind.Conserved sent (receiveSpans config spans s) := by
  unfold TelemetryExporter.receiveSpans
  split
  · exact h.congr rfl rfl
  · split
    · next state hstate =>
      split
      · exact h.congr rfl rfl
      · exact (h.callProcessFunctionSpans spans state).setCurrent _
    · exact h.congr rfl rfl

theorem flush (h : kind.Conserved sent s) (functionContext : FunctionContext) :
    kind.Conserved sent (flushEnqueuedTelemetry config functionContext s) := by
  unfold flushEnqueuedTelemetry
  apply processInDegradedMode_parts (fun _ _ => part)
  exact h.congr rfl rfl

/-- Sending empties the buffer. -/
theorem send (h : kind.Conserved sent s) (functionContext : FunctionContext) :
    kind.Conserved (sent ++ kind.carried (sendTelemetry config functionContext s).1)
      (sendTelemetry config functionContext s).2 := by
  have htrace : (sendTelemetry config functionContext s).2.trace = s.trace := by
    obtain ⟨m, acc, out, -, hsend⟩ := @sendTelemetry_state config s functionContext
    rw [hsend]
  unfold Conserved
  rw [kind.carried_send, kind.buffered_send, List.append_nil, htrace]
  exact h

end Conserved

/-- One step of the service. -/
theorem serviceStep_conserved {a : Action}
    (h : kind.Conserved (service.sent.flatMap kind.carried) service.state)
    (hstep : serviceStep config service a = some service') :
    kind.Conserved (service'.sent.flatMap kind.carried) service'.state := by
  cases serviceStep_coreStep hstep with
  | still a service' hstate heq => exact heq ▸ h.core hstate
  | enqueued now e functionContext service' hstate heq =>
    have hqueued : kind.Conserved (service.sent.flatMap kind.carried)
        (pushInvokeEvent e functionContext service.state) := h.congr rfl rfl
    exact heq ▸ hqueued.processQueues.core hstate
  | sent now functionContext service' hstate heq =>
    rw [heq, List.flatMap_append, List.flatMap_singleton]
    exact (h.send functionContext).core hstate
  | telemetry clock events s service' hs hstate heq =>
    have haccepted : kind.Conserved (service.sent.flatMap kind.carried)
        { service.state with
          telemetryEventQueue := service.state.telemetryEventQueue ++ events } := h.congr rfl rfl
    exact heq ▸ (haccepted.core hs).processQueues.core hstate
  | otlpSpans clock spans service' hstate heq => exact heq ▸ (h.receiveSpans spans).core hstate
  | otlpMetrics clock metrics service' hstate heq =>
    obtain ⟨acc, buffer, hmetrics⟩ := @processFunctionMetrics_state _ config metrics service.state
    rw [hmetrics] at hstate
    have hkept : kind.Conserved (service.sent.flatMap kind.carried)
        { service.state with
          metricsAccumulator := acc
          outputBuffers := { service.state.outputBuffers with functionMetricsBuffer := buffer } } := by
      unfold Conserved
      rw [kind.functionMetrics]
      exact h
    exact heq ▸ hkept.core hstate
  | shutDown functionContext service' hstate heq =>
    rw [heq, List.flatMap_append, List.flatMap_singleton]
    exact ((h.flush functionContext).send functionContext).core hstate

/-- A run of the service. -/
theorem serviceRun_conserved (kind : OutputKind config A) {now : Nat} {actions : List Action}
    (hrun : serviceRun config now actions = some service) :
    kind.Conserved (service.sent.flatMap kind.carried) service.state := by
  refine run_invariant (I := fun service : TelemetryService =>
    kind.Conserved (service.sent.flatMap kind.carried) service.state)
    (fun _ _ _ => serviceStep_conserved) ?_ hrun
  unfold Conserved TelemetryService.new
  dsimp only
  rw [kind.buffered_new]
  rfl

end OutputKind

/-! ## Epsagon traces -/

/-- The Epsagon traces that a call puts out. -/
def ProcessorCall.epsagonTraces [External] (config : TelemetryProcessorConfig) :
    ProcessorCall → List String
  | .telemetry _ event => TelemetryExporter.epsagonTraces config event
  | .degraded event => TelemetryExporter.epsagonTraces config event
  | _ => []

/-- What becomes of the Epsagon traces when a batch is sent. -/
theorem sendTelemetry_epsagonTraces {config : TelemetryServiceConfig}
    (functionContext : FunctionContext) (s : TelemetryServiceState) :
    (sendTelemetry config functionContext s).1.epsagonTraces =
        s.outputBuffers.epsagonTracesBuffer ∧
      (sendTelemetry config functionContext s).2.outputBuffers.epsagonTracesBuffer = [] := by
  unfold sendTelemetry prepareTelemetryBatch prepareMetrics takeScopeMetrics
  dsimp only
  split <;> split <;> exact ⟨rfl, rfl⟩

section

variable [External] {config : TelemetryServiceConfig} {now : Nat} {actions : List Action}
  {service : TelemetryService}

/-- The Epsagon traces. -/
def epsagonTraceKind (config : TelemetryServiceConfig) : OutputKind config String where
  buffered out := out.epsagonTracesBuffer
  carried batch := batch.epsagonTraces
  putOut := ProcessorCall.epsagonTraces config.processorConfig
  buffered_new := rfl
  telemetry h := (processTelemetry_putsOut h).epsagonTraces
  degraded h := (processTelemetryInDegradedMode_putsOut h).epsagonTraces
  functionSpans spans p := (processFunctionSpans_putsOut spans p).epsagonTraces
  functionMetrics _ _ := rfl
  created _ := rfl
  rejected _ := rfl
  failed _ := rfl
  concluded _ _ := rfl
  carried_send functionContext s := (sendTelemetry_epsagonTraces functionContext s).1
  buffered_send functionContext s := (sendTelemetry_epsagonTraces functionContext s).2

/-- The traces that the calls put out are those of the events processed. -/
theorem flatMap_epsagonTraces (config : TelemetryProcessorConfig) {trace : List ProcessorCall}
    (hok : NoErrors trace) :
    trace.flatMap (ProcessorCall.epsagonTraces config) =
      (processedEvents trace).flatMap (epsagonTraces config) := by
  induction trace with
  | nil => rfl
  | cons call trace ih =>
    have ih := ih fun c hc => hok c (List.mem_cons_of_mem _ hc)
    rw [List.flatMap_cons, ih]
    cases call with
    | failed event =>
      have hcall := hok _ List.mem_cons_self
      cases hcall
    | _ => rfl

/-- **Epsagon traces leave exactly once.** While nothing has failed, the Epsagon traces of the
function logs accepted are, in their order, those sent, those buffered and those of the events that
still wait. Unlike logs they wait for no span. The shutdown sends all but those that wait for init. -/
theorem epsagon_traces_exactly_once
    (hrun : serviceRun config now actions = some service) (hok : NoErrors service.state.trace)
    (hrunning : service.handler ≠ .shutDown) :
    service.sent.flatMap (·.epsagonTraces) ++ service.state.outputBuffers.epsagonTracesBuffer ++
        (service.state.halfProcessedEventBuffer ++ service.state.telemetryEventQueue).flatMap
          (epsagonTraces config.processorConfig) =
      (acceptedEvents actions).flatMap (epsagonTraces config.processorConfig) ∧
    ∀ functionContext after,
      serviceStep config service (.shutdown functionContext) = some after →
      NoErrors after.state.trace →
      (after.sent.flatMap (·.epsagonTraces) ++
          service.state.halfProcessedEventBuffer.flatMap (epsagonTraces config.processorConfig)).Perm
        ((acceptedEvents actions).flatMap (epsagonTraces config.processorConfig)) := by
  have accounted := (serviceRun_accounted hrun hok).resolve_left hrunning
  have conserved : service.sent.flatMap (·.epsagonTraces) ++
      service.state.outputBuffers.epsagonTracesBuffer =
        (processedEvents service.state.trace).flatMap (epsagonTraces config.processorConfig) :=
    ((epsagonTraceKind config).serviceRun_conserved hrun).trans (flatMap_epsagonTraces _ hok)
  constructor
  · rw [conserved, ← accounted.events]
    simp only [List.flatMap_append, List.append_assoc]
  · intro functionContext after hshutdown hokAfter
    have hrunAfter : serviceRun config now (actions ++ [.shutdown functionContext]) = some after :=
      run_snoc.2 ⟨service, hrun, hshutdown⟩
    have conservedAfter := ((epsagonTraceKind config).serviceRun_conserved hrunAfter).trans
      (flatMap_epsagonTraces _ hokAfter)
    obtain ⟨idle, hafter⟩ := serviceStep_shutdown hshutdown
    obtain ⟨m, out, rng, hflush, -, htimes⟩ :=
      @flushEnqueuedTelemetry_spec _ config service.state functionContext
    obtain ⟨m', acc, out', -, hsend⟩ := @sendTelemetry_state config
      (flushEnqueuedTelemetry config functionContext service.state) functionContext
    -- the flush processes what is queued, and the batch takes everything that is buffered
    have htrace : after.state.trace = service.state.trace ++
        callsFor .degraded service.state.telemetryEventQueue := by
      rw [hafter]
      simp only [TelemetryService.send]
      rw [hsend, hflush]
    have hempty : after.state.outputBuffers.epsagonTracesBuffer = [] := by
      rw [hafter]
      exact (sendTelemetry_epsagonTraces functionContext _).2
    have htimes : ∀ event ∈ service.state.telemetryEventQueue, event.HasTimestamp := by
      rcases htimes with h | ⟨bad, hbad⟩
      · exact h
      · rw [htrace] at hokAfter
        exact absurd hokAfter.right (not_noErrors_of_failed hbad)
    have hsent : after.sent.flatMap (·.epsagonTraces) =
        (processedEvents service.state.trace ++ service.state.telemetryEventQueue).flatMap
          (epsagonTraces config.processorConfig) := by
      have hbuffered : (epsagonTraceKind config).buffered after.state.outputBuffers = [] := hempty
      rw [hbuffered, List.append_nil, htrace, callsFor_of_timestamps htimes, processedEvents_append,
        processedEvents_degraded] at conservedAfter
      exact conservedAfter
    rw [hsent, ← accounted.events]
    simp only [List.flatMap_append, List.append_assoc]
    exact List.perm_append_comm.append_left _

end

/-- Base64 of an empty object and of an empty list. -/
@[reducible] def epsagonExternal : External :=
  { sampleExternal with
    base64Decode := fun s =>
      if s = "e30=" then some [0x7b, 0x7d] else if s = "W10=" then some [0x5b, 0x5d] else none }

/-- A trace that leaves with its invocation, one that is logged after it, and one of an invocation
whose invoke event never comes. -/
def epsagonActions : List Action :=
  [.invoke (sampleInvoke "q") sampleContext, .handler 0, .handler 0,
    sampleTelemetry [sampleInitStart 1, sampleStart 2 "q", sampleLog 3 "EPSAGON_TRACE: e30=",
      sampleLog 4 "plain", sampleRuntimeDone 5 "q"],
    .handler 0, .handler 0, .handler 0, .handler 0, .handler 0,
    sampleTelemetry [sampleLog 6 "EPSAGON_TRACE: W10=", sampleReport 7 "q", sampleStart 8 "r",
      sampleLog 9 "EPSAGON_TRACE: e30="]]

theorem epsagon_traces_exactly_once_trace :
    ∃ service after : TelemetryService, @serviceRun epsagonExternal
        (sampleConfig .reportAfterInvocation .disabled) 0 epsagonActions = some service ∧
      service.sent.flatMap (·.epsagonTraces) = ["\x7b\x7d"] ∧
      service.state.outputBuffers.epsagonTracesBuffer = ["[]"] ∧
      service.sent.flatMap (·.epsagonTraces) ++ service.state.outputBuffers.epsagonTracesBuffer ++
          (service.state.halfProcessedEventBuffer ++ service.state.telemetryEventQueue).flatMap
            (@epsagonTraces epsagonExternal
              (sampleConfig .reportAfterInvocation .disabled).processorConfig) =
        (acceptedEvents epsagonActions).flatMap
          (@epsagonTraces epsagonExternal
            (sampleConfig .reportAfterInvocation .disabled).processorConfig) ∧
      @serviceStep epsagonExternal (sampleConfig .reportAfterInvocation .disabled) service
        (.shutdown sampleContext) = some after ∧
      (after.sent.flatMap (·.epsagonTraces)).Perm ["\x7b\x7d", "[]", "\x7b\x7d"] := by
  obtain ⟨service, hrun, hsent, hbuffer, hhalf, hok, hhandler, hafter⟩ := @exists_run epsagonExternal
    (sampleConfig .reportAfterInvocation .disabled) 0 epsagonActions
    (fun service => service.sent.flatMap (·.epsagonTraces) = ["\x7b\x7d"] ∧
      service.state.outputBuffers.epsagonTracesBuffer = ["[]"] ∧
      service.state.halfProcessedEventBuffer.isEmpty = true ∧
      (∀ call ∈ service.state.trace, call.isError = false) ∧
      (match service.handler with | .shutDown => true | _ => false) = false ∧
      ((@serviceStep epsagonExternal (sampleConfig .reportAfterInvocation .disabled) service
        (.shutdown sampleContext)).any fun after =>
          decide (∀ call ∈ after.state.trace, call.isError = false)) = true) _ (by decide +kernel)
  obtain ⟨after, hshutdown, hokAfter⟩ := (Option.any_eq_true _ _).1 hafter
  have hrunning : service.handler ≠ .shutDown := by
    intro heq
    rw [heq] at hhandler
    cases hhandler
  obtain ⟨hall, hflushed⟩ := @epsagon_traces_exactly_once epsagonExternal _ 0 epsagonActions service
    hrun hok hrunning
  refine ⟨service, after, hrun, hsent, hbuffer, hall, hshutdown, ?_⟩
  have hokAfter : ∀ call ∈ after.state.trace, call.isError = false := by simpa using hokAfter
  have hflushed := hflushed sampleContext after hshutdown hokAfter
  rw [List.isEmpty_iff.1 hhalf, List.flatMap_nil, List.append_nil] at hflushed
  refine hflushed.trans (.of_eq ?_)
  decide +kernel

end TelemetryExporter
