import TelemetryExporter.Verify.OutputKinds
import TelemetryExporter.Verify.StartedSenders

/-!
# Routing

`CompositeTelemetrySender` divides a batch among its lanes. Nothing is sent twice, and what it drops
are the pillars without a sender. `AppConfig::load` accepts those only if they are not exported, and
then no batch has anything of them, so that nothing is dropped.
-/

namespace TelemetryExporter

open Machine

/-! ## Dividing a batch -/

/-- What is in a message of the lane. -/
def Lane.content : (lane : Lane) → lane.Message → Telemetry
  | logs, t => ⟨t, [], [], []⟩
  | traces, t => ⟨[], t, [], []⟩
  | metrics, t => ⟨[], [], t, []⟩
  | mainLogs, t => ⟨t, [], [], []⟩
  | mainSpans, t => ⟨[], t, [], []⟩
  | mainMetrics, t => ⟨[], [], t, []⟩
  | combined, t => t
  | firehose, t => t

namespace CompositeTelemetrySender

variable (senders : CompositeTelemetrySender) (batch : TelemetryBatch)

/-- What the lanes get of a batch. -/
def messages : List Telemetry :=
  Lane.all.filterMap fun lane =>
    (senders.route batch lane).map fun toSend => lane.content (lane.sender.convert toSend)

/-- The main sender is that of Firehose. -/
def isFirehose : Bool :=
  match senders.main with
  | some (.firehose _) => true
  | _ => false

/-- What the main sender gets. -/
def mainMessages : List Telemetry :=
  let rest := senders.rest batch
  match senders.main with
  | none => []
  | some (.firehose _) => [⟨rest.logs, rest.spans, rest.metrics, rest.epsagonTraces⟩]
  | some (.combined _) => [⟨rest.logs, rest.spans, rest.metrics, []⟩]
  | some (.coralogix ..) =>
    [⟨rest.logs, [], [], []⟩, ⟨[], rest.spans, [], []⟩, ⟨[], [], rest.metrics, []⟩]

theorem messages_eq :
    senders.messages batch =
      senders.logs.toList.map (fun _ => ⟨batch.logs, [], [], []⟩) ++
      senders.traces.toList.map (fun _ => ⟨[], batch.spans, [], []⟩) ++
      senders.metrics.toList.map (fun _ => ⟨[], [], batch.metrics, []⟩) ++
      senders.mainMessages batch := by
  obtain ⟨logs, traces, metrics, main⟩ := senders
  cases logs <;> cases traces <;> cases metrics <;> rcases main with - | main | main | ⟨a, b, c⟩ <;>
    rfl

/-- The logs are sent once, if there is a sender for them. -/
theorem messages_logs :
    (senders.messages batch).flatMap (·.logs) =
      if senders.logs.isSome || senders.main.isSome then batch.logs else [] := by
  rw [messages_eq]
  obtain ⟨logs, traces, metrics, main⟩ := senders
  cases logs <;> cases traces <;> cases metrics <;> rcases main with - | main | main | ⟨a, b, c⟩ <;>
    simp [mainMessages, rest]

theorem messages_spans :
    (senders.messages batch).flatMap (·.spans) =
      if senders.traces.isSome || senders.main.isSome then batch.spans else [] := by
  rw [messages_eq]
  obtain ⟨logs, traces, metrics, main⟩ := senders
  cases logs <;> cases traces <;> cases metrics <;> rcases main with - | main | main | ⟨a, b, c⟩ <;>
    simp [mainMessages, rest]

theorem messages_metrics :
    (senders.messages batch).flatMap (·.metrics) =
      if senders.metrics.isSome || senders.main.isSome then batch.metrics else [] := by
  rw [messages_eq]
  obtain ⟨logs, traces, metrics, main⟩ := senders
  cases logs <;> cases traces <;> cases metrics <;> rcases main with - | main | main | ⟨a, b, c⟩ <;>
    simp [mainMessages, rest]

/-- Only Firehose gets the Epsagon traces. -/
theorem messages_epsagonTraces :
    (senders.messages batch).flatMap (·.epsagonTraces) =
      if senders.isFirehose then batch.epsagonTraces else [] := by
  rw [messages_eq]
  obtain ⟨logs, traces, metrics, main⟩ := senders
  cases logs <;> cases traces <;> cases metrics <;> rcases main with - | main | main | ⟨a, b, c⟩ <;>
    simp [mainMessages, rest, isFirehose]

end CompositeTelemetrySender

/-! ## Pillars that are not exported -/

section

variable [External] {config : TelemetryServiceConfig} {now : Nat} {actions : List Action}
  {service : TelemetryService}

/-- The log records, of which there are none. -/
def disabledLogKind (hmode : config.processorConfig.logMode = .disabled) :
    OutputKind config LogRecord where
  buffered out := out.logsBuffer
  carried := TelemetryBatch.logRecords
  putOut _ := []
  buffered_new := rfl
  telemetry h := ((processTelemetry_putsOut h).logs hmode).trans (List.append_nil _).symm
  degraded h := ((processTelemetryInDegradedMode_putsOut h).logs hmode).trans (List.append_nil _).symm
  functionSpans spans p :=
    ((processFunctionSpans_putsOut spans p).logs hmode).trans (List.append_nil _).symm
  functionMetrics _ _ := rfl
  created _ := rfl
  rejected _ := rfl
  failed _ := rfl
  concluded _ _ := rfl
  carried_send functionContext s := sendTelemetry_logRecords functionContext
  buffered_send functionContext s := by
    obtain ⟨m, acc, out, hout, hsend⟩ := @sendTelemetry_state config s functionContext
    rw [hsend]
    exact hout

theorem logRecords_of_disabled (hrun : serviceRun config now actions = some service)
    (hmode : config.processorConfig.logMode = .disabled) :
    ∀ batch ∈ service.sent, batch.logRecords = [] := by
  have conserved := (disabledLogKind hmode).serviceRun_conserved hrun
  have hnone : service.state.trace.flatMap (disabledLogKind hmode).putOut = [] :=
    List.flatMap_eq_nil_iff.2 fun _ _ => rfl
  rw [OutputKind.Conserved, hnone, List.append_eq_nil_iff] at conserved
  exact List.flatMap_eq_nil_iff.1 conserved.1

omit config in
theorem epsagonTraces_disabled {config : TelemetryProcessorConfig} (hmode : config.logMode = .disabled)
    (event : LambdaTelemetry) : epsagonTraces config event = [] := by
  have hne : ¬ config.logMode = .structured := by
    rw [hmode]
    nofun
  unfold epsagonTraces
  split
  · exact if_neg hne
  · rfl

theorem epsagonTraces_of_disabled (hrun : serviceRun config now actions = some service)
    (hmode : config.processorConfig.logMode = .disabled) :
    ∀ batch ∈ service.sent, batch.epsagonTraces = [] := by
  have conserved := (epsagonTraceKind config).serviceRun_conserved hrun
  have hcall (call : ProcessorCall) : call.epsagonTraces config.processorConfig = [] := by
    cases call with
    | telemetry i event => exact epsagonTraces_disabled hmode event
    | degraded event => exact epsagonTraces_disabled hmode event
    | _ => rfl
  have hnone : service.state.trace.flatMap (epsagonTraceKind config).putOut = [] :=
    List.flatMap_eq_nil_iff.2 fun call _ => hcall call
  rw [OutputKind.Conserved, hnone, List.append_eq_nil_iff] at conserved
  exact List.flatMap_eq_nil_iff.1 conserved.1

theorem spans_of_disabled (hrun : serviceRun config now actions = some service)
    (hmode : config.processorConfig.tracingMode = .disabled) :
    ∀ batch ∈ service.sent, batch.spans = [] := by
  obtain ⟨calls, parts, accounted⟩ := serviceRun_spansAccounted hrun
  exact accounted.spans_eq_nil hmode

/-- Every batch is made by `send_telemetry`. -/
theorem sent_of_sendTelemetry (hrun : serviceRun config now actions = some service) :
    ∀ batch ∈ service.sent, ∃ functionContext s, batch = (sendTelemetry config functionContext s).1 := by
  refine run_invariant (I := fun service : TelemetryService => ∀ batch ∈ service.sent,
    ∃ functionContext s, batch = (sendTelemetry config functionContext s).1) ?_
    (fun _ h => absurd h List.not_mem_nil) hrun
  intro service a service' h hstep
  have appended {functionContext : FunctionContext} {s : TelemetryServiceState}
      (heq : service'.sent = service.sent ++ [(sendTelemetry config functionContext s).1]) :
      ∀ batch ∈ service'.sent, ∃ functionContext s,
        batch = (sendTelemetry config functionContext s).1 := by
    intro batch hbatch
    rw [heq] at hbatch
    rcases List.mem_append.1 hbatch with hbatch | hbatch
    · exact h batch hbatch
    · exact ⟨_, _, List.mem_singleton.1 hbatch⟩
  cases serviceStep_coreStep hstep with
  | still a service' hstate heq => exact heq ▸ h
  | enqueued now e functionContext service' hstate heq => exact heq ▸ h
  | sent now functionContext service' hstate heq => exact appended heq
  | telemetry clock events s service' hs hstate heq => exact heq ▸ h
  | otlpSpans clock spans service' hstate heq => exact heq ▸ h
  | otlpMetrics clock metrics service' hstate heq => exact heq ▸ h
  | shutDown functionContext service' hstate heq => exact appended heq

theorem metrics_of_disabled (hrun : serviceRun config now actions = some service)
    (hplatform : config.processorConfig.platformMetricsMode = .disabled)
    (hotel : config.processorConfig.otelMetricsMode = .disabled) :
    ∀ batch ∈ service.sent, batch.metrics = [] := by
  intro batch hbatch
  obtain ⟨functionContext, s, rfl⟩ := sent_of_sendTelemetry hrun batch hbatch
  simp [sendTelemetry, prepareTelemetryBatch, prepareMetrics, takeScopeMetrics, hplatform, hotel]

end

/-! ## The batches of a started exporter -/

/-- The log records of resource logs. -/
def recordsOf (logs : List ResourceLogs) : List LogRecord :=
  (logs.flatMap (·.scopeLogs)).flatMap (·.logRecords)

section

variable [External] {p : Surroundings} {context : StartContext} {instanceId : String}
  {setup : Setup} {now : Nat} {actions : List Action} {service : TelemetryService}

/-- **Nothing of a batch is dropped or doubled on its way to the lanes.** In an exporter that has
started from any environment, the messages for the lanes together have exactly the log records, the
spans and the metrics of the batch; its Epsagon traces they have if the target is Firehose. -/
theorem batches_routed_completely
    (hstart : startTelemetryExporter p context instanceId = .ok setup)
    (hrun : serviceRun setup.config.telemetryServiceConfig now actions = some service) :
    ∀ batch ∈ service.sent,
      recordsOf ((setup.senders.messages batch).flatMap (·.logs)) = batch.logRecords ∧
      (setup.senders.messages batch).flatMap (·.spans) = batch.spans ∧
      (setup.senders.messages batch).flatMap (·.metrics) = batch.metrics ∧
      (setup.senders.messages batch).flatMap (·.epsagonTraces) =
        if setup.senders.isFirehose then batch.epsagonTraces else [] := by
  have sent := pillarsSent hstart
  intro batch hbatch
  refine ⟨?_, ?_, ?_, setup.senders.messages_epsagonTraces batch⟩
  · rw [setup.senders.messages_logs]
    by_cases hmode : setup.config.telemetryServiceConfig.processorConfig.logMode = .disabled
    · have hnone := logRecords_of_disabled hrun hmode batch hbatch
      split
      · rfl
      · exact hnone.symm
    · rw [if_pos (sent.logs hmode)]
      rfl
  · rw [setup.senders.messages_spans]
    by_cases hmode : setup.config.telemetryServiceConfig.processorConfig.tracingMode = .disabled
    · rw [spans_of_disabled hrun hmode batch hbatch, ite_self]
    · rw [if_pos (sent.traces hmode)]
  · rw [setup.senders.messages_metrics]
    by_cases hmode :
        setup.config.telemetryServiceConfig.processorConfig.platformMetricsMode = .disabled ∧
          setup.config.telemetryServiceConfig.processorConfig.otelMetricsMode = .disabled
    · rw [metrics_of_disabled hrun hmode.1 hmode.2 batch hbatch, ite_self]
    · rw [if_pos]
      apply sent.metrics
      rwa [not_and_or] at hmode

/-- **A pillar that the environment turns off stays silent.** Whatever is processed, in whatever
order, no batch of a started exporter has a log record or an Epsagon trace if logs are off, a span if
traces are off, which `LOG_ONLY` does as well, or a metric if both kinds of metrics are off. -/
theorem disabled_pillars_silent
    (hstart : startTelemetryExporter p context instanceId = .ok setup)
    (hrun : serviceRun setup.config.telemetryServiceConfig now actions = some service) :
    (¬ LogsEnabled p.env →
      ∀ batch ∈ service.sent, batch.logRecords = [] ∧ batch.epsagonTraces = []) ∧
    (¬ TracesEnabled p.env → ∀ batch ∈ service.sent, batch.spans = []) ∧
    (¬ MetricsEnabled p.env → ∀ batch ∈ service.sent, batch.metrics = []) := by
  have loaded := load_ok (startTelemetryExporter_ok hstart).1
  have hlogs := getParsable_logMode_ok loaded.logMode
  have htraces := extractTracingMode_ok loaded.tracingMode
  have hplatform := extractPlatformMetricsMode_ok loaded.platformMetricsMode
  have hotel := getParsable_otelMetricsMode_ok loaded.otelMetricsMode
  refine ⟨fun hoff batch hbatch => ?_, fun hoff => ?_, fun hoff => ?_⟩
  · have hmode := Decidable.not_not.1 fun hne => hoff (hlogs.1 hne)
    exact ⟨logRecords_of_disabled hrun hmode batch hbatch,
      epsagonTraces_of_disabled hrun hmode batch hbatch⟩
  · exact spans_of_disabled hrun (Decidable.not_not.1 fun hne => hoff (htraces.1 hne))
  · rw [MetricsEnabled, not_or] at hoff
    apply metrics_of_disabled hrun
    · exact Decidable.not_not.1 fun hne => hoff.1 (hplatform.1 hne)
    · exact Decidable.not_not.1 fun hne => hoff.2 (hotel.1 hne)

/-- A started exporter and a run of its service, found by evaluating them. -/
theorem exists_started {P : Setup → TelemetryService → Prop}
    [∀ setup service, Decidable (P setup service)]
    (h : ((startTelemetryExporter p context instanceId).toOption.any fun setup =>
      (serviceRun setup.config.telemetryServiceConfig now actions).any fun service =>
        decide (P setup service)) = true) :
    ∃ setup service, startTelemetryExporter p context instanceId = .ok setup ∧
      serviceRun setup.config.telemetryServiceConfig now actions = some service ∧
      P setup service := by
  obtain ⟨setup, hsetup, h⟩ := (Option.any_eq_true _ _).1 h
  obtain ⟨service, hrun, h⟩ := (Option.any_eq_true _ _).1 h
  refine ⟨setup, service, ?_, hrun, of_decide_eq_true h⟩
  cases hstart : startTelemetryExporter p context instanceId with
  | error e =>
    rw [hstart] at hsetup
    cases hsetup
  | ok setup' =>
    rw [hstart] at hsetup
    cases hsetup
    rfl

end

/-- An invocation with a log, from the start of the sandbox to its shutdown. -/
def sampleRoutedActions : List Action :=
  [.invoke (sampleInvoke "r") sampleContext, .handler 0, .handler 0, .handler 0,
    sampleTelemetry [sampleInitStart 1, sampleStart 2 "r", sampleLog 3 "hello",
      sampleRuntimeDone 4 "r", sampleReport 5 "r"],
    .handler 0, .shutdown sampleContext]

theorem batches_routed_completely_logs :
    ∃ setup service, startTelemetryExporter (sampleSurroundings [("CX_TRACING_MODE", "disabled")])
        sampleStartContext "id" = .ok setup ∧
      @serviceRun sampleExternal setup.config.telemetryServiceConfig 0 sampleRoutedActions =
        some service ∧
      service.sent.flatMap TelemetryBatch.logRecords ≠ [] ∧
      ∀ batch ∈ service.sent,
        recordsOf ((setup.senders.messages batch).flatMap (·.logs)) = batch.logRecords := by
  obtain ⟨setup, service, hstart, hrun, hlogs⟩ := @exists_started sampleExternal
    (sampleSurroundings [("CX_TRACING_MODE", "disabled")]) sampleStartContext "id" 0
    sampleRoutedActions (fun _ service => (service.sent.flatMap TelemetryBatch.logRecords).length ≠ 0)
    _ (by decide +kernel)
  refine ⟨setup, service, hstart, hrun, fun h => hlogs (by rw [h]; rfl), fun batch hbatch => ?_⟩
  exact (@batches_routed_completely sampleExternal _ _ _ _ _ _ _ hstart hrun batch hbatch).1

/-- With `LOG_ONLY`, a run that has spans otherwise has logs alone. -/
theorem disabled_pillars_silent_log_only :
    (∃ setup service, startTelemetryExporter
        (sampleSurroundings [("CX_TRACING_MODE", "telemetry_api")]) sampleStartContext "id" =
          .ok setup ∧
      @serviceRun sampleExternal setup.config.telemetryServiceConfig 0 sampleRoutedActions =
        some service ∧
      (service.sent.flatMap TelemetryBatch.spans).length = 1) ∧
    ∃ setup service, startTelemetryExporter (sampleSurroundings [("CX_LOG_ONLY", "true")])
        sampleStartContext "id" = .ok setup ∧
      @serviceRun sampleExternal setup.config.telemetryServiceConfig 0 sampleRoutedActions =
        some service ∧
      (service.sent.flatMap TelemetryBatch.logRecords).length = 4 ∧
      ∀ batch ∈ service.sent, batch.spans = [] := by
  refine ⟨@exists_started sampleExternal (sampleSurroundings [("CX_TRACING_MODE", "telemetry_api")])
    sampleStartContext "id" 0 sampleRoutedActions
    (fun _ service => (service.sent.flatMap TelemetryBatch.spans).length = 1) _
    (by decide +kernel), ?_⟩
  obtain ⟨setup, service, hstart, hrun, hlogs⟩ := @exists_started sampleExternal
    (sampleSurroundings [("CX_LOG_ONLY", "true")]) sampleStartContext "id" 0 sampleRoutedActions
    (fun _ service => (service.sent.flatMap TelemetryBatch.logRecords).length = 4) _
    (by decide +kernel)
  refine ⟨setup, service, hstart, hrun, hlogs, ?_⟩
  have hlogOnly : SetTo (sampleSurroundings [("CX_LOG_ONLY", "true")]).env "LOG_ONLY" true :=
    ⟨"true", by decide +kernel, by decide +kernel⟩
  exact (@disabled_pillars_silent sampleExternal _ _ _ _ _ _ _ hstart hrun).2.1
    fun htraces => htraces.1 hlogOnly

end TelemetryExporter
