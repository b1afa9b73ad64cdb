import TelemetryExporter.Verify.Accumulator
import TelemetryExporter.Verify.DegradedMetrics
import TelemetryExporter.Verify.OutputKinds

/-!
# The ledger of the metrics

The metrics that the service sends depend on three things only: which events have updated the
platform metrics, which metrics the function has exported, and between which of these the batches
were sent. A `MetricsLedger` is the machine that is left when everything else is forgotten. Every
run of the service is recorded by a run of the ledger (`serviceRun_records`), with the metrics of
each batch in two parts: those of the platform and those of the function.
-/

namespace TelemetryExporter

open Machine

/-- The metrics of a list of resources, in order. -/
def metricsIn (resourceMetrics : List ResourceMetrics) : List Metric :=
  (resourceMetrics.flatMap (·.scopeMetrics)).flatMap (·.metrics)

/-- The metrics of the batches, in order. -/
def sentMetrics (batches : List TelemetryBatch) : List Metric :=
  batches.flatMap fun batch => metricsIn batch.metrics

/-- The metrics that the function exports in the action. -/
def Action.functionMetrics : Action → List ResourceMetrics
  | .otlpMetrics _ resourceMetrics => resourceMetrics
  | _ => []

/-- The metrics that the function has exported in a run. -/
def acceptedMetrics (actions : List Action) : List ResourceMetrics :=
  actions.flatMap Action.functionMetrics

theorem metricsIn_nil : metricsIn [] = [] := rfl

theorem metricsIn_append (a b : List ResourceMetrics) :
    metricsIn (a ++ b) = metricsIn a ++ metricsIn b := by
  simp only [metricsIn, List.flatMap_append]

theorem sentMetrics_eq_flatten (batches : List TelemetryBatch) :
    sentMetrics batches = (batches.map fun batch => metricsIn batch.metrics).flatten := by
  rw [sentMetrics, List.flatMap_def]

/-! ## The ledger -/

/-- What is entered. -/
inductive MetricsEntry where
  /-- An event that may update the platform metrics has been processed. -/
  | event (e : MetricsEvent)
  /-- The function has exported metrics. -/
  | received (functionMetrics : List ResourceMetrics)
  /-- A batch is prepared. -/
  | send

/-- What the metrics depend on, and the metrics of each batch, in their two parts. -/
structure MetricsLedger where
  platform : PlatformMetricsState
  accumulator : OtelMetricsAccumulator := {}
  buffered : List ResourceMetrics := []
  sent : List (List Metric × List Metric) := []

namespace MetricsEntry

/-- The event that has been processed. -/
def processed : MetricsEntry → Option LambdaTelemetry
  | .event e => some e.event
  | .received _ => none
  | .send => none

/-- The metrics that the function has exported. -/
def accepted : MetricsEntry → List ResourceMetrics
  | .event _ => []
  | .received functionMetrics => functionMetrics
  | .send => []

/-- What the entry is for the platform metrics. -/
def metricsAction : MetricsEntry → Option MetricsAction
  | .event e => some (.event e)
  | .received _ => none
  | .send => some .report

/-- What the entry is for the accumulator of the function's metrics. -/
def otelMetricsCall : MetricsEntry → Option OtelMetricsCall
  | .event _ => none
  | .received functionMetrics => some (.accumulate (metricsIn functionMetrics))
  | .send => some .export

end MetricsEntry

namespace MetricsLedger

variable [External] (mode : OtelMetricsMode) (l : MetricsLedger)

/-- The function exports metrics. -/
def receive (functionMetrics : List ResourceMetrics) : MetricsLedger :=
  match mode with
  | .disabled => l
  | .direct => { l with buffered := l.buffered ++ functionMetrics }
  | .processed =>
    { l with accumulator := l.accumulator.accumulate (metricsIn functionMetrics) }

omit [External] in
/-- A batch is prepared. -/
def send : MetricsLedger :=
  let (metrics, platform) := l.platform.makeMetricsReport
  match mode with
  | .disabled => { l with platform, sent := l.sent ++ [(metrics, [])] }
  | .direct =>
    { l with platform, buffered := [], sent := l.sent ++ [(metrics, metricsIn l.buffered)] }
  | .processed =>
    let (functionMetrics, accumulator) := l.accumulator.exportMetrics
    { l with platform, accumulator, sent := l.sent ++ [(metrics, functionMetrics)] }

/-- One entry. -/
def enter : MetricsEntry → MetricsLedger
  | .event e => { l with platform := e.apply l.platform }
  | .received functionMetrics => l.receive mode functionMetrics
  | .send => l.send mode

/-- All entries. -/
def enterAll (entries : List MetricsEntry) : MetricsLedger := entries.foldl (enter mode) l

/-- The platform metrics that have been sent. -/
def platformSent : List Metric := l.sent.flatMap Prod.fst

/-- The metrics of the function that have been sent. -/
def functionSent : List Metric := l.sent.flatMap Prod.snd

/-! ### What an entry does -/

theorem enterAll_snoc (entries : List MetricsEntry) (entry : MetricsEntry) :
    l.enterAll mode (entries ++ [entry]) = (l.enterAll mode entries).enter mode entry := by
  simp only [enterAll, List.foldl_append, List.foldl_cons, List.foldl_nil]

/-- Metrics of the function leave the platform's alone. -/
theorem receive_platform (functionMetrics : List ResourceMetrics) :
    (l.receive mode functionMetrics).platform = l.platform ∧
      (l.receive mode functionMetrics).platformSent = l.platformSent := by
  cases mode <;> exact ⟨rfl, rfl⟩

omit [External] in
theorem send_platform :
    (l.send mode).platform = l.platform.makeMetricsReport.2 ∧
      (l.send mode).platformSent = l.platformSent ++ l.platform.makeMetricsReport.1 := by
  cases mode
  all_goals
    refine ⟨rfl, ?_⟩
    simp [send, platformSent]

/-! ### The two parts -/

/-- What is sent of the platform metrics is what their instruments export, whatever the function
exports. -/
theorem platformSent_enterAll {S : Type} {embed : S → PlatformMetricsState}
    {advance : MetricsEvent → Option Nat} {start latest : S → Nat}
    {instruments : S → List (Instrument MetricsEvent)}
    (hrefines : Refines embed advance start latest instruments) {m : S} {l : MetricsLedger}
    (hm : l.platform = embed m) (entries : List MetricsEntry) :
    (l.enterAll mode entries).platformSent = l.platformSent ++
      exportedMetrics advance (start m) (latest m) (instruments m)
        (entries.filterMap MetricsEntry.metricsAction) := by
  induction entries generalizing l m with
  | nil => exact (List.append_nil _).symm
  | cons entry entries ih =>
    cases entry with
    | event e =>
      obtain ⟨m', happly, hstart, hlatest, hinstruments⟩ := hrefines.event m e
      have hm' : ({ l with platform := e.apply l.platform } : MetricsLedger).platform = embed m' := by
        rw [← happly, ← hm]
      have hrest := ih hm'
      rw [hstart, hlatest, hinstruments] at hrest
      exact hrest
    | received functionMetrics =>
      obtain ⟨hplatform, hsent⟩ := l.receive_platform mode functionMetrics
      have hrest := ih (hplatform.trans hm)
      rw [hsent] at hrest
      exact hrest
    | send =>
      obtain ⟨m', hreport, hstart, hlatest, hinstruments⟩ := hrefines.report m
      obtain ⟨hplatform, hsent⟩ := l.send_platform mode
      rw [hm, hreport] at hplatform hsent
      have hrest := ih hplatform
      rw [hstart, hlatest, hinstruments, hsent, List.append_assoc] at hrest
      exact hrest

/-- What is sent of the function's metrics in processed mode is what the accumulator exports. -/
theorem functionSent_processed (entries : List MetricsEntry) :
    (l.enterAll .processed entries).functionSent = l.functionSent ++
        (otelMetricsRun l.accumulator (entries.filterMap MetricsEntry.otelMetricsCall)).1 ∧
      (l.enterAll .processed entries).accumulator =
        (otelMetricsRun l.accumulator (entries.filterMap MetricsEntry.otelMetricsCall)).2 := by
  induction entries generalizing l with
  | nil => exact ⟨(List.append_nil _).symm, rfl⟩
  | cons entry entries ih =>
    cases entry with
    | event e => exact ih { l with platform := e.apply l.platform }
    | received functionMetrics => exact ih (l.receive .processed functionMetrics)
    | send =>
      obtain ⟨hsent, hacc⟩ := ih (l.send .processed)
      refine ⟨?_, hacc⟩
      have hsend : (l.send .processed).functionSent =
          l.functionSent ++ l.accumulator.exportMetrics.1 := by
        simp [send, functionSent]
      rw [hsend, List.append_assoc] at hsent
      exact hsent

/-- In direct mode they are sent as they are, all at once. -/
theorem functionSent_direct (entries : List MetricsEntry) :
    (l.enterAll .direct entries).functionSent ++ metricsIn (l.enterAll .direct entries).buffered =
      l.functionSent ++ metricsIn l.buffered ++ metricsIn (entries.flatMap MetricsEntry.accepted) := by
  induction entries generalizing l with
  | nil => exact (List.append_nil _).symm
  | cons entry entries ih =>
    rw [List.flatMap_cons, metricsIn_append, ← List.append_assoc]
    cases entry with
    | event e =>
      have hrest := ih { l with platform := e.apply l.platform }
      rw [MetricsEntry.accepted, metricsIn_nil, List.append_nil]
      exact hrest
    | received functionMetrics =>
      have hrest := ih (l.receive .direct functionMetrics)
      simp only [receive, metricsIn_append, ← List.append_assoc] at hrest
      exact hrest
    | send =>
      have hrest := ih (l.send .direct)
      have hsend : (l.send .direct).functionSent ++ metricsIn (l.send .direct).buffered =
          l.functionSent ++ metricsIn l.buffered := by
        simp [send, functionSent, metricsIn]
      rw [hsend] at hrest
      rw [MetricsEntry.accepted, metricsIn_nil, List.append_nil]
      exact hrest

/-- In disabled mode none are sent. -/
theorem functionSent_disabled (entries : List MetricsEntry) :
    (l.enterAll .disabled entries).functionSent = l.functionSent := by
  induction entries generalizing l with
  | nil => rfl
  | cons entry entries ih =>
    cases entry with
    | event e => exact ih { l with platform := e.apply l.platform }
    | received functionMetrics => exact ih l
    | send =>
      refine (ih (l.send .disabled)).trans ?_
      simp [send, functionSent]

omit [External] in
/-- What the calls of the accumulator have received. -/
theorem receivedMetrics_otelMetricsCall (entries : List MetricsEntry) :
    receivedMetrics (entries.filterMap MetricsEntry.otelMetricsCall) =
      metricsIn (entries.flatMap MetricsEntry.accepted) := by
  induction entries with
  | nil => rfl
  | cons entry entries ih =>
    rw [List.flatMap_cons, metricsIn_append, ← ih]
    cases entry <;> rfl

omit [External] in
/-- A function of the single metrics finds in the batches what it finds in the function's part, where
it finds nothing in the platform's. -/
theorem flatMap_functionSent {A : Type} {f : Metric → List A} (h : ∀ m ∈ l.platformSent, f m = []) :
    (l.sent.flatMap fun parts => parts.1 ++ parts.2).flatMap f = l.functionSent.flatMap f := by
  unfold functionSent
  rw [List.flatMap_assoc, List.flatMap_assoc]
  apply List.flatMap_congr
  intro parts hparts
  have hplatform : parts.1.flatMap f = [] :=
    List.flatMap_eq_nil_iff.2 fun m hm => h m (List.mem_flatMap.2 ⟨parts, hparts, hm⟩)
  rw [List.flatMap_append, hplatform, List.nil_append]

omit [External] in
/-- And the other way round. -/
theorem flatMap_platformSent {A : Type} {f : Metric → List A} (h : ∀ m ∈ l.functionSent, f m = []) :
    (l.sent.flatMap fun parts => parts.1 ++ parts.2).flatMap f = l.platformSent.flatMap f := by
  unfold platformSent
  rw [List.flatMap_assoc, List.flatMap_assoc]
  apply List.flatMap_congr
  intro parts hparts
  have hfunction : parts.2.flatMap f = [] :=
    List.flatMap_eq_nil_iff.2 fun m hm => h m (List.mem_flatMap.2 ⟨parts, hparts, hm⟩)
  rw [List.flatMap_append, hfunction, List.append_nil]

end MetricsLedger

/-! ## The service keeps it -/

section

variable [External] {config : TelemetryProcessorConfig}

/-- In degraded mode a report updates the platform metrics as for an invocation with the same
`runtimeDoneData`; no other event updates them. -/
theorem processTelemetryInDegradedMode_apply {event : LambdaTelemetry}
    {q q' : Processing DegradedProcessingState}
    (h : processTelemetryInDegradedMode config event q = .ok q') :
    q'.metricsState = q.metricsState ∨
      ∃ e : MetricsEvent, e.event = event ∧ q'.metricsState = e.apply q.metricsState := by
  have hstate := processTelemetryInDegradedMode_metricsState h
  cases hrecord : event.record with
  | platformReport requestId status errorType metrics spans tracing =>
    right
    rw [hrecord] at hstate
    obtain ⟨state, hsame, hreport, hstate⟩ := hstate
    let invocation : InvocationProcessingState :=
      { serial := 0
        functionContext := q.state.functionContext
        invocationContext := ⟨q.state.functionContext.arn, "", q.state.traceId, q.state.spanId, false⟩
        rootSpanId := q.state.spanId
        runtimeDoneData := q.state.runtimeDoneData
        delayingLogs := false
        tracingState := { shouldProduceSpans := false } }
    refine ⟨⟨invocation, event⟩, rfl, ?_⟩
    rw [hstate]
    cases q.metricsState with
    | disabled => rfl
    | v1 m =>
      simp only [updateV2WithReport, updateV1AfterReport, MetricsEvent.apply, MetricsEvent.applyV1,
        MetricsEvent.report, hrecord, V1.updateMetricsAfterReport, ProcessingState.getReportData,
        ProcessingState.getRuntimeDoneData, hreport, hsame, invocation]
    | v2 m =>
      simp only [updateV2WithReport, updateV1AfterReport, MetricsEvent.apply, MetricsEvent.applyV2,
        MetricsEvent.report, MetricsEvent.runtimeDone, MetricsEvent.initReport, hrecord]
  | _ =>
    left
    rw [hrecord] at hstate
    exact hstate

end

/-! ### What a batch takes -/

/-- The metrics that are wrapped are those that the scope has. -/
theorem flatMap_wrapMetricsInScope (metrics : List Metric) :
    (if metrics.isEmpty then [] else [wrapMetricsInScope metrics]).flatMap (·.metrics) = metrics := by
  cases metrics with
  | nil => rfl
  | cons m rest => exact List.append_nil _

/-- Scopes without metrics may be left out. -/
theorem flatMap_filter_metrics (scopeMetrics : List ScopeMetrics) :
    (scopeMetrics.filter fun m => !m.metrics.isEmpty).flatMap (·.metrics) =
      scopeMetrics.flatMap (·.metrics) := by
  induction scopeMetrics with
  | nil => rfl
  | cons sm rest ih =>
    rw [List.flatMap_cons, List.filter_cons, ← ih]
    cases hmetrics : sm.metrics with
    | nil => rfl
    | cons m metrics => simp [hmetrics]

theorem metricsIn_prepareMetrics {config : TelemetryServiceConfig} (functionContext : FunctionContext)
    (s : TelemetryServiceState) :
    metricsIn (prepareMetrics config functionContext s).1 =
      (takeScopeMetrics config s).1.flatMap (·.metrics) := by
  unfold prepareMetrics
  dsimp only
  cases (takeScopeMetrics config s).1 with
  | nil => rfl
  | cons sm rest =>
    simp [metricsIn, wrapMetricsInResource]

/-- What the service takes for a batch is what the ledger takes. -/
theorem takeScopeMetrics_send {config : TelemetryServiceConfig} {s : TelemetryServiceState}
    {l : MetricsLedger} (hplatform : s.metricsState = l.platform)
    (hacc : s.metricsAccumulator = l.accumulator)
    (hbuffer : s.outputBuffers.functionMetricsBuffer = l.buffered)
    (hmode : config.processorConfig.platformMetricsMode = .disabled → l.platform = .disabled) :
    (takeScopeMetrics config s).2.metricsState =
        (l.send config.processorConfig.otelMetricsMode).platform ∧
      (takeScopeMetrics config s).2.metricsAccumulator =
        (l.send config.processorConfig.otelMetricsMode).accumulator ∧
      (takeScopeMetrics config s).2.outputBuffers.functionMetricsBuffer =
        (l.send config.processorConfig.otelMetricsMode).buffered ∧
      ∃ parts, (l.send config.processorConfig.otelMetricsMode).sent = l.sent ++ [parts] ∧
        (takeScopeMetrics config s).1.flatMap (·.metrics) = parts.1 ++ parts.2 := by
  have hdisabled (h : config.processorConfig.platformMetricsMode = .disabled) :
      l.platform.makeMetricsReport = ([], l.platform) := by
    rw [hmode h]
    rfl
  unfold takeScopeMetrics MetricsLedger.send
  rw [hplatform]
  by_cases h : config.processorConfig.platformMetricsMode = .disabled
  · rw [if_neg (not_not.2 h), hdisabled h]
    cases config.processorConfig.otelMetricsMode with
    | disabled => exact ⟨hplatform, hacc, hbuffer, _, rfl, rfl⟩
    | direct =>
      refine ⟨hplatform, hacc, rfl, _, rfl, ?_⟩
      simp only [List.nil_append, flatMap_filter_metrics, hbuffer, metricsIn]
    | processed =>
      simp only [hacc]
      refine ⟨hplatform, trivial, hbuffer, _, rfl, ?_⟩
      simp only [List.nil_append, flatMap_wrapMetricsInScope]
  · rw [if_pos h]
    cases config.processorConfig.otelMetricsMode with
    | disabled =>
      refine ⟨rfl, hacc, hbuffer, _, rfl, ?_⟩
      rw [flatMap_wrapMetricsInScope, List.append_nil]
    | direct =>
      refine ⟨rfl, hacc, rfl, _, rfl, ?_⟩
      simp only [List.flatMap_append, flatMap_filter_metrics, flatMap_wrapMetricsInScope, hbuffer,
        metricsIn]
    | processed =>
      simp only [hacc]
      refine ⟨trivial, trivial, hbuffer, _, rfl, ?_⟩
      simp only [List.flatMap_append, flatMap_wrapMetricsInScope]

/-- What the service does with the function's metrics is what the ledger does. -/
theorem processFunctionMetrics_receive [External] {config : TelemetryServiceConfig}
    {s : TelemetryServiceState} {l : MetricsLedger} (hplatform : s.metricsState = l.platform)
    (hacc : s.metricsAccumulator = l.accumulator)
    (hbuffer : s.outputBuffers.functionMetricsBuffer = l.buffered)
    (functionMetrics : List ResourceMetrics) :
    let s' := processFunctionMetrics config functionMetrics s
    let l' := l.receive config.processorConfig.otelMetricsMode functionMetrics
    s'.metricsState = l'.platform ∧ s'.metricsAccumulator = l'.accumulator ∧
      s'.outputBuffers.functionMetricsBuffer = l'.buffered ∧ s'.trace = s.trace ∧
      l'.sent = l.sent := by
  unfold processFunctionMetrics MetricsLedger.receive
  cases config.processorConfig.otelMetricsMode with
  | disabled => exact ⟨hplatform, hacc, hbuffer, rfl, rfl⟩
  | direct =>
    refine ⟨hplatform, hacc, ?_, rfl, rfl⟩
    dsimp only
    rw [hbuffer]
  | processed =>
    refine ⟨hplatform, ?_, hbuffer, rfl, rfl⟩
    dsimp only
    simp only [hacc, metricsIn, OtelMetricsAccumulator.accumulate, List.foldl_flatMap]

/-- The ledger has the metrics of the state and of the batches, the metrics that the function has
exported, and no event that has not been processed. -/
structure Records (accepted : List ResourceMetrics) (sent : List TelemetryBatch)
    (s : TelemetryServiceState) (entries : List MetricsEntry) (l : MetricsLedger) : Prop where
  platform : s.metricsState = l.platform
  accumulator : s.metricsAccumulator = l.accumulator
  buffered : s.outputBuffers.functionMetricsBuffer = l.buffered
  sent : sent.map (fun batch => metricsIn batch.metrics) = l.sent.map fun parts => parts.1 ++ parts.2
  accepted : entries.flatMap MetricsEntry.accepted = accepted
  processed : (entries.filterMap MetricsEntry.processed).Sublist (processedEvents s.trace)

/-- The ledger of a service that starts at the given time. -/
def MetricsLedger.new (config : TelemetryServiceConfig) (now : Nat) : MetricsLedger :=
  { platform := .forMode now config.processorConfig.platformMetricsMode }

theorem MetricsLedger.enterAll_disabled [External] {config : TelemetryServiceConfig} (now : Nat)
    (h : config.processorConfig.platformMetricsMode = .disabled) (mode : OtelMetricsMode)
    (entries : List MetricsEntry) :
    ((new config now).enterAll mode entries).platform = .disabled := by
  suffices H : ∀ l : MetricsLedger, l.platform = .disabled →
      (l.enterAll mode entries).platform = .disabled by
    apply H
    rw [new, h]
    rfl
  induction entries with
  | nil => exact fun _ hl => hl
  | cons entry entries ih =>
    intro l hl
    apply ih
    cases entry with
    | event e =>
      simp only [enter, hl]
      rfl
    | received functionMetrics => exact (l.receive_platform mode functionMetrics).1.trans hl
    | send =>
      refine (l.send_platform mode).1.trans ?_
      rw [hl]
      rfl

section

variable [External] {config : TelemetryServiceConfig} {now : Nat}
  {accepted : List ResourceMetrics} {sent : List TelemetryBatch} {s s' : TelemetryServiceState}
  {service service' : TelemetryService}

/-- Some ledger records the state. -/
def Recorded (config : TelemetryServiceConfig) (now : Nat) (accepted : List ResourceMetrics)
    (sent : List TelemetryBatch) (s : TelemetryServiceState) : Prop :=
  ∃ entries, Records accepted sent s entries
    ((MetricsLedger.new config now).enterAll config.processorConfig.otelMetricsMode entries)

namespace Recorded

/-- The metrics stay as they are. -/
theorem congr (h : Recorded config now accepted sent s) (hmetrics : s'.metricsState = s.metricsState)
    (hacc : s'.metricsAccumulator = s.metricsAccumulator)
    (hbuffer : s'.outputBuffers.functionMetricsBuffer = s.outputBuffers.functionMetricsBuffer)
    {calls : List ProcessorCall} (htrace : s'.trace = s.trace ++ calls) :
    Recorded config now accepted sent s' := by
  obtain ⟨entries, h⟩ := h
  refine ⟨entries, ?_, ?_, ?_, h.sent, h.accepted, ?_⟩
  · rw [hmetrics, h.platform]
  · rw [hacc, h.accumulator]
  · rw [hbuffer, h.buffered]
  · rw [htrace, processedEvents_append]
    exact h.processed.trans (List.sublist_append_left _ _)

theorem core (h : Recorded config now accepted sent s) (hcore : s'.core = s.core) :
    Recorded config now accepted sent s' := by
  have same := SameCore.of_core hcore
  refine h.congr (congrArg (·.metricsState) hcore) (congrArg (·.metricsAccumulator) hcore) ?_
    (same.trace.trans (List.append_nil _).symm)
  rw [same.outputBuffers]

theorem callProcessFunctionSpans (h : Recorded config now accepted sent s)
    (spans : List ResourceSpans) (state : InvocationProcessingState) :
    Recorded config now accepted sent (callProcessFunctionSpans config spans state s).2 :=
  h.congr rfl rfl (processFunctionSpans_putsOut spans
    ⟨state, s.metricsState, s.outputBuffers, s.rng⟩).functionMetrics rfl

/-- Another invocation has become the current one. -/
theorem setCurrent (h : Recorded config now accepted sent s) (state : InvocationProcessingState) :
    Recorded config now accepted sent { s with invocationState := some state } :=
  h.congr rfl rfl rfl (List.append_nil _).symm

/-- One more event. -/
theorem event (h : Recorded config now accepted sent s) (e : MetricsEvent)
    (hmetrics : s'.metricsState = e.apply s.metricsState)
    (hacc : s'.metricsAccumulator = s.metricsAccumulator)
    (hbuffer : s'.outputBuffers.functionMetricsBuffer = s.outputBuffers.functionMetricsBuffer)
    (htrace : processedEvents s'.trace = processedEvents s.trace ++ [e.event]) :
    Recorded config now accepted sent s' := by
  obtain ⟨entries, h⟩ := h
  refine ⟨entries ++ [.event e], ?_⟩
  rw [MetricsLedger.enterAll_snoc]
  refine ⟨?_, hacc.trans h.accumulator, hbuffer.trans h.buffered, h.sent, ?_, ?_⟩
  · rw [hmetrics, h.platform]
    rfl
  · rw [List.flatMap_append, h.accepted]
    exact List.append_nil _
  · rw [List.filterMap_append, htrace]
    exact h.processed.append (.refl _)

/-- Every part of `process_telemetry_events`. -/
theorem part (h : Recorded config now accepted sent s) (hpart : Part config s s') :
    Recorded config now accepted sent s' := by
  cases hpart with
  | acquired =>
    unfold acquireInvocation
    split
    · exact h
    · split
      · exact h
      · next invokeEvent queue hqueue =>
        dsimp only
        split
        · exact h.congr rfl rfl rfl rfl
        · next context rng hcontext =>
          let new := InvocationProcessingState.new invokeEvent.serial invokeEvent.functionContext
            context config.processorConfig.traceSamplingMode config.processorConfig.tracingMode rng
          have created : Recorded config now accepted sent
              { s with
                invokeEventQueue := queue
                functionSpansBuffer := []
                rng := new.2
                trace := s.trace ++ [.created invokeEvent.serial] } := h.congr rfl rfl rfl rfl
          have first := created.callProcessFunctionSpans s.functionSpansBuffer new.1
          exact (first.callProcessFunctionSpans invokeEvent.spans _).setCurrent _
  | telemetry event state hs =>
    unfold callProcessTelemetry
    split
    · exact h.congr rfl rfl rfl rfl
    · next p' hprocess =>
      have hmetrics := @processTelemetry_metricsState _ _
        ⟨state, s.metricsState, s.outputBuffers, s.rng⟩ p' ⟨state, event⟩ hprocess
      refine h.event ⟨state, event⟩ hmetrics rfl (processTelemetry_putsOut hprocess).functionMetrics ?_
      rw [processedEvents_append]
      rfl
  | degraded event p p' hmetrics hout hprocess =>
    have hbuffer := (processTelemetryInDegradedMode_putsOut hprocess).functionMetrics
    rw [hout] at hbuffer
    rcases processTelemetryInDegradedMode_apply hprocess with heq | ⟨e, rfl, heq⟩
    · exact h.congr (heq.trans hmetrics) rfl hbuffer rfl
    · rw [hmetrics] at heq
      refine h.event e heq rfl hbuffer ?_
      rw [processedEvents_append]
      rfl
  | failed event => exact h.congr rfl rfl rfl rfl
  | moved => exact h.congr rfl rfl rfl (List.append_nil _).symm
  | concluded state hs hreport => exact h.congr rfl rfl rfl rfl

theorem processQueues (h : Recorded config now accepted sent s) :
    Recorded config now accepted sent (processQueues config s) :=
  processQueues_parts (fun _ _ => part) h

theorem receiveSpans (h : Recorded config now accepted sent s) (spans : List ResourceSpans) :
    Recorded config now accepted sent (receiveSpans config spans s) := by
  unfold TelemetryExporter.receiveSpans
  split
  · exact h.congr rfl rfl rfl (List.append_nil _).symm
  · split
    · next state hstate =>
      split
      · exact h.congr rfl rfl rfl (List.append_nil _).symm
      · exact (h.callProcessFunctionSpans spans state).setCurrent _
    · exact h.congr rfl rfl rfl (List.append_nil _).symm

theorem flush (h : Recorded config now accepted sent s) (functionContext : FunctionContext) :
    Recorded config now accepted sent (flushEnqueuedTelemetry config functionContext s) := by
  unfold flushEnqueuedTelemetry
  apply processInDegradedMode_parts (fun _ _ => part)
  exact h.congr rfl rfl rfl (List.append_nil _).symm

/-- The function exports metrics. -/
theorem receiveMetrics (h : Recorded config now accepted sent s)
    (functionMetrics : List ResourceMetrics) :
    Recorded config now (accepted ++ functionMetrics) sent
      (processFunctionMetrics config functionMetrics s) := by
  obtain ⟨entries, h⟩ := h
  refine ⟨entries ++ [.received functionMetrics], ?_⟩
  rw [MetricsLedger.enterAll_snoc]
  obtain ⟨hplatform, hacc, hbuffer, htrace, hsent⟩ := @processFunctionMetrics_receive _ config _ _
    h.platform h.accumulator h.buffered functionMetrics
  refine ⟨hplatform, hacc, hbuffer, h.sent.trans (by rw [MetricsLedger.enter, hsent]), ?_, ?_⟩
  · rw [List.flatMap_append, h.accepted, List.flatMap_singleton]
    rfl
  · rw [List.filterMap_append, htrace]
    exact (List.append_nil _).symm ▸ h.processed

/-- A batch is prepared. -/
theorem send (h : Recorded config now accepted sent s) (functionContext : FunctionContext) :
    Recorded config now accepted (sent ++ [(sendTelemetry config functionContext s).1])
      (sendTelemetry config functionContext s).2 := by
  obtain ⟨entries, h⟩ := h
  refine ⟨entries ++ [.send], ?_⟩
  rw [MetricsLedger.enterAll_snoc]
  let l := (MetricsLedger.new config now).enterAll config.processorConfig.otelMetricsMode entries
  -- what is left of the state when logs and spans have been taken
  let taken : TelemetryServiceState :=
    { s with
      shouldSend := false
      shouldSendBy := none
      outputBuffers :=
        { s.outputBuffers with
          logsBuffer := [], spansBuffer := [], functionSpansBuffer := [], functionSpansCount := 0 } }
  obtain ⟨hplatform, hacc, hbuffer, parts, hsent, hparts⟩ := @takeScopeMetrics_send config taken l
    h.platform h.accumulator h.buffered fun hmode => MetricsLedger.enterAll_disabled now hmode _ _
  have hbatch : metricsIn (sendTelemetry config functionContext s).1.metrics =
      (takeScopeMetrics config taken).1.flatMap (·.metrics) := metricsIn_prepareMetrics _ taken
  refine ⟨hplatform, hacc, hbuffer, ?_, ?_, ?_⟩
  · rw [List.map_append, h.sent, MetricsLedger.enter, hsent, List.map_append, List.map_singleton,
      List.map_singleton, hbatch, hparts]
  · rw [List.flatMap_append, h.accepted]
    exact List.append_nil _
  · obtain ⟨m, acc, out, -, hstate⟩ := @sendTelemetry_state config s functionContext
    rw [List.filterMap_append, hstate]
    exact (List.append_nil _).symm ▸ h.processed

end Recorded

/-- One step of the service. -/
theorem serviceStep_recorded {a : Action} (h : Recorded config now accepted service.sent service.state)
    (hstep : serviceStep config service a = some service') :
    Recorded config now (accepted ++ a.functionMetrics) service'.sent service'.state := by
  have received (clock : Clock) (metrics : List ResourceMetrics)
      (hstep : serviceStep config service (.otlpMetrics clock metrics) = some service') :
      Recorded config now (accepted ++ metrics) service'.sent service'.state := by
    simp only [serviceStep, Option.some.injEq] at hstep
    subst hstep
    exact (h.receiveMetrics metrics).core (handleOtlpMetrics_core clock metrics)
  have hnone : accepted ++ [] = accepted := List.append_nil accepted
  cases serviceStep_coreStep hstep with
  | still a service' hstate heq =>
    cases a with
    | otlpMetrics clock metrics => exact received clock metrics hstep
    | _ => exact heq ▸ hnone.symm ▸ h.core hstate
  | enqueued _ e functionContext service' hstate heq =>
    have queued : Recorded config now accepted service.sent
        (pushInvokeEvent e functionContext service.state) :=
      h.congr rfl rfl rfl (List.append_nil _).symm
    exact heq ▸ hnone.symm ▸ queued.processQueues.core hstate
  | sent now functionContext service' hstate heq =>
    exact heq ▸ hnone.symm ▸ (h.send functionContext).core hstate
  | telemetry clock events s service' hs hstate heq =>
    have delivered : Recorded config now accepted service.sent
        { service.state with
          telemetryEventQueue := service.state.telemetryEventQueue ++ events } :=
      h.congr rfl rfl rfl (List.append_nil _).symm
    exact heq ▸ hnone.symm ▸ (delivered.core hs).processQueues.core hstate
  | otlpSpans clock spans service' hstate heq =>
    exact heq ▸ hnone.symm ▸ (h.receiveSpans spans).core hstate
  | otlpMetrics clock metrics service' hstate heq => exact received clock metrics hstep
  | shutDown functionContext service' hstate heq =>
    exact heq ▸ hnone.symm ▸ ((h.flush functionContext).send functionContext).core hstate

/-- Every run of the service is recorded by a ledger. -/
theorem serviceRun_recorded {actions : List Action}
    (hrun : serviceRun config now actions = some service) :
    Recorded config now (acceptedMetrics actions) service.sent service.state := by
  refine run_actions (I := fun actions (service : TelemetryService) =>
    Recorded config now (acceptedMetrics actions) service.sent service.state) ?_ ?_ hrun
  · exact ⟨[], rfl, rfl, rfl, rfl, rfl, .refl _⟩
  · intro past s a s' h hs
    have hpast : acceptedMetrics (past ++ [a]) = acceptedMetrics past ++ a.functionMetrics := by
      simp only [acceptedMetrics, List.flatMap_append, List.flatMap_singleton]
    rw [hpast]
    exact serviceStep_recorded h hs

end

end TelemetryExporter
