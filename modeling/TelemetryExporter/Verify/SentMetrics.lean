import TelemetryExporter.Verify.MetricsLedger

/-!
# The metrics that the service sends

What the ledger of a run says about the batches. The metrics of the function and those of the
platform do not disturb each other: under a name that the platform metrics do not use, the batches
have what the function has exported, and under a name that the function does not use, they have the
time series of one instrument, over all invocations, degraded processing and the shutdown.
-/

namespace TelemetryExporter

open Machine Series

/-! ## The names of the platform metrics -/

/-- The names that the platform metrics use. -/
def platformMetricNames : PlatformMetricsMode → List String
  | .disabled => []
  | .platformReport => (V1.instruments .default).map Instrument.name
  | .platformV2 => (V2.instruments .default).map Instrument.name

theorem name_of_mem_exportedMetrics {E : Type} {advance : E → Option Nat} {start t : Nat}
    {is : List (Instrument E)} {actions : List (Series.Action E)} {m : Metric}
    (hm : m ∈ exportedMetrics advance start t is actions) : m.name ∈ is.map Instrument.name := by
  induction actions generalizing t is with
  | nil => cases hm
  | cons a rest ih =>
    cases a with
    | event e =>
      have hrest := ih hm
      simpa [Function.comp_def] using hrest
    | report =>
      rcases List.mem_append.1 hm with hm | hm
      · obtain ⟨i, hi, him⟩ := List.mem_filterMap.1 hm
        rw [Instrument.report_metric_name him]
        exact List.mem_map_of_mem hi
      · have hrest := ih hm
        simpa [Function.comp_def] using hrest

namespace MetricsLedger

variable [External] {config : TelemetryServiceConfig} {now : Nat} {mode : OtelMetricsMode}
  {entries : List MetricsEntry}

/-- The platform part of the batches has the platform's names. -/
theorem name_of_mem_platformSent {m : Metric}
    (hm : m ∈ ((new config now).enterAll mode entries).platformSent) :
    m.name ∈ platformMetricNames config.processorConfig.platformMetricsMode := by
  cases hmode : config.processorConfig.platformMetricsMode with
  | disabled =>
    have hplatform : (new config now).platform = .disabled := by
      rw [new, hmode]
      rfl
    rw [platformSent_enterAll mode disabled_refines (m := ()) hplatform] at hm
    exact name_of_mem_exportedMetrics hm
  | platformReport =>
    have hplatform : (new config now).platform = .v1 (.new now) := by
      rw [new, hmode]
      rfl
    rw [platformSent_enterAll mode v1_refines hplatform] at hm
    exact name_of_mem_exportedMetrics hm
  | platformV2 =>
    have hplatform : (new config now).platform = .v2 (.new now) := by
      rw [new, hmode]
      rfl
    rw [platformSent_enterAll mode v2_refines hplatform] at hm
    exact name_of_mem_exportedMetrics hm

end MetricsLedger

section

variable [External] {config : TelemetryServiceConfig} {now : Nat} {accepted : List ResourceMetrics}
  {sent : List TelemetryBatch} {s : TelemetryServiceState} {entries : List MetricsEntry}

/-- What is found in the batches under names that are not the platform's is what the function's part
of the ledger has. -/
theorem Records.flatMap_sentMetrics {A : Type} {f : Metric → List A}
    (h : Records accepted sent s entries ((MetricsLedger.new config now).enterAll
      config.processorConfig.otelMetricsMode entries))
    (hf : ∀ m : Metric, m.name ∈ platformMetricNames config.processorConfig.platformMetricsMode →
      f m = []) :
    (sentMetrics sent).flatMap f = ((MetricsLedger.new config now).enterAll
      config.processorConfig.otelMetricsMode entries).functionSent.flatMap f := by
  rw [sentMetrics_eq_flatten, h.sent, ← List.flatMap_def]
  exact MetricsLedger.flatMap_functionSent _ fun m hm => hf m (MetricsLedger.name_of_mem_platformSent hm)

end

/-! ## Processed metrics -/

namespace Channel

variable [External] {M P : Type} [DataPoint P] {c : Channel M P}

variable (c) in
/-- The points with the name and the identity: those sent and those pending are those received,
apart from repeats and injected points. -/
def Forwards (isCumulative : Bool) (name : String) (id : TimeSeriesId) (received sent : List Metric)
    (acc : OtelMetricsAccumulator) : Prop :=
  ∃ labelled,
    c.pointsOf name id sent = labelled.map Prod.snd ∧
    Labels isCumulative labelled ∧
    receivedPoints labelled ++ (c.series acc name id).newPoints =
      kept isCumulative (c.pointsOf name id received)

/-- An export leaves nothing pending. -/
theorem newPoints_export (acc : OtelMetricsAccumulator) (name : String) (id : TimeSeriesId) :
    (c.series acc.exportMetrics.2 name id).newPoints = [] := by
  let isCumulative := (c.stored acc name).elim false c.isCumulative
  have hstored : ∀ md ∈ c.stored acc name, c.isCumulative md = isCumulative := by
    intro md hmd
    simp only [isCumulative, Option.mem_def.1 hmd, Option.elim_some]
  rw [series_export id hstored]
  cases isCumulative <;> rfl

/-- The ledger's run of the accumulator forwards what the service has accepted. -/
theorem forwards_of_records [LawfulDataPoint P] {config : TelemetryServiceConfig} {now : Nat}
    {accepted : List ResourceMetrics} {sent : List TelemetryBatch} {s : TelemetryServiceState}
    {entries : List MetricsEntry} {name : String} {isCumulative : Bool}
    (hmode : config.processorConfig.otelMetricsMode = .processed)
    (h : Records accepted sent s entries ((MetricsLedger.new config now).enterAll
      config.processorConfig.otelMetricsMode entries))
    (hname : name ∉ platformMetricNames config.processorConfig.platformMetricsMode)
    (hagree : ∀ m ∈ metricsIn accepted, m.name = name → ∀ md dps, c.content m = some (md, dps) →
      c.isCumulative md = isCumulative) (id : TimeSeriesId) :
    c.Forwards isCumulative name id (metricsIn accepted) (sentMetrics sent) s.metricsAccumulator := by
  have hpoints : c.pointsOf name id (sentMetrics sent) = _ :=
    h.flatMap_sentMetrics fun m hm => if_neg fun heq : m.name = name => hname (heq ▸ hm)
  have hacc := h.accumulator
  rw [hmode] at hpoints hacc
  obtain ⟨hsent, hstate⟩ := (MetricsLedger.new config now).functionSent_processed entries
  have hreceived : receivedMetrics (entries.filterMap MetricsEntry.otelMetricsCall) =
      metricsIn accepted := by
    rw [MetricsLedger.receivedMetrics_otelMetricsCall, h.accepted]
  obtain ⟨labelled, hexported, hlabels, hconserved⟩ :=
    @Channel.conserves _ M P _ c name isCumulative _
      (entries.filterMap MetricsEntry.otelMetricsCall) (by rwa [hreceived]) id
  refine ⟨labelled, ?_, hlabels, ?_⟩
  · rw [hpoints, hsent]
    exact hexported
  · rw [hacc, hstate, ← hreceived]
    exact hconserved

end Channel

section

variable [External] {config : TelemetryServiceConfig} {now : Nat} {actions : List Action}
  {service : TelemetryService} {name : String}

omit [External] in
/-- In processed mode, what a batch leaves behind is what the accumulator's export leaves behind. -/
theorem metricsAccumulator_send (hmode : config.processorConfig.otelMetricsMode = .processed)
    (functionContext : FunctionContext) (s : TelemetryServiceState) :
    (sendTelemetry config functionContext s).2.metricsAccumulator =
      s.metricsAccumulator.exportMetrics.2 := by
  unfold sendTelemetry prepareTelemetryBatch prepareMetrics takeScopeMetrics
  rw [hmode]
  dsimp only
  split <;> rfl

/-- In processed mode, the points that the function exports under a name are sent once and in their
order, or they are pending, for each kind of metric and each time series: the repeats of cumulative
points are dropped, and injected points are in their places. It is enough that the platform metrics
do not use the name, and that sums and histograms with the name keep their temporality. No other
telemetry and no interleaving makes a difference. The shutdown leaves nothing pending. -/
theorem function_metrics_forwarded {sumTemporality histogramTemporality : Int}
    (hmode : config.processorConfig.otelMetricsMode = .processed)
    (hname : name ∉ platformMetricNames config.processorConfig.platformMetricsMode)
    (hsums : ∀ m ∈ metricsIn (acceptedMetrics actions), m.name = name → ∀ s, m.data = some (.sum s) →
      s.aggregationTemporality = sumTemporality)
    (hhistograms : ∀ m ∈ metricsIn (acceptedMetrics actions), m.name = name →
      ∀ h, m.data = some (.histogram h) → h.aggregationTemporality = histogramTemporality)
    (hrun : serviceRun config now actions = some service) (id : TimeSeriesId) :
    let received := metricsIn (acceptedMetrics actions)
    let sent := sentMetrics service.sent
    let acc := service.state.metricsAccumulator
    (Channel.gauges.Forwards false name id received sent acc ∧
      Channel.sums.Forwards (sumTemporality = cumulative) name id received sent acc ∧
      Channel.histograms.Forwards (histogramTemporality = cumulative) name id received sent acc ∧
      Channel.summaries.Forwards true name id received sent acc) ∧
    ∀ functionContext after, serviceStep config service (.shutdown functionContext) = some after →
      (Channel.gauges.series after.state.metricsAccumulator name id).newPoints = [] ∧
      (Channel.sums.series after.state.metricsAccumulator name id).newPoints = [] ∧
      (Channel.histograms.series after.state.metricsAccumulator name id).newPoints = [] ∧
      (Channel.summaries.series after.state.metricsAccumulator name id).newPoints = [] := by
  obtain ⟨entries, h⟩ := serviceRun_recorded hrun
  constructor
  · refine ⟨?_, ?_, ?_, ?_⟩
    · exact Channel.forwards_of_records hmode h hname (fun _ _ _ _ _ _ => rfl) id
    · refine Channel.forwards_of_records hmode h hname (fun m hm hname md dps hcontent => ?_) id
      obtain ⟨s, hdata, htemporality⟩ := Channel.exists_sum hcontent
      change decide (md.aggregationTemporality = cumulative) = _
      rw [htemporality, hsums m hm hname s hdata]
    · refine Channel.forwards_of_records hmode h hname (fun m hm hname md dps hcontent => ?_) id
      obtain ⟨h, hdata, htemporality⟩ := Channel.exists_histogram hcontent
      change decide (md.aggregationTemporality = cumulative) = _
      rw [htemporality, hhistograms m hm hname h hdata]
    · exact Channel.forwards_of_records hmode h hname (fun _ _ _ _ _ _ => rfl) id
  · intro functionContext after hshutdown
    obtain ⟨-, hafter⟩ := serviceStep_shutdown hshutdown
    have hacc : after.state.metricsAccumulator =
        (flushEnqueuedTelemetry config functionContext
          service.state).metricsAccumulator.exportMetrics.2 := by
      rw [hafter]
      exact metricsAccumulator_send hmode functionContext _
    rw [hacc]
    exact ⟨Channel.newPoints_export _ name id, Channel.newPoints_export _ name id,
      Channel.newPoints_export _ name id, Channel.newPoints_export _ name id⟩

end

/-- `sampleConfig` with the given modes of metrics. -/
def sampleMetricsConfig (otelMetricsMode : OtelMetricsMode)
    (platformMetricsMode : PlatformMetricsMode) : TelemetryServiceConfig :=
  let config := sampleConfig .lowOverhead .disabled
  { config with
    processorConfig := { config.processorConfig with otelMetricsMode, platformMetricsMode } }

/-- The function exports a metric. -/
def sampleExport (m : Metric) : Action :=
  .otlpMetrics ⟨0, 0, 0⟩ [{ resource := none, scopeMetrics := [{ scope := none, metrics := [m] }] }]

/-- The batches are sent after each invocation. -/
def afterInvocationConfig : TelemetryServiceConfig :=
  { sampleMetricsConfig .processed .platformReport with reportingStrategy := .reportAfterInvocation }

/-- A cumulative sum with repeats and a gap, sent in two batches. -/
def cumulativeActions : List Action :=
  [.invoke (sampleInvoke "r1") sampleContext, .handler 0,
    sampleExport (sampleSum 2 (samplePoint (.asInt 5) 1000000000)),
    sampleExport (sampleSum 2 (samplePoint (.asInt 5) 2000000000)),
    sampleTelemetry [sampleInitStart 1, sampleStart 2 "r1", sampleRuntimeDone 3 "r1"],
    .handler 0, .handler 0, .handler 0, .handler 0, .handler 0, .handler 0,
    sampleExport (sampleSum 2 (samplePoint (.asInt 5) 3000000000)),
    sampleExport (sampleSum 2 (samplePoint (.asInt 7) 200000000000)), .shutdown sampleContext]

theorem data_cumulativeActions : ∀ m ∈ metricsIn (acceptedMetrics cumulativeActions), ∃ point,
    m = sampleSum 2 point := by
  intro m hm
  change m ∈ [sampleSum 2 (samplePoint (.asInt 5) 1000000000),
    sampleSum 2 (samplePoint (.asInt 5) 2000000000), sampleSum 2 (samplePoint (.asInt 5) 3000000000),
    sampleSum 2 (samplePoint (.asInt 7) 200000000000)] at hm
  simp only [List.mem_cons, List.not_mem_nil, or_false] at hm
  rcases hm with rfl | rfl | rfl | rfl <;> exact ⟨_, rfl⟩

theorem function_metrics_forwarded_sum :
    ∃ service, @serviceRun sampleExternal afterInvocationConfig 0 cumulativeActions = some service ∧
      2 ≤ service.sent.length ∧
      (@Channel.pointsOf sampleExternal _ _ _ (@Channel.sums sampleExternal) "requests"
        (@TimeSeriesId.ofAttributes sampleExternal []) (sentMetrics service.sent)).map
          (·.timeUnixNano) = [0, 1000000000, 170000000000, 200000000000] ∧
      @Channel.Forwards sampleExternal _ _ _ (@Channel.sums sampleExternal) ((2 : Int) = cumulative)
        "requests" (@TimeSeriesId.ofAttributes sampleExternal [])
        (metricsIn (acceptedMetrics cumulativeActions)) (sentMetrics service.sent)
        service.state.metricsAccumulator := by
  obtain ⟨service, hrun, hbatches, hsent⟩ := @exists_run sampleExternal afterInvocationConfig 0
    cumulativeActions
    (fun service => 2 ≤ service.sent.length ∧
      (@Channel.pointsOf sampleExternal _ _ _ (@Channel.sums sampleExternal) "requests"
        (@TimeSeriesId.ofAttributes sampleExternal []) (sentMetrics service.sent)).map
          (·.timeUnixNano) = [0, 1000000000, 170000000000, 200000000000]) _ (by decide +kernel)
  refine ⟨service, hrun, hbatches, hsent, (@function_metrics_forwarded sampleExternal
    afterInvocationConfig 0 cumulativeActions service "requests" 2 0 rfl (by decide) ?_ ?_ hrun
    (@TimeSeriesId.ofAttributes sampleExternal [])).1.2.1⟩
  · intro m hm _ s hs
    obtain ⟨point, rfl⟩ := data_cumulativeActions m hm
    cases hs
    rfl
  · intro m hm _ h hh
    obtain ⟨point, rfl⟩ := data_cumulativeActions m hm
    cases hh

/-! ## Metrics as they are -/

section

variable [External] {config : TelemetryServiceConfig} {now : Nat} {actions : List Action}
  {service : TelemetryService}

/-- The metrics under names that the platform metrics do not use. -/
def foreignMetrics (mode : PlatformMetricsMode) (metrics : List Metric) : List Metric :=
  metrics.filter fun m => m.name ∉ platformMetricNames mode

omit [External] in
theorem foreignMetrics_eq_flatMap (mode : PlatformMetricsMode) (metrics : List Metric) :
    foreignMetrics mode metrics =
      metrics.flatMap fun m => if m.name ∈ platformMetricNames mode then [] else [m] := by
  induction metrics with
  | nil => rfl
  | cons m rest ih =>
    rw [List.flatMap_cons, ← ih]
    by_cases hname : m.name ∈ platformMetricNames mode <;> simp [foreignMetrics, hname]

/-- In direct mode, the function's metrics are sent as they are, all of them once and in their order,
or they are buffered; the shutdown sends all that are buffered. In disabled mode none are sent. -/
theorem function_metrics_unchanged (hrun : serviceRun config now actions = some service) :
    let mode := config.processorConfig.platformMetricsMode
    (config.processorConfig.otelMetricsMode = .direct →
      foreignMetrics mode (sentMetrics service.sent) ++
          foreignMetrics mode (metricsIn service.state.outputBuffers.functionMetricsBuffer) =
        foreignMetrics mode (metricsIn (acceptedMetrics actions)) ∧
      ∀ functionContext after, serviceStep config service (.shutdown functionContext) = some after →
        after.state.outputBuffers.functionMetricsBuffer = []) ∧
    (config.processorConfig.otelMetricsMode = .disabled →
      foreignMetrics mode (sentMetrics service.sent) = []) := by
  obtain ⟨entries, h⟩ := serviceRun_recorded hrun
  have hsent := h.flatMap_sentMetrics
    (f := fun m => if m.name ∈ platformMetricNames config.processorConfig.platformMetricsMode then []
      else [m]) fun m hm => if_pos hm
  rw [← foreignMetrics_eq_flatMap, ← foreignMetrics_eq_flatMap] at hsent
  refine ⟨fun hmode => ⟨?_, ?_⟩, fun hmode => ?_⟩
  · have hbuffer := h.buffered
    rw [hmode] at hsent hbuffer
    have hconserved := (MetricsLedger.new config now).functionSent_direct entries
    rw [← hbuffer, h.accepted] at hconserved
    rw [hsent, foreignMetrics, foreignMetrics, ← List.filter_append, hconserved]
    rfl
  · intro functionContext after hshutdown
    obtain ⟨-, hafter⟩ := serviceStep_shutdown hshutdown
    rw [hafter]
    simp only [TelemetryService.send]
    unfold sendTelemetry prepareTelemetryBatch prepareMetrics takeScopeMetrics
    rw [hmode]
  · rw [hmode] at hsent
    rw [hsent, MetricsLedger.functionSent_disabled]
    rfl

end

/-- A sum is exported, and sent by the shutdown. -/
def sampleMetricsActions : List Action :=
  [sampleExport (sampleSum 1 (samplePoint (.asInt 5) 1000000000)), .shutdown sampleContext]

theorem function_metrics_unchanged_sum :
    ∃ service, @serviceRun sampleExternal (sampleMetricsConfig .direct .platformReport) 0
        sampleMetricsActions = some service ∧
      foreignMetrics .platformReport (sentMetrics service.sent) =
        [sampleSum 1 (samplePoint (.asInt 5) 1000000000)] := by
  obtain ⟨service, hrun, hbuffer⟩ := @exists_run sampleExternal
    (sampleMetricsConfig .direct .platformReport) 0 sampleMetricsActions
    (fun service => service.state.outputBuffers.functionMetricsBuffer.length = 0) _
    (by decide +kernel)
  refine ⟨service, hrun, ?_⟩
  have hsent := ((@function_metrics_unchanged sampleExternal _ 0 _ service hrun).1 rfl).1
  rw [List.eq_nil_of_length_eq_zero hbuffer] at hsent
  exact (List.append_nil _).symm.trans hsent

/-! ## Platform metrics -/

/-- The events that advance the stamp of the platform metrics. -/
def LambdaTelemetry.stamps : PlatformMetricsMode → LambdaTelemetry → Bool
  | .disabled, _ => false
  | .platformReport, event => event.isReport
  | .platformV2, event => event.isRuntimeDone

/-- The names of the instruments that only such events update. -/
def stampedMetricNames : PlatformMetricsMode → List String
  | .disabled => []
  | .platformReport => platformMetricNames .platformReport
  | .platformV2 => ["faas.errors", "faas.timeouts", "faas.invoke_duration_seconds"]

/-- The events that advance the stamp have strictly increasing times, later than 35 s after the
epoch and such that no comparison of the instruments overflows. -/
structure StampsInOrder (mode : PlatformMetricsMode) (events : List LambdaTelemetry) : Prop where
  increasing : (events.filter (LambdaTelemetry.stamps mode)).Pairwise fun a b => a.nanos < b.nanos
  inRange : ∀ event ∈ events, event.stamps mode = true →
    maxTimeBetweenDataNanos < event.nanos ∧ event.nanos + maxTimeBetweenDataNanos < UInt64.size

theorem StampsInOrder.sublist {mode : PlatformMetricsMode} {events events' : List LambdaTelemetry}
    (h : StampsInOrder mode events) (hsub : events'.Sublist events) : StampsInOrder mode events' where
  increasing := h.increasing.sublist (hsub.filter _)
  inRange event hevent := h.inRange event (hsub.subset hevent)

/-- The stamp that the version takes from an event. -/
def StampOf (mode : PlatformMetricsMode) (advance : MetricsEvent → Option Nat) : Prop :=
  ∀ e, advance e = if e.event.stamps mode then some (asU64 e.event.nanos) else none

theorem reportTime_stampOf : StampOf .platformReport MetricsEvent.reportTime := by
  intro e
  have hstamps : e.event.stamps .platformReport = e.event.isReport := rfl
  rw [hstamps]
  unfold MetricsEvent.reportTime MetricsEvent.report LambdaTelemetry.isReport
  cases e.event.record <;> rfl

theorem runtimeDoneTime_stampOf : StampOf .platformV2 MetricsEvent.runtimeDoneTime := by
  intro e
  have hstamps : e.event.stamps .platformV2 = e.event.isRuntimeDone := rfl
  rw [hstamps]
  unfold MetricsEvent.runtimeDoneTime MetricsEvent.runtimeDone LambdaTelemetry.isRuntimeDone
  cases e.event.record <;> rfl

section

variable {mode : PlatformMetricsMode} {advance : MetricsEvent → Option Nat}

/-- The stamps over a ledger are the times of its events. -/
theorem collect_stamps (hadvance : StampOf mode advance) (entries : List MetricsEntry) :
    collect advance (entries.filterMap MetricsEntry.metricsAction) =
      ((entries.filterMap MetricsEntry.processed).filter (LambdaTelemetry.stamps mode)).map
        fun event => asU64 event.nanos := by
  induction entries with
  | nil => rfl
  | cons entry entries ih =>
    cases entry with
    | event e =>
      rw [List.filterMap_cons_some (f := MetricsEntry.metricsAction) rfl,
        List.filterMap_cons_some (f := MetricsEntry.processed) rfl, collect, ih, hadvance e,
        List.filter_cons]
      cases e.event.stamps mode <;> rfl
    | received functionMetrics => exact ih
    | send => exact ih

/-- Stamps in order are increasing and in range. -/
theorem StampsInOrder.collect {entries : List MetricsEntry} (hadvance : StampOf mode advance)
    (h : StampsInOrder mode (entries.filterMap MetricsEntry.processed)) :
    let stamps := Series.collect advance (entries.filterMap MetricsEntry.metricsAction)
    stamps.Pairwise (· < ·) ∧ ∀ s ∈ stamps, InRange s := by
  rw [collect_stamps hadvance]
  have range (event : LambdaTelemetry)
      (hevent : event ∈ (entries.filterMap MetricsEntry.processed).filter
        (LambdaTelemetry.stamps mode)) :
      (asU64 event.nanos : Int) = event.nanos ∧ InRange (asU64 event.nanos) := by
    obtain ⟨hmem, hstamps⟩ := List.mem_filter.1 hevent
    exact asU64_of_inRange (h.inRange event hmem hstamps)
  constructor
  · rw [List.pairwise_map]
    refine h.increasing.imp_of_mem fun {a b} ha hb hlt => Int.ofNat_lt.1 ?_
    rw [(range a ha).1, (range b hb).1]
    exact hlt
  · intro s hs
    obtain ⟨event, hevent, rfl⟩ := List.mem_map.1 hs
    exact (range event hevent).2

end

/-- An exported metric is of one of the four kinds. -/
theorem export_content [External] (acc : OtelMetricsAccumulator) {m : Metric}
    (hm : m ∈ acc.exportMetrics.1) :
    (∃ content, Channel.gauges.content m = some content) ∨
      (∃ content, Channel.sums.content m = some content) ∨
      (∃ content, Channel.histograms.content m = some content) ∨
      ∃ content, Channel.summaries.content m = some content := by
  simp only [OtelMetricsAccumulator.exportMetrics, Table.iterMut, List.mem_append,
    List.mem_map] at hm
  rcases hm with ((⟨row, -, rfl⟩ | ⟨row, -, rfl⟩) | ⟨row, -, rfl⟩) | ⟨row, -, rfl⟩
  · rw [exportGauge_eq]
    exact .inl ⟨_, rfl⟩
  · rw [exportSum_eq]
    exact .inr (.inl ⟨_, rfl⟩)
  · rw [exportHistogram_eq]
    exact .inr (.inr (.inl ⟨_, rfl⟩))
  · rw [exportSummary_eq]
    exact .inr (.inr (.inr ⟨_, rfl⟩))

section

variable [External]

theorem mem_otelMetricsRun {acc : OtelMetricsAccumulator} {calls : List OtelMetricsCall} {m : Metric}
    (hm : m ∈ (otelMetricsRun acc calls).1) :
    ∃ acc' : OtelMetricsAccumulator, m ∈ acc'.exportMetrics.1 := by
  induction calls generalizing acc with
  | nil => cases hm
  | cons call rest ih =>
    cases call with
    | accumulate metrics => exact ih hm
    | «export» =>
      rcases List.mem_append.1 hm with hm | hm
      · exact ⟨acc, hm⟩
      · exact ih hm

/-- What is exported of a kind has a name that has been received. -/
theorem Channel.exists_received {M P : Type} [DataPoint P] {c : Channel M P}
    {calls : List OtelMetricsCall} {m : Metric} (hm : m ∈ (otelMetricsRun {} calls).1)
    {content : M × List P} (hcontent : c.content m = some content) :
    ∃ m' ∈ receivedMetrics calls, m'.name = m.name := by
  have hmd : content.1 ∈ c.metadataOf m.name (otelMetricsRun {} calls).1 := by
    refine List.mem_filterMap.2 ⟨m, hm, ?_⟩
    rw [if_pos rfl, hcontent]
    rfl
  have hfirst := Channel.run_metadata Channel.wellKept_new content.1 hmd
  rw [Channel.stored_new, Option.none_or] at hfirst
  obtain ⟨m', hm', hname, -⟩ := Channel.mem_metadataOf (List.mem_of_head? hfirst)
  exact ⟨m', hm', hname⟩

/-- The accumulator exports no name that it has not received. -/
theorem exists_received {calls : List OtelMetricsCall} {m : Metric}
    (hm : m ∈ (otelMetricsRun {} calls).1) : ∃ m' ∈ receivedMetrics calls, m'.name = m.name := by
  obtain ⟨acc, hacc⟩ := mem_otelMetricsRun hm
  rcases export_content acc hacc with ⟨_, h⟩ | ⟨_, h⟩ | ⟨_, h⟩ | ⟨_, h⟩
  · exact Channel.exists_received hm h
  · exact Channel.exists_received hm h
  · exact Channel.exists_received hm h
  · exact Channel.exists_received hm h

variable {config : TelemetryServiceConfig} {now : Nat} {accepted : List ResourceMetrics}
  {sent : List TelemetryBatch} {s : TelemetryServiceState} {entries : List MetricsEntry}

/-- The function's part of the batches has names that the function uses. -/
theorem Records.name_of_mem_functionSent (h : Records accepted sent s entries
      ((MetricsLedger.new config now).enterAll config.processorConfig.otelMetricsMode entries))
    {m : Metric} (hm : m ∈ ((MetricsLedger.new config now).enterAll
      config.processorConfig.otelMetricsMode entries).functionSent) :
    ∃ m' ∈ metricsIn accepted, m'.name = m.name := by
  cases hmode : config.processorConfig.otelMetricsMode with
  | disabled =>
    rw [hmode, MetricsLedger.functionSent_disabled] at hm
    cases hm
  | direct =>
    have hconserved := (MetricsLedger.new config now).functionSent_direct entries
    rw [h.accepted] at hconserved
    rw [hmode] at hm
    have hmem : m ∈ metricsIn accepted := by
      have hleft := List.mem_append_left (metricsIn ((MetricsLedger.new config now).enterAll .direct
        entries).buffered) hm
      rw [hconserved] at hleft
      exact hleft
    exact ⟨m, hmem, rfl⟩
  | processed =>
    rw [hmode, ((MetricsLedger.new config now).functionSent_processed entries).1] at hm
    obtain ⟨m', hm', hname⟩ := exists_received hm
    rw [MetricsLedger.receivedMetrics_otelMetricsCall, h.accepted] at hm'
    exact ⟨m', hm', hname⟩

/-- What is found in the batches under names that the function does not use is what the platform's
part of the ledger has. -/
theorem Records.readingsNamed_sentMetrics {name : String} (h : Records accepted sent s entries
      ((MetricsLedger.new config now).enterAll config.processorConfig.otelMetricsMode entries))
    (hname : ∀ m ∈ metricsIn accepted, m.name ≠ name) :
    readingsNamed name (sentMetrics sent) = readingsNamed name ((MetricsLedger.new config now).enterAll
      config.processorConfig.otelMetricsMode entries).platformSent := by
  rw [sentMetrics_eq_flatten, h.sent, ← List.flatMap_def]
  refine MetricsLedger.flatMap_platformSent _ fun m hm => if_neg fun heq : m.name = name => ?_
  obtain ⟨m', hm', hsame⟩ := h.name_of_mem_functionSent hm
  exact hname m' hm' (hsame.trans heq)

/-- An instrument that only events with a stamp update makes a proper time series. -/
theorem Records.properSeries {S : Type} {embed : S → PlatformMetricsState}
    {advance : MetricsEvent → Option Nat} {start latest : S → Nat}
    {instruments : S → List (Instrument MetricsEvent)}
    (hrefines : Refines embed advance start latest instruments) {m : S}
    (hplatform : (MetricsLedger.new config now).platform = embed m) {i : Instrument MetricsEvent}
    (hi : i ∈ instruments m) (hnodup : ((instruments m).map Instrument.name).Nodup) (hnew : i.IsNew)
    (hcovered : i.CoveredBy advance) (hlatest : InRange (latest m))
    (hadvance : StampOf config.processorConfig.platformMetricsMode advance)
    (hforeign : ∀ m ∈ metricsIn accepted, m.name ≠ i.name)
    (hstamps : StampsInOrder config.processorConfig.platformMetricsMode (processedEvents s.trace))
    (h : Records accepted sent s entries ((MetricsLedger.new config now).enterAll
      config.processorConfig.otelMetricsMode entries)) :
    ProperSeries (readingsNamed i.name (sentMetrics sent)) := by
  obtain ⟨hincreasing, hrange⟩ := (hstamps.sublist h.processed).collect hadvance
  rw [h.readingsNamed_sentMetrics hforeign, MetricsLedger.platformSent_enterAll _ hrefines hplatform]
  have hnone : (MetricsLedger.new config now).platformSent = [] := rfl
  rw [hnone, List.nil_append, readingsNamed_exportedMetrics hi hnodup]
  exact (properSeries_iff hnew hlatest hrange).2 (hcovered.proper hincreasing)

omit [External] in
/-- The instruments of V2 that only a `PlatformRuntimeDone` updates. -/
theorem V2.exists_coveredBy {name : String} (h : name ∈ stampedMetricNames .platformV2) :
    ∃ i ∈ V2.instruments .default, i.name = name ∧ i.IsNew ∧
      i.CoveredBy MetricsEvent.runtimeDoneTime := by
  have hcovered {e : MetricsEvent} (he : e.runtimeDone.isSome = true) :
      e.runtimeDoneTime.isSome = true := by
    rwa [MetricsEvent.runtimeDoneTime, Option.isSome_map]
  simp only [stampedMetricNames, List.mem_cons, List.not_mem_nil, or_false] at h
  rcases h with rfl | rfl | rfl
  · refine ⟨_, List.mem_cons_self, rfl, ⟨rfl, rfl, rfl⟩, fun e he => hcovered ?_⟩
    cases hdone : e.runtimeDone <;> simp_all
  · refine ⟨_, List.mem_cons_of_mem _ (List.mem_cons_of_mem _ List.mem_cons_self), rfl,
      ⟨rfl, rfl, rfl⟩, fun e he => hcovered ?_⟩
    cases hdone : e.runtimeDone <;> simp_all
  · refine ⟨_, List.mem_cons_of_mem _ (List.mem_cons_of_mem _ (List.mem_cons_of_mem _
      (List.mem_cons_of_mem _ List.mem_cons_self))), rfl, ⟨rfl, rfl, rfl⟩, fun e he => hcovered ?_⟩
    cases hdone : e.runtimeDone <;> simp_all

omit [External] in
theorem V1.isNew_default {i : Instrument MetricsEvent} (hi : i ∈ V1.instruments .default) :
    i.IsNew := by
  revert i
  simp [V1.instruments, V1.PlatformMetrics.default, Instrument.IsNew]

/-- Over any run of the service, the platform metrics that are updated with their stamp are proper
time series in the batches: all of V1, and in V2 the errors, the timeouts and the durations of the
invocations. The invocations, the events that no invocation is known for and the shutdown share the
instruments, and batches may be sent at any time. It is enough that the processed events that
advance the stamp have increasing times, and that the function does not export the name itself. -/
theorem platform_metrics_sent_proper {actions : List Action} {service : TelemetryService}
    {name : String} (hnow : InRange now)
    (hname : name ∈ stampedMetricNames config.processorConfig.platformMetricsMode)
    (hforeign : ∀ m ∈ metricsIn (acceptedMetrics actions), m.name ≠ name)
    (hrun : serviceRun config now actions = some service)
    (hstamps : StampsInOrder config.processorConfig.platformMetricsMode
      (processedEvents service.state.trace)) :
    ProperSeries (readingsNamed name (sentMetrics service.sent)) := by
  obtain ⟨entries, h⟩ := serviceRun_recorded hrun
  cases hmode : config.processorConfig.platformMetricsMode with
  | disabled =>
    rw [hmode] at hname
    cases hname
  | platformReport =>
    rw [hmode] at hname
    obtain ⟨i, hi, rfl⟩ := List.mem_map.1 hname
    have hplatform : (MetricsLedger.new config now).platform = .v1 (.new now) := by
      rw [MetricsLedger.new, hmode]
      rfl
    have hnodup : ((V1.instruments .default).map Instrument.name).Nodup := by decide
    exact h.properSeries v1_refines hplatform hi hnodup (V1.isNew_default hi) (V1.coveredBy hi) hnow
      (hmode ▸ reportTime_stampOf) hforeign hstamps
  | platformV2 =>
    rw [hmode] at hname
    obtain ⟨i, hi, rfl, hnew, hcovered⟩ := V2.exists_coveredBy hname
    have hplatform : (MetricsLedger.new config now).platform = .v2 (.new now) := by
      rw [MetricsLedger.new, hmode]
      rfl
    have hnodup : ((V2.instruments .default).map Instrument.name).Nodup := by decide
    exact h.properSeries v2_refines hplatform hi hnodup hnew hcovered hnow
      (hmode ▸ runtimeDoneTime_stampOf) hforeign hstamps

end

/-- Two invocations, each with a report, and the shutdown, which sends. -/
def sampleReportActions : List Action :=
  [.invoke (sampleInvoke "r1") sampleContext, .handler 0, .handler 0,
    sampleTelemetry [sampleInitStart 100000, sampleStart 100001 "r1", sampleRuntimeDone 100002 "r1",
      sampleReport 100003 "r1"],
    .handler 0, .handler 0, .invoke (sampleInvoke "r2") sampleContext, .handler 0, .handler 0,
    .handler 0, .handler 0, .handler 0, sampleTelemetry [sampleReport 100005 "r2"],
    .shutdown sampleContext]

theorem platform_metrics_sent_proper_v1 :
    ∃ service, @serviceRun sampleExternal (sampleMetricsConfig .direct .platformReport) 99000000000
        sampleReportActions = some service ∧
      0 < (sentMetrics service.sent).length ∧
      ProperSeries (readingsNamed "faas.executions" (sentMetrics service.sent)) := by
  obtain ⟨service, hrun, hsent, hevents⟩ := @exists_run sampleExternal
    (sampleMetricsConfig .direct .platformReport) 99000000000 sampleReportActions
    (fun service => 0 < (sentMetrics service.sent).length ∧
      ((processedEvents service.state.trace).filter (LambdaTelemetry.stamps .platformReport)).map
        (·.nanos) = [100003000000, 100005000000]) _ (by decide +kernel)
  have hincreasing : (((processedEvents service.state.trace).filter
      (LambdaTelemetry.stamps .platformReport)).map (·.nanos)).Pairwise (· < ·) := by
    rw [hevents]
    decide
  have hstamps : StampsInOrder .platformReport (processedEvents service.state.trace) := by
    refine ⟨List.pairwise_map.1 hincreasing, fun event hevent hstamps => ?_⟩
    have hmem : event.nanos ∈ ((processedEvents service.state.trace).filter
        (LambdaTelemetry.stamps .platformReport)).map (·.nanos) :=
      List.mem_map_of_mem (List.mem_filter.2 ⟨hevent, hstamps⟩)
    rw [hevents] at hmem
    generalize event.nanos = t at hmem
    revert t
    decide
  exact ⟨service, hrun, hsent, @platform_metrics_sent_proper sampleExternal
    (sampleMetricsConfig .direct .platformReport) 99000000000 sampleReportActions service
    "faas.executions" inRange_sampleStart (by decide)
    (fun m hm => absurd hm List.not_mem_nil) hrun hstamps⟩

end TelemetryExporter
