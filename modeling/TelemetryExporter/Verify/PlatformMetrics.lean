import TelemetryExporter.Lib.Machine
import TelemetryExporter.Model.Service
import TelemetryExporter.Verify.Instruments
import TelemetryExporter.Verify.Processor

/-!
# Platform metrics over a run

Events are processed, each with the state of some invocation, and in between the platform metrics
are reported. Both versions of the platform metrics are groups of instruments with one stamp: in V1
the stamp is that of the last `PlatformReport`, which also makes all the updates, in V2 that of the
last `PlatformRuntimeDone`, while two other events update instruments as well.
-/

namespace TelemetryExporter

open Series Machine

/-- An event, and the state it is processed with. -/
structure MetricsEvent where
  state : InvocationProcessingState
  event : LambdaTelemetry

/-- A processed event, or a metrics report. -/
abbrev MetricsAction := Series.Action MetricsEvent

/-- What is processed, and the metrics reported so far. -/
structure MetricsRun where
  processing : Processing InvocationProcessingState
  reported : List Metric := []

/-- One `process_telemetry` or `make_metrics_report`. -/
def metricsStep [External] (config : TelemetryProcessorConfig) (s : MetricsRun) :
    MetricsAction → Option MetricsRun
  | .event e =>
    match processTelemetry config e.event { s.processing with state := e.state } with
    | .ok processing => some { s with processing }
    | .error _ => none
  | .report =>
    let (metrics, metricsState) := s.processing.metricsState.makeMetricsReport
    some
      { processing := { s.processing with metricsState }
        reported := s.reported ++ metrics }

/-! ## What the events record -/

namespace MetricsEvent

/-- The data of a `PlatformInitReport`. -/
def initReport (e : MetricsEvent) : Option PlatformInitReportData :=
  match e.event.record with
  | .platformInitReport initializationType phase metrics spans =>
    some { time := e.event.nanos, initializationType, phase, metrics, spans }
  | _ => none

/-- The data of a `PlatformRuntimeDone`. -/
def runtimeDone (e : MetricsEvent) : Option PlatformRuntimeDoneData :=
  match e.event.record with
  | .platformRuntimeDone requestId status errorType metrics spans tracing =>
    some { time := e.event.nanos, requestId, status, errorType, metrics, spans, tracing }
  | _ => none

/-- The data of a `PlatformReport`. -/
def report (e : MetricsEvent) : Option PlatformReportData :=
  match e.event.record with
  | .platformReport requestId status errorType metrics spans tracing =>
    some { time := e.event.nanos, requestId, status, errorType, metrics, spans, tracing }
  | _ => none

/-- The time of a `PlatformRuntimeDone`, the stamp of V2. -/
def runtimeDoneTime (e : MetricsEvent) : Option Nat := e.runtimeDone.map fun data => asU64 data.time

/-- The time of a `PlatformReport`, the stamp of V1. -/
def reportTime (e : MetricsEvent) : Option Nat := e.report.map fun data => asU64 data.time

/-- The runtime metrics that the invocation's state has when the event is processed. -/
def runtimeMetrics (e : MetricsEvent) : Option RuntimeDoneMetrics :=
  e.state.runtimeDoneData.bind (·.metrics)

/-- The update of V1 by the event. -/
def applyV1 (e : MetricsEvent) (m : V1.PlatformMetricsState) : V1.PlatformMetricsState :=
  match e.report with
  | some reportData => V1.updateMetricsAfterReport m { e.state with reportData := some reportData }
  | none => m

/-- The update of V2 by the event. -/
def applyV2 (e : MetricsEvent) (m : V2.PlatformMetricsState) : V2.PlatformMetricsState :=
  match e.initReport, e.runtimeDone, e.report with
  | some data, _, _ => V2.updateMetricsWithInitReport m data
  | _, some data, _ => V2.updateMetricsWithRuntimeDone m data
  | _, _, some data => V2.updateMetricsWithReport m data
  | none, none, none => m

/-- The update of the platform metrics by the event. -/
def apply (e : MetricsEvent) : PlatformMetricsState → PlatformMetricsState
  | .disabled => .disabled
  | .v1 m => .v1 (e.applyV1 m)
  | .v2 m => .v2 (e.applyV2 m)

/-- The highest memory usage of the report, for `faas.mem_usage_bytes`. -/
def memoryUsedBytes (e : MetricsEvent) : Option Int :=
  e.report.map fun data => V2.bytesOfMb data.metrics.maxMemoryUsedMb

/-- The configured memory of the report, for `faas.mem_limit_bytes`. -/
def memoryLimitBytes (e : MetricsEvent) : Option Int :=
  e.report.map fun data => V2.bytesOfMb data.metrics.memorySizeMb

end MetricsEvent

/-- The instruments of V1. -/
def V1.instruments (m : V1.PlatformMetrics) : List (Instrument MetricsEvent) :=
  [.counter (fun e => e.report.any fun data =>
      data.metrics.initDurationMs.isSome ∨ data.metrics.restoreDurationMs.isSome) m.coldstarts,
    .counter (fun e => e.report.isSome) m.executions,
    .counter (fun e => e.report.any fun data =>
      data.status = .failure ∨ data.status = .error ∧ ¬ isOutOfMemory data) m.errors,
    .counter (fun e => e.report.any fun data => data.status = .error ∧ isOutOfMemory data) m.ooms,
    .counter (fun e => e.report.any fun data => data.status = .timeout) m.timeouts,
    .summary (fun e => e.report.bind (·.metrics.initDurationMs)) m.initDurationMillis,
    .summary (fun e => e.report.bind (·.metrics.restoreDurationMs)) m.restoreDurationMillis,
    .summary (fun e => e.report.bind fun _ => e.runtimeMetrics.map (·.durationMs))
      m.invokeDurationMillis,
    .summary (fun e => e.report.map fun data =>
      data.metrics.durationMs - (e.runtimeMetrics.map (·.durationMs)).getD 0)
      m.overheadDurationMillis,
    .summary (fun e => e.report.bind fun _ => (e.runtimeMetrics.bind (·.producedBytes)).map Float.ofNat)
      m.resultSizeBytes,
    .maxGauge (fun e => e.report.map fun data => asI64 data.metrics.maxMemoryUsedMb)
      m.maxMemoryUsedMb,
    .maxGauge (fun e => e.report.map fun data => asI64 data.metrics.memorySizeMb) m.memorySizeMb]

/-- The instruments of V2. -/
def V2.instruments (m : V2.PlatformMetrics) : List (Instrument MetricsEvent) :=
  [.counter (fun e => e.runtimeDone.any fun data => data.status = .error ∨ data.status = .failure)
      m.errors,
    .counter (fun e => e.report.any fun data => data.status = .error ∧ isOutOfMemory data)
      m.probableOoms,
    .counter (fun e => e.runtimeDone.any fun data => data.status = .timeout) m.timeouts,
    .summary (fun e => e.initReport.map fun data => data.metrics.durationMs / 1000)
      m.initDurationSeconds,
    .summary (fun e => (e.runtimeDone.bind (·.metrics)).map fun m => m.durationMs / 1000)
      m.invokeDurationSeconds,
    .summary (fun e => e.report.map fun data => Float.ofNat data.metrics.billedDurationMs / 1000)
      m.billedDurationSeconds,
    .maxGauge MetricsEvent.memoryUsedBytes m.memoryUsedBytes,
    .maxGauge MetricsEvent.memoryLimitBytes m.memoryLimitBytes]

/-! ## The processor updates the instruments -/

section

variable [External] {config : TelemetryProcessorConfig} {p p' : Processing InvocationProcessingState}

theorem pushFunctionLogs_metricsState (logs : List RawFunctionLog) :
    (pushFunctionLogs config logs p).metricsState = p.metricsState := by
  obtain ⟨l, records, heq, -⟩ := @pushFunctionLogs_spec p _ config logs
  rw [heq]

theorem takeLogs_metricsState : (takeLogs config p).metricsState = p.metricsState :=
  pushFunctionLogs_metricsState _

theorem stopDelayingLogs_metricsState :
    (stopDelayingLogs config p).metricsState = p.metricsState := by
  rcases @stopDelayingLogs_endsDelay p _ config with heq | ⟨l, records, heq, -⟩
  · rw [heq]
  · rw [heq]

theorem pushReportLogs_metricsState (data : PlatformReportData) :
    (pushReportLogs config data p).metricsState = p.metricsState := by
  unfold pushReportLogs
  split
  · dsimp only
    split
    · exact takeLogs_metricsState
    · exact takeLogs_metricsState
  · rfl

omit [External] in
theorem pushRuntimeDoneLog_metricsState (data : PlatformRuntimeDoneData) :
    (pushRuntimeDoneLog config data p).metricsState = p.metricsState := by
  unfold pushRuntimeDoneLog
  dsimp only
  split <;> rfl

omit [External] in
theorem emitSpansAfterReport_metricsState :
    (emitSpansAfterReport config p).metricsState = p.metricsState ∧
      (emitSpansAfterReport config p).state = p.state := by
  unfold emitSpansAfterReport
  split
  · exact ⟨rfl, rfl⟩
  · exact ⟨rfl, rfl⟩

theorem processFunctionLog_metricsState (logText : String) (time : OffsetDateTime) :
    (processFunctionLog config logText time p).metricsState = p.metricsState := by
  obtain ⟨logs, l, records, traces, heq⟩ := @processFunctionLog_frame p _ config logText time
  rw [heq]

omit [External] in
theorem processPlatformStart_metricsState (data : PlatformStartData) :
    (processPlatformStart config data p).metricsState = p.metricsState := by
  unfold processPlatformStart
  split <;> rfl

theorem processRuntimeDone_metricsState (data : PlatformRuntimeDoneData) :
    (processRuntimeDone config data p).metricsState =
      match p.metricsState with
      | .v1 m => .v1 m
      | .v2 m => .v2 (V2.updateMetricsWithRuntimeDone m data)
      | .disabled => .disabled := by
  unfold processRuntimeDone
  dsimp only
  rw [(emitSpansAfterRuntimeDone_eq).2.2]
  simp only [setRuntimeDoneData]
  rw [pushRuntimeDoneLog_metricsState, stopDelayingLogs_metricsState]
  cases p.metricsState <;> rfl

omit [External] in
/-- V1 reads the report and the runtime's end, and nothing else, of the state. -/
theorem updateMetricsAfterReport_congr (state state' : InvocationProcessingState)
    (hreport : state'.reportData = state.reportData)
    (hdone : state'.runtimeDoneData = state.runtimeDoneData) (m : V1.PlatformMetricsState) :
    V1.updateMetricsAfterReport m state' = V1.updateMetricsAfterReport m state := by
  unfold V1.updateMetricsAfterReport
  simp only [ProcessingState.getReportData, ProcessingState.getRuntimeDoneData, hreport, hdone]

theorem processReport_metricsState (data : PlatformReportData) :
    (processReport config data p).metricsState =
      match p.metricsState with
      | .v1 m => .v1 (V1.updateMetricsAfterReport m { p.state with reportData := some data })
      | .v2 m => .v2 (V2.updateMetricsWithReport m data)
      | .disabled => .disabled := by
  unfold processReport
  dsimp only
  obtain ⟨hmetrics, hstate⟩ := @emitSpansAfterReport_metricsState config
    (setReportData data (pushReportLogs config data p))
  rw [hmetrics, hstate]
  simp only [setReportData]
  rw [pushReportLogs_metricsState]
  have hdone := (@pushReportLogs_keeps p _ config data).runtimeDoneData
  cases p.metricsState with
  | disabled => rfl
  | v2 m => rfl
  | v1 m =>
    simp only [updateV2WithReport, updateV1AfterReport]
    rw [updateMetricsAfterReport_congr { p.state with reportData := some data }
      { (pushReportLogs config data p).state with reportData := some data } rfl hdone]

theorem processTelemetry_metricsState {e : MetricsEvent}
    (h : processTelemetry config e.event { p with state := e.state } = .ok p') :
    p'.metricsState = e.apply p.metricsState := by
  obtain ⟨state, event⟩ := e
  rw [processTelemetry_ok h]
  unfold processRecord
  cases hrecord : event.record with
  | function logText =>
    simp only [processFunctionLog_metricsState]
    cases p.metricsState <;> simp [MetricsEvent.apply, MetricsEvent.applyV1, MetricsEvent.applyV2,
      MetricsEvent.report, MetricsEvent.runtimeDone, MetricsEvent.initReport, hrecord]
  | platformStart =>
    simp only [processPlatformStart_metricsState]
    cases p.metricsState <;> simp [MetricsEvent.apply, MetricsEvent.applyV1, MetricsEvent.applyV2,
      MetricsEvent.report, MetricsEvent.runtimeDone, MetricsEvent.initReport, hrecord]
  | platformRuntimeDone =>
    simp only [processRuntimeDone_metricsState]
    cases p.metricsState <;> simp [MetricsEvent.apply, MetricsEvent.applyV1, MetricsEvent.applyV2,
      MetricsEvent.report, MetricsEvent.runtimeDone, MetricsEvent.initReport, hrecord]
  | platformReport =>
    simp only [processReport_metricsState]
    cases p.metricsState <;> simp [MetricsEvent.apply, MetricsEvent.applyV1, MetricsEvent.applyV2,
      MetricsEvent.report, MetricsEvent.runtimeDone, MetricsEvent.initReport, hrecord]
  | platformInitReport =>
    simp only [processInitReport]
    cases p.metricsState <;> simp [MetricsEvent.apply, MetricsEvent.applyV1, MetricsEvent.applyV2,
      MetricsEvent.report, MetricsEvent.runtimeDone, MetricsEvent.initReport, hrecord]
  | _ =>
    simp only
    cases p.metricsState <;> simp [MetricsEvent.apply, MetricsEvent.applyV1, MetricsEvent.applyV2,
      MetricsEvent.report, MetricsEvent.runtimeDone, MetricsEvent.initReport, hrecord]

end

/-! ## Both versions are groups of instruments -/

/-- The version's state behaves like its instruments: what an event and a report do to the state,
they do to each instrument, and its stamp advances with the events of one kind. -/
structure Refines {S : Type} (embed : S → PlatformMetricsState) (advance : MetricsEvent → Option Nat)
    (start latest : S → Nat) (instruments : S → List (Instrument MetricsEvent)) : Prop where
  event : ∀ m e, ∃ m', e.apply (embed m) = embed m' ∧ start m' = start m ∧
    latest m' = (advance e).getD (latest m) ∧ instruments m' = (instruments m).map (·.record e)
  report : ∀ m, ∃ m', (embed m).makeMetricsReport =
      ((instruments m).filterMap fun i => (i.report (start m) (latest m)).1, embed m') ∧
    start m' = start m ∧ latest m' = latest m ∧
    instruments m' = (instruments m).map fun i => (i.report (start m) (latest m)).2

/-- A run of the version exports what its instruments export. -/
theorem Refines.reported_eq [External] {config : TelemetryProcessorConfig} {S : Type}
    {embed : S → PlatformMetricsState} {advance : MetricsEvent → Option Nat} {start latest : S → Nat}
    {instruments : S → List (Instrument MetricsEvent)}
    (hrefines : Refines embed advance start latest instruments) {m : S} {s t : MetricsRun}
    {actions : List MetricsAction} (hm : s.processing.metricsState = embed m)
    (h : run (metricsStep config) s actions = some t) :
    t.reported = s.reported ++
      exportedMetrics advance (start m) (latest m) (instruments m) actions := by
  induction actions generalizing s m with
  | nil =>
    cases h
    simp [exportedMetrics]
  | cons a rest ih =>
    obtain ⟨s', hs', h⟩ := run_cons.1 h
    cases a with
    | event e =>
      simp only [metricsStep] at hs'
      split at hs'
      · next p' hp' =>
        cases hs'
        obtain ⟨m', happly, hstart, hlatest, hinstruments⟩ := hrefines.event m e
        have hm' : p'.metricsState = embed m' := by
          rw [processTelemetry_metricsState hp', hm, happly]
        rw [ih (s := { s with processing := p' }) hm' h, hstart, hlatest, hinstruments]
        rfl
      · cases hs'
    | report =>
      obtain ⟨m', hreport, hstart, hlatest, hinstruments⟩ := hrefines.report m
      simp only [metricsStep, hm, hreport] at hs'
      cases hs'
      rw [ih rfl h, hstart, hlatest, hinstruments, exportedMetrics, List.append_assoc]

theorem updateColdstartsMetric_eq (m : V1.PlatformMetrics) (r : ReportMetrics) :
    V1.updateColdstartsMetric m r =
      { m with
        coldstarts :=
          if r.initDurationMs.isSome ∨ r.restoreDurationMs.isSome then m.coldstarts.record 1
          else m.coldstarts } := by
  unfold V1.updateColdstartsMetric
  split <;> rfl

theorem updateExecutionsAndStatusMetrics_eq (m : V1.PlatformMetrics) (status : Status)
    (outOfMemory : Bool) :
    V1.updateExecutionsAndStatusMetrics m status outOfMemory =
      { m with
        executions := m.executions.record 1
        errors :=
          if status = .failure ∨ status = .error ∧ outOfMemory = false then m.errors.record 1
          else m.errors
        ooms :=
          if status = .error ∧ outOfMemory = true then m.ooms.record 1 else m.ooms
        timeouts := if status = .timeout then m.timeouts.record 1 else m.timeouts } := by
  unfold V1.updateExecutionsAndStatusMetrics
  cases status <;> cases outOfMemory <;> simp

theorem filterMap_id_of_map {A B : Type} {f : A → Option B} {as : List A} {bs : List (Option B)}
    (h : as.map f = bs) : bs.filterMap id = as.filterMap f := by
  rw [← h, List.filterMap_map]
  rfl

theorem v1_refines : Refines .v1 MetricsEvent.reportTime (·.startTimestampNanos)
    (·.latestDataTimestampNanos) (fun m => V1.instruments m.metrics) where
  event m e := by
    refine ⟨e.applyV1 m, rfl, ?_⟩
    unfold MetricsEvent.applyV1 MetricsEvent.reportTime
    cases hreport : e.report with
    | none => simp [V1.instruments, Instrument.record, V1.recordIfSome, hreport]
    | some data =>
      refine ⟨rfl, rfl, ?_⟩
      simp only [V1.updateMetricsAfterReport, ProcessingState.getReportData,
        ProcessingState.getRuntimeDoneData, V1.updateMetricsTimestamp, V1.updateMemoryMetrics,
        V1.updateResultSizeMetric, V1.updateDurationMetrics, updateExecutionsAndStatusMetrics_eq,
        updateColdstartsMetric_eq]
      simp [V1.instruments, Instrument.record, MetricsEvent.runtimeMetrics, hreport]
      rfl
  report m := by
    refine ⟨(V1.makeMetricsReport m).2, ?_, rfl, rfl, rfl⟩
    refine Prod.ext ?_ rfl
    exact @filterMap_id_of_map _ _
      (fun i => (i.report m.startTimestampNanos m.latestDataTimestampNanos).1)
      (V1.instruments m.metrics) _ rfl

theorem v2_refines : Refines .v2 MetricsEvent.runtimeDoneTime (·.startTimestampNanos)
    (·.latestDataTimestampNanos) (fun m => V2.instruments m.metrics) where
  event m e := by
    obtain ⟨state, event⟩ := e
    refine ⟨MetricsEvent.applyV2 ⟨state, event⟩ m, rfl, ?_⟩
    cases hrecord : event.record with
    | platformInitReport =>
      simp [MetricsEvent.applyV2, MetricsEvent.initReport, MetricsEvent.runtimeDone,
        MetricsEvent.report, MetricsEvent.runtimeDoneTime, MetricsEvent.memoryUsedBytes,
        MetricsEvent.memoryLimitBytes, hrecord,
        V2.updateMetricsWithInitReport, V2.instruments, Instrument.record, V1.recordIfSome]
    | platformReport =>
      simp [MetricsEvent.applyV2, MetricsEvent.initReport, MetricsEvent.runtimeDone,
        MetricsEvent.report, MetricsEvent.runtimeDoneTime, MetricsEvent.memoryUsedBytes,
        MetricsEvent.memoryLimitBytes, hrecord,
        V2.updateMetricsWithReport, V2.instruments, Instrument.record, V1.recordIfSome]
    | platformRuntimeDone requestId status errorType metrics =>
      cases status <;> cases metrics <;>
      simp [MetricsEvent.applyV2, MetricsEvent.initReport, MetricsEvent.runtimeDone,
        MetricsEvent.report, MetricsEvent.runtimeDoneTime, MetricsEvent.memoryUsedBytes,
        MetricsEvent.memoryLimitBytes, hrecord,
        V2.updateMetricsWithRuntimeDone, V2.instruments, Instrument.record, V1.recordIfSome]
    | _ =>
      simp [MetricsEvent.applyV2, MetricsEvent.initReport, MetricsEvent.runtimeDone,
        MetricsEvent.report, MetricsEvent.runtimeDoneTime, MetricsEvent.memoryUsedBytes,
        MetricsEvent.memoryLimitBytes, hrecord,
        V2.instruments, Instrument.record, V1.recordIfSome]
  report m := by
    refine ⟨(V2.makeMetricsReport m).2, ?_, rfl, rfl, rfl⟩
    refine Prod.ext ?_ rfl
    exact @filterMap_id_of_map _ _
      (fun i => (i.report m.startTimestampNanos m.latestDataTimestampNanos).1)
      (V2.instruments m.metrics) _ rfl

theorem disabled_refines : Refines (fun _ : Unit => .disabled) (fun _ => none) (fun _ => 0)
    (fun _ => 0) (fun _ => []) where
  event m _ := ⟨m, rfl, rfl, rfl, rfl⟩
  report m := ⟨m, rfl, rfl, rfl, rfl⟩

/-! ## Times -/

/-- The times of the events. -/
def eventTimes (actions : List MetricsAction) : List Int := collect (fun e => some e.event.nanos) actions

/-- The events have strictly increasing times, later than 35 s after the epoch and such that no
comparison of the instruments overflows. -/
structure TimesInOrder (actions : List MetricsAction) : Prop where
  increasing : (eventTimes actions).Pairwise (· < ·)
  inRange : ∀ t ∈ eventTimes actions,
    maxTimeBetweenDataNanos < t ∧ t + maxTimeBetweenDataNanos < UInt64.size

theorem asU64_of_inRange {t : Int}
    (h : maxTimeBetweenDataNanos < t ∧ t + maxTimeBetweenDataNanos < UInt64.size) :
    (asU64 t : Int) = t ∧ InRange (asU64 t) := by
  have heq : (asU64 t : Int) = t := by
    unfold asU64
    rw [Int.emod_eq_of_lt (by omega) (by omega)]
    omega
  refine ⟨heq, ?_⟩
  unfold InRange
  omega

section

variable {advance : MetricsEvent → Option Nat}
  (hadvance : ∀ e s, advance e = some s → s = asU64 e.event.nanos)

include hadvance

theorem mem_eventTimes_of_advance {actions : List MetricsAction} {s : Nat}
    (hs : s ∈ collect advance actions) : ∃ t ∈ eventTimes actions, s = asU64 t := by
  obtain ⟨e, he, hs⟩ := mem_collect.1 hs
  exact ⟨e.event.nanos, mem_collect.2 ⟨e, he, rfl⟩, hadvance e s hs⟩

theorem TimesInOrder.stamps {actions : List MetricsAction} (h : TimesInOrder actions) :
    (collect advance actions).Pairwise (· < ·) ∧ ∀ s ∈ collect advance actions, InRange s := by
  constructor
  · obtain ⟨hincreasing, hrange⟩ := h
    induction actions with
    | nil => exact .nil
    | cons a rest ih =>
      cases a with
      | report => exact ih hincreasing hrange
      | event e =>
        simp only [eventTimes, collect, Option.toList_some, List.cons_append, List.nil_append,
          List.pairwise_cons, List.forall_mem_cons] at hincreasing hrange
        rw [collect, List.pairwise_append]
        refine ⟨by cases advance e <;> simp, ih hincreasing.2 hrange.2, fun s hs s' hs' => ?_⟩
        obtain rfl := hadvance e s (by simpa using hs)
        obtain ⟨t, ht, rfl⟩ := mem_eventTimes_of_advance hadvance hs'
        have hlt := hincreasing.1 t ht
        have h₁ := (asU64_of_inRange hrange.1).1
        have h₂ := (asU64_of_inRange (hrange.2 t ht)).1
        omega
  · intro s hs
    obtain ⟨t, ht, rfl⟩ := mem_eventTimes_of_advance hadvance hs
    exact (asU64_of_inRange (h.inRange t ht)).2

end

theorem MetricsEvent.reportTime_eq (e : MetricsEvent) (s : Nat) (h : e.reportTime = some s) :
    s = asU64 e.event.nanos := by
  simp only [reportTime, report, Option.map_eq_some_iff] at h
  obtain ⟨data, hdata, rfl⟩ := h
  split at hdata
  · cases hdata
    rfl
  · cases hdata

theorem MetricsEvent.runtimeDoneTime_eq (e : MetricsEvent) (s : Nat)
    (h : e.runtimeDoneTime = some s) : s = asU64 e.event.nanos := by
  simp only [runtimeDoneTime, runtimeDone, Option.map_eq_some_iff] at h
  obtain ⟨data, hdata, rfl⟩ := h
  split at hdata
  · cases hdata
    rfl
  · cases hdata

/-! ## When the time series are proper -/

/-- Every event that updates the instrument advances the stamp. -/
def Instrument.CoveredBy {E : Type} (advance : E → Option Nat) : Instrument E → Prop
  | .counter counts _ => ∀ e, counts e = true → (advance e).isSome = true
  | .summary value _ => ∀ e, (value e).isSome = true → (advance e).isSome = true
  | .maxGauge value _ => ∀ e, (value e).isSome = true → (advance e).isSome = true

theorem Instrument.CoveredBy.proper {E : Type} {advance : E → Option Nat} {i : Instrument E}
    (hcovered : i.CoveredBy advance) {t : Nat} {actions : List (Series.Action E)}
    (hincreasing : (collect advance actions).Pairwise (· < ·)) : i.Proper advance t actions := by
  cases i with
  | counter counts c => exact freshStamps_increasing hcovered hincreasing nofun
  | summary value s => exact freshStamps_increasing hcovered hincreasing nofun
  | maxGauge value g => exact settled_of_covers hcovered hincreasing

/-- V1 updates all its instruments, and the stamp, with the report. -/
theorem V1.coveredBy {m : V1.PlatformMetrics} {i : Instrument MetricsEvent}
    (hi : i ∈ V1.instruments m) : i.CoveredBy MetricsEvent.reportTime := by
  simp only [V1.instruments, List.mem_cons, List.not_mem_nil, or_false] at hi
  rcases hi with rfl | rfl | rfl | rfl | rfl | rfl | rfl | rfl | rfl | rfl | rfl | rfl
  all_goals
    intro e he
    cases hreport : e.report <;> simp_all [MetricsEvent.reportTime]

/-- The runs for which V2 makes proper time series. The stamp of a metrics report is the time of the
last `PlatformRuntimeDone` before it. Metrics reports that are the first after a
`PlatformInitReport` have increasing stamps, and so have those that are the first after a
`PlatformReport`; once there has been a `PlatformReport`, none between two metrics reports with one
stamp raises the highest memory usage or the memory limit. -/
structure V2Separated (start : Nat) (actions : List MetricsAction) : Prop where
  initReports : (freshStamps MetricsEvent.runtimeDoneTime (fun e => e.initReport.isSome) start false
    actions).Pairwise (· < ·)
  reports : (freshStamps MetricsEvent.runtimeDoneTime (fun e => e.report.isSome) start false
    actions).Pairwise (· < ·)
  memoryUsed : Settled MetricsEvent.runtimeDoneTime MetricsEvent.memoryUsedBytes start actions
  memoryLimit : Settled MetricsEvent.runtimeDoneTime MetricsEvent.memoryLimitBytes start actions

theorem V2.proper_iff {m : V2.PlatformMetrics} {start : Nat} {actions : List MetricsAction}
    (hincreasing : (collect MetricsEvent.runtimeDoneTime actions).Pairwise (· < ·)) :
    (∀ i ∈ V2.instruments m, i.Proper MetricsEvent.runtimeDoneTime start actions) ↔
      V2Separated start actions := by
  simp only [V2.instruments, List.forall_mem_cons, List.not_mem_nil, false_implies, implies_true,
    and_true]
  constructor
  · rintro ⟨-, -, -, hinit, -, hbilled, hused, hlimit⟩
    refine ⟨?_, ?_, hused, hlimit⟩
    · simpa only [Instrument.Proper, Option.isSome_map] using hinit
    · simpa only [Instrument.Proper, Option.isSome_map] using hbilled
  · intro h
    have hcovered {i : Instrument MetricsEvent} (hi : i.CoveredBy MetricsEvent.runtimeDoneTime) :=
      hi.proper (t := start) hincreasing
    refine ⟨hcovered fun e he => ?_, ?_, hcovered fun e he => ?_, ?_, hcovered fun e he => ?_, ?_,
      h.memoryUsed, h.memoryLimit⟩
    · cases hdone : e.runtimeDone <;> simp_all [MetricsEvent.runtimeDoneTime]
    · -- the reports that count an out-of-memory error are some of all reports
      refine h.reports.sublist (freshStamps_sublist (fun e he => ?_) id actions)
      cases hreport : e.report <;> simp_all
    · cases hdone : e.runtimeDone <;> simp_all [MetricsEvent.runtimeDoneTime]
    · simpa only [Instrument.Proper, Option.isSome_map] using h.initReports
    · cases hdone : e.runtimeDone <;> simp_all [MetricsEvent.runtimeDoneTime]
    · simpa only [Instrument.Proper, Option.isSome_map] using h.reports

section

variable [External] {config : TelemetryProcessorConfig} {p : Processing InvocationProcessingState}
  {start : Nat} {actions : List MetricsAction} {s : MetricsRun}

theorem properSeries_of_v1 (hstart : InRange start) (htimes : TimesInOrder actions)
    (hrun : run (metricsStep config) { processing := { p with metricsState := .v1 (.new start) } }
      actions = some s) (name : String) : ProperSeries (readingsNamed name s.reported) := by
  obtain ⟨hincreasing, hrange⟩ := htimes.stamps MetricsEvent.reportTime_eq
  rw [v1_refines.reported_eq rfl hrun, List.nil_append]
  refine (properSeries_exportedMetrics_iff ?_ ?_ hstart hrange).2
    (fun i hi => (V1.coveredBy hi).proper hincreasing) name
  · simp [V1.instruments, V1.PlatformMetricsState.new, V1.PlatformMetrics.default, Instrument.IsNew]
  · simp [V1.instruments, V1.PlatformMetricsState.new, V1.PlatformMetrics.default, Instrument.name]

theorem properSeries_v2_iff (hstart : InRange start) (htimes : TimesInOrder actions)
    (hrun : run (metricsStep config) { processing := { p with metricsState := .v2 (.new start) } }
      actions = some s) :
    (∀ name, ProperSeries (readingsNamed name s.reported)) ↔ V2Separated start actions := by
  obtain ⟨hincreasing, hrange⟩ := htimes.stamps MetricsEvent.runtimeDoneTime_eq
  rw [v2_refines.reported_eq rfl hrun, List.nil_append]
  refine (properSeries_exportedMetrics_iff ?_ ?_ hstart hrange).trans (V2.proper_iff hincreasing)
  · simp [V2.instruments, V2.PlatformMetricsState.new, V2.PlatformMetrics.default, Instrument.IsNew]
  · simp [V2.instruments, V2.PlatformMetricsState.new, V2.PlatformMetrics.default, Instrument.name]

theorem properSeries_of_disabled
    (hrun : run (metricsStep config) { processing := { p with metricsState := .disabled } } actions =
      some s) (name : String) : ProperSeries (readingsNamed name s.reported) := by
  have hempty (actions : List MetricsAction) (t : Nat) :
      exportedMetrics (fun _ => none) 0 t ([] : List (Instrument MetricsEvent)) actions = [] := by
    induction actions with
    | nil => rfl
    | cons a rest ih => cases a <;> exact ih
  rw [disabled_refines.reported_eq (m := ()) rfl hrun, hempty]
  exact ⟨.nil, .nil⟩

/-- The platform metrics of a run are proper time series, except in V2 for the runs that are not
`V2Separated`. -/
theorem platform_metrics_proper_iff {mode : PlatformMetricsMode} (hstart : InRange start)
    (htimes : TimesInOrder actions)
    (hrun : run (metricsStep config)
      { processing := { p with metricsState := .forMode start mode } } actions = some s) :
    (∀ name, ProperSeries (readingsNamed name s.reported)) ↔
      (mode = .platformV2 → V2Separated start actions) := by
  cases mode with
  | disabled => exact ⟨fun _ hmode => (by cases hmode), fun _ => properSeries_of_disabled hrun⟩
  | platformReport =>
    exact ⟨fun _ hmode => (by cases hmode), fun _ => properSeries_of_v1 hstart htimes hrun⟩
  | platformV2 =>
    rw [properSeries_v2_iff hstart htimes hrun]
    exact ⟨fun h _ => h, fun h => h rfl⟩

/-- A run whose times are in order does not fail. -/
theorem exists_metricsRun (htimes : TimesInOrder actions) (r : MetricsRun) :
    ∃ s, run (metricsStep config) r actions = some s := by
  obtain ⟨-, hrange⟩ := htimes
  induction actions generalizing r with
  | nil => exact ⟨r, rfl⟩
  | cons a rest ih =>
    cases a with
    | report =>
      obtain ⟨s, hs⟩ := ih _ hrange
      exact ⟨s, run_cons.2 ⟨_, rfl, hs⟩⟩
    | event e =>
      simp only [eventTimes, collect, Option.toList_some, List.cons_append, List.nil_append,
        List.forall_mem_cons] at hrange
      have htime : eventTimestamp e.event = .ok e.event.nanos := by
        have hnanos := hrange.1
        have hsize : (UInt64.size : Int) = 18446744073709551616 := rfl
        unfold LambdaTelemetry.nanos at hnanos
        unfold eventTimestamp fromUnixTimestampNanos
        rw [if_pos ⟨by omega, by omega⟩]
        rfl
      obtain ⟨s, hs⟩ := ih { r with
        processing := processRecord config e.event.nanos e.event.record
          { r.processing with state := e.state } } hrange.2
      refine ⟨s, run_cons.2 ⟨_, ?_, hs⟩⟩
      simp only [metricsStep, processTelemetry, htime]

end

/-! ## A report between two sends -/

/-- The state of an invocation, and what it is processed with. -/
def sampleProcessing : Processing InvocationProcessingState where
  state :=
    { serial := 0
      functionContext := sampleContext
      invocationContext := ⟨sampleContext.arn, "r1", [], [], false⟩
      rootSpanId := []
      delayingLogs := false
      tracingState := { shouldProduceSpans := false } }
  metricsState := .disabled
  outputBuffers := {}
  rng := 0

/-- A `PlatformReport` with a memory usage. -/
def sampleMemoryReport (timestampMillis : Int) (requestId : String) (maxMemoryUsedMb : Nat) :
    LambdaTelemetry :=
  ⟨timestampMillis,
    .platformReport requestId .success none ⟨1, 1, 128, maxMemoryUsedMb, none, none⟩ [] none⟩

/-- Two invocations. The report of the second one comes after the metrics have been sent with the
stamp of its `PlatformRuntimeDone`, and before they are sent again. -/
def lateReportActions (maxMemoryUsedMb : Nat) : List MetricsAction :=
  let event (e : LambdaTelemetry) : MetricsAction := .event ⟨sampleProcessing.state, e⟩
  [event (sampleRuntimeDone 100000 "r1"), event (sampleMemoryReport 100001 "r1" 64), .report,
    event (sampleRuntimeDone 100002 "r2"), .report,
    event (sampleMemoryReport 100003 "r2" maxMemoryUsedMb), .report]

theorem timesInOrder_lateReportActions (maxMemoryUsedMb : Nat) :
    TimesInOrder (lateReportActions maxMemoryUsedMb) := by
  have htimes : eventTimes (lateReportActions maxMemoryUsedMb) =
      [100000000000, 100001000000, 100002000000, 100003000000] := rfl
  constructor
  · rw [htimes]
    decide
  · rw [htimes]
    decide

theorem inRange_sampleStart : InRange 99000000000 := by
  unfold InRange maxTimeBetweenDataNanos UInt64.size
  omega

/-- The late report does not raise the highest memory usage. -/
theorem v2Separated_lateReportActions : V2Separated 99000000000 (lateReportActions 64) where
  initReports := by decide
  reports := by decide
  memoryUsed := settled_of_constant (x := V2.bytesOfMb 64) (by decide)
  memoryLimit := settled_of_constant (x := V2.bytesOfMb 128) (by decide)

theorem platform_metrics_proper_iff_v2 :
    ∃ s, run (@metricsStep sampleExternal (sampleConfig .lowOverhead .disabled).processorConfig)
        { processing := { sampleProcessing with
            metricsState := .forMode 99000000000 .platformV2 } } (lateReportActions 64) = some s ∧
      (readingsNamed "faas.mem_usage_bytes" s.reported).length = 3 ∧
      ∀ name, ProperSeries (readingsNamed name s.reported) := by
  obtain ⟨s, hrun⟩ := @exists_metricsRun sampleExternal
    (sampleConfig .lowOverhead .disabled).processorConfig (lateReportActions 64)
    (timesInOrder_lateReportActions 64)
    { processing := { sampleProcessing with metricsState := .forMode 99000000000 .platformV2 } }
  refine ⟨s, hrun, ?_, (@platform_metrics_proper_iff sampleExternal _ _ _ _ _ _ inRange_sampleStart
    (timesInOrder_lateReportActions 64) hrun).2 fun _ => v2Separated_lateReportActions⟩
  cases hrun
  decide +kernel

/-- In V2 the two sends give the highest memory usage two values with one time. -/
theorem late_report_conflicts :
    InRange 99000000000 ∧ TimesInOrder (lateReportActions 65) ∧
      ∃ s, run (@metricsStep sampleExternal (sampleConfig .lowOverhead .disabled).processorConfig)
          { processing := { sampleProcessing with metricsState := .forMode 99000000000 .platformV2 } }
          (lateReportActions 65) = some s ∧
        ¬ ∀ name, ProperSeries (readingsNamed name s.reported) := by
  obtain ⟨s, hrun⟩ := @exists_metricsRun sampleExternal
    (sampleConfig .lowOverhead .disabled).processorConfig (lateReportActions 65)
    (timesInOrder_lateReportActions 65)
    { processing := { sampleProcessing with metricsState := .forMode 99000000000 .platformV2 } }
  refine ⟨inRange_sampleStart, timesInOrder_lateReportActions 65, s, hrun, fun h => ?_⟩
  have hseparated := (@properSeries_v2_iff sampleExternal _ _ _ _ _ inRange_sampleStart
    (timesInOrder_lateReportActions 65) hrun).1 h
  obtain ⟨w, hw, hle⟩ := hseparated.memoryUsed ((lateReportActions 65).take 4)
    (((lateReportActions 65).drop 5).take 1) [] rfl (by decide) (by decide) (V2.bytesOfMb 65) (by decide)
  revert w
  decide

end TelemetryExporter
