import TelemetryExporter.Model.LogProcessor

/-!
# Platform metrics

`platform_metrics/instruments.rs`, `v1.rs`, `v2.rs` and `mod.rs`. A count is an unbounded integer:
it grows by one for each event, so an overflow would take `2 ^ 63` of them.
-/

namespace TelemetryExporter

/-- `MAX_TIME_BETWEEN_DATA_NANOS`. -/
def maxTimeBetweenDataNanos : Nat := 35000000000

/-- `REPORT_LAST_TIME_NANOS`. -/
def reportLastTimeNanos : Nat := 30000000000

/-! ## `instruments.rs` -/

/-- `Descriptor`. -/
structure Descriptor where
  name : String
  description : String
  unit : String

/-- A metric of the descriptor. -/
def Descriptor.metric (d : Descriptor) (data : MetricData) : Metric :=
  { name := d.name, description := d.description, unit := d.unit, data := some data }

/-- `Counter`. -/
structure Counter where
  descriptor : Descriptor
  count : Int := 0
  lastCount : Int := 0
  lastReportTimestampNanos : Nat := 0

namespace Counter

/-- `Counter::record`. -/
def record (c : Counter) (value : Int) : Counter := { c with count := c.count + value }

/-- A point of a counter. -/
def point (start time : Nat) (count : Int) : NumberDataPoint :=
  { attributes := []
    startTimeUnixNano := start
    timeUnixNano := time
    value := some (.asInt count) }

/-- The data points of `Counter::report`, when there is something to report. -/
def points (c : Counter) (start timestamp : Nat) : List NumberDataPoint :=
  (if wrappingAdd c.lastReportTimestampNanos maxTimeBetweenDataNanos < timestamp then
    [point start (wrappingSub timestamp reportLastTimeNanos) c.lastCount] else []) ++
    [point start timestamp c.count]

/-- `Counter::report`. -/
def report (c : Counter) (start timestamp : Nat) : Option Metric × Counter :=
  if c.count ≠ c.lastCount then
    (some (c.descriptor.metric (.sum
        { dataPoints := c.points start timestamp
          aggregationTemporality := cumulative
          isMonotonic := true })),
      { c with lastCount := c.count, lastReportTimestampNanos := timestamp })
  else (none, c)

end Counter

/-- `Summary`. -/
structure Summary where
  descriptor : Descriptor
  sum : Float := 0
  count : Nat := 0
  lastSum : Float := 0
  lastCount : Nat := 0
  lastReportTimestampNanos : Nat := 0

namespace Summary

/-- `Summary::record`. -/
def record (s : Summary) (value : Float) : Summary :=
  { s with sum := s.sum + value, count := s.count + 1 }

/-- A point of a summary. -/
def point (start time count : Nat) (sum : Float) : SummaryDataPoint :=
  { attributes := []
    startTimeUnixNano := start
    timeUnixNano := time
    count
    sum
    quantileValues := [] }

/-- The data points of `Summary::report`, when there is something to report. -/
def points (s : Summary) (start timestamp : Nat) : List SummaryDataPoint :=
  (if wrappingAdd s.lastReportTimestampNanos maxTimeBetweenDataNanos < timestamp then
    [point start (wrappingSub timestamp reportLastTimeNanos) s.lastCount s.lastSum] else []) ++
    [point start timestamp s.count s.sum]

/-- `Summary::report`. -/
def report (s : Summary) (start timestamp : Nat) : Option Metric × Summary :=
  if s.count ≠ s.lastCount then
    (some (s.descriptor.metric (.summary (s.points start timestamp))),
      { s with
        lastSum := s.sum, lastCount := s.count, lastReportTimestampNanos := timestamp })
  else (none, s)

end Summary

/-- `MaxGauge`. -/
structure MaxGauge where
  descriptor : Descriptor
  max : Option Int := none

namespace MaxGauge

/-- `MaxGauge::record`. -/
def record (g : MaxGauge) (value : Int) : MaxGauge :=
  { g with
    max := match g.max with
      | some current => some (Max.max current value)
      | none => some value }

/-- `MaxGauge::report`: reported always, and without the previous value. -/
def report (g : MaxGauge) (start timestamp : Nat) : Option Metric :=
  g.max.map fun value => g.descriptor.metric (.gauge
    [{ attributes := []
       startTimeUnixNano := start
       timeUnixNano := timestamp
       value := some (.asInt value) }])

end MaxGauge

/-! ## `v1.rs` -/

namespace V1

/-- `v1::PlatformMetrics`. -/
structure PlatformMetrics where
  coldstarts : Counter
  executions : Counter
  errors : Counter
  ooms : Counter
  timeouts : Counter
  initDurationMillis : Summary
  restoreDurationMillis : Summary
  invokeDurationMillis : Summary
  overheadDurationMillis : Summary
  resultSizeBytes : Summary
  maxMemoryUsedMb : MaxGauge
  memorySizeMb : MaxGauge

/-- `v1::PlatformMetrics::default`. -/
def PlatformMetrics.default : PlatformMetrics where
  coldstarts := ⟨⟨"faas.coldstarts", "Number of coldstarts", ""⟩, 0, 0, 0⟩
  executions := ⟨⟨"faas.executions", "Number of executions", ""⟩, 0, 0, 0⟩
  errors := ⟨⟨"faas.errors", "Number of errors", ""⟩, 0, 0, 0⟩
  ooms := ⟨⟨"faas.ooms", "Number of Out of Memory errors", ""⟩, 0, 0, 0⟩
  timeouts := ⟨⟨"faas.timeouts", "Number of timeouts", ""⟩, 0, 0, 0⟩
  initDurationMillis :=
    { descriptor := ⟨"faas.init_duration",
        "Duration of Lambda execution environment initialization", "ms"⟩ }
  restoreDurationMillis :=
    { descriptor := ⟨"faas.restore_duration",
        "Duration of Lambda execution environment restoration", "ms"⟩ }
  invokeDurationMillis :=
    { descriptor := ⟨"faas.invoke_duration",
        "Duration of Lambda function code execution", "ms"⟩ }
  overheadDurationMillis :=
    { descriptor := ⟨"faas.overhead_duration",
        "Duration of Lambda extension code execution after Lambda function code execution finished",
        "ms"⟩ }
  resultSizeBytes :=
    { descriptor := ⟨"faas.result_size", "Size of result produced by Lambda Function", "B"⟩ }
  maxMemoryUsedMb :=
    { descriptor := ⟨"faas.mem_usage",
        "Largest amount of memory used by the lambda function (and lambda extensions)", "MB"⟩ }
  memorySizeMb :=
    { descriptor := ⟨"faas.mem_limit", "Size of memory configured for the lambda function", "MB"⟩ }

/-- `v1::PlatformMetricsState`. -/
structure PlatformMetricsState where
  startTimestampNanos : Nat
  latestDataTimestampNanos : Nat
  metrics : PlatformMetrics

/-- `v1::PlatformMetricsState::new`, at the given time. -/
def PlatformMetricsState.new (now : Nat) : PlatformMetricsState :=
  { startTimestampNanos := now, latestDataTimestampNanos := now, metrics := .default }

/-- `update_coldstarts_metric`. -/
def updateColdstartsMetric (metrics : PlatformMetrics) (reportMetrics : ReportMetrics) :
    PlatformMetrics :=
  if reportMetrics.initDurationMs.isSome ∨ reportMetrics.restoreDurationMs.isSome then
    { metrics with coldstarts := metrics.coldstarts.record 1 }
  else metrics

/-- `update_executions_and_status_metrics`. -/
def updateExecutionsAndStatusMetrics (metrics : PlatformMetrics) (status : Status)
    (outOfMemory : Bool) : PlatformMetrics :=
  let metrics := { metrics with executions := metrics.executions.record 1 }
  match status with
  | .success => metrics
  | .error =>
    if outOfMemory then { metrics with ooms := metrics.ooms.record 1 }
    else { metrics with errors := metrics.errors.record 1 }
  | .failure => { metrics with errors := metrics.errors.record 1 }
  | .timeout => { metrics with timeouts := metrics.timeouts.record 1 }

/-- `if let Some(d) = value { summary.record(d) }`. -/
def recordIfSome (s : Summary) (value : Option Float) : Summary :=
  match value with
  | some d => s.record d
  | none => s

/-- `update_duration_metrics`. -/
def updateDurationMetrics (metrics : PlatformMetrics) (runtimeMetrics : Option RuntimeDoneMetrics)
    (reportMetrics : ReportMetrics) : PlatformMetrics :=
  { metrics with
    initDurationMillis := recordIfSome metrics.initDurationMillis reportMetrics.initDurationMs
    restoreDurationMillis :=
      recordIfSome metrics.restoreDurationMillis reportMetrics.restoreDurationMs
    invokeDurationMillis :=
      recordIfSome metrics.invokeDurationMillis (runtimeMetrics.map (·.durationMs))
    overheadDurationMillis := metrics.overheadDurationMillis.record
      (reportMetrics.durationMs - (runtimeMetrics.map (·.durationMs)).getD 0) }

/-- `update_result_size_metric`. -/
def updateResultSizeMetric (metrics : PlatformMetrics)
    (runtimeMetrics : Option RuntimeDoneMetrics) : PlatformMetrics :=
  { metrics with
    resultSizeBytes := recordIfSome metrics.resultSizeBytes
      ((runtimeMetrics.bind (·.producedBytes)).map Float.ofNat) }

/-- `update_memory_metrics`. -/
def updateMemoryMetrics (metrics : PlatformMetrics) (reportMetrics : ReportMetrics) :
    PlatformMetrics :=
  { metrics with
    maxMemoryUsedMb := metrics.maxMemoryUsedMb.record (asI64 reportMetrics.maxMemoryUsedMb)
    memorySizeMb := metrics.memorySizeMb.record (asI64 reportMetrics.memorySizeMb) }

/-- `update_metrics_timestamp`. -/
def updateMetricsTimestamp (metricsState : PlatformMetricsState) (timestamp : OffsetDateTime) :
    PlatformMetricsState :=
  { metricsState with latestDataTimestampNanos := asU64 timestamp }

/-- `update_metrics_after_report`. Without report data the source panics; it is only called right
after the report data has been set. -/
def updateMetricsAfterReport {S : Type} [ProcessingState S] (metricsState : PlatformMetricsState)
    (state : S) : PlatformMetricsState :=
  match ProcessingState.getReportData state with
  | none => metricsState
  | some reportData =>
    let runtimeMetrics := (ProcessingState.getRuntimeDoneData state).bind (·.metrics)
    let metrics := updateColdstartsMetric metricsState.metrics reportData.metrics
    let metrics :=
      updateExecutionsAndStatusMetrics metrics reportData.status (isOutOfMemory reportData)
    let metrics := updateDurationMetrics metrics runtimeMetrics reportData.metrics
    let metrics := updateResultSizeMetric metrics runtimeMetrics
    let metrics := updateMemoryMetrics metrics reportData.metrics
    updateMetricsTimestamp { metricsState with metrics } reportData.time

/-- `v1::make_metrics_report`. -/
def makeMetricsReport (state : PlatformMetricsState) : List Metric × PlatformMetricsState :=
  let counter (c : Counter) := c.report state.startTimestampNanos state.latestDataTimestampNanos
  let summary (s : Summary) := s.report state.startTimestampNanos state.latestDataTimestampNanos
  let maxGauge (g : MaxGauge) := g.report state.startTimestampNanos state.latestDataTimestampNanos
  let m := state.metrics
  let counters := [(counter m.coldstarts).1, (counter m.executions).1, (counter m.errors).1,
    (counter m.ooms).1, (counter m.timeouts).1]
  let summaries := [(summary m.initDurationMillis).1, (summary m.restoreDurationMillis).1,
    (summary m.invokeDurationMillis).1, (summary m.overheadDurationMillis).1,
    (summary m.resultSizeBytes).1]
  let maxes := [maxGauge m.maxMemoryUsedMb, maxGauge m.memorySizeMb]
  ((counters ++ summaries ++ maxes).filterMap id,
    { state with
      metrics :=
        { m with
          coldstarts := (counter m.coldstarts).2
          executions := (counter m.executions).2
          errors := (counter m.errors).2
          ooms := (counter m.ooms).2
          timeouts := (counter m.timeouts).2
          initDurationMillis := (summary m.initDurationMillis).2
          restoreDurationMillis := (summary m.restoreDurationMillis).2
          invokeDurationMillis := (summary m.invokeDurationMillis).2
          overheadDurationMillis := (summary m.overheadDurationMillis).2
          resultSizeBytes := (summary m.resultSizeBytes).2 } })

end V1

/-! ## `v2.rs` -/

namespace V2

/-- `v2::PlatformMetrics`. -/
structure PlatformMetrics where
  initDurationSeconds : Summary
  errors : Counter
  timeouts : Counter
  invokeDurationSeconds : Summary
  probableOoms : Counter
  billedDurationSeconds : Summary
  memoryUsedBytes : MaxGauge
  memoryLimitBytes : MaxGauge

/-- `v2::PlatformMetrics::default`. -/
def PlatformMetrics.default : PlatformMetrics where
  initDurationSeconds :=
    { descriptor := ⟨"faas.init_duration_seconds",
        "Duration of Lambda execution environment initialization", ""⟩ }
  errors := ⟨⟨"faas.errors", "Number of errors", ""⟩, 0, 0, 0⟩
  timeouts := ⟨⟨"faas.timeouts", "Number of timeouts", ""⟩, 0, 0, 0⟩
  invokeDurationSeconds :=
    { descriptor := ⟨"faas.invoke_duration_seconds",
        "Duration of Lambda function code execution", ""⟩ }
  probableOoms :=
    ⟨⟨"faas.probable_ooms",
      "Number of Errors, that are likely to have been caused by running out of memory", ""⟩, 0, 0, 0⟩
  billedDurationSeconds :=
    { descriptor := ⟨"faas.billed_duration_seconds",
        "Duration of Lambda function execution that is billed", ""⟩ }
  memoryUsedBytes :=
    { descriptor := ⟨"faas.mem_usage_bytes",
        "Largest amount of memory used by the lambda function (and lambda extensions)", ""⟩ }
  memoryLimitBytes :=
    { descriptor := ⟨"faas.mem_limit_bytes",
        "Size of memory configured for the lambda function", ""⟩ }

/-- `v2::PlatformMetricsState`. -/
structure PlatformMetricsState where
  startTimestampNanos : Nat
  latestDataTimestampNanos : Nat
  metrics : PlatformMetrics

/-- `v2::PlatformMetricsState::new`, at the given time. -/
def PlatformMetricsState.new (now : Nat) : PlatformMetricsState :=
  { startTimestampNanos := now, latestDataTimestampNanos := now, metrics := .default }

/-- `update_metrics_with_init_report`. -/
def updateMetricsWithInitReport (metricsState : PlatformMetricsState)
    (initReport : PlatformInitReportData) : PlatformMetricsState :=
  let metrics := metricsState.metrics
  { metricsState with
    metrics :=
      { metrics with
        initDurationSeconds :=
          metrics.initDurationSeconds.record (initReport.metrics.durationMs / 1000) } }

/-- `update_metrics_with_runtime_done`. -/
def updateMetricsWithRuntimeDone (metricsState : PlatformMetricsState)
    (runtimeDone : PlatformRuntimeDoneData) : PlatformMetricsState :=
  let metrics := metricsState.metrics
  let metrics :=
    match runtimeDone.metrics with
    | some m =>
      { metrics with
        invokeDurationSeconds := metrics.invokeDurationSeconds.record (m.durationMs / 1000) }
    | none => metrics
  let metrics :=
    match runtimeDone.status with
    | .success => metrics
    | .error => { metrics with errors := metrics.errors.record 1 }
    | .failure => { metrics with errors := metrics.errors.record 1 }
    | .timeout => { metrics with timeouts := metrics.timeouts.record 1 }
  { metricsState with metrics, latestDataTimestampNanos := asU64 runtimeDone.time }

/-- `mb as i64 * 1024 * 1024`. -/
def bytesOfMb (mb : Nat) : Int := asI64 (asI64 (asI64 mb * 1024) * 1024)

/-- `update_metrics_with_report`. -/
def updateMetricsWithReport (metricsState : PlatformMetricsState) (report : PlatformReportData) :
    PlatformMetricsState :=
  let metrics := metricsState.metrics
  { metricsState with
    metrics :=
      { metrics with
        memoryUsedBytes := metrics.memoryUsedBytes.record (bytesOfMb report.metrics.maxMemoryUsedMb)
        memoryLimitBytes := metrics.memoryLimitBytes.record (bytesOfMb report.metrics.memorySizeMb)
        billedDurationSeconds := metrics.billedDurationSeconds.record
          (Float.ofNat report.metrics.billedDurationMs / 1000)
        probableOoms :=
          if report.status = .error ∧ isOutOfMemory report then metrics.probableOoms.record 1
          else metrics.probableOoms } }

/-- `v2::make_metrics_report`. -/
def makeMetricsReport (state : PlatformMetricsState) : List Metric × PlatformMetricsState :=
  let counter (c : Counter) := c.report state.startTimestampNanos state.latestDataTimestampNanos
  let summary (s : Summary) := s.report state.startTimestampNanos state.latestDataTimestampNanos
  let maxGauge (g : MaxGauge) := g.report state.startTimestampNanos state.latestDataTimestampNanos
  let m := state.metrics
  let counters := [(counter m.errors).1, (counter m.probableOoms).1, (counter m.timeouts).1]
  let summaries := [(summary m.initDurationSeconds).1, (summary m.invokeDurationSeconds).1,
    (summary m.billedDurationSeconds).1]
  let maxes := [maxGauge m.memoryUsedBytes, maxGauge m.memoryLimitBytes]
  ((counters ++ summaries ++ maxes).filterMap id,
    { state with
      metrics :=
        { m with
          errors := (counter m.errors).2
          probableOoms := (counter m.probableOoms).2
          timeouts := (counter m.timeouts).2
          initDurationSeconds := (summary m.initDurationSeconds).2
          invokeDurationSeconds := (summary m.invokeDurationSeconds).2
          billedDurationSeconds := (summary m.billedDurationSeconds).2 } })

end V2

/-! ## `mod.rs` -/

/-- `PlatformMetricsState`. -/
inductive PlatformMetricsState where
  | disabled
  | v1 (state : V1.PlatformMetricsState)
  | v2 (state : V2.PlatformMetricsState)

namespace PlatformMetricsState

/-- `for_mode`, at the given time. -/
def forMode (now : Nat) : PlatformMetricsMode → PlatformMetricsState
  | .disabled => .disabled
  | .platformReport => .v1 (.new now)
  | .platformV2 => .v2 (.new now)

/-- `make_metrics_report`. -/
def makeMetricsReport : PlatformMetricsState → List Metric × PlatformMetricsState
  | .disabled => ([], .disabled)
  | .v1 state =>
    let (metrics, state) := V1.makeMetricsReport state
    (metrics, .v1 state)
  | .v2 state =>
    let (metrics, state) := V2.makeMetricsReport state
    (metrics, .v2 state)

end PlatformMetricsState

end TelemetryExporter
