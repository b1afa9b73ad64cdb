import Mathlib.Data.List.Sort
import TelemetryExporter.Lib.Table
import TelemetryExporter.Model.PlatformMetrics

/-!
# The accumulator of the function's metrics

`otel_metrics.rs`. A `HashMap` is a `Table`; its iteration order, which the source leaves
unspecified, is that of insertion here.
-/

namespace TelemetryExporter

/-! ## Time series -/

mutual

/-- `value_to_string`. -/
def valueToString [External] : Value → String
  | .stringValue v => v
  | .boolValue v => if v then "true" else "false"
  | .intValue v => toString v
  | .doubleValue v => External.floatToString v
  | .arrayValue values => ",".intercalate (arrayToStrings values)
  | .kvlistValue values => ",".intercalate (kvlistToStrings values)
  | .bytesValue b => (String.fromUTF8? ⟨b.toArray⟩).getD ""

/-- The elements of an array that have a value. -/
def arrayToStrings [External] : List (AnyValueOf Value) → List String
  | [] => []
  | ⟨some v⟩ :: rest => valueToString v :: arrayToStrings rest
  | ⟨none⟩ :: rest => arrayToStrings rest

/-- The entries of a key-value list that have a value. -/
def kvlistToStrings [External] : List (KeyValueOf Value) → List String
  | [] => []
  | ⟨key, some ⟨some v⟩⟩ :: rest => (key ++ ":" ++ valueToString v) :: kvlistToStrings rest
  | ⟨_, some ⟨none⟩⟩ :: rest => kvlistToStrings rest
  | ⟨_, none⟩ :: rest => kvlistToStrings rest

end

/-- `TimeSeriesId`. -/
structure TimeSeriesId where
  attributes : List (String × Option String)
  deriving DecidableEq

/-- `Ord` of `(String, Option<String>)`: `None` comes first. -/
def attributeLe (a b : String × Option String) : Bool :=
  if a.1 = b.1 then
    match a.2, b.2 with
    | none, _ => true
    | some _, none => false
    | some v, some w => decide (v ≤ w)
  else decide (a.1 < b.1)

/-- `TimeSeriesId::from`. -/
def TimeSeriesId.ofAttributes [External] (attributes : List KeyValue) : TimeSeriesId :=
  { attributes :=
      (attributes.map fun kv => (kv.key, (kv.value.bind (·.value)).map valueToString)).insertionSort
        fun a b => attributeLe a b }

/-- The trait `DataPoint`. -/
class DataPoint (P : Type) where
  getTimeUnixNano : P → Nat
  cloneWithTimestamp : P → Nat → P
  isEquivalent : P → P → Bool
  attributes : P → List KeyValue
  isZero : P → Bool
  toZero : P → Nat → P

open DataPoint

/-- `DataPoint::time_series_id`, the same in all three implementations. -/
def timeSeriesId [External] {P : Type} [DataPoint P] (p : P) : TimeSeriesId :=
  .ofAttributes (attributes p)

/-- `==` of `number_data_point::Value`. -/
def NumberValue.valueEq : NumberValue → NumberValue → Bool
  | .asInt a, .asInt b => a = b
  | .asDouble a, .asDouble b => Float.beq a b
  | _, _ => false

/-- `==` of an `Option`. -/
def optionEq {A : Type} (eq : A → A → Bool) : Option A → Option A → Bool
  | none, none => true
  | some a, some b => eq a b
  | _, _ => false

/-- `==` of a `Vec`. -/
def listEq {A : Type} (eq : A → A → Bool) : List A → List A → Bool
  | [], [] => true
  | a :: as, b :: bs => eq a b && listEq eq as bs
  | _, _ => false

/-- `x == 0.0`. -/
def isZeroFloat (x : Float) : Bool := Float.beq x 0

instance : DataPoint NumberDataPoint where
  getTimeUnixNano p := p.timeUnixNano
  cloneWithTimestamp p timeUnixNano := { p with timeUnixNano }
  isEquivalent p other := optionEq NumberValue.valueEq p.value other.value && p.flags == other.flags
  attributes p := p.attributes
  isZero p :=
    match p.value with
    | some (.asInt i) => i = 0
    | some (.asDouble d) => isZeroFloat d
    | none => true
  toZero p timeUnixNano :=
    { p with
      timeUnixNano
      value := p.value.map fun
        | .asInt _ => .asInt 0
        | .asDouble _ => .asDouble 0 }

instance : DataPoint HistogramDataPoint where
  getTimeUnixNano p := p.timeUnixNano
  cloneWithTimestamp p timeUnixNano := { p with timeUnixNano }
  isEquivalent p other :=
    p.bucketCounts == other.bucketCounts &&
      listEq Float.beq p.explicitBounds other.explicitBounds &&
      optionEq Float.beq p.sum other.sum && p.count == other.count &&
      optionEq Float.beq p.min other.min && optionEq Float.beq p.max other.max &&
      p.flags == other.flags
  attributes p := p.attributes
  isZero p :=
    p.sum.all isZeroFloat && p.count == 0 && p.min.all isZeroFloat && p.max.all isZeroFloat &&
      p.bucketCounts.all (· == 0)
  toZero p timeUnixNano :=
    { p with
      timeUnixNano
      sum := p.sum.map fun _ => 0
      count := 0
      min := p.min.map fun _ => 0
      max := p.max.map fun _ => 0
      bucketCounts := p.bucketCounts.map fun _ => 0 }

/-- `==` of `ValueAtQuantile`. -/
def ValueAtQuantile.valueEq (a b : ValueAtQuantile) : Bool :=
  Float.beq a.quantile b.quantile && Float.beq a.value b.value

instance : DataPoint SummaryDataPoint where
  getTimeUnixNano p := p.timeUnixNano
  cloneWithTimestamp p timeUnixNano := { p with timeUnixNano }
  isEquivalent p other :=
    listEq ValueAtQuantile.valueEq p.quantileValues other.quantileValues &&
      Float.beq p.sum other.sum && p.count == other.count && p.flags == other.flags
  attributes p := p.attributes
  isZero p :=
    isZeroFloat p.sum && p.count == 0 && p.quantileValues.all fun q => isZeroFloat q.value
  toZero p timeUnixNano :=
    { p with
      timeUnixNano
      sum := 0
      count := 0
      quantileValues := p.quantileValues.map fun q => { q with value := 0 } }

/-- `TimeSeries`. -/
structure TimeSeries (P : Type) where
  previousPoint : Option P := none
  newPoints : List P := []

namespace TimeSeries

variable {P : Type} [DataPoint P]

/-- `TimeSeries::last_point`. -/
def lastPoint (ts : TimeSeries P) : Option P := ts.newPoints.getLast?.or ts.previousPoint

/-- `ts.new_points.push(dp)`. -/
def push (ts : TimeSeries P) (dp : P) : TimeSeries P :=
  { ts with newPoints := ts.newPoints ++ [dp] }

/-- The loop of `take_and_inflate_data_points`: what it pushes to `output`, and the last `prev`. -/
def inflateLoop (prev : P) : List P → List P × P
  | [] => ([], prev)
  | this :: rest =>
    let (output, last) := inflateLoop this rest
    if wrappingAdd (getTimeUnixNano prev) maxTimeBetweenDataNanos < getTimeUnixNano this then
      -- the subtraction of `u64::saturating_sub`
      (cloneWithTimestamp prev (getTimeUnixNano this - reportLastTimeNanos) :: this :: output, last)
    else (this :: output, last)

/-- `take_and_inflate_data_points`. -/
def takeAndInflateDataPoints (ts : TimeSeries P) : List P × TimeSeries P :=
  match ts.newPoints, ts.previousPoint with
  | [], _ => ([], ts)
  | newPoints, some pp =>
    let (output, last) := inflateLoop pp newPoints
    (output, { previousPoint := some last, newPoints := [] })
  | first :: rest, none =>
    let zero := if isZero first then []
      else [toZero first (getTimeUnixNano first - reportLastTimeNanos)]
    let (output, last) := inflateLoop first rest
    (zero ++ first :: output, { previousPoint := some last, newPoints := [] })

end TimeSeries

/-! ## Metric accumulators -/

/-- `MetricAccumulator`. -/
structure MetricAccumulator (M P : Type) where
  name : String
  description : String
  unit : String
  metadata : M
  timeSeries : Table TimeSeriesId (TimeSeries P)

namespace MetricAccumulator

variable {M P : Type} [DataPoint P]

/-- `accumulate_as_is` of one point. -/
def pushAsIs [External] (ma : MetricAccumulator M P) (dp : P) : MetricAccumulator M P :=
  { ma with timeSeries := ma.timeSeries.entry (timeSeriesId dp) {} fun ts => ts.push dp }

/-- `accumulate_as_is`. -/
def accumulateAsIs [External] (ma : MetricAccumulator M P) (dps : List P) : MetricAccumulator M P :=
  dps.foldl pushAsIs ma

/-- `accumulate_if_different` of one point. -/
def pushIfDifferent [External] (ma : MetricAccumulator M P) (dp : P) : MetricAccumulator M P :=
  { ma with
    timeSeries := ma.timeSeries.entry (timeSeriesId dp) {} fun ts =>
      if ts.lastPoint.all fun p => !isEquivalent p dp then ts.push dp else ts }

/-- `accumulate_if_different`. -/
def accumulateIfDifferent [External] (ma : MetricAccumulator M P) (dps : List P) :
    MetricAccumulator M P :=
  dps.foldl pushIfDifferent ma

/-- `take_as_is`. -/
def takeAsIs (ma : MetricAccumulator M P) : List P × MetricAccumulator M P :=
  let (points, timeSeries) :=
    ma.timeSeries.iterMut fun ts => (ts.newPoints, { ts with newPoints := [] })
  (points.flatten, { ma with timeSeries })

/-- `take_inflated`. -/
def takeInflated (ma : MetricAccumulator M P) : List P × MetricAccumulator M P :=
  let (points, timeSeries) := ma.timeSeries.iterMut TimeSeries.takeAndInflateDataPoints
  (points.flatten, { ma with timeSeries })

/-- `make_metric`. -/
def makeMetric (ma : MetricAccumulator M P) (data : MetricData) : Metric :=
  { name := ma.name, description := ma.description, unit := ma.unit, data := some data }

end MetricAccumulator

/-- `GaugeMetadata`. -/
structure GaugeMetadata where

/-- `SumMetadata`. -/
structure SumMetadata where
  aggregationTemporality : Int
  isMonotonic : Bool

/-- `HistogramMetadata`. -/
structure HistogramMetadata where
  aggregationTemporality : Int

/-- `SummaryMetadata`. -/
structure SummaryMetadata where

/-- `export_gauge`. -/
def exportGauge (ma : MetricAccumulator GaugeMetadata NumberDataPoint) :
    Metric × MetricAccumulator GaugeMetadata NumberDataPoint :=
  let (dataPoints, ma) := ma.takeAsIs
  (ma.makeMetric (.gauge dataPoints), ma)

/-- `export_sum`. -/
def exportSum (ma : MetricAccumulator SumMetadata NumberDataPoint) :
    Metric × MetricAccumulator SumMetadata NumberDataPoint :=
  let (dataPoints, ma) :=
    if ma.metadata.aggregationTemporality = cumulative then ma.takeInflated else ma.takeAsIs
  (ma.makeMetric (.sum
    { dataPoints
      aggregationTemporality := ma.metadata.aggregationTemporality
      isMonotonic := ma.metadata.isMonotonic }), ma)

/-- `export_histogram`. -/
def exportHistogram (ma : MetricAccumulator HistogramMetadata HistogramDataPoint) :
    Metric × MetricAccumulator HistogramMetadata HistogramDataPoint :=
  let (dataPoints, ma) :=
    if ma.metadata.aggregationTemporality = cumulative then ma.takeInflated else ma.takeAsIs
  (ma.makeMetric (.histogram
    { dataPoints, aggregationTemporality := ma.metadata.aggregationTemporality }), ma)

/-- `export_summary`. -/
def exportSummary (ma : MetricAccumulator SummaryMetadata SummaryDataPoint) :
    Metric × MetricAccumulator SummaryMetadata SummaryDataPoint :=
  let (dataPoints, ma) := ma.takeInflated
  (ma.makeMetric (.summary dataPoints), ma)

/-! ## `OtelMetricsAccumulator` -/

/-- `OtelMetricsAccumulator`. -/
structure OtelMetricsAccumulator where
  droppedDatapoints : Nat := 0
  gauges : Table String (MetricAccumulator GaugeMetadata NumberDataPoint) := .empty
  sums : Table String (MetricAccumulator SumMetadata NumberDataPoint) := .empty
  histograms : Table String (MetricAccumulator HistogramMetadata HistogramDataPoint) := .empty
  summaries : Table String (MetricAccumulator SummaryMetadata SummaryDataPoint) := .empty

namespace OtelMetricsAccumulator

/-- The accumulator that `or_insert_with` makes for a new name. -/
def newAccumulator {M P : Type} (m : Metric) (metadata : M) : MetricAccumulator M P :=
  { name := m.name, description := m.description, unit := m.unit, metadata, timeSeries := .empty }

/-- `accumulate_metric`. -/
def accumulateMetric [External] (acc : OtelMetricsAccumulator) (m : Metric) :
    OtelMetricsAccumulator :=
  match m.data with
  | some (.gauge dataPoints) =>
    { acc with
      gauges := acc.gauges.entry m.name (newAccumulator m {}) fun ma =>
        ma.accumulateAsIs dataPoints }
  | some (.sum s) =>
    { acc with
      sums := acc.sums.entry m.name (newAccumulator m ⟨s.aggregationTemporality, s.isMonotonic⟩)
        fun ma =>
          if s.aggregationTemporality = cumulative then ma.accumulateIfDifferent s.dataPoints
          else ma.accumulateAsIs s.dataPoints }
  | some (.histogram h) =>
    { acc with
      histograms := acc.histograms.entry m.name (newAccumulator m ⟨h.aggregationTemporality⟩)
        fun ma =>
          if h.aggregationTemporality = cumulative then ma.accumulateIfDifferent h.dataPoints
          else ma.accumulateAsIs h.dataPoints }
  | some (.summary dataPoints) =>
    { acc with
      summaries := acc.summaries.entry m.name (newAccumulator m {}) fun ma =>
        ma.accumulateIfDifferent dataPoints }
  | some (.exponentialHistogram dataPoints) =>
    { acc with droppedDatapoints := wrappingAdd acc.droppedDatapoints dataPoints.length }
  | none => acc

/-- `accumulate`. -/
def accumulate [External] (acc : OtelMetricsAccumulator) (metrics : List Metric) :
    OtelMetricsAccumulator :=
  metrics.foldl accumulateMetric acc

/-- `export`. -/
def exportMetrics (acc : OtelMetricsAccumulator) : List Metric × OtelMetricsAccumulator :=
  let (g, gauges) := acc.gauges.iterMut exportGauge
  let (s, sums) := acc.sums.iterMut exportSum
  let (h, histograms) := acc.histograms.iterMut exportHistogram
  let (q, summaries) := acc.summaries.iterMut exportSummary
  (g ++ s ++ h ++ q, { acc with gauges, sums, histograms, summaries })

end OtelMetricsAccumulator

end TelemetryExporter
