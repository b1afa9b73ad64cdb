import TelemetryExporter.Model.Basic

/-!
# OTLP messages

The OpenTelemetry protocol messages that the exporter receives, builds and forwards, with the
fields its code reads or writes.
-/

namespace TelemetryExporter

/-! ## Common -/

/-- `common::v1::AnyValue`, over the value type it is mutually recursive with. -/
structure AnyValueOf (V : Type) where
  value : Option V

/-- `common::v1::KeyValue`, over the value type it is mutually recursive with. -/
structure KeyValueOf (V : Type) where
  key : String
  value : Option (AnyValueOf V)

/-- `common::v1::any_value::Value`. -/
inductive Value where
  | stringValue (s : String)
  | boolValue (b : Bool)
  | intValue (i : Int)
  | doubleValue (d : Float)
  | arrayValue (values : List (AnyValueOf Value))
  | kvlistValue (values : List (KeyValueOf Value))
  | bytesValue (b : Bytes)

/-- `common::v1::AnyValue`. -/
abbrev AnyValue := AnyValueOf Value

/-- `common::v1::KeyValue`. -/
abbrev KeyValue := KeyValueOf Value

/-- `common::v1::InstrumentationScope`. -/
structure InstrumentationScope where
  name : String
  version : String
  attributes : List KeyValue := []
  droppedAttributesCount : Nat := 0

/-- `resource::v1::Resource`. -/
structure Resource where
  attributes : List KeyValue
  droppedAttributesCount : Nat := 0

/-- `string_attribute`. -/
def stringAttribute (key value : String) : KeyValue :=
  { key, value := some ⟨some (.stringValue value)⟩ }

/-- `f64_attribute`. -/
def f64Attribute (key : String) (value : Float) : KeyValue :=
  { key, value := some ⟨some (.doubleValue value)⟩ }

/-- `find_attribute`. -/
def findAttribute (attributes : List KeyValue) (key : String) : Option Value :=
  (attributes.find? fun kv => kv.key = key).bind fun kv => kv.value.bind fun av => av.value

mutual

/-- `AnyValue::from(serde_json::Value)`. -/
def AnyValueOf.fromJson : Json → AnyValue
  | .null => ⟨none⟩
  | .bool b => ⟨some (.boolValue b)⟩
  | .number (.posInt n) =>
    if n < 2 ^ 63 then ⟨some (.intValue n)⟩ else ⟨some (.doubleValue (Float.ofNat n))⟩
  | .number (.negInt n) => ⟨some (.intValue n)⟩
  | .number (.float f) => ⟨some (.doubleValue f)⟩
  | .string s => ⟨some (.stringValue s)⟩
  | .array a => ⟨some (.arrayValue (fromJsonArray a))⟩
  | .object o => ⟨some (.kvlistValue (fromJsonObject o))⟩

/-- The elements of an array. -/
def fromJsonArray : List Json → List AnyValue
  | [] => []
  | v :: rest => AnyValueOf.fromJson v :: fromJsonArray rest

/-- The entries of an object. -/
def fromJsonObject : List (String × Json) → List KeyValue
  | [] => []
  | (k, v) :: rest => { key := k, value := some (AnyValueOf.fromJson v) } :: fromJsonObject rest

end

/-! ## Logs -/

/-- Which event a log record was made from, and with the state of which invocation (`none`: in
degraded mode). It is not part of the message: the model records it, no modelled code reads it. -/
inductive LogSource where
  | function (invocation : Option Nat) (logText : String) (time : Int)
  | start (invocation : Option Nat)
  | runtimeDone (invocation : Option Nat)
  | report (invocation : Option Nat)
  deriving DecidableEq

/-- `logs::v1::LogRecord`, with the record's `source`. -/
structure LogRecord where
  timeUnixNano : Nat
  observedTimeUnixNano : Nat := 0
  severityNumber : Int
  severityText : String := ""
  body : Option AnyValue
  attributes : List KeyValue := []
  droppedAttributesCount : Nat := 0
  flags : Nat := 0
  traceId : Bytes
  spanId : Bytes
  source : LogSource

/-- `logs::v1::ScopeLogs`. -/
structure ScopeLogs where
  scope : Option InstrumentationScope
  logRecords : List LogRecord
  schemaUrl : String := ""

/-- `logs::v1::ResourceLogs`. -/
structure ResourceLogs where
  resource : Option Resource
  scopeLogs : List ScopeLogs
  schemaUrl : String := ""

/-! ## Traces -/

/-- `trace::v1::Status`. -/
structure SpanStatus where
  message : String
  code : Int
  deriving DecidableEq

/-- `StatusCode::Ok as i32`. -/
def statusCodeOk : Int := 1

/-- `StatusCode::Error as i32`. -/
def statusCodeError : Int := 2

/-- `SpanKind::Internal as i32`. -/
def spanKindInternal : Int := 1

/-- `SpanKind::Server as i32`. -/
def spanKindServer : Int := 2

/-- `SpanKind::Consumer as i32`. -/
def spanKindConsumer : Int := 5

/-- `trace::v1::span::Event`. -/
structure SpanEvent where
  timeUnixNano : Nat
  name : String
  attributes : List KeyValue
  droppedAttributesCount : Nat

/-- `trace::v1::span::Link`. -/
structure SpanLink where
  traceId : Bytes
  spanId : Bytes
  traceState : String
  attributes : List KeyValue
  droppedAttributesCount : Nat

/-- `trace::v1::Span`. -/
structure Span where
  traceId : Bytes
  spanId : Bytes
  traceState : String := ""
  parentSpanId : Bytes
  name : String
  kind : Int
  startTimeUnixNano : Nat
  endTimeUnixNano : Nat
  attributes : List KeyValue := []
  droppedAttributesCount : Nat := 0
  events : List SpanEvent := []
  droppedEventsCount : Nat := 0
  links : List SpanLink := []
  droppedLinksCount : Nat := 0
  status : Option SpanStatus

/-- `trace::v1::ScopeSpans`. -/
structure ScopeSpans where
  scope : Option InstrumentationScope
  spans : List Span
  schemaUrl : String := ""

/-- `trace::v1::ResourceSpans`. -/
structure ResourceSpans where
  resource : Option Resource
  scopeSpans : List ScopeSpans
  schemaUrl : String := ""

/-! ## Metrics -/

/-- `number_data_point::Value`. -/
inductive NumberValue where
  | asInt (i : Int)
  | asDouble (d : Float)
  deriving DecidableEq

/-- `metrics::v1::Exemplar`. -/
structure Exemplar where
  filteredAttributes : List KeyValue
  timeUnixNano : Nat
  value : Option NumberValue

/-- `metrics::v1::NumberDataPoint`. -/
structure NumberDataPoint where
  attributes : List KeyValue
  startTimeUnixNano : Nat
  timeUnixNano : Nat
  exemplars : List Exemplar := []
  flags : Nat := 0
  value : Option NumberValue

/-- `metrics::v1::HistogramDataPoint`. -/
structure HistogramDataPoint where
  attributes : List KeyValue
  startTimeUnixNano : Nat
  timeUnixNano : Nat
  count : Nat
  sum : Option Float
  bucketCounts : List Nat
  explicitBounds : List Float
  exemplars : List Exemplar := []
  flags : Nat := 0
  min : Option Float
  max : Option Float

/-- `summary_data_point::ValueAtQuantile`. -/
structure ValueAtQuantile where
  quantile : Float
  value : Float

/-- `metrics::v1::SummaryDataPoint`. -/
structure SummaryDataPoint where
  attributes : List KeyValue
  startTimeUnixNano : Nat
  timeUnixNano : Nat
  count : Nat
  sum : Float
  quantileValues : List ValueAtQuantile
  flags : Nat := 0

/-- `metrics::v1::ExponentialHistogramDataPoint`: the exporter only counts them. -/
structure ExponentialHistogramDataPoint where
  attributes : List KeyValue
  timeUnixNano : Nat

/-- `metrics::v1::Sum`. -/
structure Sum where
  dataPoints : List NumberDataPoint
  aggregationTemporality : Int
  isMonotonic : Bool

/-- `metrics::v1::Histogram`. -/
structure Histogram where
  dataPoints : List HistogramDataPoint
  aggregationTemporality : Int

/-- `metric::Data`. -/
inductive MetricData where
  | gauge (dataPoints : List NumberDataPoint)
  | sum (s : Sum)
  | histogram (h : Histogram)
  | exponentialHistogram (dataPoints : List ExponentialHistogramDataPoint)
  | summary (dataPoints : List SummaryDataPoint)

/-- `AggregationTemporality::Cumulative as i32`. -/
def cumulative : Int := 2

/-- `metrics::v1::Metric`. -/
structure Metric where
  name : String
  description : String
  unit : String
  data : Option MetricData

/-- `metrics::v1::ScopeMetrics`. -/
structure ScopeMetrics where
  scope : Option InstrumentationScope
  metrics : List Metric
  schemaUrl : String := ""

/-- `metrics::v1::ResourceMetrics`. -/
structure ResourceMetrics where
  resource : Option Resource
  scopeMetrics : List ScopeMetrics
  schemaUrl : String := ""

/-- `TelemetryBatch`. -/
structure TelemetryBatch where
  logs : List ResourceLogs
  spans : List ResourceSpans
  metrics : List ResourceMetrics
  epsagonTraces : List String

end TelemetryExporter
