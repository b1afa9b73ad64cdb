import TelemetryExporter.Model.Basic

/-!
# Lambda events

The invoke event of the Extensions API and the telemetry events of the Telemetry API, as the
`lambda_extension` crate delivers them.
-/

namespace TelemetryExporter

/-- `time::OffsetDateTime`: nanoseconds since the epoch. -/
abbrev OffsetDateTime := Int

/-- `Instant`: nanoseconds of the monotonic clock. -/
abbrev Instant := Int

/-- The errors that telemetry processing returns. -/
inductive Error where
  | componentRange
  | invalidLambdaFunctionArn (found : String)
  deriving DecidableEq

/-- The text of `LambdaFunctionArnParseError`; that of `time`'s error is its own. -/
def Error.text : Error → Option String
  | .componentRange => none
  | .invalidLambdaFunctionArn found =>
    some ("'" ++ found ++ "' is not a valid AWS Lambda function ARN")

/-! ## Telemetry API -/

/-- `Status`. -/
inductive Status where
  | success
  | error
  | failure
  | timeout
  deriving DecidableEq

/-- `InitType`. -/
inductive InitType where
  | onDemand
  | provisionedConcurrency
  | snapStart

/-- `InitPhase`. -/
inductive InitPhase where
  | init
  | invoke

/-- `InitReportMetrics`. -/
structure InitReportMetrics where
  durationMs : Float

/-- `RuntimeDoneMetrics`. -/
structure RuntimeDoneMetrics where
  durationMs : Float
  producedBytes : Option Nat

/-- `ReportMetrics`. -/
structure ReportMetrics where
  durationMs : Float
  billedDurationMs : Nat
  memorySizeMb : Nat
  maxMemoryUsedMb : Nat
  initDurationMs : Option Float
  restoreDurationMs : Option Float

/-- `TraceContext`. -/
structure TraceContext where
  spanId : Option String
  value : String

/-- `lambda_extension::Span`. -/
structure PlatformSpan where
  name : String
  durationMs : Float

/-- `LambdaTelemetryRecord`. No modelled code reads the fields of the last three. -/
inductive LambdaTelemetryRecord where
  | function (logText : String)
  | extension (logText : String)
  | platformInitStart (initializationType : InitType) (phase : InitPhase)
      (runtimeVersion runtimeVersionArn : Option String)
  | platformInitRuntimeDone (initializationType : InitType) (phase : Option InitPhase)
      (status : Status) (errorType : Option String) (spans : List PlatformSpan)
  | platformInitReport (initializationType : InitType) (phase : InitPhase)
      (metrics : InitReportMetrics) (spans : List PlatformSpan)
  | platformStart (requestId : String) (version : Option String) (tracing : Option TraceContext)
  | platformRuntimeDone (requestId : String) (status : Status) (errorType : Option String)
      (metrics : Option RuntimeDoneMetrics) (spans : List PlatformSpan)
      (tracing : Option TraceContext)
  | platformReport (requestId : String) (status : Status) (errorType : Option String)
      (metrics : ReportMetrics) (spans : List PlatformSpan) (tracing : Option TraceContext)
  | platformExtension
  | platformTelemetrySubscription
  | platformLogsDropped

/-- `LambdaTelemetry`. Of its time the code reads only `timestamp_millis`. -/
structure LambdaTelemetry where
  timestampMillis : Int
  record : LambdaTelemetryRecord

/-- `OffsetDateTime::from_unix_timestamp_nanos`: the years -9999 to 9999. -/
def fromUnixTimestampNanos (nanos : Int) : Except Error OffsetDateTime :=
  let seconds := nanos / 1000000000
  if -377705116800 ≤ seconds ∧ seconds ≤ 253402300799 then .ok nanos
  else .error .componentRange

/-- `event_timestamp`. -/
def eventTimestamp (event : LambdaTelemetry) : Except Error OffsetDateTime :=
  fromUnixTimestampNanos (event.timestampMillis * 1000000)

/-- Whether the event is a `PlatformInitStart`. -/
def LambdaTelemetry.isInitStart (event : LambdaTelemetry) : Bool :=
  match event.record with
  | .platformInitStart .. => true
  | _ => false

/-- Whether the event is the `PlatformStart` of the request. -/
def LambdaTelemetry.isStartOf (requestId : String) (event : LambdaTelemetry) : Bool :=
  match event.record with
  | .platformStart r _ _ => r = requestId
  | _ => false

/-- Whether the event is a `PlatformRuntimeDone`. -/
def LambdaTelemetry.isRuntimeDone (event : LambdaTelemetry) : Bool :=
  match event.record with
  | .platformRuntimeDone .. => true
  | _ => false

/-- Whether the event is a `PlatformReport`. -/
def LambdaTelemetry.isReport (event : LambdaTelemetry) : Bool :=
  match event.record with
  | .platformReport .. => true
  | _ => false

/-- The request that a `PlatformStart`, a `PlatformRuntimeDone` or a `PlatformReport` is about. -/
def LambdaTelemetry.requestId (event : LambdaTelemetry) : Option String :=
  match event.record with
  | .platformStart requestId _ _ => some requestId
  | .platformRuntimeDone requestId .. => some requestId
  | .platformReport requestId .. => some requestId
  | _ => none

/-- Whether the event is a `Function` log. -/
def LambdaTelemetry.isFunction (event : LambdaTelemetry) : Bool :=
  match event.record with
  | .function _ => true
  | _ => false

/-! ## Extensions API -/

/-- `Tracing` of an invoke event. -/
structure Tracing where
  type : String
  value : String

/-- `InvokeEvent`. -/
structure InvokeEvent where
  deadlineMs : Nat
  requestId : String
  invokedFunctionArn : String
  tracing : Tracing

end TelemetryExporter
