import TelemetryExporter.Model.Basic

/-!
# Configuration

The parts of `TelemetryServiceConfig` and `TelemetryProcessorConfig` that the telemetry service
reads.
-/

namespace TelemetryExporter

/-- `TelemetryReportingStrategy`. -/
inductive TelemetryReportingStrategy where
  | lowOverhead
  | reportAfterInvocation
  | reportDuringAndAfterInvocation
  deriving DecidableEq

namespace TelemetryReportingStrategy

/-- `send_after_invocation`. -/
def sendAfterInvocation : TelemetryReportingStrategy → Bool
  | lowOverhead => false
  | reportAfterInvocation => true
  | reportDuringAndAfterInvocation => true

/-- `send_after_delay`. -/
def sendAfterDelay : TelemetryReportingStrategy → Bool
  | lowOverhead => true
  | reportAfterInvocation => false
  | reportDuringAndAfterInvocation => true

end TelemetryReportingStrategy

/-- `LogMode`. -/
inductive LogMode where
  | disabled
  | structured
  deriving DecidableEq

/-- `PlatformMetricsMode`. -/
inductive PlatformMetricsMode where
  | disabled
  | platformReport
  | platformV2
  deriving DecidableEq

/-- `OtelMetricsMode`. -/
inductive OtelMetricsMode where
  | disabled
  | direct
  | processed
  deriving DecidableEq

/-- `TracingMode`. -/
inductive TracingMode where
  | disabled
  | telemetryApi
  | otelInstrumentation
  deriving DecidableEq

/-- `TraceSamplingMode`. -/
inductive TraceSamplingMode where
  | all
  | followXray
  deriving DecidableEq

/-- `PlatformEventLogSet`. -/
structure PlatformEventLogSet where
  start : Bool
  runtimeDone : Bool
  report : Bool

/-- `PlatformLogsConfig`. -/
structure PlatformLogsConfig where
  includeRequestId : Bool
  hideDefaultValues : Bool

/-- `LogMetadataConfig`. -/
structure LogMetadataConfig where
  includeTraceRef : Bool
  includeExecution : Bool
  includeInvocationId : Bool

/-- `LogsMetadataMode`. -/
inductive LogsMetadataMode where
  | disabled
  | enabled (c : LogMetadataConfig)

/-- `BuiltInAttributeSet`. -/
structure BuiltInAttributeSet where
  serviceName : Bool
  cloudProvider : Bool
  cloudAccountId : Bool
  cloudRegion : Bool
  faasName : Bool
  faasId : Bool
  faasInstanceCxId : Bool

/-- `AttributeConfig`. -/
structure AttributeConfig where
  builtIn : BuiltInAttributeSet
  extra : List (String × String)

/-- `AttributeConfigs`. -/
structure AttributeConfigs where
  logs : AttributeConfig
  traces : AttributeConfig
  metrics : AttributeConfig

/-- `AttributeExclusionMode`. A user-defined regex is the predicate `Regex::is_match`. -/
inductive AttributeExclusionMode where
  | disabled
  | predefined
  | regex (isMatch : String → Bool)

/-- `PREDEFINED_ATTRIBUTE_EXCLUSION_REGEX`: an unanchored alternative of two literals. -/
def predefinedAttributeExclusionRegex (key : String) : Bool :=
  containsText key "http.request.header.x-api-key" ||
    containsText key "http.request.header.authorization"

/-- `AttributeExclusionMode::regex`. -/
def AttributeExclusionMode.toRegex : AttributeExclusionMode → Option (String → Bool)
  | .disabled => none
  | .predefined => some predefinedAttributeExclusionRegex
  | .regex isMatch => some isMatch

/-- `TelemetryProcessorConfig`. -/
structure TelemetryProcessorConfig where
  logsMetadataMode : LogsMetadataMode
  logMode : LogMode
  platformLogSet : PlatformEventLogSet
  platformLogs : PlatformLogsConfig
  platformMetricsMode : PlatformMetricsMode
  otelMetricsMode : OtelMetricsMode
  tracingMode : TracingMode
  traceSamplingMode : TraceSamplingMode
  messageSizeLimit : Nat
  excludedSpanAttributes : AttributeExclusionMode
  resourceAttributes : AttributeConfigs

/-- `TelemetryServiceConfig`. Durations are nanoseconds. -/
structure TelemetryServiceConfig where
  reportingStrategy : TelemetryReportingStrategy
  reportingDelay : Nat
  spanSendingThreshold : Nat
  processorConfig : TelemetryProcessorConfig

end TelemetryExporter
