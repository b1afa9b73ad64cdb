import TelemetryExporter.Model.Config
import TelemetryExporter.Model.Context

/-!
# Resources and scopes

`otlp_wrappers.rs`.
-/

namespace TelemetryExporter

/-- `resource`. -/
def resource (functionContext : FunctionContext) (config : AttributeConfig) : Resource :=
  let builtIn (included : Bool) (key value : String) : List KeyValue :=
    if included then [stringAttribute key value] else []
  { attributes :=
      [stringAttribute "cx.application.name" functionContext.applicationName,
       stringAttribute "cx.subsystem.name" functionContext.subsystemName] ++
      builtIn config.builtIn.serviceName "service.name" functionContext.serviceName ++
      builtIn config.builtIn.cloudProvider "cloud.provider" "aws" ++
      builtIn config.builtIn.cloudAccountId "cloud.account.id" functionContext.arn.accountId ++
      builtIn config.builtIn.cloudRegion "cloud.region" functionContext.arn.region ++
      builtIn config.builtIn.faasName "faas.name" functionContext.arn.functionName ++
      builtIn config.builtIn.faasId "faas.id" functionContext.versionArn.toText ++
      builtIn config.builtIn.faasInstanceCxId "faas.instance.cx_id"
        functionContext.lambdaInstanceCoralogixId ++
      (functionContext.tags.getD []).map (fun tag => stringAttribute ("tag." ++ tag.1) tag.2) ++
      config.extra.map fun (key, value) => stringAttribute key value }

/-- `instrumentation_scope`. -/
def instrumentationScope (functionContext : FunctionContext) : InstrumentationScope :=
  { name := functionContext.arn.functionName, version := functionContext.lambdaFunctionVersion }

/-- `wrap_logs_in_scope`. -/
def wrapLogsInScope (logRecords : List LogRecord) (functionContext : FunctionContext) : ScopeLogs :=
  { scope := some (instrumentationScope functionContext), logRecords }

/-- `wrap_logs_in_resource`. -/
def wrapLogsInResource (scopeLogs : List ScopeLogs) (functionContext : FunctionContext)
    (config : AttributeConfig) : ResourceLogs :=
  { resource := some (resource functionContext config), scopeLogs }

/-- `wrap_spans_in_scope`. -/
def wrapSpansInScope (spans : List Span) (functionContext : FunctionContext) : ScopeSpans :=
  { scope := some (instrumentationScope functionContext), spans }

/-- `wrap_spans_in_resource`. -/
def wrapSpansInResource (scopeSpans : List ScopeSpans) (functionContext : FunctionContext)
    (config : AttributeConfig) : ResourceSpans :=
  { resource := some (resource functionContext config), scopeSpans }

/-- `wrap_metrics_in_scope`. -/
def wrapMetricsInScope (metrics : List Metric) : ScopeMetrics := { scope := none, metrics }

/-- `wrap_metrics_in_resource`. -/
def wrapMetricsInResource (scopeMetrics : List ScopeMetrics) (functionContext : FunctionContext)
    (config : AttributeConfig) : ResourceMetrics :=
  { resource := some (resource functionContext config), scopeMetrics }

end TelemetryExporter
