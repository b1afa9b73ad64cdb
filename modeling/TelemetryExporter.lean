import TelemetryExporter.Model.Service
import TelemetryExporter.Verify.Shutdown
import TelemetryExporter.Verify.Leftovers
import TelemetryExporter.Verify.InitReplay
import TelemetryExporter.Verify.Readiness
import TelemetryExporter.Verify.RetrySlot
import TelemetryExporter.Verify.PlatformMetrics
import TelemetryExporter.Verify.InstrumentRuns
import TelemetryExporter.Verify.MetricTimes
import TelemetryExporter.Verify.AttributeOrder
import TelemetryExporter.Verify.Truncation
import TelemetryExporter.Verify.DegradedMetrics
import TelemetryExporter.Verify.LogOrder
import TelemetryExporter.Verify.LogTimestamps
import TelemetryExporter.Verify.FunctionArn
import TelemetryExporter.Verify.SpanOutput
import TelemetryExporter.Verify.OtelCorrelation
import TelemetryExporter.Verify.ApiCorrelation
import TelemetryExporter.Verify.Deadlines
import TelemetryExporter.Verify.LogBody
import TelemetryExporter.Verify.PlatformLogs
import TelemetryExporter.Verify.ReportCounts
import TelemetryExporter.Verify.ResourceKeys
import TelemetryExporter.Verify.SpanGuard
import TelemetryExporter.Verify.SpanModes
import TelemetryExporter.Verify.ShutdownSleep
import TelemetryExporter.Verify.SpanTree
import TelemetryExporter.Verify.TraceContext
import TelemetryExporter.Verify.SpanAttribution
import TelemetryExporter.Verify.ConfigLoad
import TelemetryExporter.Verify.FunctionContexts
import TelemetryExporter.Verify.StartedSenders
import TelemetryExporter.Verify.OutputKinds
import TelemetryExporter.Verify.Routing
import TelemetryExporter.Verify.AwaitedSends
import TelemetryExporter.Verify.SentMetrics
import TelemetryExporter.Verify.Episodes
import TelemetryExporter.Verify.IsolatedRuns
import TelemetryExporter.Verify.SentSpans
import TelemetryExporter.Verify.SentTrees
