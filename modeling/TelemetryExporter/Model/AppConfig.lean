import TelemetryExporter.Model.AttributeConfig

/-!
# Loading the configuration

`config/mod.rs` and `config/app_config.rs`: `AppConfig::load` and what it calls. What it only logs is
left out, and with it `check_for_known_configuration_issues`.

The source's `AppConfigError` is the type `ConfigError` here; its variant about attributes is that of
`AppConfigError`.
-/

namespace TelemetryExporter

/-! ## The configuration -/

/-- `ApiKey`. -/
structure ApiKey where
  token : String
  deriving DecidableEq

/-- `KeySourceConfig`. -/
inductive KeySourceConfig where
  | envVar (key : ApiKey)
  | secretsManager (secretId : String)
  deriving DecidableEq

/-- `OtlpTargetConfig`. -/
inductive OtlpTargetConfig where
  | coralogix (domain : String) (keySourceConfig : KeySourceConfig)
  | otel (url : String)
  deriving DecidableEq

/-- `TargetConfig`. -/
inductive TargetConfig where
  | otlp (target : OtlpTargetConfig)
  | firehose (deliveryStreamName : String)
  deriving DecidableEq

/-- `TargetConfigs`. -/
structure TargetConfigs where
  logs : Option OtlpTargetConfig
  traces : Option OtlpTargetConfig
  metrics : Option OtlpTargetConfig
  main : Option TargetConfig
  alpnEnabled : Bool
  combinedTelemetryEnabled : Bool
  deriving DecidableEq

/-- `FunctionContextProviderConfig`. Durations are nanoseconds. -/
structure FunctionContextProviderConfig where
  configuredApplication : Option String
  configuredSubsystem : Option String
  configuredServiceName : Option String
  tagCacheValidity : Int

/-- `AppConfig`. The `max_shutdown_flush_delay`, which only `handle_shutdown_event` sleeps for, is
beside the `TelemetryServiceConfig` and not in it. -/
structure AppConfig where
  target : TargetConfigs
  awsTelemetryIntervalMs : Nat
  otlpServerEnabled : Bool
  tagsEnabled : Bool
  telemetryServiceConfig : TelemetryServiceConfig
  maxShutdownFlushDelay : Nat
  functionContextProviderConfig : FunctionContextProviderConfig

/-! ## Errors -/

/-- `AppConfigError`. -/
inductive ConfigError where
  | variableMissing (key : String)
  | invalidInteger (key value : String)
  | invalidBoolean (key value : String)
  | firehoseConflict
  | urlConflict
  | missingTarget (pillar : String)
  | keySourceConflict
  | missingKeySource
  | invalidLogMode (name : String)
  | invalidPlatformEventLog (name : String)
  | invalidMetricsMode (name : String)
  | invalidOtelMetricsMode (name : String)
  | invalidTracingMode (name : String)
  | invalidTraceSamplingMode (name : String)
  | invalidBuiltInAttribute (e : AppConfigError)
  | invalidAttributeExclusionMode (value : String)
  | metricsModeConflict
  | logOnlyMetricsConflict
  | logOnlyTracingConflict
  | logModeLogConflict
  | invalidReportingStrategy (name : String)
  | invalidTelemetryInterval (value : Nat)
  deriving DecidableEq

/-- `Display` and `Debug`. -/
def ConfigError.text : ConfigError → String
  | variableMissing key => "Environment variable CX_" ++ key ++ " is missing"
  | invalidInteger key value =>
    "The value of environment variable CX_" ++ key ++
      " is invalid. Expected it to be an integer, but found '" ++ value ++ "'"
  | invalidBoolean key value =>
    "The value of environment variable CX_" ++ key ++
      " is invalid. Expected it to be a boolean (true/false/t/f), but found '" ++ value ++ "'"
  | firehoseConflict =>
    "When CX_FIREHOSE is specified, CX_DOMAIN, CX_OTEL_URL should not be specified."
  | urlConflict =>
    "When CX_OTEL_URL is specified neither CX_DOMAIN nor CX_FIREHOSE should be specified."
  | missingTarget pillar =>
    "No target specified for " ++ pillar ++
      ". Either CX_DOMAIN, CX_OTEL_URL, CX_FIREHOSE or CX_OTEL_" ++ pillar ++
      "_URL should be specified."
  | keySourceConflict =>
    "When CX_SECRET is specified CX_API_KEY/CX_PRIVATE_KEY shouldn't be specified."
  | missingKeySource => "Either CX_SECRET or CX_API_KEY should be specified."
  | invalidLogMode name => "Invalid log mode name: '" ++ name ++ "'"
  | invalidPlatformEventLog name => "Invalid metrics mode name: '" ++ name ++ "'"
  | invalidMetricsMode name => "Invalid platform event log: '" ++ name ++ "'"
  | invalidOtelMetricsMode name => "Invalid OTEL metrics mode name: '" ++ name ++ "'"
  | invalidTracingMode name => "Invalid tracing mode name: '" ++ name ++ "'"
  | invalidTraceSamplingMode name => "Invalid trace sampling mode name: '" ++ name ++ "'"
  | invalidBuiltInAttribute (.invalidBuiltInAttribute name) =>
    "Invalid built-in attribute name: '" ++ name ++ "'"
  | invalidAttributeExclusionMode value =>
    "Invalid span attribute exclusion: '" ++ value ++
      "'. Expected either 'disabled', 'predefined' or a valid regex"
  | metricsModeConflict =>
    "When CX_METRICS_MODE is specified CX_METRICS_ENABLED shouldn't be specified."
  | logOnlyMetricsConflict =>
    "When CX_LOG_ONLY is specified neither CX_METRICS_ENABLED nor CX_METRICS_ENABLED shouldn't " ++
      "be specified."
  | logOnlyTracingConflict => "When CX_LOG_ONLY is specified CX_TRACING_MODE shouldn't be specified."
  | logModeLogConflict => "When CX_LOG_ONLY is specified CX_LOG_MODE shouldn't be specified."
  | invalidReportingStrategy name => "Invalid reporting strategy name: '" ++ name ++ "'"
  | invalidTelemetryInterval value =>
    "Invalid aws_telemetry_interval_ms: " ++ toString value ++
      ". Only values between 25 and 30000 are accepted."

/-! ## Reading a variable -/

/-- The digits of `parse::<u64>`, with `none` for its errors. -/
def parseDigits (digits : List Char) : Option Nat :=
  if digits.isEmpty then none
  else if digits.all Char.isDigit then some (Nat.ofDigitChars 10 digits 0)
  else none

/-- `str::parse::<u64>`, with `none` for its errors. -/
def parseU64 (s : String) : Option Nat :=
  let n :=
    match s.toList with
    | '+' :: digits => parseDigits digits
    | digits => parseDigits digits
  n.filter fun n => n < UInt64.size

/-- `str::parse::<i64>`, with `none` for its errors. -/
def parseI64 (s : String) : Option Int :=
  let n : Option Int :=
    match s.toList with
    | '+' :: digits => (parseDigits digits).map Int.ofNat
    | '-' :: digits => (parseDigits digits).map fun n => -Int.ofNat n
    | digits => (parseDigits digits).map Int.ofNat
  n.filter fun n => -9223372036854775808 ≤ n ∧ n ≤ 9223372036854775807

/-- The two spellings that `get_bool_option` knows of each boolean. -/
def parseBool (s : String) : Option Bool :=
  let s := lowercase (trim s)
  if s = "true" ∨ s = "t" then some true
  else if s = "false" ∨ s = "f" then some false
  else none

/-- `get_parsable`. -/
def getParsable {A : Type} (fromStr : String → Except ConfigError A) (env : Env) (key : String)
    (default : A) : Except ConfigError A :=
  (getStringOption env key).elim (.ok default) fromStr

/-- `get_string`. -/
def getString (env : Env) (key : String) : Except ConfigError String :=
  match getEnvVarWithPrefix env key with
  | some s => .ok (trim s)
  | none => .error (.variableMissing key)

/-- `get_bool_option`, `get_i64_option`, `get_u64_option` and `get_usize_option`: the variable, parsed
if it is set. -/
def getOption {A : Type} (parse : String → Option A) (error : String → String → ConfigError)
    (env : Env) (key : String) : Except ConfigError (Option A) :=
  match getEnvVarWithPrefix env key with
  | some s =>
    match parse s with
    | some a => .ok (some a)
    | none => .error (error key s)
  | none => .ok none

/-- `get_bool_option`. -/
def getBoolOption : Env → String → Except ConfigError (Option Bool) :=
  getOption parseBool .invalidBoolean

/-- `get_i64_option`. -/
def getI64Option : Env → String → Except ConfigError (Option Int) :=
  getOption (fun s => parseI64 (trim s)) .invalidInteger

/-- `get_u64_option`. -/
def getU64Option : Env → String → Except ConfigError (Option Nat) :=
  getOption (fun s => parseU64 (trim s)) .invalidInteger

/-- `get_usize_option`. -/
def getUsizeOption : Env → String → Except ConfigError (Option Nat) :=
  getOption (fun s => parseU64 (trim s)) .invalidInteger

/-- `get_bool_option(key)?.unwrap_or(default)`. -/
def getBool (env : Env) (key : String) (default : Bool) : Except ConfigError Bool :=
  (getBoolOption env key).map fun b => b.getD default

/-- `get_duration_ms`, in nanoseconds. -/
def getDurationMs (env : Env) (key : String) (default : Nat) : Except ConfigError Nat :=
  (getU64Option env key).map fun ms => ms.getD default * 1000000

/-! ## Names of modes -/

/-- The value that the name stands for. -/
def lookupName {A : Type} (names : List (List String × A)) (name : String) : Option A :=
  (names.find? fun row => name ∈ row.1).map Prod.snd

/-- A `from_str` that compares the trimmed text, in lower case, with names. -/
def parseName {A : Type} (names : List (List String × A)) (error : String → ConfigError)
    (s : String) : Except ConfigError A :=
  let name := lowercase (trim s)
  match lookupName names name with
  | some a => .ok a
  | none => .error (error name)

/-- The names of `TelemetryReportingStrategy`. -/
def TelemetryReportingStrategy.names : List (List String × TelemetryReportingStrategy) :=
  [(["low_overhead", "1"], .lowOverhead),
   (["report_after_invocation", "2"], .reportAfterInvocation),
   (["report_during_and_after_invocation", "3"], .reportDuringAndAfterInvocation)]

/-- `from_str`. Its error has the text as it was given. -/
def TelemetryReportingStrategy.fromStr (s : String) :
    Except ConfigError TelemetryReportingStrategy :=
  parseName names (fun _ => .invalidReportingStrategy s) s

/-- The names of `LogMode`. -/
def LogMode.names : List (List String × LogMode) :=
  [(["disabled", "1"], .disabled), (["structured", "2"], .structured)]

/-- `from_str`. -/
def LogMode.fromStr : String → Except ConfigError LogMode := parseName names .invalidLogMode

/-- The names of `PlatformMetricsMode`. -/
def PlatformMetricsMode.names : List (List String × PlatformMetricsMode) :=
  [(["disabled", "1"], .disabled), (["platform_report", "2"], .platformReport),
   (["platform_v2", "3"], .platformV2)]

/-- `from_str`. -/
def PlatformMetricsMode.fromStr : String → Except ConfigError PlatformMetricsMode :=
  parseName names .invalidMetricsMode

/-- The names of `OtelMetricsMode`. -/
def OtelMetricsMode.names : List (List String × OtelMetricsMode) :=
  [(["disabled", "1"], .disabled), (["direct", "2"], .direct), (["processed", "3"], .processed)]

/-- `from_str`. -/
def OtelMetricsMode.fromStr : String → Except ConfigError OtelMetricsMode :=
  parseName names .invalidOtelMetricsMode

/-- The names of `TracingMode`. -/
def TracingMode.names : List (List String × TracingMode) :=
  [(["disabled", "1"], .disabled), (["telemetry_api", "2"], .telemetryApi),
   (["otel", "opentelemetry_instrumentation", "3"], .otelInstrumentation)]

/-- `from_str`. -/
def TracingMode.fromStr : String → Except ConfigError TracingMode :=
  parseName names .invalidTracingMode

/-- The names of `TraceSamplingMode`. -/
def TraceSamplingMode.names : List (List String × TraceSamplingMode) :=
  [(["all", "1"], .all), (["follow_xray", "2"], .followXray)]

/-- `from_str`. -/
def TraceSamplingMode.fromStr : String → Except ConfigError TraceSamplingMode :=
  parseName names .invalidTraceSamplingMode

namespace PlatformEventLogSet

/-- `PlatformEventLogSet::empty`. -/
def empty : PlatformEventLogSet := ⟨false, false, false⟩

/-- `PlatformEventLogSet::all`. -/
def all : PlatformEventLogSet := ⟨true, true, true⟩

/-- One token of `from_str`. -/
def addToken (result : PlatformEventLogSet) (token : String) :
    Except ConfigError PlatformEventLogSet :=
  let token := trim token
  if token = "start" ∨ token = "1" then .ok { result with start := true }
  else if token = "runtime_done" ∨ token = "2" then .ok { result with runtimeDone := true }
  else if token = "report" ∨ token = "3" then .ok { result with report := true }
  else .error (.invalidPlatformEventLog token)

/-- `from_str`. -/
def fromStr (s : String) : Except ConfigError PlatformEventLogSet :=
  let s := lowercase (trim s)
  if s = "disabled" ∨ s = "0" ∨ s = "" then .ok empty
  else (splitAtChar ',' s).foldlM addToken empty

end PlatformEventLogSet

/-- The names of `AttributeExclusionMode`. -/
def AttributeExclusionMode.names : List (List String × AttributeExclusionMode) :=
  [(["disabled", "1"], .disabled), (["predefined", "2"], .predefined)]

/-- `from_str`, with `Regex::new` and the `is_match` of the regex as a parameter. -/
def AttributeExclusionMode.fromStr (newRegex : String → Option (String → Bool)) (s : String) :
    Except ConfigError AttributeExclusionMode :=
  match lookupName names (lowercase (trim s)) with
  | some mode => .ok mode
  | none =>
    match newRegex (trim s) with
    | some isMatch => .ok (.regex isMatch)
    | none => .error (.invalidAttributeExclusionMode s)

/-! ## Targets -/

/-- `extract_target_config`. -/
def extractTargetConfig (env : Env) (pillar : String) : Option OtlpTargetConfig :=
  (getStringOption env ("OTEL_" ++ pillar ++ "_URL")).map .otel

/-- `extract_key_source_config`. -/
def extractKeySourceConfig (env : Env) : Except ConfigError KeySourceConfig :=
  match (getStringOption env "API_KEY").or (getStringOption env "PRIVATE_KEY"),
    getStringOption env "SECRET" with
  | some key, none => .ok (.envVar ⟨key⟩)
  | none, some secretId => .ok (.secretsManager secretId)
  | some _, some _ => .error .keySourceConflict
  | none, none => .error .missingKeySource

/-- The `main_target` of `extract_target_configs`. -/
def extractMainTarget (env : Env) : Except ConfigError (Option TargetConfig) :=
  match getStringOption env "FIREHOSE", getStringOption env "DOMAIN",
    getStringOption env "OTEL_URL" with
  | none, some domain, none =>
    (extractKeySourceConfig env).map fun keySourceConfig =>
      some (.otlp (.coralogix domain keySourceConfig))
  | none, none, some otelUrl => .ok (some (.otlp (.otel otelUrl)))
  | some deliveryStreamName, none, none => .ok (some (.firehose deliveryStreamName))
  | some _, _, some _ => .error .firehoseConflict
  | some _, some _, _ => .error .firehoseConflict
  | none, some _, some _ => .error .urlConflict
  | none, none, none => .ok none

/-- An enabled pillar without a target is an error. -/
def requireTarget (enabled : Bool) (mainTarget : Option TargetConfig)
    (target : Option OtlpTargetConfig) (pillar : String) : Except ConfigError Unit :=
  if enabled ∧ mainTarget.isNone ∧ target.isNone then .error (.missingTarget pillar) else .ok ()

/-- `extract_target_configs`. -/
def extractTargetConfigs (env : Env) (logsEnabled tracesEnabled metricsEnabled : Bool) :
    Except ConfigError TargetConfigs := do
  let alpnEnabled ← getBool env "OTEL_ALPN_ENABLED" false
  let combinedTelemetryEnabled ← getBool env "COMBINED_TELEMETRY_ENABLED" false
  let main ← extractMainTarget env
  let logs := extractTargetConfig env "LOGS"
  let traces := extractTargetConfig env "TRACES"
  let metrics := extractTargetConfig env "METRICS"
  requireTarget logsEnabled main logs "LOGS"
  requireTarget tracesEnabled main traces "TRACES"
  requireTarget metricsEnabled main metrics "METRICS"
  return { logs, traces, metrics, main, alpnEnabled, combinedTelemetryEnabled }

/-! ## Modes that depend on several variables -/

/-- `extract_aws_telemetry_interval`. -/
def extractAwsTelemetryInterval (env : Env) (reportingStrategy : TelemetryReportingStrategy) :
    Except ConfigError Nat := do
  match ← getUsizeOption env "AWS_TELEMETRY_INTERVAL_MS", reportingStrategy with
  | some intervalMs, _ =>
    if 25 ≤ intervalMs ∧ intervalMs ≤ 30000 then .ok intervalMs
    else .error (.invalidTelemetryInterval intervalMs)
  | none, .lowOverhead => .ok 500
  | none, .reportAfterInvocation => .ok 25
  | none, .reportDuringAndAfterInvocation => .ok 500

/-- The `enabled` of `extract_logs_metadata_mode`: the second variable is read if the first one is
not set. -/
def extractLogsMetadataEnabled (env : Env) : Except ConfigError Bool :=
  match getBoolOption env "LOGS_METADATA_ENABLED" with
  | .ok none => getBool env "LOG_METADATA_ENABLED" true
  | .ok (some enabled) => .ok enabled
  | .error e => .error e

/-- `extract_logs_metadata_mode`. -/
def extractLogsMetadataMode (env : Env) : Except ConfigError LogsMetadataMode := do
  let enabled ← extractLogsMetadataEnabled env
  let includeTraceRef ← getBool env "LOGS_METADATA_INCLUDE_TRACE_REF" true
  let includeExecution ← getBool env "LOGS_METADATA_INCLUDE_EXECUTION" true
  let includeInvocationId ← getBool env "LOGS_METADATA_INCLUDE_INVOCATION_ID" false
  return if enabled then .enabled { includeTraceRef, includeExecution, includeInvocationId }
    else .disabled

/-- `extract_platform_metrics_mode`. -/
def extractPlatformMetricsMode (env : Env) : Except ConfigError PlatformMetricsMode := do
  let mode ← (getStringOption env "METRICS_MODE").mapM PlatformMetricsMode.fromStr
  let enabled ← getBoolOption env "METRICS_ENABLED"
  let logOnly ← getBool env "LOG_ONLY" false
  match mode, enabled, logOnly with
  | none, none, false => .ok .platformReport
  | none, some true, false => .ok .platformReport
  | none, some false, false => .ok .disabled
  | some mode, none, false => .ok mode
  | some _, some _, _ => .error .metricsModeConflict
  | none, none, true => .ok .disabled
  | some .disabled, none, true => .ok .disabled
  | none, some false, true => .ok .disabled
  | _, _, true => .error .logOnlyMetricsConflict

/-- What `AppConfig::load` reads of its surroundings. -/
structure Surroundings where
  env : Env
  /-- `std::fs::metadata("/opt/otel-handler").is_ok()`. -/
  hasOtelWrapperFile : Bool
  /-- `Regex::new`, with the `is_match` of the regex. -/
  newRegex : String → Option (String → Bool)

/-- `extract_tracing_mode`. -/
def extractTracingMode (p : Surroundings) : Except ConfigError TracingMode := do
  let awsWrapperVar := p.env "AWS_LAMBDA_EXEC_WRAPPER"
  let mode ← (getStringOption p.env "TRACING_MODE").mapM TracingMode.fromStr
  let logOnly ← getBool p.env "LOG_ONLY" false
  match mode, logOnly with
  | none, true => .ok .disabled
  | none, false =>
    if awsWrapperVar = some "/opt/otel-handler" ∧ p.hasOtelWrapperFile then .ok .otelInstrumentation
    else .ok .telemetryApi
  | some .disabled, true => .ok .disabled
  | some _, true => .error .logOnlyTracingConflict
  | some mode, false => .ok mode

/-! ## `AppConfig::load` -/

/-- The `processor_config` of `load`. -/
def loadProcessorConfig (p : Surroundings) (logMode : LogMode)
    (platformMetricsMode : PlatformMetricsMode) (otelMetricsMode : OtelMetricsMode)
    (tracingMode : TracingMode) : Except ConfigError TelemetryProcessorConfig := do
  let logsMetadataMode ← extractLogsMetadataMode p.env
  let platformLogSet ← getParsable PlatformEventLogSet.fromStr p.env "PLATFORM_LOGS" .all
  let includeRequestId ← getBool p.env "PLATFORM_LOGS_INCLUDE_REQUEST_ID" true
  let hideDefaultValues ← getBool p.env "PLATFORM_LOGS_HIDE_DEFAULT_VALUES" false
  let traceSamplingMode ← getParsable TraceSamplingMode.fromStr p.env "TRACE_SAMPLING_MODE" .all
  let messageSizeLimit ← getUsizeOption p.env "MESSAGE_SIZE_LIMIT"
  let excludedSpanAttributes ←
    getParsable (AttributeExclusionMode.fromStr p.newRegex) p.env "EXCLUDED_SPAN_ATTRIBUTES" .disabled
  let resourceAttributes ← (extractAttributeConfigs p.env).mapError .invalidBuiltInAttribute
  return { logsMetadataMode, logMode, platformLogSet
           platformLogs := { includeRequestId, hideDefaultValues }
           platformMetricsMode, otelMetricsMode, tracingMode, traceSamplingMode
           messageSizeLimit := messageSizeLimit.getD 30000
           excludedSpanAttributes, resourceAttributes }

/-- The `function_context_provider_config` of `load`. -/
def loadFunctionContextProviderConfig (env : Env) :
    Except ConfigError FunctionContextProviderConfig := do
  let tagCacheValidity ← getI64Option env "TAG_CACHE_VALIDITY_MS"
  return { configuredApplication := getStringOption env "APPLICATION"
           configuredSubsystem := getStringOption env "SUBSYSTEM"
           configuredServiceName := getStringOption env "SERVICE_NAME"
           tagCacheValidity := tagCacheValidity.getD (5 * 60000) * 1000000 }

/-- `AppConfig::load`. -/
def AppConfig.load (p : Surroundings) : Except ConfigError AppConfig := do
  let reportingStrategy ←
    getString p.env "REPORTING_STRATEGY" >>= TelemetryReportingStrategy.fromStr
  let logMode ← getParsable LogMode.fromStr p.env "LOG_MODE" .structured
  let tracingMode ← extractTracingMode p
  let platformMetricsMode ← extractPlatformMetricsMode p.env
  let otelMetricsMode ← getParsable OtelMetricsMode.fromStr p.env "OTEL_METRICS_MODE" .processed
  let target ← extractTargetConfigs p.env (logMode ≠ .disabled) (tracingMode ≠ .disabled)
    (platformMetricsMode ≠ .disabled ∨ otelMetricsMode ≠ .disabled)
  let awsTelemetryIntervalMs ← extractAwsTelemetryInterval p.env reportingStrategy
  let otlpServerEnabled ← getBool p.env "OTLP_SERVER_ENABLED" true
  let tagsEnabled ← getBool p.env "TAGS_ENABLED" false
  let reportingDelay ← getDurationMs p.env "REPORTING_DELAY_MS" 15000
  let maxShutdownFlushDelay ← getDurationMs p.env "MAX_SHUTDOWN_FLUSH_DELAY_MS" 600
  let spanSendingThreshold ← getUsizeOption p.env "SPAN_SENDING_THRESHOLD"
  let processorConfig ←
    loadProcessorConfig p logMode platformMetricsMode otelMetricsMode tracingMode
  let functionContextProviderConfig ← loadFunctionContextProviderConfig p.env
  return { target, awsTelemetryIntervalMs, otlpServerEnabled, tagsEnabled
           telemetryServiceConfig :=
            { reportingStrategy, reportingDelay
              spanSendingThreshold := spanSendingThreshold.getD 2048
              processorConfig }
           maxShutdownFlushDelay, functionContextProviderConfig }

end TelemetryExporter
