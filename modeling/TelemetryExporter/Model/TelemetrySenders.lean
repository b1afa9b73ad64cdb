import TelemetryExporter.Model.AppConfig
import TelemetryExporter.Model.Senders

/-!
# Setting up the senders

The part of `start_telemetry_exporter` that makes the senders from the targets, with the parts of
`coralogix/mod.rs` that it uses, and `CompositeTelemetrySender`, which divides a batch among them.
Clients, timeouts and the version in the user agent are left out.
-/

namespace TelemetryExporter

/-! ## OTLP targets -/

/-- `OtlpTarget`. -/
inductive OtlpTarget where
  | coralogix (domain : String) (apiKey : ApiKey)
  | otel (url : String)
  deriving DecidableEq

/-- The `Endpoint` that `make_endpoint` makes. -/
structure Endpoint where
  uri : String
  isTls : Bool
  deriving DecidableEq

/-- What can fail when the senders are made. -/
inductive StartError where
  /-- `get_api_key_from_secrets_manager` has returned an error. -/
  | keySource (secretId : String)
  /-- `Channel::from_shared`, or the configuration of the channel, has returned an error. -/
  | endpoint (url : String)
  deriving DecidableEq

/-- What the start uses of AWS and of `tonic`. -/
structure StartContext where
  /-- `get_api_key_from_secrets_manager`, with `none` for its errors. -/
  getSecret : String → Option ApiKey
  /-- `Channel::from_shared` accepts the URL, and TLS can be configured for it. -/
  acceptsUrl : String → Bool

/-- `api_key_from_secret`, with the secrets that have been requested so far. The source keeps no such
record. -/
structure KeyState where
  apiKeyFromSecret : Option ApiKey := none
  requested : List String := []

/-- The API key of `make_target`. -/
def obtainApiKey (context : StartContext) (keySourceConfig : KeySourceConfig) (keys : KeyState) :
    Except StartError ApiKey × KeyState :=
  match keySourceConfig with
  | .envVar key => (.ok key, keys)
  | .secretsManager secretId =>
    match keys.apiKeyFromSecret with
    | some apiKey => (.ok apiKey, keys)
    | none =>
      let keys := { keys with requested := keys.requested ++ [secretId] }
      match context.getSecret secretId with
      | some apiKey => (.ok apiKey, { keys with apiKeyFromSecret := some apiKey })
      | none => (.error (.keySource secretId), keys)

/-- `make_target`. -/
def makeTarget (context : StartContext) (target : OtlpTargetConfig) (keys : KeyState) :
    Except StartError OtlpTarget × KeyState :=
  match target with
  | .coralogix domain keySourceConfig =>
    let (apiKey, keys) := obtainApiKey context keySourceConfig keys
    (apiKey.map fun apiKey => .coralogix domain apiKey, keys)
  | .otel url => (.ok (.otel url), keys)

/-- The `url` of `make_endpoint`. -/
def OtlpTarget.url : OtlpTarget → String
  | coralogix domain _ => "https://ingress." ++ domain ++ ":443"
  | otel url => url

/-- `make_endpoint`. -/
def makeEndpoint (context : StartContext) (target : OtlpTarget) : Except StartError Endpoint :=
  if context.acceptsUrl target.url then
    .ok { uri := target.url, isTls := (stripPrefix target.url "https://").isSome }
  else .error (.endpoint target.url)

/-- The `authorization` that `add_authorization_metadata` puts into a request. -/
def OtlpTarget.authorization : OtlpTarget → Option String
  | coralogix _ apiKey => some ("Bearer " ++ apiKey.token)
  | otel _ => none

/-- `OtlpLogSender`, `OtlpTraceSender`, `OtlpMetricSender` and `CxOtlpSender`. -/
structure OtlpSender where
  target : OtlpTarget
  endpoint : Endpoint
  deriving DecidableEq

/-- `OtlpLogSender::new`, and that of the other three. -/
def OtlpSender.new (context : StartContext) (target : OtlpTarget) : Except StartError OtlpSender :=
  (makeEndpoint context target).map fun endpoint => { target, endpoint }

/-! ## Setting up -/

/-- The senders of `main_sender`. -/
inductive MainSender where
  | firehose (deliveryStreamName : String)
  | combined (sender : OtlpSender)
  /-- A `CoralogixTelemetrySender`; that of the Epsagon traces does nothing. -/
  | coralogix (logs spans metrics : OtlpSender)
  deriving DecidableEq

/-- `CompositeTelemetrySender`. -/
structure CompositeTelemetrySender where
  logs : Option OtlpSender
  traces : Option OtlpSender
  metrics : Option OtlpSender
  main : Option MainSender
  deriving DecidableEq

/-- A sender for one target: `make_target` and then `new`. -/
def makeSender (context : StartContext) (target : OtlpTargetConfig) (keys : KeyState) :
    Except StartError OtlpSender × KeyState :=
  let (target, keys) := makeTarget context target keys
  (target >>= OtlpSender.new context, keys)

/-- The `main_sender` of `start_telemetry_exporter`. -/
def makeMainSender (context : StartContext) (combinedTelemetryEnabled : Bool) (target : TargetConfig)
    (keys : KeyState) : Except StartError MainSender × KeyState :=
  match target with
  | .firehose deliveryStreamName => (.ok (.firehose deliveryStreamName), keys)
  | .otlp target =>
    let (sender, keys) := makeSender context target keys
    -- the three senders are made of clones of one target, so they are the same
    (sender.map fun sender =>
      if combinedTelemetryEnabled then .combined sender else .coralogix sender sender sender, keys)

/-- A sender that there is only if it is configured. -/
def makeOptional {A B : Type} (make : A → KeyState → Except StartError B × KeyState) (target : Option A)
    (keys : KeyState) : Except StartError (Option B) × KeyState :=
  match target with
  | none => (.ok none, keys)
  | some target =>
    let (sender, keys) := make target keys
    (sender.map some, keys)

/-- The `composite_sender` of `start_telemetry_exporter`. The first error ends the start. -/
def startSenders (context : StartContext) (targets : TargetConfigs) :
    Except StartError CompositeTelemetrySender × KeyState :=
  match makeOptional (makeMainSender context targets.combinedTelemetryEnabled) targets.main {} with
  | (.error e, keys) => (.error e, keys)
  | (.ok main, keys) =>
    match makeOptional (makeSender context) targets.logs keys with
    | (.error e, keys) => (.error e, keys)
    | (.ok logs, keys) =>
      match makeOptional (makeSender context) targets.traces keys with
      | (.error e, keys) => (.error e, keys)
      | (.ok traces, keys) =>
        match makeOptional (makeSender context) targets.metrics keys with
        | (.error e, keys) => (.error e, keys)
        | (.ok metrics, keys) => (.ok { logs, traces, metrics, main }, keys)

/-! ## The lanes -/

/-- The senders that there can be, each with its own retry state: the three of a pillar, those of
`CoralogixTelemetrySender`, `CombinedTelemetrySender` and `FirehoseTelemetrySender`. -/
inductive Lane where
  | logs
  | traces
  | metrics
  | mainLogs
  | mainSpans
  | mainMetrics
  | combined
  | firehose
  deriving DecidableEq

namespace Lane

/-- All lanes. -/
def all : List Lane := [logs, traces, metrics, mainLogs, mainSpans, mainMetrics, combined, firehose]

/-- What `send_telemetry` of the lane is called with. -/
def Input : Lane → Type
  | logs => List ResourceLogs
  | traces => List ResourceSpans
  | metrics => List ResourceMetrics
  | mainLogs => List ResourceLogs
  | mainSpans => List ResourceSpans
  | mainMetrics => List ResourceMetrics
  | combined => TelemetryBatch
  | firehose => TelemetryBatch

/-- What is handed to the transport. -/
def Message : Lane → Type
  | logs => List ResourceLogs
  | traces => List ResourceSpans
  | metrics => List ResourceMetrics
  | mainLogs => List ResourceLogs
  | mainSpans => List ResourceSpans
  | mainMetrics => List ResourceMetrics
  | combined => Telemetry
  | firehose => Telemetry

/-- The errors of the lane's `send`. -/
def SendError : Lane → Type
  | firehose => FirehoseError
  | _ => CoralogixError

/-- The sender of the lane. -/
def sender : (lane : Lane) → RetryingSender lane.Input lane.Message lane.SendError
  | logs => otlpPillarTelemetrySender ResourceLogs
  | traces => otlpPillarTelemetrySender ResourceSpans
  | metrics => otlpPillarTelemetrySender ResourceMetrics
  | mainLogs => otlpPillarTelemetrySender ResourceLogs
  | mainSpans => otlpPillarTelemetrySender ResourceSpans
  | mainMetrics => otlpPillarTelemetrySender ResourceMetrics
  | combined => combinedTelemetrySender
  | firehose => firehoseTelemetrySender

end Lane

namespace CompositeTelemetrySender

/-- Where the requests of a lane go to. -/
def otlpSender (senders : CompositeTelemetrySender) : Lane → Option OtlpSender
  | .logs => senders.logs
  | .traces => senders.traces
  | .metrics => senders.metrics
  | .mainLogs => match senders.main with | some (.coralogix logs _ _) => some logs | _ => none
  | .mainSpans => match senders.main with | some (.coralogix _ spans _) => some spans | _ => none
  | .mainMetrics => match senders.main with | some (.coralogix _ _ metrics) => some metrics | _ => none
  | .combined => match senders.main with | some (.combined sender) => some sender | _ => none
  | .firehose => none

/-- What is left for `main` of a batch. -/
def rest (senders : CompositeTelemetrySender) (batch : TelemetryBatch) : TelemetryBatch :=
  { logs := if senders.logs.isSome then [] else batch.logs
    spans := if senders.traces.isSome then [] else batch.spans
    metrics := if senders.metrics.isSome then [] else batch.metrics
    epsagonTraces := batch.epsagonTraces }

/-- `send_telemetry`, and that of `CoralogixTelemetrySender`: what it calls the lane's
`send_telemetry` with, if it does. -/
def route (senders : CompositeTelemetrySender) (batch : TelemetryBatch) :
    (lane : Lane) → Option lane.Input
  | .logs => senders.logs.map fun _ => batch.logs
  | .traces => senders.traces.map fun _ => batch.spans
  | .metrics => senders.metrics.map fun _ => batch.metrics
  | .mainLogs =>
    match senders.main with
    | some (.coralogix ..) => some (senders.rest batch).logs
    | _ => none
  | .mainSpans =>
    match senders.main with
    | some (.coralogix ..) => some (senders.rest batch).spans
    | _ => none
  | .mainMetrics =>
    match senders.main with
    | some (.coralogix ..) => some (senders.rest batch).metrics
    | _ => none
  | .combined =>
    match senders.main with
    | some (.combined _) => some (senders.rest batch)
    | _ => none
  | .firehose =>
    match senders.main with
    | some (.firehose _) => some (senders.rest batch)
    | _ => none

end CompositeTelemetrySender

end TelemetryExporter
