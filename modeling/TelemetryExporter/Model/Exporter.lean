import TelemetryExporter.Model.Delivery
import TelemetryExporter.Model.FunctionContextProvider
import TelemetryExporter.Model.Service

/-!
# The exporter

What `main.rs` puts together: the telemetry service, the function context provider, the senders and
the tasks that send. The receivers of `lambda_event_receiver.rs`, `telemetry_event_receiver.rs` and
`otlp_server` call the service, which is what the actions of the exporter are. The crypto provider,
the AWS clients and the listeners are left out.
-/

namespace TelemetryExporter

/-! ## Starting -/

/-- `ErrorHandlingMode`. -/
inductive ErrorHandlingMode where
  | dontCrash
  | crash
  deriving DecidableEq

/-- `ErrorHandlingMode::from_env`. An invalid value is logged. -/
def ErrorHandlingMode.fromEnv (env : Env) : ErrorHandlingMode :=
  if (env "CX_ERROR_HANDLING").map (fun s => lowercase (trim s)) = some "crash" then .crash
  else .dontCrash

/-- The errors that `start_telemetry_exporter` ends with. -/
inductive StartFailure where
  /-- `LambdaEnvironmentError::VariableMissing`. -/
  | variableMissing (key : String)
  | config (e : ConfigError)
  | senders (e : StartError)

/-- What `start_telemetry_exporter` has made. -/
structure Setup where
  errorHandling : ErrorHandlingMode
  config : AppConfig
  senders : CompositeTelemetrySender
  provider : FunctionContextProvider

/-- `get_required_env_var`. -/
def getRequiredEnvVar (env : Env) (key : String) : Except StartFailure String :=
  match env key with
  | some value => .ok value
  | none => .error (.variableMissing key)

/-- `start_telemetry_exporter`, with the id that the instance draws. -/
def startTelemetryExporter (p : Surroundings) (context : StartContext)
    (lambdaInstanceCoralogixId : String) : Except StartFailure Setup := do
  let awsRegion ← getRequiredEnvVar p.env "AWS_REGION"
  let lambdaFunctionName ← getRequiredEnvVar p.env "AWS_LAMBDA_FUNCTION_NAME"
  let lambdaFunctionVersion ← getRequiredEnvVar p.env "AWS_LAMBDA_FUNCTION_VERSION"
  let config ← (AppConfig.load p).mapError .config
  let senders ← (startSenders context config.target).1.mapError .senders
  return { errorHandling := .fromEnv p.env
           config, senders
           provider :=
            { info :=
                { awsRegion, lambdaFunctionName, lambdaFunctionVersion, lambdaInstanceCoralogixId }
              config := config.functionContextProviderConfig
              hasTagsProvider := config.tagsEnabled } }

/-! ## Running -/

/-- The exporter: the cache of the function context provider, the service, the tasks that send, and
the `in_flight_send_operations` of the running handler's `SendingSupervisor`, by their numbers. -/
structure Exporter where
  cache : FunctionContextCache
  service : TelemetryService
  delivery : Delivery := {}
  inFlightSendOperations : List Nat := []
  /-- `handle_error` has aborted the process. -/
  crashed : Bool := false

/-- What can happen next. -/
inductive ExporterAction where
  /-- An invoke event is delivered and the function context obtained. -/
  | invoke (call : ProviderCall)
  /-- `handle_invoke_event` takes its next step. -/
  | handler (now : Instant)
  /-- The five seconds for which it awaits the sends in flight are over. -/
  | timeout (now : Instant)
  | telemetry (clock : Clock) (events : List LambdaTelemetry)
  | otlpSpans (clock : Clock) (resourceSpans : List ResourceSpans)
  | otlpMetrics (clock : Clock) (resourceMetrics : List ResourceMetrics)
  | wake (deadline : Instant) (clock : Clock)
  | shutdown
  /-- One of the tasks that send goes on. -/
  | delivery (a : DeliveryAction)

namespace Exporter

/-- The exporter when `start_telemetry_exporter` returns, at the given times. -/
def new (setup : Setup) (start : Instant) (now : Nat) : Exporter :=
  { cache := { timestamp := start }
    service := TelemetryService.new setup.config.telemetryServiceConfig now }

variable [External] (setup : Setup)

/-- A step of the service. A task is spawned for each batch that it gives to its
`SendingSupervisor`. -/
def serve (x : Exporter) (a : Action) : Option Exporter :=
  (serviceStep setup.config.telemetryServiceConfig x.service a).map fun service =>
    let batches := service.sent.drop x.service.sent.length
    { x with
      service
      delivery := batches.foldl (fun delivery batch => delivery.spawn setup.senders batch) x.delivery
      inFlightSendOperations :=
        x.inFlightSendOperations ++ List.range' x.delivery.tasks batches.length }

/-- `await_in_flight_sends` has returned. -/
def sendsFinished (x : Exporter) : Bool :=
  x.inFlightSendOperations.all x.delivery.finished

/-- `handle_invoke_event` awaits the sends in flight. -/
def isAwaiting (x : Exporter) : Bool :=
  match x.service.handler with
  | .awaiting => true
  | _ => false

/-- One step of the exporter. -/
def step (x : Exporter) (a : ExporterAction) : Option Exporter :=
  if x.crashed then none
  else match a with
  | .invoke call =>
    match x.service.handler with
    | .idle =>
      match setup.provider.onInvokeEvent call.event call.now call.nowAfter call.answer x.cache with
      | (cache, .ok functionContext) =>
        { x with cache, inFlightSendOperations := [] }.serve setup
          (.invoke call.event functionContext)
      | (cache, .error _) =>
        -- `LambdaEventReceiver` gives the error to `handle_error`
        some { x with cache, crashed := setup.errorHandling = .crash }
    | _ => none
  | .handler now =>
    if x.isAwaiting && !x.sendsFinished then none else x.serve setup (.handler now)
  | .timeout now => if x.isAwaiting then x.serve setup (.handler now) else none
  | .telemetry clock events => x.serve setup (.telemetry clock events)
  | .otlpSpans clock resourceSpans =>
    if setup.config.otlpServerEnabled then x.serve setup (.otlpSpans clock resourceSpans) else none
  | .otlpMetrics clock resourceMetrics =>
    if setup.config.otlpServerEnabled then x.serve setup (.otlpMetrics clock resourceMetrics)
    else none
  | .wake deadline clock => x.serve setup (.wake deadline clock)
  | .shutdown =>
    { x with inFlightSendOperations := [] }.serve setup
      (.shutdown (setup.provider.getFunctionContextEvenIfDegraded x.cache))
  | .delivery a => (x.delivery.step a).map fun delivery => { x with delivery }

end Exporter

/-- A run of the exporter from its start. -/
abbrev exporterRun [External] (setup : Setup) (start : Instant) (now : Nat)
    (actions : List ExporterAction) : Option Exporter :=
  Machine.run (Exporter.step setup) (Exporter.new setup start now) actions

/-! ## A sample environment -/

/-- The variables that Lambda and a user set. -/
def sampleVariables : List (String × String) :=
  [("AWS_REGION", "eu-west-1"), ("AWS_LAMBDA_FUNCTION_NAME", "f"),
    ("AWS_LAMBDA_FUNCTION_VERSION", "1"), ("CX_REPORTING_STRATEGY", "LOW_OVERHEAD"),
    ("CX_DOMAIN", "example.com"), ("CX_API_KEY", "key")]

/-- An environment with these variables and some more. -/
def sampleSurroundings (more : List (String × String)) : Surroundings :=
  { env := fun key => ((more ++ sampleVariables).find? fun v => v.1 = key).map Prod.snd
    hasOtelWrapperFile := false
    newRegex := fun _ => none }

/-- No secrets, and any URL. -/
def sampleStartContext : StartContext := { getSecret := fun _ => none, acceptsUrl := fun _ => true }

end TelemetryExporter
