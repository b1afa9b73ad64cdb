import TelemetryExporter.Lib.Machine
import TelemetryExporter.Model.Service
import TelemetryExporter.Verify.Processor

/-!
# The inputs of an invocation

Telemetry events and spans of the function reach the state of an invocation in any order. A run is a
list of such inputs.
-/

namespace TelemetryExporter

open Machine

/-- Whether the event is a `PlatformStart`. -/
def LambdaTelemetry.isStart (event : LambdaTelemetry) : Bool :=
  match event.record with
  | .platformStart .. => true
  | _ => false

/-- Whether the event is a `PlatformInitReport`. -/
def LambdaTelemetry.isInitReport (event : LambdaTelemetry) : Bool :=
  match event.record with
  | .platformInitReport .. => true
  | _ => false

/-- What the state of an invocation is given. -/
inductive InvocationInput where
  | telemetry (event : LambdaTelemetry)
  | functionSpans (spans : List ResourceSpans)

namespace InvocationInput

/-- The telemetry event. -/
def event? : InvocationInput → Option LambdaTelemetry
  | telemetry event => some event
  | functionSpans _ => none

/-- The batch of spans. -/
def spans? : InvocationInput → Option (List ResourceSpans)
  | telemetry _ => none
  | functionSpans spans => some spans

end InvocationInput

/-- The telemetry events of a run. -/
def telemetryOf (inputs : List InvocationInput) : List LambdaTelemetry :=
  inputs.filterMap InvocationInput.event?

/-- The batches of spans of a run. -/
def functionSpansOf (inputs : List InvocationInput) : List (List ResourceSpans) :=
  inputs.filterMap InvocationInput.spans?

@[simp] theorem telemetryOf_append (a b : List InvocationInput) :
    telemetryOf (a ++ b) = telemetryOf a ++ telemetryOf b :=
  List.filterMap_append

@[simp] theorem functionSpansOf_append (a b : List InvocationInput) :
    functionSpansOf (a ++ b) = functionSpansOf a ++ functionSpansOf b :=
  List.filterMap_append

section

variable [External]

/-- One `process_telemetry` or `process_function_spans`. -/
def inputStep (config : TelemetryProcessorConfig) (p : Processing InvocationProcessingState) :
    InvocationInput → Option (Processing InvocationProcessingState)
  | .telemetry event => (processTelemetry config event p).toOption
  | .functionSpans spans => some (processFunctionSpans config spans p)

/-- The state of an invocation that has processed nothing yet. -/
def IsFresh (config : TelemetryProcessorConfig) (state : InvocationProcessingState) : Prop :=
  ∃ serial functionContext invocationContext rng,
    state = (InvocationProcessingState.new serial functionContext invocationContext
      config.traceSamplingMode config.tracingMode rng).1

variable {config : TelemetryProcessorConfig} {p p' : Processing InvocationProcessingState}

theorem inputStep_telemetry {event : LambdaTelemetry}
    (h : inputStep config p (.telemetry event) = some p') :
    p' = processRecord config event.nanos event.record p := by
  unfold inputStep processTelemetry at h
  cases htime : eventTimestamp event with
  | error e =>
    simp only [htime] at h
    cases h
  | ok time =>
    simp only [htime] at h
    cases h
    rw [eventTimestamp_eq htime]

theorem inputStep_functionSpans {spans : List ResourceSpans}
    (h : inputStep config p (.functionSpans spans) = some p') :
    p' = processFunctionSpans config spans p := by
  cases h
  rfl

end

/-! ## A sample run -/

/-- The processor's configuration with all platform logs. -/
def sampleProcessorConfig (tracing : TracingMode) : TelemetryProcessorConfig :=
  { (sampleConfig .lowOverhead tracing).processorConfig with platformLogSet := ⟨true, true, true⟩ }

/-- An invocation that has processed nothing yet. -/
def freshProcessing (tracing : TracingMode) : Processing InvocationProcessingState where
  state := (@InvocationProcessingState.new sampleExternal 0 sampleContext
    ⟨sampleContext.arn, "r", [1], [2], true⟩ .all tracing 0).1
  metricsState := .disabled
  outputBuffers := {}
  rng := 0

theorem isFresh_freshProcessing (tracing : TracingMode) :
    @IsFresh sampleExternal (sampleProcessorConfig tracing) (freshProcessing tracing).state :=
  ⟨0, sampleContext, ⟨sampleContext.arn, "r", [1], [2], true⟩, 0, rfl⟩

end TelemetryExporter
