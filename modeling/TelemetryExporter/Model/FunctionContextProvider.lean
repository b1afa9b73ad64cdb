import TelemetryExporter.Lib.Machine
import TelemetryExporter.Model.AppConfig
import TelemetryExporter.Model.Context

/-!
# The function context provider

`function_context.rs`. The provider learns the ARN of the function from the invoke events and keeps
the context that it has made for as long as the configuration says. Its mutex is held during the whole
of `on_invoke_event`, the request for the tags included, so a call is one step here.
-/

namespace TelemetryExporter

/-- `LambdaInstanceInfo`. -/
structure LambdaInstanceInfo where
  awsRegion : String
  lambdaFunctionName : String
  lambdaFunctionVersion : String
  lambdaInstanceCoralogixId : String

/-- `FunctionContextCache`. -/
structure FunctionContextCache where
  timestamp : Instant
  functionContext : Option FunctionContext := none

/-- What does not change in a `FunctionContextProvider`. -/
structure FunctionContextProvider where
  info : LambdaInstanceInfo
  config : FunctionContextProviderConfig
  /-- There is a `function_tags_provider`. -/
  hasTagsProvider : Bool

/-- What AWS answers to `obtain_function_tags`, with `none` for its errors. -/
abbrev TagsAnswer := LambdaFunctionArn → Option (List (String × String))

namespace FunctionContextProvider

/-- `make_function_context`. -/
def makeFunctionContext (provider : FunctionContextProvider) (arn : LambdaFunctionArn)
    (tags : Option (List (String × String))) : FunctionContext where
  arn := arn
  versionArn := arn.withVersion provider.info.lambdaFunctionVersion
  applicationName := provider.config.configuredApplication.getD arn.accountId
  subsystemName := provider.config.configuredSubsystem.getD provider.info.lambdaFunctionName
  serviceName := provider.config.configuredServiceName.getD provider.info.lambdaFunctionName
  lambdaFunctionVersion := provider.info.lambdaFunctionVersion
  lambdaInstanceCoralogixId := provider.info.lambdaInstanceCoralogixId
  tags := tags

/-- `make_degraded_function_context`. -/
def makeDegradedFunctionContext (provider : FunctionContextProvider) : FunctionContext :=
  let versionArn : LambdaFunctionArn :=
    { partition := "unknown"
      region := provider.info.awsRegion
      accountId := "unknown"
      functionName := provider.info.lambdaFunctionName
      version := some provider.info.lambdaFunctionVersion }
  { arn := versionArn.withoutVersion
    versionArn
    applicationName := provider.config.configuredApplication.getD "aws-lambda"
    subsystemName := provider.config.configuredSubsystem.getD provider.info.lambdaFunctionName
    serviceName := provider.config.configuredServiceName.getD provider.info.lambdaFunctionName
    lambdaFunctionVersion := provider.info.lambdaFunctionVersion
    lambdaInstanceCoralogixId := provider.info.lambdaInstanceCoralogixId
    tags := none }

/-- `obtain_function_context`. A failure to obtain the tags is logged. -/
def obtainFunctionContext (provider : FunctionContextProvider) (e : InvokeEvent)
    (answer : TagsAnswer) : Except Error FunctionContext :=
  (LambdaFunctionArn.fromStr e.invokedFunctionArn).map fun arn =>
    let arn := arn.withoutVersion
    provider.makeFunctionContext arn (if provider.hasTagsProvider then answer arn else none)

/-- The context that is in the cache and still valid. `elapsed` is zero for a time in the future. -/
def cached (provider : FunctionContextProvider) (now : Instant) (cache : FunctionContextCache) :
    Option FunctionContext :=
  cache.functionContext.filter fun _ => max (now - cache.timestamp) 0 ≤ provider.config.tagCacheValidity

/-- `on_invoke_event`, with the times before and after the request for the tags: its result, and the
cache. -/
def onInvokeEvent (provider : FunctionContextProvider) (e : InvokeEvent) (now nowAfter : Instant)
    (answer : TagsAnswer) (cache : FunctionContextCache) :
    FunctionContextCache × Except Error FunctionContext :=
  match provider.cached now cache with
  | some functionContext => (cache, .ok functionContext)
  | none =>
    match provider.obtainFunctionContext e answer with
    | .error e => (cache, .error e)
    | .ok functionContext =>
      ({ timestamp := nowAfter, functionContext := some functionContext }, .ok functionContext)

/-- `get_function_context_even_if_degraded`. -/
def getFunctionContextEvenIfDegraded (provider : FunctionContextProvider)
    (cache : FunctionContextCache) : FunctionContext :=
  cache.functionContext.getD provider.makeDegradedFunctionContext

end FunctionContextProvider

/-! ## Runs -/

/-- The cache, with the time of the last call (`clock`), the times before and after each request for
the tags (`requests`) and what the calls have returned (`results`). The source keeps none of these
records. -/
structure ProviderState where
  cache : FunctionContextCache
  clock : Instant
  requests : List (Instant × Instant) := []
  results : List (Except Error FunctionContext) := []

/-- A call of `on_invoke_event`. -/
structure ProviderCall where
  event : InvokeEvent
  now : Instant
  nowAfter : Instant
  answer : TagsAnswer

/-- One call. The monotonic clock does not go back. -/
def providerStep (provider : FunctionContextProvider) (s : ProviderState) (call : ProviderCall) :
    Option ProviderState :=
  if s.clock ≤ call.now ∧ call.now ≤ call.nowAfter then
    let (cache, result) :=
      provider.onInvokeEvent call.event call.now call.nowAfter call.answer s.cache
    let requested := (provider.cached call.now s.cache).isNone ∧
      (LambdaFunctionArn.fromStr call.event.invokedFunctionArn).isOk ∧ provider.hasTagsProvider
    some
      { cache
        clock := call.nowAfter
        requests := s.requests ++ if requested then [(call.now, call.nowAfter)] else []
        results := s.results ++ [result] }
  else none

/-- A run of the provider, from its `new` at the given time. -/
abbrev providerRun (provider : FunctionContextProvider) (start : Instant)
    (calls : List ProviderCall) : Option ProviderState :=
  Machine.run (providerStep provider) { cache := { timestamp := start }, clock := start } calls

end TelemetryExporter
