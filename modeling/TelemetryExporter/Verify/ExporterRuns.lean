import TelemetryExporter.Model.Exporter
import TelemetryExporter.Verify.FunctionContexts
import TelemetryExporter.Verify.Lanes
import TelemetryExporter.Verify.Routing

/-!
# Runs of the exporter

The exporter takes the steps of its service and those of its lanes. So a run of it is a run of the
service, and for each lane a run of that lane's sender, whose calls are made with what the batches of
the service have for the lane. What is known of all runs of a service and of a sender is thereby known
of the exporter.
-/

namespace TelemetryExporter

open Machine

/-! ## Steps -/

section

variable [External] {setup : Setup} {x x' : Exporter}

/-- The step of the service that an action of the exporter makes, with the cache and the tasks that the
handler awaits from then on. -/
inductive Exporter.Serves (setup : Setup) (x : Exporter) :
    ExporterAction → FunctionContextCache → List Nat → Action → Prop where
  | invoke (call : ProviderCall) (cache : FunctionContextCache) (functionContext : FunctionContext)
      (h : setup.provider.onInvokeEvent call.event call.now call.nowAfter call.answer x.cache =
        (cache, .ok functionContext)) :
    Serves setup x (.invoke call) cache [] (.invoke call.event functionContext)
  | handler (now : Instant) (h : x.isAwaiting = true → x.sendsFinished = true) :
    Serves setup x (.handler now) x.cache x.inFlightSendOperations (.handler now)
  | timeout (now : Instant) (h : x.isAwaiting = true) :
    Serves setup x (.timeout now) x.cache x.inFlightSendOperations (.handler now)
  | telemetry (clock : Clock) (events : List LambdaTelemetry) :
    Serves setup x (.telemetry clock events) x.cache x.inFlightSendOperations (.telemetry clock events)
  | otlpSpans (clock : Clock) (resourceSpans : List ResourceSpans)
      (h : setup.config.otlpServerEnabled = true) :
    Serves setup x (.otlpSpans clock resourceSpans) x.cache x.inFlightSendOperations
      (.otlpSpans clock resourceSpans)
  | otlpMetrics (clock : Clock) (resourceMetrics : List ResourceMetrics)
      (h : setup.config.otlpServerEnabled = true) :
    Serves setup x (.otlpMetrics clock resourceMetrics) x.cache x.inFlightSendOperations
      (.otlpMetrics clock resourceMetrics)
  | wake (deadline : Instant) (clock : Clock) :
    Serves setup x (.wake deadline clock) x.cache x.inFlightSendOperations (.wake deadline clock)
  | shutdown :
    Serves setup x .shutdown x.cache []
      (.shutdown (setup.provider.getFunctionContextEvenIfDegraded x.cache))

/-- What one step can do. -/
inductive ExporterStep (setup : Setup) (x : Exporter) : ExporterAction → Exporter → Prop where
  /-- A step of the service that sends nothing. -/
  | served (action : ExporterAction) (cache : FunctionContextCache) (inFlight : List Nat) (a : Action)
      (service : TelemetryService) (hserves : Exporter.Serves setup x action cache inFlight a)
      (hstep : serviceStep setup.config.telemetryServiceConfig x.service a = some service)
      (hsent : service.sent = x.service.sent) :
    ExporterStep setup x action { x with cache, service, inFlightSendOperations := inFlight }
  /-- A step of the service that sends a batch. -/
  | sent (action : ExporterAction) (cache : FunctionContextCache) (inFlight : List Nat) (a : Action)
      (service : TelemetryService) (batch : TelemetryBatch)
      (hserves : Exporter.Serves setup x action cache inFlight a)
      (hstep : serviceStep setup.config.telemetryServiceConfig x.service a = some service)
      (hsent : service.sent = x.service.sent ++ [batch]) :
    ExporterStep setup x action
      { x with
        cache
        service
        delivery := x.delivery.spawn setup.senders batch
        inFlightSendOperations := inFlight ++ [x.delivery.tasks] }
  | failed (call : ProviderCall) (e : Error) (hidle : x.service.handler = .idle)
      (h : (setup.provider.onInvokeEvent call.event call.now call.nowAfter call.answer x.cache).2 =
        .error e) :
    ExporterStep setup x (.invoke call)
      { x with crashed := setup.errorHandling = .crash }
  | delivered (a : DeliveryAction) (delivery : Delivery) (h : x.delivery.step a = some delivery) :
    ExporterStep setup x (.delivery a) { x with delivery }

/-- A step of the service sends at most one batch. -/
theorem serviceStep_sent {config : TelemetryServiceConfig} {service service' : TelemetryService}
    {a : Action} (h : serviceStep config service a = some service') :
    service'.sent = service.sent ∨ ∃ batch, service'.sent = service.sent ++ [batch] := by
  cases serviceStep_coreStep h with
  | still a service' hstate heq => exact .inl heq
  | enqueued now e functionContext service' hstate heq => exact .inl heq
  | sent now functionContext service' hstate heq => exact .inr ⟨_, heq⟩
  | telemetry clock events s service' hs hstate heq => exact .inl heq
  | otlpSpans clock spans service' hstate heq => exact .inl heq
  | otlpMetrics clock metrics service' hstate heq => exact .inl heq
  | shutDown functionContext service' hstate heq => exact .inr ⟨_, heq⟩

omit [External] in
/-- A failed call leaves the cache as it is. -/
theorem onInvokeEvent_error {provider : FunctionContextProvider} {e : InvokeEvent}
    {now nowAfter : Instant} {answer : TagsAnswer} {cache cache' : FunctionContextCache} {error : Error}
    (h : provider.onInvokeEvent e now nowAfter answer cache = (cache', .error error)) :
    cache' = cache := by
  unfold FunctionContextProvider.onInvokeEvent at h
  split at h
  · cases h
  · split at h
    · cases h
      rfl
    · cases h

omit [External] in
/-- A context that is returned is then in the cache. It was there before, or is made for the event. -/
theorem onInvokeEvent_ok {provider : FunctionContextProvider} {e : InvokeEvent}
    {now nowAfter : Instant} {answer : TagsAnswer} {cache cache' : FunctionContextCache}
    {functionContext : FunctionContext}
    (h : provider.onInvokeEvent e now nowAfter answer cache = (cache', .ok functionContext)) :
    cache'.functionContext = some functionContext ∧
      (cache.functionContext = some functionContext ∨ functionContext.MadeFor provider e) := by
  unfold FunctionContextProvider.onInvokeEvent at h
  split at h
  · next hcached =>
    cases h
    rw [FunctionContextProvider.cached, Option.filter_eq_some_iff] at hcached
    exact ⟨hcached.1, .inl hcached.1⟩
  · split at h
    · cases h
    · next hobtained =>
      cases h
      obtain ⟨arn, harn, hmade⟩ := Check.map_ok_iff.1 hobtained
      exact ⟨rfl, .inr ⟨arn, _, harn, hmade.symm⟩⟩

theorem serve_cases {action : ExporterAction} {cache : FunctionContextCache} {inFlight : List Nat}
    {a : Action} (hserves : Exporter.Serves setup x action cache inFlight a)
    (h : Exporter.serve setup { x with cache, inFlightSendOperations := inFlight } a = some x') :
    ExporterStep setup x action x' := by
  obtain ⟨service, hstep, rfl⟩ := Option.map_eq_some_iff.1 h
  rcases serviceStep_sent hstep with hsent | ⟨batch, hsent⟩
  · have hnone : service.sent.drop x.service.sent.length = [] := by
      rw [hsent, List.drop_length]
    simp only [hnone, List.foldl_nil, List.length_nil, List.range'_zero, List.append_nil]
    exact .served action cache inFlight a service hserves hstep hsent
  · have hone : service.sent.drop x.service.sent.length = [batch] := by
      rw [hsent, List.drop_left]
    simp only [hone, List.foldl_cons, List.foldl_nil, List.length_singleton, List.range'_one]
    exact .sent action cache inFlight a service batch hserves hstep hsent

theorem exporterStep_cases {a : ExporterAction} (h : x.step setup a = some x') :
    x.crashed = false ∧ ExporterStep setup x a x' := by
  unfold Exporter.step at h
  split at h
  · cases h
  · next hcrashed =>
    refine ⟨Bool.eq_false_iff.2 hcrashed, ?_⟩
    cases a with
    | invoke call =>
      dsimp only at h
      split at h
      · next hidle =>
        split at h
        · next cache functionContext hcontext =>
          exact serve_cases (.invoke call cache functionContext hcontext) h
        · next cache e hcontext =>
          cases h
          obtain rfl := onInvokeEvent_error hcontext
          exact .failed call e hidle (by rw [hcontext])
      · cases h
    | handler now =>
      dsimp only at h
      split at h
      · cases h
      · next hfinished =>
        refine serve_cases (.handler now fun hawaiting => ?_) h
        rw [hawaiting, Bool.true_and, Bool.not_eq_true', Bool.not_eq_false] at hfinished
        exact hfinished
    | timeout now =>
      dsimp only at h
      split at h
      · next hawaiting => exact serve_cases (.timeout now hawaiting) h
      · cases h
    | telemetry clock events => exact serve_cases (.telemetry clock events) h
    | otlpSpans clock resourceSpans =>
      dsimp only at h
      split at h
      · next henabled => exact serve_cases (.otlpSpans clock resourceSpans henabled) h
      · cases h
    | otlpMetrics clock resourceMetrics =>
      dsimp only at h
      split at h
      · next henabled => exact serve_cases (.otlpMetrics clock resourceMetrics henabled) h
      · cases h
    | wake deadline clock => exact serve_cases (.wake deadline clock) h
    | shutdown => exact serve_cases .shutdown h
    | delivery a =>
      obtain ⟨delivery, hdelivery, rfl⟩ := Option.map_eq_some_iff.1 h
      exact .delivered a delivery hdelivery

end

/-- A step of the tasks is a step of one lane. -/
theorem deliveryStep_cases {d d' : Delivery} {a : DeliveryAction} (h : d.step a = some d') :
    ∃ lane action s, (d.lanes lane).step lane.sender action = some s ∧ d' = d.setLane lane s := by
  cases a with
  | start lane task =>
    obtain ⟨s, hs, rfl⟩ := Option.map_eq_some_iff.1 h
    exact ⟨lane, _, s, hs, rfl⟩
  | hand lane call half =>
    obtain ⟨s, hs, rfl⟩ := Option.map_eq_some_iff.1 h
    exact ⟨lane, _, s, hs, rfl⟩
  | complete lane call half outcome =>
    obtain ⟨s, hs, rfl⟩ := Option.map_eq_some_iff.1 h
    exact ⟨lane, _, s, hs, rfl⟩
  | finish lane call =>
    obtain ⟨s, hs, rfl⟩ := Option.map_eq_some_iff.1 h
    exact ⟨lane, _, s, hs, rfl⟩

/-! ## Runs -/

/-- The function context that the action brings. -/
def Action.functionContext : Action → Option FunctionContext
  | .invoke _ functionContext => some functionContext
  | .shutdown functionContext => some functionContext
  | _ => none

/-- The context is that of the function of an invoke event, or the degraded one. -/
def FunctionContext.KnownFrom (functionContext : FunctionContext) (provider : FunctionContextProvider)
    (actions : List ExporterAction) : Prop :=
  (∃ call, .invoke call ∈ actions ∧ functionContext.MadeFor provider call.event) ∨
    functionContext = provider.makeDegradedFunctionContext

/-- The lanes serve the batches. -/
def Delivery.Serves (senders : CompositeTelemetrySender) (sent : List TelemetryBatch)
    (d : Delivery) : Prop :=
  d.tasks = sent.length ∧ ∀ lane, ∃ actions started,
    (d.lanes lane).Serves lane.sender (sent.map (senders.route · lane)) actions started

namespace Delivery.Serves

variable {senders : CompositeTelemetrySender} {sent : List TelemetryBatch} {d d' : Delivery}

theorem initial (senders : CompositeTelemetrySender) : ({} : Delivery).Serves senders [] :=
  ⟨rfl, fun _ => ⟨[], [], .initial⟩⟩

theorem spawn (h : d.Serves senders sent) (batch : TelemetryBatch) :
    (d.spawn senders batch).Serves senders (sent ++ [batch]) := by
  refine ⟨?_, ?_⟩
  · rw [List.length_append, ← h.1]
    rfl
  · intro lane
    obtain ⟨actions, started, hlane⟩ := h.2 lane
    refine ⟨actions, started, ?_⟩
    have hcall := hlane.call (senders.route batch lane)
    rw [List.length_map, ← h.1] at hcall
    rw [List.map_append, List.map_singleton]
    exact hcall

theorem step (h : d.Serves senders sent) {a : DeliveryAction} (hstep : d.step a = some d') :
    d'.Serves senders sent := by
  obtain ⟨lane, action, s, hs, rfl⟩ := deliveryStep_cases hstep
  refine ⟨h.1, fun lane' => ?_⟩
  by_cases heq : lane' = lane
  · subst heq
    obtain ⟨actions, started, hlane⟩ := h.2 lane'
    obtain ⟨actions', started', hlane'⟩ := hlane.step hs
    refine ⟨actions', started', ?_⟩
    rw [setLane_lanes_self]
    exact hlane'
  · rw [setLane_lanes_ne heq]
    exact h.2 lane'

end Delivery.Serves

section

variable [External] {setup : Setup} {x x' : Exporter} {start : Instant} {now : Nat}
  {actions : List ExporterAction}

/-- What is known after the actions. -/
structure ExporterInvariant (setup : Setup) (now : Nat) (actions : List ExporterAction)
    (x : Exporter) : Prop where
  service : ∃ serviceActions,
    serviceRun setup.config.telemetryServiceConfig now serviceActions = some x.service ∧
      ∀ a ∈ serviceActions, ∀ functionContext, a.functionContext = some functionContext →
        functionContext.KnownFrom setup.provider actions
  cache : ∀ functionContext, x.cache.functionContext = some functionContext →
    ∃ call, .invoke call ∈ actions ∧ functionContext.MadeFor setup.provider call.event
  delivery : x.delivery.Serves setup.senders x.service.sent

namespace ExporterInvariant

/-- The context that a step of the service brings. -/
theorem serves {action : ExporterAction} {cache : FunctionContextCache} {inFlight : List Nat}
    {a : Action} (h : ExporterInvariant setup now actions x)
    (hserves : Exporter.Serves setup x action cache inFlight a) :
    (∀ functionContext, cache.functionContext = some functionContext →
      ∃ call, .invoke call ∈ actions ++ [action] ∧
        functionContext.MadeFor setup.provider call.event) ∧
    ∀ functionContext, a.functionContext = some functionContext →
      functionContext.KnownFrom setup.provider (actions ++ [action]) := by
  have old {functionContext : FunctionContext}
      (hcache : x.cache.functionContext = some functionContext) :
      ∃ call, .invoke call ∈ actions ++ [action] ∧
        functionContext.MadeFor setup.provider call.event := by
    obtain ⟨call, hcall, hmade⟩ := h.cache functionContext hcache
    exact ⟨call, List.mem_append_left _ hcall, hmade⟩
  cases hserves with
  | invoke call cache functionContext hcontext =>
    obtain ⟨hcache, hmade⟩ := onInvokeEvent_ok hcontext
    have known : ∃ call', .invoke call' ∈ actions ++ [.invoke call] ∧
        functionContext.MadeFor setup.provider call'.event := by
      rcases hmade with hold | hmade
      · exact old hold
      · exact ⟨call, List.mem_append_right _ (List.mem_singleton_self _), hmade⟩
    refine ⟨fun fc hfc => ?_, fun fc hfc => ?_⟩
    · rw [hcache] at hfc
      cases hfc
      exact known
    · cases hfc
      exact .inl known
  | shutdown =>
    refine ⟨fun fc hfc => old hfc, fun fc hfc => ?_⟩
    cases hfc
    unfold FunctionContextProvider.getFunctionContextEvenIfDegraded
    cases hcache : x.cache.functionContext with
    | none => exact .inr rfl
    | some functionContext => exact .inl (old hcache)
  | _ => exact ⟨fun fc hfc => old hfc, nofun⟩

theorem initial (setup : Setup) (start : Instant) (now : Nat) :
    ExporterInvariant setup now [] (Exporter.new setup start now) where
  service := ⟨[], rfl, nofun⟩
  cache := nofun
  delivery := .initial _

/-- The service has taken a step. -/
theorem serviceSteps (h : ExporterInvariant setup now actions x) {action : ExporterAction} {a : Action}
    {service : TelemetryService}
    (hstep : serviceStep setup.config.telemetryServiceConfig x.service a = some service)
    (hcontext : ∀ functionContext, a.functionContext = some functionContext →
      functionContext.KnownFrom setup.provider (actions ++ [action])) :
    ∃ serviceActions,
      serviceRun setup.config.telemetryServiceConfig now serviceActions = some service ∧
        ∀ a ∈ serviceActions, ∀ functionContext, a.functionContext = some functionContext →
          functionContext.KnownFrom setup.provider (actions ++ [action]) := by
  obtain ⟨serviceActions, hrun, hcontexts⟩ := h.service
  refine ⟨serviceActions ++ [a], run_snoc.2 ⟨_, hrun, hstep⟩, fun b hb fc hfc => ?_⟩
  rcases List.mem_append.1 hb with hb | hb
  · rcases hcontexts b hb fc hfc with ⟨call, hcall, hmade⟩ | hdegraded
    · exact .inl ⟨call, List.mem_append_left _ hcall, hmade⟩
    · exact .inr hdegraded
  · rw [List.mem_singleton.1 hb] at hfc
    exact hcontext fc hfc

theorem step (h : ExporterInvariant setup now actions x) {action : ExporterAction}
    (hstep : ExporterStep setup x action x') :
    ExporterInvariant setup now (actions ++ [action]) x' := by
  -- a step that leaves the service and the cache as they are
  have still (service : x'.service = x.service) (cache : x'.cache = x.cache)
      (delivery : x'.delivery.Serves setup.senders x.service.sent) :
      ExporterInvariant setup now (actions ++ [action]) x' := by
    refine ⟨?_, fun fc hfc => ?_, service ▸ delivery⟩
    · obtain ⟨serviceActions, hrun, hcontexts⟩ := h.service
      refine ⟨serviceActions, service ▸ hrun, fun a ha fc hfc => ?_⟩
      rcases hcontexts a ha fc hfc with ⟨call, hcall, hmade⟩ | hdegraded
      · exact .inl ⟨call, List.mem_append_left _ hcall, hmade⟩
      · exact .inr hdegraded
    · rw [cache] at hfc
      obtain ⟨call, hcall, hmade⟩ := h.cache fc hfc
      exact ⟨call, List.mem_append_left _ hcall, hmade⟩
  cases hstep with
  | served action cache inFlight a service hserves hstep hsent =>
    obtain ⟨hcache, hcontext⟩ := h.serves hserves
    refine ⟨h.serviceSteps hstep hcontext, hcache, ?_⟩
    dsimp only
    rw [hsent]
    exact h.delivery
  | sent action cache inFlight a service batch hserves hstep hsent =>
    obtain ⟨hcache, hcontext⟩ := h.serves hserves
    refine ⟨h.serviceSteps hstep hcontext, hcache, ?_⟩
    dsimp only
    rw [hsent]
    exact h.delivery.spawn batch
  | failed call e hidle herror => exact still rfl rfl h.delivery
  | delivered a delivery hdelivery => exact still rfl rfl (h.delivery.step hdelivery)

end ExporterInvariant

theorem exporterRun_invariant (hrun : exporterRun setup start now actions = some x) :
    ExporterInvariant setup now actions x :=
  run_actions (.initial setup start now)
    (fun _ _ _ _ h hstep => h.step (exporterStep_cases hstep).2) hrun

/-- **The exporter runs its service and its lanes.** Whatever happens in whatever order, the service of
the exporter has taken a run of `TelemetryService`, with the function contexts of the functions
invoked, and each lane delivers what the batches have for it: every task with something for the lane
has one call there, which hands its batch to the transport once, and only after a failure that is
retried another call does so once more; what a call or the retry slot holds under a number is what the
task of that number's call offered; and what the transport is handed has items. -/
theorem exporter_delivers (hrun : exporterRun setup start now actions = some x) :
    (∃ serviceActions,
      serviceRun setup.config.telemetryServiceConfig now serviceActions = some x.service ∧
        ∀ a ∈ serviceActions, ∀ functionContext, a.functionContext = some functionContext →
          functionContext.KnownFrom setup.provider actions) ∧
    ∀ lane, (x.delivery.lanes lane).Delivers lane.sender
      (x.service.sent.map (setup.senders.route · lane)) := by
  have h := exporterRun_invariant hrun
  refine ⟨h.service, fun lane => ?_⟩
  obtain ⟨laneActions, started, hlane⟩ := h.delivery.2 lane
  exact hlane.delivers

/-- A started exporter and a run of it, found by evaluating them. -/
theorem exists_exporterRun {p : Surroundings} {context : StartContext} {instanceId : String}
    {P : Setup → Exporter → Prop} [∀ setup x, Decidable (P setup x)]
    (h : ((startTelemetryExporter p context instanceId).toOption.any fun setup =>
      (exporterRun setup start now actions).any fun x => decide (P setup x)) = true) :
    ∃ setup x, startTelemetryExporter p context instanceId = .ok setup ∧
      exporterRun setup start now actions = some x ∧ P setup x := by
  obtain ⟨setup, hsetup, h⟩ := (Option.any_eq_true _ _).1 h
  obtain ⟨x, hrun, h⟩ := (Option.any_eq_true _ _).1 h
  refine ⟨setup, x, ?_, hrun, of_decide_eq_true h⟩
  cases hstart : startTelemetryExporter p context instanceId with
  | error e =>
    rw [hstart] at hsetup
    cases hsetup
  | ok setup' =>
    rw [hstart] at hsetup
    cases hsetup
    rfl

end

/-- The environment of an exporter that reports after each invocation. -/
def sampleReporting : Surroundings :=
  sampleSurroundings
    [("CX_TRACING_MODE", "disabled"), ("CX_REPORTING_STRATEGY", "REPORT_AFTER_INVOCATION")]

/-- The rest of an invocation with a log, up to where the handler awaits the send of its batch. -/
def sampleInvocation : List ExporterAction :=
  [.handler 0, .handler 0,
    .telemetry ⟨0, 0, 0⟩
      [sampleInitStart 1, sampleStart 2 "r", sampleLog 3 "hello", sampleRuntimeDone 4 "r"],
    .handler 0, .handler 0, .handler 0, .handler 0]

/-- The send of its batch. There are only logs in it. -/
def sampleDeliveries : List ExporterAction :=
  [.start .mainLogs 0, .hand .mainLogs 0 .resend, .hand .mainLogs 0 .send,
    .complete .mainLogs 0 .send (.response none), .finish .mainLogs 0,
    .start .mainSpans 0, .hand .mainSpans 0 .resend, .hand .mainSpans 0 .send, .finish .mainSpans 0,
    .start .mainMetrics 0, .hand .mainMetrics 0 .resend, .hand .mainMetrics 0 .send,
    .finish .mainMetrics 0].map .delivery

/-- The transport is not available, and the send of the next batch, that of the shutdown, sends the logs
once more. -/
def sampleRetry : List ExporterAction :=
  [.delivery (.start .mainLogs 0), .delivery (.hand .mainLogs 0 .resend),
    .delivery (.hand .mainLogs 0 .send),
    .delivery (.complete .mainLogs 0 .send (.status .unavailable)),
    .delivery (.finish .mainLogs 0), .timeout 0, .shutdown, .delivery (.start .mainLogs 1),
    .delivery (.hand .mainLogs 1 .resend), .delivery (.hand .mainLogs 1 .send),
    .delivery (.complete .mainLogs 1 .resend (.response none))]

theorem exporter_delivers_retry :
    ∃ setup x, startTelemetryExporter sampleReporting sampleStartContext "id" = .ok setup ∧
      @exporterRun sampleExternal setup 0 0 (.invoke (sampleCall 0) :: sampleInvocation ++ sampleRetry) =
        some x ∧
      (x.delivery.lanes .mainLogs).sender.log.countP (SenderEvent.isHanded 0) = 2 ∧
      (x.delivery.lanes .mainLogs).Delivers Lane.mainLogs.sender
        (x.service.sent.map (setup.senders.route · .mainLogs)) := by
  obtain ⟨setup, x, hstart, hrun, hhanded⟩ := @exists_exporterRun sampleExternal 0 0
    (.invoke (sampleCall 0) :: sampleInvocation ++ sampleRetry) sampleReporting sampleStartContext "id"
    (fun _ x => (x.delivery.lanes .mainLogs).sender.log.countP (SenderEvent.isHanded 0) = 2) _
    (by decide +kernel)
  exact ⟨setup, x, hstart, hrun, hhanded, (@exporter_delivers sampleExternal _ _ _ _ _ hrun).2 .mainLogs⟩

end TelemetryExporter
