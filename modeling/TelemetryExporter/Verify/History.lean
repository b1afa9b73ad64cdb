import TelemetryExporter.Verify.Steps

/-!
# Invariants of the service

An invariant of the service's state may refer to what the service has received and sent so far. It
holds over all interleavings when the parts of an iteration, the arrival of each kind of input and
sending preserve it (`ServiceInvariant`).
-/

namespace TelemetryExporter

/-- What the service has received and sent so far: the invoke events that have been queued, the
telemetry, each OTLP export of spans with the state in which it arrived, and the batches. -/
structure History where
  requests : List InvokeEvent := []
  events : List LambdaTelemetry := []
  spans : List (TelemetryServiceState × List ResourceSpans) := []
  sent : List TelemetryBatch := []

/-- The three places where received spans can go. -/
inductive Received [External] (config : TelemetryServiceConfig) (spans : List ResourceSpans)
    (s : TelemetryServiceState) : TelemetryServiceState → Prop where
  | queued (hqueue : s.invokeEventQueue ≠ []) :
    Received config spans s
      { s with invokeEventQueue := extendLastSpans spans s.invokeEventQueue }
  | processed (state state' : InvocationProcessingState) (out : OutputBuffers)
      (hqueue : s.invokeEventQueue = []) (hstate : s.invocationState = some state)
      (hdone : state.runtimeDoneData.isSome = false)
      (carries : Carries config.processorConfig [] state state' s.outputBuffers out)
      (noLogs : state.logs = [] → state'.logs = []) :
    Received config spans s
      { s with
        outputBuffers := out
        invocationState := some state'
        trace := s.trace ++ [.functionSpans state.serial spans] }
  | waiting (hqueue : s.invokeEventQueue = [])
      (hstate : ∀ state, s.invocationState = some state → state.runtimeDoneData.isSome = true) :
    Received config spans s { s with functionSpansBuffer := s.functionSpansBuffer ++ spans }

section

variable [External] {config : TelemetryServiceConfig}

theorem receiveSpans_received (spans : List ResourceSpans) (s : TelemetryServiceState) :
    Received config spans s (receiveSpans config spans s) := by
  unfold receiveSpans
  split
  · next hqueue => exact .queued (by rw [hqueue]; exact List.cons_ne_nil _ _)
  · next hqueue =>
    split
    · next state hstate =>
      split
      · next hdone =>
        refine .waiting hqueue ?_
        intro st hst
        rw [hstate, Option.some.injEq] at hst
        exact hst ▸ hdone
      · next hdone =>
        have keeps := @processFunctionSpans_keeps
          ⟨state, s.metricsState, s.outputBuffers, s.rng⟩ _ config.processorConfig spans
        have grows := @processFunctionSpans_grows _ config.processorConfig
          ⟨state, s.metricsState, s.outputBuffers, s.rng⟩ spans
        exact .processed state _ _ hqueue hstate (by simpa using hdone) (.of_keeps keeps grows)
          keeps.noLogs
    · next hstate => exact .waiting hqueue fun st hst => by rw [hstate] at hst; cases hst

omit [External] in
theorem Acquired.trace_grows [External] {s : TelemetryServiceState}
    {o : Outcome (Option InvocationProcessingState)} (h : Acquired config s o) :
    s.trace <+: o.1.trace := by
  cases h with
  | created => exact List.prefix_append _ _
  | rejected => exact List.prefix_append _ _
  | _ => exact List.prefix_rfl

theorem Handled.trace_grows {s : TelemetryServiceState} {state : InvocationProcessingState}
    {event : LambdaTelemetry} {o : Outcome Bool} (h : Handled config state event s o) :
    s.trace <+: o.1.trace := by
  cases h with
  | buffered => exact List.prefix_rfl
  | _ => exact List.prefix_append _ _

theorem Received.trace_grows {spans : List ResourceSpans} {s s' : TelemetryServiceState}
    (h : Received config spans s s') : s.trace <+: s'.trace := by
  cases h with
  | processed => exact List.prefix_append _ _
  | _ => exact List.prefix_rfl

theorem Received.phase {spans : List ResourceSpans} {s s' : TelemetryServiceState}
    (h : Received config spans s s') (hphase : s.initHandled = true → s.initHandlingStarted = true) :
    s'.initHandled = true → s'.initHandlingStarted = true := by
  cases h <;> exact hphase

/-- What the metrics of an OTLP export change. -/
theorem processFunctionMetrics_state (metrics : List ResourceMetrics) (s : TelemetryServiceState) :
    ∃ acc buffer, processFunctionMetrics config metrics s =
      { s with
        metricsAccumulator := acc
        outputBuffers := { s.outputBuffers with functionMetricsBuffer := buffer } } := by
  unfold processFunctionMetrics
  split <;> exact ⟨_, _, rfl⟩

end

/-- What it takes for `I` to be an invariant where `J` is known to be one. -/
structure InvariantUnder [External] (config : TelemetryServiceConfig)
    (J I : History → TelemetryServiceState → Prop) : Prop where
  start : ∀ now, I {} (TelemetryService.new config now).state
  core : ∀ {h s s'}, J h s → I h s → s'.core = s.core → I h s'
  acquired : ∀ {h s o}, J h s → I h s → Acquired config s o → I h o.1
  handled : ∀ {h s state event queue o}, J h s → I h s → s.invocationState = some state →
    s.telemetryEventQueue = event :: queue →
    Handled config state event { s with telemetryEventQueue := queue } o → I h o.1
  enqueued : ∀ {h s} e functionContext, J h s → I h s →
    I { h with requests := h.requests ++ [e] } (pushInvokeEvent e functionContext s)
  accepted : ∀ {h s} events, J h s → I h s →
    I { h with events := h.events ++ events }
      { s with telemetryEventQueue := s.telemetryEventQueue ++ events }
  received : ∀ {h s spans s'}, J h s → I h s → Received config spans s s' →
    I { h with spans := h.spans ++ [(s, spans)] } s'
  metrics : ∀ {h s} acc buffer, J h s → I h s →
    I h { s with
          metricsAccumulator := acc
          outputBuffers := { s.outputBuffers with functionMetricsBuffer := buffer } }
  sent : ∀ {h s} functionContext, J h s → I h s →
    I { h with sent := h.sent ++ [(sendTelemetry config functionContext s).1] }
      (sendTelemetry config functionContext s).2

/-- What it takes to be an invariant. -/
abbrev ServiceInvariant [External] (config : TelemetryServiceConfig)
    (I : History → TelemetryServiceState → Prop) : Prop :=
  InvariantUnder config (fun _ _ => True) I

theorem InvariantUnder.and [External] {config : TelemetryServiceConfig}
    {J I : History → TelemetryServiceState → Prop} (hI : InvariantUnder config J I)
    (hJ : ServiceInvariant config J) : ServiceInvariant config fun h s => J h s ∧ I h s where
  start now := ⟨hJ.start now, hI.start now⟩
  core _ hs hcore := ⟨hJ.core trivial hs.1 hcore, hI.core hs.1 hs.2 hcore⟩
  acquired _ hs acquired := ⟨hJ.acquired trivial hs.1 acquired, hI.acquired hs.1 hs.2 acquired⟩
  handled _ hs hstate hqueue handled :=
    ⟨hJ.handled trivial hs.1 hstate hqueue handled, hI.handled hs.1 hs.2 hstate hqueue handled⟩
  enqueued e functionContext _ hs :=
    ⟨hJ.enqueued e functionContext trivial hs.1, hI.enqueued e functionContext hs.1 hs.2⟩
  accepted events _ hs := ⟨hJ.accepted events trivial hs.1, hI.accepted events hs.1 hs.2⟩
  received _ hs received := ⟨hJ.received trivial hs.1 received, hI.received hs.1 hs.2 received⟩
  metrics acc buffer _ hs :=
    ⟨hJ.metrics acc buffer trivial hs.1, hI.metrics acc buffer hs.1 hs.2⟩
  sent functionContext _ hs :=
    ⟨hJ.sent functionContext trivial hs.1, hI.sent functionContext hs.1 hs.2⟩

theorem InvariantUnder.under [External] {config : TelemetryServiceConfig}
    {J I : History → TelemetryServiceState → Prop} (hI : ServiceInvariant config I) :
    InvariantUnder config J I where
  start := hI.start
  core _ := hI.core trivial
  acquired _ := hI.acquired trivial
  handled _ := hI.handled trivial
  enqueued e functionContext _ := hI.enqueued e functionContext trivial
  accepted events _ := hI.accepted events trivial
  received _ := hI.received trivial
  metrics acc buffer _ := hI.metrics acc buffer trivial
  sent functionContext _ := hI.sent functionContext trivial

/-- The arrivals of spans in a run. -/
def arrivals (trail : List (TelemetryService × Action)) :
    List (TelemetryServiceState × List ResourceSpans) :=
  trail.filterMap fun
    | (service, .otlpSpans _ spans) => some (service.state, spans)
    | _ => none

theorem arrivals_append (past more : List (TelemetryService × Action)) :
    arrivals (past ++ more) = arrivals past ++ arrivals more :=
  List.filterMap_append

/-- The invoke events that the actions have delivered. -/
def acceptedRequests (actions : List Action) : List InvokeEvent := actions.flatMap Action.requests

/-- The events that the actions have delivered. -/
def acceptedEvents (actions : List Action) : List LambdaTelemetry := actions.flatMap Action.events

theorem acceptedEvents_snoc (past : List Action) (a : Action) :
    acceptedEvents (past ++ [a]) = acceptedEvents past ++ a.events := by
  simp [acceptedEvents]

theorem acceptedRequests_snoc (past : List Action) (a : Action) :
    acceptedRequests (past ++ [a]) = acceptedRequests past ++ a.requests := by
  simp [acceptedRequests]

/-- The history of a run that has reached `service`. -/
structure IsHistory (past : List (TelemetryService × Action)) (service : TelemetryService)
    (h : History) : Prop where
  requests : acceptedRequests (past.map Prod.snd) = h.requests ++ service.handler.requests
  events : h.events = acceptedEvents (past.map Prod.snd)
  spans : h.spans = arrivals past
  sent : h.sent = service.sent

namespace ServiceInvariant

variable [External] {config : TelemetryServiceConfig}
  {I : History → TelemetryServiceState → Prop} {h : History} {s : TelemetryServiceState}

/-- What holds between two steps. -/
def Holds (I : History → TelemetryServiceState → Prop) (h : History) (s : TelemetryServiceState) :
    Prop :=
  (s.initHandled = true → s.initHandlingStarted = true) ∧ I h s

theorem processQueues_holds (inv : ServiceInvariant config I) (hs : Holds I h s) :
    Holds I h (processQueues config s) := by
  unfold processQueues
  split
  · exact hs
  · refine Outcome.Satisfies.state (processTelemetryEvents_satisfies (P := fun _ => Holds I h)
      (fun _ _ hs => hs.1) ?_ ?_ hs)
    · intro d s o hs acquired
      have phase : o.1.initHandled = true → o.1.initHandlingStarted = true := by
        obtain ⟨-, hinit, hstarted⟩ := acquired.iterations_eq
        rw [hinit, hstarted]
        exact hs.1
      have holds := inv.acquired trivial hs.2 acquired
      obtain ⟨s', r⟩ := o
      cases r <;> exact ⟨phase, holds⟩
    · intro d s state event queue o hs hstate hqueue handled
      have phase := handled.phase hs.1
      have holds := inv.handled trivial hs.2 hstate hqueue handled
      obtain ⟨s', r⟩ := o
      cases r <;> exact ⟨phase, holds⟩

theorem core_holds (inv : ServiceInvariant config I) {s' : TelemetryServiceState}
    (hs : Holds I h s) (hcore : s'.core = s.core) : Holds I h s' := by
  refine ⟨?_, inv.core trivial hs.2 hcore⟩
  exact (SameCore.of_core hcore).phase hs.1

theorem step (inv : ServiceInvariant config I) {past : List (TelemetryService × Action)}
    {service service' : TelemetryService} {a : Action} (hist : IsHistory past service h)
    (hs : Holds I h service.state) (hstep : serviceStep config service a = some service') :
    service'.handler = .shutDown ∨
      ∃ h', IsHistory (past ++ [(service, a)]) service' h' ∧ Holds I h' service'.state := by
  have requests := hist.requests
  cases serviceStep_coreStep hstep with
  | still a service' hstate hsent hevents hspans hinvokes =>
    have hrequests : service'.handler.requests = service.handler.requests ++ a.requests := by
      rw [InvokeHandler.requests_of_invokes hinvokes, List.map_append, service.handler.invokes_fst,
        a.invokes_fst]
    refine .inr ⟨h, ⟨?_, ?_, ?_, ?_⟩, inv.core_holds hs hstate⟩
    · rw [List.map_append, List.map_singleton, acceptedRequests_snoc, requests, hrequests,
        List.append_assoc]
    · rw [List.map_append, List.map_singleton, acceptedEvents_snoc, hevents, List.append_nil,
        hist.events]
    · have : arrivals [(service, a)] = [] := by
        cases a with
        | otlpSpans clock spans => exact absurd rfl (hspans clock spans)
        | _ => rfl
      rw [hist.spans, arrivals_append, this, List.append_nil]
    · rw [hist.sent, hsent]
  | enqueued now e fc service' hstate hsent hhandler hhandler' =>
    have holds : Holds I { h with requests := h.requests ++ [e] }
        (pushInvokeEvent e fc service.state) := ⟨hs.1, inv.enqueued e fc trivial hs.2⟩
    have hhandler := InvokeHandler.requests_of_invokes hhandler
    have hhandler' := InvokeHandler.requests_of_invokes hhandler'
    refine .inr ⟨_, ⟨?_, ?_, ?_, ?_⟩, inv.core_holds (inv.processQueues_holds holds) hstate⟩
    · simp [acceptedRequests_snoc, requests, hhandler, hhandler', Action.requests]
    · simp [acceptedEvents_snoc, hist.events, Action.events]
    · simp [arrivals, hist.spans]
    · rw [hist.sent, hsent]
  | sent now fc service' hstate hsent hhandler hhandler' =>
    have hhandler := InvokeHandler.requests_of_invokes hhandler
    have hhandler' := InvokeHandler.requests_of_invokes hhandler'
    refine .inr ⟨_, ⟨?_, ?_, ?_, ?_⟩, inv.core_holds ⟨?_, inv.sent fc trivial hs.2⟩ hstate⟩
    · simp [acceptedRequests_snoc, requests, hhandler, hhandler', Action.requests]
    · simp [acceptedEvents_snoc, hist.events, Action.events]
    · simp [arrivals, hist.spans]
    · rw [hist.sent, hsent]
    · obtain ⟨m, acc, out, -, heq⟩ := @sendTelemetry_state config service.state fc
      rw [heq]
      exact hs.1
  | telemetry clock events s service' hs' hstate hsent hhandler =>
    have holds : Holds I { h with events := h.events ++ events }
        { service.state with
          telemetryEventQueue := service.state.telemetryEventQueue ++ events } :=
      ⟨hs.1, inv.accepted events trivial hs.2⟩
    refine .inr ⟨_, ⟨?_, ?_, ?_, ?_⟩,
      inv.core_holds (inv.processQueues_holds (inv.core_holds holds hs')) hstate⟩
    · simp [acceptedRequests_snoc, requests, hhandler, Action.requests]
    · simp [acceptedEvents_snoc, hist.events, Action.events]
    · simp [arrivals, hist.spans]
    · rw [hist.sent, hsent]
  | otlpSpans clock spans service' hstate hsent hhandler =>
    have received := @receiveSpans_received _ config spans service.state
    have phase := received.phase hs.1
    refine .inr ⟨_, ⟨?_, ?_, ?_, ?_⟩, inv.core_holds ⟨phase, inv.received trivial hs.2 received⟩ hstate⟩
    · simp [acceptedRequests_snoc, requests, hhandler, Action.requests]
    · simp [acceptedEvents_snoc, hist.events, Action.events]
    · simp [arrivals, hist.spans]
    · rw [hist.sent, hsent]
  | otlpMetrics clock metrics service' hstate hsent hhandler =>
    obtain ⟨acc, buffer, heq⟩ := @processFunctionMetrics_state _ config metrics service.state
    have holds : Holds I h (processFunctionMetrics config metrics service.state) := by
      rw [heq]
      exact ⟨hs.1, inv.metrics acc buffer trivial hs.2⟩
    refine .inr ⟨h, ⟨?_, ?_, ?_, ?_⟩, inv.core_holds holds hstate⟩
    · simp [acceptedRequests_snoc, requests, hhandler, Action.requests]
    · simp [acceptedEvents_snoc, hist.events, Action.events]
    · simp [arrivals, hist.spans]
    · rw [hist.sent, hsent]
  | shutDown fc service' _ _ _ hhandler' => exact .inl hhandler'

/-- An invariant holds over all interleavings until the shutdown. -/
theorem run (inv : ServiceInvariant config I) {now : Nat} {actions : List Action}
    {service : TelemetryService} (hrun : serviceRun config now actions = some service) :
    service.handler = .shutDown ∨
      ∃ h, IsHistory (Machine.trail (serviceStep config) (TelemetryService.new config now) actions)
        service h ∧ Holds I h service.state := by
  refine Machine.run_history (I := fun past service => service.handler = .shutDown ∨
    ∃ h, IsHistory past service h ∧ Holds I h service.state) ?_ ?_ hrun
  · refine .inr ⟨{}, ⟨rfl, rfl, rfl, rfl⟩, fun h => ?_, inv.start now⟩
    simp [TelemetryService.new] at h
  · intro past service a service' hs hstep
    rcases hs with hs | ⟨h, hist, hs⟩
    · exact .inl (serviceStep_shutDown hs hstep)
    · exact inv.step hist hs hstep

end ServiceInvariant

end TelemetryExporter
