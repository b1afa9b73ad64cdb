import TelemetryExporter.Verify.Signals

/-!
# Readiness

When `handle_invoke_event` leaves its receive loop, the invocation's `PlatformRuntimeDone` has been
processed, all outputs up to that moment are in a batch, and the channel has no further signal that
an invocation is done.
-/

namespace TelemetryExporter

/-! ## Outputs in a batch -/

/-- The scope spans of a batch. -/
def TelemetryBatch.scopeSpans (batch : TelemetryBatch) : List ScopeSpans :=
  batch.spans.flatMap (·.scopeSpans)

/-- The scope metrics of a batch. -/
def TelemetryBatch.scopeMetrics (batch : TelemetryBatch) : List ScopeMetrics :=
  batch.metrics.flatMap (·.scopeMetrics)

/-- The batch has everything that is in the output buffers. The buffer for function metrics is in use
where they are exported directly. -/
structure OutputBuffers.TakenIn (mode : OtelMetricsMode) (out : OutputBuffers)
    (batch : TelemetryBatch) : Prop where
  logs : out.logsBuffer <+: batch.logRecords
  spans : out.spansBuffer <:+: batch.scopeSpans.flatMap (·.spans)
  functionSpans : out.functionSpansBuffer <+: batch.scopeSpans
  functionMetrics : mode = .direct →
    (out.functionMetricsBuffer.flatMap (·.scopeMetrics)).filter (fun m => !m.metrics.isEmpty) <:+:
      batch.scopeMetrics
  epsagonTraces : out.epsagonTracesBuffer <+: batch.epsagonTraces

section

variable [External] {config : TelemetryServiceConfig} {s : TelemetryServiceState}

omit [External] in
/-- What is in a batch for the buffers is in it for what they have grown from. -/
theorem OutputBuffers.TakenIn.of_grows {mode : OtelMetricsMode} {out out' : OutputBuffers}
    {batch : TelemetryBatch} (h : out'.TakenIn mode batch) (hgrows : out.Grows out') :
    out.TakenIn mode batch where
  logs := hgrows.logs.trans h.logs
  spans := hgrows.spans.isInfix.trans h.spans
  functionSpans := hgrows.functionSpans.trans h.functionSpans
  functionMetrics hmode := by
    obtain ⟨more, hmore⟩ := hgrows.functionMetrics
    refine List.IsInfix.trans ?_ (h.functionMetrics hmode)
    rw [← hmore, List.flatMap_append, List.filter_append]
    exact (List.prefix_append _ _).isInfix
  epsagonTraces := hgrows.epsagonTraces.trans h.epsagonTraces

omit [External] in
theorem prepareSpans_scopeSpans (functionContext : FunctionContext) (out : OutputBuffers) :
    (prepareSpans config functionContext out).flatMap (·.scopeSpans) = out.functionSpansBuffer ++
      if out.spansBuffer.isEmpty then [] else [wrapSpansInScope out.spansBuffer functionContext] := by
  have wrapped (scopeSpans : List ScopeSpans) (attributes : AttributeConfig) :
      (if scopeSpans.isEmpty then []
        else [wrapSpansInResource scopeSpans functionContext attributes]).flatMap (·.scopeSpans) =
        scopeSpans := by
    split
    · next hempty =>
      rw [List.isEmpty_iff.1 hempty]
      rfl
    · simp [wrapSpansInResource]
  exact wrapped _ _

omit [External] in
theorem prepareMetrics_scopeMetrics (functionContext : FunctionContext) :
    (prepareMetrics config functionContext s).1.flatMap (·.scopeMetrics) =
      (takeScopeMetrics config s).1 := by
  unfold prepareMetrics
  dsimp only
  split
  · next hempty =>
    rw [List.isEmpty_iff.1 hempty]
    rfl
  · simp [wrapMetricsInResource]

omit [External] in
theorem takeScopeMetrics_outputs :
    (takeScopeMetrics config s).2.outputBuffers.epsagonTracesBuffer =
        s.outputBuffers.epsagonTracesBuffer ∧
      (config.processorConfig.otelMetricsMode = .direct →
        (s.outputBuffers.functionMetricsBuffer.flatMap (·.scopeMetrics)).filter
          (fun m => !m.metrics.isEmpty) <:+ (takeScopeMetrics config s).1) := by
  unfold takeScopeMetrics
  dsimp only
  split <;> split
  all_goals refine ⟨rfl, fun hmode => ?_⟩
  all_goals simp_all

omit [External] in
/-- `send_telemetry` takes everything that is in the output buffers. -/
theorem sendTelemetry_takes (functionContext : FunctionContext) :
    s.outputBuffers.TakenIn config.processorConfig.otelMetricsMode
      (sendTelemetry config functionContext s).1 := by
  let t : TelemetryServiceState :=
    { s with
      shouldSend := false
      shouldSendBy := none
      outputBuffers :=
        { s.outputBuffers with
          logsBuffer := [], spansBuffer := [], functionSpansBuffer := [], functionSpansCount := 0 } }
  obtain ⟨hepsagon, hmetrics⟩ := @takeScopeMetrics_outputs config t
  have hscopeSpans : (sendTelemetry config functionContext s).1.scopeSpans = _ :=
    prepareSpans_scopeSpans functionContext s.outputBuffers
  have hscopeMetrics : (sendTelemetry config functionContext s).1.scopeMetrics = _ :=
    @prepareMetrics_scopeMetrics config t functionContext
  refine ⟨?_, ?_, ?_, fun hmode => ?_, ?_⟩
  · exact sendTelemetry_logRecords .. ▸ List.prefix_rfl
  · rw [hscopeSpans, List.flatMap_append]
    split
    · next hempty =>
      rw [List.isEmpty_iff.1 hempty]
      exact List.nil_infix
    · refine List.IsSuffix.isInfix ?_
      simp [wrapSpansInScope]
  · rw [hscopeSpans]
    exact List.prefix_append _ _
  · rw [hscopeMetrics]
    exact (hmetrics hmode).isInfix
  · have htraces : (sendTelemetry config functionContext s).1.epsagonTraces =
        (takeScopeMetrics config t).2.outputBuffers.epsagonTracesBuffer := rfl
    exact htraces.trans hepsagon ▸ List.prefix_rfl

/-! ## Outputs over a run -/

/-- Since `mid` a batch has been sent that has all its outputs. -/
def OutputsTaken (config : TelemetryServiceConfig) (mid service : TelemetryService) : Prop :=
  ∃ batch ∈ service.sent.drop mid.sent.length,
    mid.state.outputBuffers.TakenIn config.processorConfig.otelMetricsMode batch

/-- Since `mid` nothing has been sent, and its outputs are still in the buffers. -/
structure OutputsKept (mid service : TelemetryService) : Prop where
  sent : service.sent = mid.sent
  grows : mid.state.outputBuffers.Grows service.state.outputBuffers

variable {service service' mid : TelemetryService} {a : Action}

omit [External] in
/-- What has been taken stays taken. -/
theorem OutputsTaken.mono (h : OutputsTaken config mid service) (hsent : service.sent <+: service'.sent) :
    OutputsTaken config mid service' := by
  obtain ⟨batch, hbatch, htaken⟩ := h
  obtain ⟨more, hmore⟩ := hsent
  refine ⟨batch, ?_, htaken⟩
  rw [← hmore, List.drop_append]
  exact List.mem_append_left _ hbatch

omit [External] in
theorem OutputsTaken.of_kept (h : OutputsTaken config service service')
    (hkept : OutputsKept mid service) : OutputsTaken config mid service' := by
  obtain ⟨batch, hbatch, htaken⟩ := h
  rw [hkept.sent] at hbatch
  exact ⟨batch, hbatch, htaken.of_grows hkept.grows⟩

/-- One step keeps the outputs or takes them all. -/
theorem LoopStep.outputs (hstep : LoopStep config service a service') :
    OutputsKept service service' ∨
      service.sent <+: service'.sent ∧ OutputsTaken config service service' := by
  cases hstep with
  | checked now functionContext hhandler =>
    rcases sendIfNeeded_cases functionContext now service with heq | heq
    · rw [heq]
      refine .inr ⟨List.prefix_append _ _, (sendTelemetry config functionContext service.state).1, ?_,
        sendTelemetry_takes functionContext⟩
      simp [TelemetryService.send]
    · rw [heq]
      exact .inl ⟨rfl, .refl _⟩
  | effect a s e service' hstate hsignals hsent hhandler henqueued htrace hout hshould extend =>
    refine .inl ⟨hsent, ?_⟩
    rw [hstate, ← hout]
    exact extend.grows
  | _ => exact .inl ⟨rfl, .refl _⟩

/-- Since `mid` the outputs are kept, or taken. -/
structure OutputsFollowed (config : TelemetryServiceConfig) (mid service : TelemetryService) :
    Prop where
  sent : mid.sent <+: service.sent
  outputs : OutputsKept mid service ∨ OutputsTaken config mid service

theorem OutputsFollowed.step (h : OutputsFollowed config mid service)
    (hstep : LoopStep config service a service') : OutputsFollowed config mid service' := by
  have hsent : service.sent <+: service'.sent := by
    rcases hstep.outputs with kept | ⟨hsent, -⟩
    · exact kept.sent ▸ List.prefix_rfl
    · exact hsent
  refine ⟨h.sent.trans hsent, ?_⟩
  rcases h.outputs with kept | taken
  · rcases hstep.outputs with kept' | ⟨-, taken⟩
    · exact .inl ⟨kept'.sent.trans kept.sent, kept.grows.trans kept'.grows⟩
    · exact .inr (taken.of_kept kept)
  · exact .inr (taken.mono hsent)

/-- Since an invocation was signalled to be done, in `mid`, its outputs have been taken, or the
handler will send before it receives that signal. -/
def OutputsDue (config : TelemetryServiceConfig) (mid service : TelemetryService) : Prop :=
  OutputsTaken config mid service ∨
    service.state.shouldSend = true ∧ ∃ functionContext,
      service.handler = .checking functionContext ∨
      service.handler = .receiving functionContext ∧ ∃ before after,
        service.signals = before ++ .shouldSend :: after ∧ .invocationDone ∉ before

theorem OutputsDue.step (h : OutputsDue config mid service)
    (followed : OutputsFollowed config mid service) (hstep : LoopStep config service a service') :
    OutputsDue config mid service' := by
  rcases h with taken | ⟨hshould, functionContext, hhandler⟩
  · rcases hstep.outputs with kept | ⟨hsent, -⟩
    · exact .inl (taken.mono (kept.sent ▸ List.prefix_rfl))
    · exact .inl (taken.mono hsent)
  have howed : service.handler.owed = 1 := by
    rcases hhandler with h | ⟨h, -⟩ <;> rw [h] <;> rfl
  cases hstep with
  | called e functionContext hidle =>
    rw [hidle] at howed
    cases howed
  | returning now b handler howed' =>
    rw [howed'] at howed
    cases howed
  | effect a s e service' hstate hsignals hsent hhandler' henqueued htrace hout hshould' extend =>
    have hsame : service'.handler = service.handler := by
      rcases hhandler' with h | ⟨_, h, -⟩
      · exact h
      · omega
    refine .inr ⟨?_, functionContext, ?_⟩
    · rw [hstate]
      exact extend.shouldSend (hshould'.trans hshould)
    · rcases hhandler with h | ⟨h, before, after, heq, hbefore⟩
      · exact .inl (hsame.trans h)
      · refine .inr ⟨hsame.trans h, before, after ++ e.signals, ?_, hbefore⟩
        rw [hsignals, heq, List.append_assoc]
        rfl
  | checked now functionContext' hchecking =>
    have hsend : service.sendIfNeeded config functionContext' now =
        service.send config functionContext' := by
      simp [TelemetryService.sendIfNeeded, hshould]
    rw [hsend]
    have taken : OutputsTaken config service (service.send config functionContext') :=
      ⟨_, by simp [TelemetryService.send], sendTelemetry_takes functionContext'⟩
    rcases followed.outputs with kept | already
    · exact .inl (taken.of_kept kept)
    · exact .inl (already.mono (List.prefix_append _ _))
  | woken now functionContext' rest hreceiving hsignals =>
    exact .inr ⟨hshould, functionContext', .inl rfl⟩
  | left now functionContext' rest hreceiving hsignals =>
    -- a request to send comes before the signal that is received here
    rcases hhandler with h | ⟨-, before, after, heq, hbefore⟩
    · rw [h] at hreceiving
      cases hreceiving
    · rw [hsignals] at heq
      cases before with
      | nil => cases heq
      | cons signal before =>
        rw [List.cons_append, List.cons.injEq] at heq
        exact absurd (heq.1 ▸ List.mem_cons_self) hbefore

/-! ## Leaving the loop -/

variable {stream : TelemetryStream} {now : Nat} {past more actions : List Action}

/-- What one step of the loop preserves holds at the end of a run if it holds on the way. -/
theorem StreamRun.loop_invariant {P : TelemetryService → Prop}
    (h : StreamRun config stream now (past ++ more) service)
    (hstrategy : config.reportingStrategy.sendAfterInvocation = true)
    (hmid : serviceRun config now past = some mid) (hP : P mid)
    (hstep : ∀ {s a s'}, P s → LoopStep config s a s' → P s') : P service := by
  induction more using List.reverseRecOn generalizing service with
  | nil =>
    have hrun := h.run
    rw [List.append_nil, hmid, Option.some.injEq] at hrun
    exact hrun ▸ hP
  | append_singleton more a ih =>
    rw [← List.append_assoc] at h
    obtain ⟨before, hbefore, hlast⟩ := h.init
    have handler := (hbefore.balanced hstrategy).handler
    exact hstep (ih hbefore) (h.step hstrategy hbefore.run handler hlast)

theorem StreamRun.followed (h : StreamRun config stream now (past ++ more) service)
    (hstrategy : config.reportingStrategy.sendAfterInvocation = true)
    (hmid : serviceRun config now past = some mid) : OutputsFollowed config mid service :=
  h.loop_invariant hstrategy hmid ⟨List.prefix_rfl, .inl ⟨rfl, .refl _⟩⟩ OutputsFollowed.step

/-- The step that signals that an invocation is done. -/
theorem LoopStep.due (hstep : LoopStep config service a service') (balanced : Balanced service')
    (hle : runtimeDones service'.state.trace ≤ service'.state.enqueued)
    (hsignal : service.signals.count .invocationDone < service'.signals.count .invocationDone) :
    OutputsDue config service' service' := by
  have hcount := balanced.count
  have howed := service'.handler.owed_le
  cases hstep with
  | effect a s e service' hstate hsignals hsent hhandler henqueued htrace hout hshould extend
      signals =>
    cases signals with
    | quiet hquiet =>
      rw [hsignals, List.count_append, List.count_eq_zero.2 hquiet] at hsignal
      omega
    | done before hbefore hdone hshould' =>
      have hnone : service.signals.count .invocationDone = 0 := by omega
      have hone : service'.handler.owed = 1 := by omega
      refine .inr ⟨by rw [hstate]; exact hshould', ?_⟩
      cases hhandler' : service'.handler with
      | checking functionContext => exact ⟨functionContext, .inl rfl⟩
      | receiving functionContext =>
        refine ⟨functionContext, .inr ⟨rfl, service.signals ++ before, [.invocationDone], ?_, ?_⟩⟩
        · rw [hsignals, hdone, List.append_assoc]
        · rw [List.mem_append, not_or]
          exact ⟨List.count_eq_zero.1 hnone, hbefore⟩
      | _ =>
        rw [hhandler'] at hone
        cases hone
  | called => exact absurd hsignal (Nat.lt_irrefl _)
  | checked now functionContext hhandler =>
    rcases sendIfNeeded_cases functionContext now service with heq | heq
    · rw [heq] at hsignal
      exact absurd hsignal (Nat.lt_irrefl _)
    · rw [heq] at hsignal
      exact absurd hsignal (Nat.lt_irrefl _)
  | woken now functionContext rest hhandler hsignals =>
    rw [hsignals] at hsignal
    exact absurd hsignal (Nat.not_lt.2 ((List.sublist_cons_self _ _).count_le _))
  | left now functionContext rest hhandler hsignals =>
    rw [hsignals] at hsignal
    exact absurd hsignal (Nat.not_lt.2 ((List.sublist_cons_self _ _).count_le _))
  | returning => exact absurd hsignal (Nat.lt_irrefl _)

omit [External] in
theorem handlerStep_leaving [External] {now : Instant}
    (hstep : handlerStep config now service = some service') (hleaving : service'.handler = .leaving) :
    ∃ functionContext rest, service.handler = .receiving functionContext ∧
      service.signals = .invocationDone :: rest ∧ service'.signals = rest := by
  cases handlerStep_cases hstep with
  | done functionContext rest hhandler hsignals =>
    exact ⟨functionContext, rest, hhandler, hsignals, rfl⟩
  | drained e functionContext signal rest hhandler =>
    rw [hhandler] at hleaving
    cases hleaving
  | enqueued =>
    dsimp only at hleaving
    split at hleaving <;> cases hleaving
  | _ => cases hleaving

/-- If all invocations that have been queued are done, the last one is. -/
theorem StreamRun.last_done (h : StreamRun config stream now actions service)
    (hhandler : service.handler.requests = []) (hpositive : 0 < service.state.enqueued)
    (hdone : runtimeDones service.state.trace = service.state.enqueued) :
    ∃ request, (acceptedRequests actions).getLast? = some request ∧
      ∃ event, .telemetry ((acceptedRequests actions).length - 1) event ∈ service.state.trace ∧
        event.isRuntimeDone = true ∧ event.requestId = some request.requestId := by
  obtain ⟨requests, heq, enrolled, accounted, attributed⟩ :=
    serviceRun_attributed h.run h.noShutdown h.requests h.events h.noFailures
  rw [hhandler, List.append_nil] at heq
  have hlength := enrolled.enqueued
  have hpre : processedEvents service.state.trace <+: stream.events := by
    refine List.IsPrefix.trans ?_ h.events
    rw [← accounted.events, List.append_assoc]
    exact List.prefix_append _ _
  have hlast : requests.length - 1 < requests.length := by omega
  obtain ⟨request, hrequest, hmem⟩ := attributed.runtimeDone hpre
    (i := requests.length - 1) (by omega)
  obtain ⟨more, hmore⟩ := h.requests
  have hid : request.requestId = requests[requests.length - 1].requestId := by
    have hget : stream.requestIds[requests.length - 1]? = some request.requestId := by
      rw [TelemetryStream.requestIds, List.getElem?_map, hrequest]
      rfl
    rw [← hmore, heq, List.getElem?_append_left (by simpa using hlast), List.getElem?_map,
      List.getElem?_eq_getElem hlast] at hget
    exact (Option.some.inj hget).symm
  rw [heq]
  refine ⟨requests[requests.length - 1], ?_, request.runtimeDone, hmem, request.isRuntimeDone.1, ?_⟩
  · rw [List.getLast?_eq_getElem?, List.getElem?_eq_getElem hlast]
  · rw [request.isRuntimeDone.2, hid]

/-- When a signal that an invocation is done is next in the channel of the waiting handler, the
outputs up to the step that sent it have been taken. -/
theorem StreamRun.outputs_taken {before after : TelemetryService}
    {functionContext : FunctionContext} {rest : List Signal}
    (h : StreamRun config stream now ((past ++ [a]) ++ more) service)
    (hstrategy : config.reportingStrategy.sendAfterInvocation = true)
    (hreceiving : service.handler = .receiving functionContext)
    (hsignals : service.signals = .invocationDone :: rest)
    (hbefore : serviceRun config now past = some before)
    (hstep : serviceStep config before a = some after)
    (hcounts : before.signals.count .invocationDone < after.signals.count .invocationDone) :
    OutputsTaken config after service := by
  have hafter : serviceRun config now (past ++ [a]) = some after :=
    Machine.run_snoc.2 ⟨before, hbefore, hstep⟩
  obtain ⟨after', runAfter, -⟩ := h.of_append
  obtain rfl : after' = after := Option.some.inj (runAfter.run.symm.trans hafter)
  obtain ⟨before', runBefore, -⟩ := runAfter.init
  obtain rfl : before' = before := Option.some.inj (runBefore.run.symm.trans hbefore)
  have loopStep := runAfter.step hstrategy hbefore (runBefore.balanced hstrategy).handler hstep
  have due := loopStep.due (runAfter.balanced hstrategy) runAfter.runtimeDones_le hcounts
  have kept : OutputsFollowed config after' service ∧ OutputsDue config after' service := by
    refine h.loop_invariant (P := fun s => OutputsFollowed config after' s ∧
      OutputsDue config after' s) hstrategy hafter ?_ ?_
    · exact ⟨⟨List.prefix_rfl, .inl ⟨rfl, .refl _⟩⟩, due⟩
    · exact fun h hs => ⟨h.1.step hs, h.2.step h.1 hs⟩
  rcases kept.2 with taken | ⟨-, _, hchecking | ⟨-, first, last, heq, hnone⟩⟩
  · exact taken
  · rw [hreceiving] at hchecking
    cases hchecking
  · rw [hsignals] at heq
    cases first with
    | nil => cases heq
    | cons signal first =>
      rw [List.cons_append, List.cons.injEq] at heq
      exact absurd (heq.1 ▸ List.mem_cons_self) hnone

/-- **Readiness.** When the handler leaves its loop: the `PlatformRuntimeDone` of its request has been
processed; for every step that signalled that an invocation is done, all that was in the output
buffers in any state up to and including the one after that step has been taken into a batch since;
and no such signal is left in the channel. -/
theorem leaves_ready {now' : Instant} (hstrategy : config.reportingStrategy ≠ .lowOverhead)
    (hrun : StreamRun config stream now actions service)
    (hstep : serviceStep config service (.handler now') = some service')
    (hleaving : service'.handler = .leaving) :
    (∃ request, (acceptedRequests actions).getLast? = some request ∧
      ∃ event, .telemetry ((acceptedRequests actions).length - 1) event ∈ service.state.trace ∧
        event.isRuntimeDone = true ∧ event.requestId = some request.requestId) ∧
    (∀ past a between before after, actions = past ++ a :: between →
      serviceRun config now past = some before → serviceStep config before a = some after →
      before.signals.count .invocationDone < after.signals.count .invocationDone →
      ∀ earlier mid, earlier <+: past ++ [a] → serviceRun config now earlier = some mid →
        OutputsTaken config mid service) ∧
    .invocationDone ∉ service'.signals := by
  have hstrategy : config.reportingStrategy.sendAfterInvocation = true := by
    cases h : config.reportingStrategy with
    | lowOverhead => exact absurd h hstrategy
    | _ => rfl
  obtain ⟨functionContext, rest, hreceiving, hsignals, hrest⟩ := handlerStep_leaving hstep hleaving
  have balanced := hrun.balanced hstrategy
  have hle := hrun.runtimeDones_le
  have hcount := balanced.count
  have hpositive := balanced.positive
  rw [hreceiving] at hcount hpositive
  rw [hsignals, List.count_cons_self] at hcount
  simp only [InvokeHandler.owed] at hcount hpositive
  refine ⟨hrun.last_done (by rw [hreceiving]; rfl) hpositive (by omega), ?_, ?_⟩
  · intro past a between before after hactions hbefore hsignalling hcounts earlier mid hearlier hmid
    have hsplit : actions = (past ++ [a]) ++ between := by
      rw [hactions, List.append_assoc]
      rfl
    rw [hsplit] at hrun
    have taken := hrun.outputs_taken hstrategy hreceiving hsignals hbefore hsignalling hcounts
    have hafter : serviceRun config now (past ++ [a]) = some after :=
      Machine.run_snoc.2 ⟨before, hbefore, hsignalling⟩
    obtain ⟨after', runAfter, -⟩ := hrun.of_append
    obtain rfl : after' = after := Option.some.inj (runAfter.run.symm.trans hafter)
    obtain ⟨later, hlater⟩ := hearlier
    rw [← hlater] at runAfter
    rcases (runAfter.followed hstrategy hmid).outputs with kept | already
    · exact taken.of_kept kept
    · exact already.mono (hrun.followed hstrategy hafter).sent
  · rw [hrest, ← List.count_eq_zero]
    omega

end

/-- All telemetry arrives while the handler of the first request waits. -/
def sampleLoopActions : List Action :=
  [.invoke (sampleInvoke "r1") sampleContext, .handler 0, .handler 0,
    sampleTelemetry sampleStream.events, .handler 0, .handler 0]

theorem leaves_ready_first_request :
    ∃ service service' : TelemetryService,
      @serviceRun sampleExternal (sampleConfig .reportAfterInvocation .otelInstrumentation) 0
        sampleLoopActions = some service ∧
      @serviceStep sampleExternal (sampleConfig .reportAfterInvocation .otelInstrumentation) service
        (.handler 0) = some service' ∧
      (∃ event, .telemetry 0 event ∈ service.state.trace ∧ event.isRuntimeDone = true) ∧
      .invocationDone ∉ service'.signals := by
  obtain ⟨service, hrun, hn, hleaves⟩ := @exists_run sampleExternal
    (sampleConfig .reportAfterInvocation .otelInstrumentation) 0 sampleLoopActions
    (fun service => (∀ call ∈ service.state.trace, call.isFailure = false) ∧
      ((@serviceStep sampleExternal (sampleConfig .reportAfterInvocation .otelInstrumentation) service
        (.handler 0)).any fun service' =>
          match service'.handler with
          | .leaving => true
          | _ => false) = true) _ (by decide +kernel)
  obtain ⟨service', hstep, hleaving⟩ := (Option.any_eq_true _ _).1 hleaves
  have hleaving : service'.handler = .leaving := by
    split at hleaving
    · assumption
    · cases hleaving
  have streamRun : @StreamRun sampleExternal
      (sampleConfig .reportAfterInvocation .otelInstrumentation) sampleStream 0 sampleLoopActions
      service :=
    @StreamRun.mk sampleExternal _ _ _ _ _ hrun
      (by simp [sampleLoopActions, sampleTelemetry, Action.isShutdown]) ⟨["r2"], rfl⟩ ⟨[], rfl⟩ hn
  obtain ⟨⟨request, -, event, hmem, hdone, -⟩, -, hnone⟩ := @leaves_ready sampleExternal
    (sampleConfig .reportAfterInvocation .otelInstrumentation) _ _ _ _ _ _ (by simp [sampleConfig])
    streamRun hstep hleaving
  exact ⟨service, service', hrun, hstep, ⟨event, hmem, hdone⟩, hnone⟩

end TelemetryExporter
