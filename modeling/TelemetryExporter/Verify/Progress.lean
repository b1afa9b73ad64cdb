import TelemetryExporter.Verify.Accounting

/-!
# Events do not wait without a reason

Between two steps of a run without failures, telemetry is left in the queue only while there is
neither a current invocation nor a queued invoke event.
-/

namespace TelemetryExporter

/-- Whether the call is an event or an invoke event that was dropped with an error. -/
def ProcessorCall.isFailure : ProcessorCall → Bool
  | .failed _ => true
  | .rejected _ => true
  | _ => false

/-- Nothing has failed to process. -/
def NoFailures (trace : List ProcessorCall) : Prop := ∀ call ∈ trace, call.isFailure = false

/-- There is no event that could be processed now. -/
def TelemetryServiceState.Drained (s : TelemetryServiceState) : Prop :=
  s.telemetryEventQueue = [] ∨ s.invocationState = none ∧ s.invokeEventQueue = []

/-- No handler has begun the flush of the shutdown. -/
def Action.isShutdown : Action → Bool
  | .shutdown _ => true
  | _ => false

theorem NoFailures.of_isPrefix {a b : List ProcessorCall} (h : NoFailures b) (hpre : a <+: b) :
    NoFailures a :=
  fun call hc => h call (hpre.subset hc)

theorem NoFailures.noErrors {trace : List ProcessorCall} (h : NoFailures trace) : NoErrors trace := by
  intro call hcall
  have hfailure := h call hcall
  cases call with
  | failed => cases hfailure
  | _ => rfl

theorem not_noFailures_of_mem {trace : List ProcessorCall} {call : ProcessorCall}
    (h : call ∈ trace) (hfailure : call.isFailure = true) : ¬ NoFailures trace := by
  intro hn
  rw [hn call h] at hfailure
  cases hfailure

section

variable [External] {config : TelemetryServiceConfig} {s : TelemetryServiceState}

omit [External] in
/-- A method that returns an error leaves it in the trace. -/
theorem Acquired.failure [External] {s' : TelemetryServiceState} {e : Error}
    (h : Acquired config s (s', .error e)) : ¬ NoFailures s'.trace := by
  cases h with
  | rejected e queue rng error hnone hqueue =>
    exact not_noFailures_of_mem (List.mem_append_right _ (List.mem_singleton_self _)) rfl

theorem Handled.failure {state : InvocationProcessingState} {event : LambdaTelemetry}
    {s' : TelemetryServiceState} {e : Error} (h : Handled config state event s (s', .error e)) :
    ¬ NoFailures s'.trace := by
  cases h with
  | restartFailed m out rng e hinit hevent hfailed =>
    obtain ⟨bad, hbad⟩ := hfailed
    exact not_noFailures_of_mem (List.mem_append_right _ hbad) rfl
  | replayFailed state' m out rng e hinit hstarted hevent hfailed carries =>
    obtain ⟨bad, hbad⟩ := hfailed
    exact not_noFailures_of_mem (List.mem_append_right _ hbad) rfl
  | failed e hinit =>
    exact not_noFailures_of_mem (List.mem_append_right _ (List.mem_singleton_self _)) rfl

theorem processTelemetryEvents_failure
    (hphase : s.initHandled = true → s.initHandlingStarted = true) :
    Outcome.Satisfies (processTelemetryEvents config s) (fun _ _ => True)
      (fun s' => ¬ NoFailures s'.trace) := by
  refine (processTelemetryEvents_satisfies
    (P := fun _ s => s.initHandled = true → s.initHandlingStarted = true)
    (Q := fun s => ¬ NoFailures s.trace) (fun _ _ h => h) ?_ ?_ hphase).mono
    (fun _ _ _ => trivial) (fun _ h => h)
  · intro d s o hs acquired
    obtain ⟨-, hinit, hstarted⟩ := acquired.iterations_eq
    obtain ⟨s', r⟩ := o
    cases r with
    | ok a =>
      intro h
      exact hstarted.trans (hs (hinit.symm.trans h))
    | error e => exact acquired.failure
  · intro d s state event queue o hs hstate hqueue handled
    have phase := handled.phase hs
    obtain ⟨s', r⟩ := o
    cases r with
    | ok b => exact phase
    | error e => exact handled.failure

/-- What `handle_telemetry` has left, if nothing has failed. -/
theorem processQueues_drained (hphase : s.initHandled = true → s.initHandlingStarted = true)
    (hflush : s.shutdownFlushStarted = false) (hn : NoFailures (processQueues config s).trace) :
    (processQueues config s).Drained := by
  have drained := @processTelemetryEvents_drained _ config s hphase
  have failure := @processTelemetryEvents_failure _ config s hphase
  simp only [processQueues, hflush, Bool.false_eq_true, if_false] at hn ⊢
  cases h : processTelemetryEvents config s with
  | mk s' r =>
    rw [h] at drained failure hn
    cases r with
    | ok d => exact drained
    | error e => exact absurd hn failure

/-- The shutdown alone begins the flush. -/
theorem flush_invariant : ServiceInvariant config (fun _ s => s.shutdownFlushStarted = false) where
  start _ := rfl
  core _ hs hcore := (SameCore.of_core hcore).shutdownFlushStarted.trans hs
  acquired _ hs acquired := by cases acquired <;> exact hs
  handled _ hs _ _ handled := by cases handled <;> exact hs
  enqueued _ _ _ hs := hs
  accepted _ _ hs := hs
  received _ hs received := by cases received <;> exact hs
  metrics _ _ _ hs := hs
  sent {h s} functionContext _ hs := by
    obtain ⟨_, _, _, -, heq⟩ := @sendTelemetry_state config s functionContext
    rw [heq]
    exact hs

theorem Received.drained {spans : List ResourceSpans} {s' : TelemetryServiceState}
    (h : Received config spans s s') (hs : s.Drained) : s'.Drained := by
  cases h with
  | waiting => exact hs
  | queued hqueue =>
    rcases hs with hs | ⟨-, hs⟩
    · exact .inl hs
    · exact absurd hs hqueue
  | processed state state' out hqueue hstate =>
    rcases hs with hs | ⟨hs, -⟩
    · exact .inl hs
    · rw [hstate] at hs
      cases hs

/-- What holds between two steps: there is no flush, and no event waits without a reason. -/
def Settled (s : TelemetryServiceState) : Prop :=
  (s.initHandled = true → s.initHandlingStarted = true) ∧ s.shutdownFlushStarted = false ∧
    (NoFailures s.trace → s.Drained)

omit [External] in
theorem Settled.congr {s' : TelemetryServiceState} (h : Settled s) (hcore : s'.core = s.core) :
    Settled s' := by
  have settled (t : TelemetryServiceState) : Settled t ↔ Settled t.core := Iff.rfl
  rw [settled, hcore, ← settled]
  exact h

theorem processQueues_settled (hphase : s.initHandled = true → s.initHandlingStarted = true)
    (hflush : s.shutdownFlushStarted = false) : Settled (processQueues config s) := by
  have holds : ServiceInvariant.Holds (fun _ s => s.shutdownFlushStarted = false) {}
      (processQueues config s) := flush_invariant.processQueues_holds ⟨hphase, hflush⟩
  exact ⟨holds.1, holds.2, processQueues_drained hphase hflush⟩

/-- Only a shutdown shuts the handler down. -/
theorem serviceStep_handler {service service' : TelemetryService} {a : Action}
    (hs : service.handler ≠ .shutDown) (ha : a.isShutdown = false)
    (hstep : serviceStep config service a = some service') : service'.handler ≠ .shutDown := by
  cases a with
  | shutdown => cases ha
  | invoke =>
    obtain ⟨-, rfl⟩ := serviceStep_invoke hstep
    intro h
    dsimp only at h
    split at h <;> cases h
  | handler now =>
    intro h
    cases handlerStep_cases hstep with
    | drained => exact hs h
    | enqueued =>
      dsimp only at h
      split at h <;> cases h
    | _ => cases h
  | wake =>
    obtain ⟨-, rfl⟩ := serviceStep_wake hstep
    exact hs
  | _ =>
    cases hstep
    exact hs

theorem serviceStep_settled {service service' : TelemetryService} {a : Action}
    (hs : Settled service.state) (hstep : serviceStep config service a = some service') :
    service'.handler = .shutDown ∨ Settled service'.state := by
  obtain ⟨hphase, hflush, hdrained⟩ := hs
  cases serviceStep_coreStep hstep with
  | still a service' hstate => exact .inr (Settled.congr ⟨hphase, hflush, hdrained⟩ hstate)
  | enqueued now e fc service' hstate =>
    have push : Settled (processQueues config (pushInvokeEvent e fc service.state)) :=
      processQueues_settled hphase hflush
    exact .inr (push.congr hstate)
  | sent now fc service' hstate =>
    obtain ⟨_, _, _, -, heq⟩ := @sendTelemetry_state config service.state fc
    have send : Settled (sendTelemetry config fc service.state).2 := by
      rw [heq]
      exact ⟨hphase, hflush, hdrained⟩
    exact .inr (send.congr hstate)
  | telemetry clock events s service' hs hstate =>
    have same := SameCore.of_core hs
    have settled : Settled (processQueues config s) :=
      processQueues_settled (same.phase hphase) (same.shutdownFlushStarted.trans hflush)
    exact .inr (settled.congr hstate)
  | otlpSpans clock spans service' hstate =>
    have received := @receiveSpans_received _ config spans service.state
    have settled : Settled (receiveSpans config spans service.state) :=
      ⟨received.phase hphase, flush_invariant.received (h := {}) trivial hflush received,
        fun hn => received.drained (hdrained (hn.of_isPrefix received.trace_grows))⟩
    exact .inr (settled.congr hstate)
  | otlpMetrics clock metrics service' hstate =>
    obtain ⟨_, _, heq⟩ := @processFunctionMetrics_state _ config metrics service.state
    have settled : Settled (processFunctionMetrics config metrics service.state) := by
      rw [heq]
      exact ⟨hphase, hflush, hdrained⟩
    exact .inr (settled.congr hstate)
  | shutDown fc service' _ _ _ hhandler' => exact .inl hhandler'

/-- In a run without a shutdown no handler has shut down, and no event waits without a reason. -/
theorem serviceRun_settled {now : Nat} {actions : List Action} {service : TelemetryService}
    (hrun : serviceRun config now actions = some service)
    (hshutdown : ∀ a ∈ actions, a.isShutdown = false) :
    service.handler ≠ .shutDown ∧ Settled service.state := by
  refine Machine.run_actions (I := fun past service => (∀ a ∈ past, a.isShutdown = false) →
    service.handler ≠ .shutDown ∧ Settled service.state) ?_ ?_ hrun hshutdown
  · intro _
    refine ⟨by simp [TelemetryService.new], fun h => ?_, rfl, fun _ => .inl rfl⟩
    simp [TelemetryService.new] at h
  · intro past service a service' hs hstep hpast
    obtain ⟨hhandler, settled⟩ := hs fun b hb => hpast b (List.mem_append_left _ hb)
    have ha : a.isShutdown = false := hpast a (List.mem_append_right _ (List.mem_singleton_self a))
    have hhandler' := serviceStep_handler hhandler ha hstep
    exact ⟨hhandler', (serviceStep_settled settled hstep).resolve_left hhandler'⟩

theorem processQueues_trace_grows (hphase : s.initHandled = true → s.initHandlingStarted = true) :
    s.trace <+: (processQueues config s).trace := by
  let P : TelemetryServiceState → Prop := fun s' =>
    (s'.initHandled = true → s'.initHandlingStarted = true) ∧ s.trace <+: s'.trace
  unfold processQueues
  split
  · exact List.prefix_rfl
  · have hP : P (processTelemetryEvents config s).1 := by
      refine Outcome.Satisfies.state (processTelemetryEvents_satisfies (P := fun _ => P)
        (fun _ _ hs => hs.1) ?_ ?_ ⟨hphase, List.prefix_rfl⟩)
      · intro d t o ht acquired
        obtain ⟨-, hinit, hstarted⟩ := acquired.iterations_eq
        have holds : P o.1 := by
          refine ⟨?_, ht.2.trans acquired.trace_grows⟩
          rw [hinit, hstarted]
          exact ht.1
        obtain ⟨s', r⟩ := o
        cases r <;> exact holds
      · intro d t state event queue o ht hstate hqueue handled
        have holds : P o.1 := ⟨handled.phase ht.1, ht.2.trans handled.trace_grows⟩
        obtain ⟨s', r⟩ := o
        cases r <;> exact holds
    exact hP.2

/-- A step only adds calls. -/
theorem serviceStep_trace_grows {service service' : TelemetryService} {a : Action}
    (hphase : service.state.initHandled = true → service.state.initHandlingStarted = true)
    (ha : a.isShutdown = false) (hstep : serviceStep config service a = some service') :
    service.state.trace <+: service'.state.trace := by
  have congr {t : TelemetryServiceState} (h : service.state.trace <+: t.trace)
      (hcore : service'.state.core = t.core) : service.state.trace <+: service'.state.trace := by
    rwa [(SameCore.of_core hcore).trace]
  cases serviceStep_coreStep hstep with
  | still a service' hstate => exact congr List.prefix_rfl hstate
  | enqueued now e fc service' hstate =>
    have push : (pushInvokeEvent e fc service.state).trace = service.state.trace := rfl
    exact congr (push ▸ processQueues_trace_grows hphase) hstate
  | sent now fc service' hstate =>
    obtain ⟨_, _, _, -, heq⟩ := @sendTelemetry_state config service.state fc
    refine congr ?_ hstate
    exact heq ▸ List.prefix_rfl
  | telemetry clock events s service' hs hstate =>
    have same := SameCore.of_core hs
    have htrace : s.trace = service.state.trace := same.trace
    refine congr ?_ hstate
    rw [← htrace]
    exact processQueues_trace_grows (same.phase hphase)
  | otlpSpans clock spans service' hstate =>
    exact congr (receiveSpans_received spans service.state).trace_grows hstate
  | otlpMetrics clock metrics service' hstate =>
    obtain ⟨_, _, heq⟩ := @processFunctionMetrics_state _ config metrics service.state
    refine congr ?_ hstate
    exact heq ▸ List.prefix_rfl
  | shutDown => cases ha

/-- A run, found by evaluating it. -/
theorem exists_run {now : Nat} {actions : List Action} {P : TelemetryService → Prop}
    [∀ service, Decidable (P service)]
    (h : ((serviceRun config now actions).any fun service => decide (P service)) = true) :
    ∃ service, serviceRun config now actions = some service ∧ P service := by
  obtain ⟨service, hservice, h⟩ := (Option.any_eq_true _ _).1 h
  exact ⟨service, hservice, of_decide_eq_true h⟩

end

end TelemetryExporter
