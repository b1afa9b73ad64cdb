import TelemetryExporter.Lib.Deadline
import TelemetryExporter.Verify.ProcessingLoop

/-!
# Deadlines for delayed sends

`signal_should_send_by`, the tasks that it spawns and `send_telemetry` share `should_send_by` and
`should_send`. Their interleavings are a machine of their own here (`coordinationStep`), in which the rest
of the service is any change that leaves the deadline alone. The machine refines the abstract deadline
of the library, and the service refines the machine.
-/

namespace TelemetryExporter

open Machine

/-- What delayed sends involve: the shared state, the signal channel, the signals taken from it so
far, and the deadlines of the sleeping tasks. -/
structure Coordination where
  state : TelemetryServiceState
  signals : List Signal := []
  received : List Signal := []
  timers : List Instant := []

/-- What can happen next. -/
inductive CoordinationAction where
  /-- `signal_should_send_by`. -/
  | request (clock : Clock) (time : Instant)
  /-- A task that has slept until the deadline goes on. -/
  | wake (deadline : Instant) (clock : Clock)
  /-- `send_telemetry`. -/
  | send (functionContext : FunctionContext)
  /-- The receive loop takes a signal. -/
  | receive
  /-- The rest of the service changes the state and sends signals. -/
  | work (state : TelemetryServiceState) (signals : List Signal)

namespace CoordinationAction

/-- Whether the action is a `send_telemetry`. -/
def isSend : CoordinationAction → Bool
  | send _ => true
  | _ => false

/-- What the action is to the deadline. -/
def deadline : CoordinationAction → Deadline.Action Instant
  | request clock time => .request time clock.instantAfter
  | wake deadline clock => .wake deadline clock.instant
  | send _ => .clear
  | receive => .other
  | work _ _ => .other

end CoordinationAction

namespace Coordination

/-- The effects of a critical section. -/
def apply (s : Coordination) (e : Effects) : Coordination :=
  { s with
    state := e.state
    signals := s.signals ++ e.signals
    timers := s.timers ++ e.timers }

/-- The deadline and its timers. -/
def deadline (s : Coordination) : Deadline.State Instant := ⟨s.state.shouldSendBy, s.timers⟩

/-- All signals sent so far: those received, and those in the channel. -/
def pushed (s : Coordination) : List Signal := s.received ++ s.signals

end Coordination

/-- The part of the service that delayed sends involve, for the signals received so far. -/
def TelemetryService.coordination (received : List Signal) (service : TelemetryService) :
    Coordination where
  state := service.state
  signals := service.signals
  received
  timers := service.timers

/-- One action. -/
def coordinationStep (config : TelemetryServiceConfig) (s : Coordination) :
    CoordinationAction → Option Coordination
  | .request clock time => some (s.apply (signalShouldSendBy clock time s.state))
  | .wake deadline clock =>
    if deadline ∈ s.timers ∧ deadline ≤ clock.instant then
      some ({ s with timers := s.timers.erase deadline }.apply (wakeAfterDelay clock s.state))
    else none
  | .send functionContext =>
    some { s with state := (sendTelemetry config functionContext s.state).2 }
  | .receive =>
    match s.signals with
    | [] => none
    | signal :: rest => some { s with signals := rest, received := s.received ++ [signal] }
  | .work state signals =>
    if state.shouldSendBy = s.state.shouldSendBy ∧
        (s.state.shouldSend = true → state.shouldSend = true) then
      some { s with state, signals := s.signals ++ signals }
    else none

/-- The times requested since `should_send_by` was last `None`. -/
def requestedTimes (trail : List (Coordination × CoordinationAction)) : List Instant :=
  Deadline.requestedSince (trail.map fun x => (x.1.deadline, x.2.deadline))

/-- The action clears a deadline, possibly one that it has just requested, and does not send. -/
def ClearsDeadline (s : Coordination) (a : CoordinationAction) (s' : Coordination) : Prop :=
  a.isSend = false ∧ s'.state.shouldSendBy = none ∧
    (s.state.shouldSendBy ≠ none ∨ a.deadline.requested ≠ none)

section

variable {config : TelemetryServiceConfig} {s s' s₀ u u' : Coordination} {a : CoordinationAction}
  {actions : List CoordinationAction}

/-- What one action can do. -/
inductive CoordinationStep (config : TelemetryServiceConfig) (s : Coordination) :
    CoordinationAction → Coordination → Prop where
  | request (clock : Clock) (time : Instant) :
    CoordinationStep config s (.request clock time) (s.apply (signalShouldSendBy clock time s.state))
  | wake (deadline : Instant) (clock : Clock)
      (hwake : deadline ∈ s.timers ∧ deadline ≤ clock.instant) :
    CoordinationStep config s (.wake deadline clock)
      ({ s with timers := s.timers.erase deadline }.apply (wakeAfterDelay clock s.state))
  | send (functionContext : FunctionContext) :
    CoordinationStep config s (.send functionContext)
      { s with state := (sendTelemetry config functionContext s.state).2 }
  | receive (signal : Signal) (rest : List Signal) (hsignals : s.signals = signal :: rest) :
    CoordinationStep config s .receive
      { s with signals := rest, received := s.received ++ [signal] }
  | work (state : TelemetryServiceState) (signals : List Signal)
      (hdue : state.shouldSendBy = s.state.shouldSendBy)
      (hsend : s.state.shouldSend = true → state.shouldSend = true) :
    CoordinationStep config s (.work state signals) { s with state, signals := s.signals ++ signals }

theorem coordinationStep_cases (h : coordinationStep config s a = some s') :
    CoordinationStep config s a s' := by
  cases a with
  | request clock time =>
    cases h
    exact .request clock time
  | wake deadline clock =>
    simp only [coordinationStep] at h
    split at h
    · next hwake =>
      cases h
      exact .wake deadline clock hwake
    · cases h
  | send functionContext =>
    cases h
    exact .send functionContext
  | receive =>
    simp only [coordinationStep] at h
    split at h
    · cases h
    · next signal rest hsignals =>
      cases h
      exact .receive signal rest hsignals
  | work state signals =>
    simp only [coordinationStep] at h
    split at h
    · next hwork =>
      cases h
      exact .work state signals hwork.1 hwork.2
    · cases h

/-! ## The abstract deadline -/

theorem sendTelemetry_shouldSendBy (functionContext : FunctionContext) (s : TelemetryServiceState) :
    (sendTelemetry config functionContext s).2.shouldSendBy = none := by
  obtain ⟨m, acc, out, -, heq⟩ := @sendTelemetry_state config s functionContext
  rw [heq]

theorem signalShouldSendBy_deadline (clock : Clock) (time : Instant) :
    Deadline.step s.deadline (.request time clock.instantAfter) =
      some (s.apply (signalShouldSendBy clock time s.state)).deadline := by
  unfold signalShouldSendBy
  split
  · next hall =>
    have hfirst : ∀ due, s.deadline.due = some due → time ≤ due := by
      simpa [Option.all_eq_true, Coordination.deadline] using hall
    split
    · next hnow =>
      rw [Deadline.step_request_now hfirst hnow]
      simp only [Coordination.deadline, Coordination.apply, signalShouldSend, List.append_nil]
    · next hlater =>
      rw [Deadline.step_request_later hfirst (not_le.1 hlater)]
      rfl
  · next hall =>
    obtain ⟨due, hdue, hlt⟩ : ∃ due, s.deadline.due = some due ∧ due < time := by
      simpa [Option.all_eq_true, Coordination.deadline] using hall
    rw [Deadline.step_request_ignored hdue hlt]
    simp only [Coordination.deadline, Coordination.apply, List.append_nil]

theorem wakeAfterDelay_deadline {deadline : Instant} {clock : Clock}
    (hwake : deadline ∈ s.timers ∧ deadline ≤ clock.instant) :
    Deadline.step s.deadline (.wake deadline clock.instant) =
      some ({ s with timers := s.timers.erase deadline }.apply
        (wakeAfterDelay clock s.state)).deadline := by
  unfold wakeAfterDelay shouldSendByNow
  split
  · next hany =>
    obtain ⟨due, hdue, hreached⟩ : ∃ due, s.deadline.due = some due ∧ due ≤ clock.instant := by
      simpa [Option.any_eq_true, Coordination.deadline] using hany
    rw [Deadline.step_wake_reached hwake hdue hreached]
    simp only [Coordination.deadline, Coordination.apply, signalShouldSend, List.append_nil]
  · next hany =>
    have hdue : ∀ due, s.deadline.due = some due → clock.instant < due := by
      simpa [Option.any_eq_true, Coordination.deadline] using hany
    rw [Deadline.step_wake_stale hwake hdue]
    simp only [Coordination.deadline, Coordination.apply, List.append_nil]

/-- Every action is one of the abstract deadline. -/
theorem coordinationStep_deadline (h : coordinationStep config s a = some s') :
    Deadline.step s.deadline a.deadline = some s'.deadline := by
  cases coordinationStep_cases h with
  | request clock time => exact signalShouldSendBy_deadline clock time
  | wake deadline clock hwake => exact wakeAfterDelay_deadline hwake
  | send functionContext =>
    simp only [CoordinationAction.deadline, Deadline.step, Coordination.deadline,
      sendTelemetry_shouldSendBy]
  | receive => rfl
  | work state signals hsame =>
    simp only [CoordinationAction.deadline, Deadline.step, Coordination.deadline, hsame]

/-! ## The signals -/

/-- Signals are not taken back. -/
theorem coordinationStep_pushed (h : coordinationStep config s a = some s') :
    s.pushed <+: s'.pushed := by
  have apply_pushed (s : Coordination) (e : Effects) : s.pushed <+: (s.apply e).pushed := by
    refine ⟨e.signals, ?_⟩
    exact List.append_assoc _ _ _
  cases coordinationStep_cases h with
  | request clock time => exact apply_pushed s _
  | wake deadline clock => exact apply_pushed { s with timers := s.timers.erase deadline } _
  | send functionContext => exact List.prefix_rfl
  | receive signal rest hsignals => simp [Coordination.pushed, hsignals]
  | work state signals => exact ⟨signals, List.append_assoc _ _ _⟩

/-- Only sending resets `should_send`. -/
theorem coordinationStep_shouldSend (h : coordinationStep config s a = some s') (ha : a.isSend = false)
    (hs : s.state.shouldSend = true) : s'.state.shouldSend = true := by
  cases coordinationStep_cases h with
  | request clock time =>
    simp only [Coordination.apply, signalShouldSendBy]
    split
    · split
      · rfl
      · exact hs
    · exact hs
  | wake deadline clock =>
    simp only [Coordination.apply, wakeAfterDelay]
    split
    · rfl
    · exact hs
  | send functionContext => cases ha
  | receive => exact hs
  | work state signals _ hsend => exact hsend hs

/-- A deadline is cleared with a signal. -/
theorem coordinationStep_clears (h : coordinationStep config s a = some s')
    (hclears : ClearsDeadline s a s') :
    s'.state.shouldSend = true ∧ s'.pushed = s.pushed ++ [.shouldSend] := by
  obtain ⟨hsend, hnone, hdue⟩ := hclears
  cases coordinationStep_cases h with
  | request clock time =>
    simp only [Coordination.apply, signalShouldSendBy] at hnone ⊢
    split
    · next hle =>
      rw [if_pos hle] at hnone
      split
      · exact ⟨rfl, (List.append_assoc _ _ _).symm⟩
      · next hlater =>
        rw [if_neg hlater] at hnone
        cases hnone
    · next hle =>
      -- the request came after an earlier one, which is still there
      rw [if_neg hle] at hnone
      have hnone : s.state.shouldSendBy = none := hnone
      rw [hnone] at hle
      exact absurd rfl hle
  | wake deadline clock =>
    have hdue : s.state.shouldSendBy ≠ none := hdue.resolve_right fun h => h rfl
    simp only [Coordination.apply, wakeAfterDelay] at hnone ⊢
    split
    · exact ⟨rfl, (List.append_assoc _ _ _).symm⟩
    · next hnow =>
      rw [if_neg hnow] at hnone
      exact absurd hnone hdue
  | send functionContext => cases hsend
  | receive =>
    have hdue : s.state.shouldSendBy ≠ none := hdue.resolve_right fun h => h rfl
    exact absurd hnone hdue
  | work state signals hsame =>
    have hdue : s.state.shouldSendBy ≠ none := hdue.resolve_right fun h => h rfl
    exact absurd (hsame.symm.trans hnone) hdue

/-- Until the next send, `should_send` remains set. -/
theorem run_shouldSend (h : run (coordinationStep config) s actions = some s')
    (hactions : ∀ a ∈ actions, a.isSend = false) (hs : s.state.shouldSend = true) :
    s'.state.shouldSend = true := by
  induction actions generalizing s with
  | nil =>
    cases h
    exact hs
  | cons a actions ih =>
    obtain ⟨s₁, hstep, h⟩ := run_cons.1 h
    have ha : a.isSend = false := hactions a List.mem_cons_self
    have hs₁ := coordinationStep_shouldSend hstep ha hs
    exact ih h (fun b hb => hactions b (List.mem_cons_of_mem a hb)) hs₁

theorem run_pushed (h : run (coordinationStep config) s actions = some s') : s.pushed <+: s'.pushed :=
  run_invariant (I := fun t => s.pushed <+: t.pushed)
    (fun _ _ _ ht hstep => ht.trans (coordinationStep_pushed hstep)) List.prefix_rfl h

/-! ## All interleavings -/

theorem run_requestedTimes (h₀ : s₀.state.shouldSendBy = none)
    (h : run (coordinationStep config) s₀ actions = some s) :
    Deadline.Watched (requestedTimes (trail (coordinationStep config) s₀ actions)) s.deadline := by
  obtain ⟨hrun, htrail⟩ := run_map (fun _ _ _ => coordinationStep_deadline) h
  have watched := Deadline.run_watched h₀ hrun
  rw [htrail] at watched
  exact watched

/-- Deadlines are neither lost nor postponed: the deadline is the earliest time requested since there
was none, and a task that goes on at this time at the earliest waits for it; no task clears a deadline
that has not been reached; and one that is cleared without a send leaves `should_send` and a signal
behind, until the next send. -/
theorem deadlines_kept (h₀ : s₀.state.shouldSendBy = none)
    (hrun : run (coordinationStep config) s₀ actions = some s) :
    (∀ t, s.state.shouldSendBy = some t →
      IsLeast { time | time ∈ requestedTimes (trail (coordinationStep config) s₀ actions) } t ∧
      t ∈ s.timers ∧ ∀ clock, (coordinationStep config s (.wake t clock)).isSome ↔ t ≤ clock.instant) ∧
    (∀ deadline clock s' t, coordinationStep config s (.wake deadline clock) = some s' →
      s.state.shouldSendBy = some t → clock.instant < t → s'.state.shouldSendBy = some t) ∧
    (∀ before a after u u', actions = before ++ a :: after →
      run (coordinationStep config) s₀ before = some u → coordinationStep config u a = some u' →
      ClearsDeadline u a u' → (∀ b ∈ after, b.isSend = false) →
      s.state.shouldSend = true ∧ u.pushed ++ [.shouldSend] <+: s.pushed) := by
  have watched := run_requestedTimes h₀ hrun
  refine ⟨fun t ht => ?_, ?_, ?_⟩
  · have harmed : t ∈ s.timers := watched.armed t ht
    refine ⟨watched.earliest t ht, harmed, fun clock => ?_⟩
    simp only [coordinationStep]
    by_cases hreached : t ≤ clock.instant
    · rw [if_pos ⟨harmed, hreached⟩]
      exact iff_of_true rfl hreached
    · rw [if_neg fun h => hreached h.2]
      exact iff_of_false Bool.false_ne_true hreached
  · intro deadline clock s' t hstep ht hlt
    exact Deadline.step_wake_due (coordinationStep_deadline hstep) ht hlt
  · intro before a after u u' hactions hbefore hstep hclears hafter
    rw [hactions, run_append_iff] at hrun
    obtain ⟨v, hv, hrun⟩ := hrun
    cases hbefore.symm.trans hv
    obtain ⟨v', hv', hrun⟩ := run_cons.1 hrun
    cases hstep.symm.trans hv'
    obtain ⟨hset, hsignal⟩ := coordinationStep_clears hstep hclears
    have hpushed := run_pushed hrun
    rw [hsignal] at hpushed
    exact ⟨run_shouldSend hrun hafter hset, hpushed⟩

end

/-- A send overtakes the first deadline, and its task goes on before the second deadline. -/
def staleTimer : List CoordinationAction :=
  [.request ⟨0, 0, 0⟩ 10, .send sampleContext, .request ⟨0, 5, 5⟩ 20, .wake 10 ⟨0, 10, 10⟩]

/-- The second deadline is still there. -/
theorem deadlines_kept_stale_timer :
    ∃ s, run (coordinationStep (sampleConfig .lowOverhead .disabled))
        ((TelemetryService.new (sampleConfig .lowOverhead .disabled) 0).coordination []) staleTimer =
        some s ∧ s.state.shouldSendBy = some 20 ∧
      IsLeast { time | time ∈ requestedTimes (trail
        (coordinationStep (sampleConfig .lowOverhead .disabled))
        ((TelemetryService.new (sampleConfig .lowOverhead .disabled) 0).coordination []) staleTimer) }
        20 ∧ 20 ∈ s.timers := by
  have hany : ((run (coordinationStep (sampleConfig .lowOverhead .disabled))
      ((TelemetryService.new (sampleConfig .lowOverhead .disabled) 0).coordination []) staleTimer).any
      fun s => decide (s.state.shouldSendBy = some 20)) = true := by decide +kernel
  obtain ⟨s, hrun, hdue⟩ := (Option.any_eq_true _ _).1 hany
  have hdue : s.state.shouldSendBy = some 20 := of_decide_eq_true hdue
  obtain ⟨kept, -, -⟩ := deadlines_kept rfl hrun
  obtain ⟨least, harmed, -⟩ := kept 20 hdue
  exact ⟨s, hrun, hdue, least, harmed⟩

/-! ## The service -/

/-- What a critical section does is done by requests and by changes that leave the deadline alone. -/
def SendsAs (config : TelemetryServiceConfig) (s : TelemetryServiceState) (e : Effects) : Prop :=
  ∃ actions, ∀ coordination : Coordination, coordination.state = s →
    run (coordinationStep config) coordination actions = some (coordination.apply e)

namespace SendsAs

variable {config : TelemetryServiceConfig} {s : TelemetryServiceState}

theorem request (clock : Clock) (time : Instant) :
    SendsAs config s (signalShouldSendBy clock time s) := by
  refine ⟨[.request clock time], ?_⟩
  rintro coordination rfl
  rfl

theorem work {e : Effects} (hdue : e.state.shouldSendBy = s.shouldSendBy)
    (hset : s.shouldSend = true → e.state.shouldSend = true) (htimers : e.timers = []) :
    SendsAs config s e := by
  refine ⟨[.work e.state e.signals], ?_⟩
  rintro coordination rfl
  have hstep : coordinationStep config coordination (.work e.state e.signals) =
      some { coordination with state := e.state, signals := coordination.signals ++ e.signals } := by
    simp only [coordinationStep]
    rw [if_pos ⟨hdue, hset⟩]
  refine run_cons.2 ⟨_, hstep, ?_⟩
  simp only [Coordination.apply, htimers, List.append_nil, run_nil]

theorem nothing : SendsAs config s { state := s } := work rfl id rfl

theorem trans {e e' : Effects} (h : SendsAs config s e) (h' : SendsAs config e.state e') :
    SendsAs config s
      { state := e'.state
        signals := e.signals ++ e'.signals
        timers := e.timers ++ e'.timers } := by
  obtain ⟨actions, hactions⟩ := h
  obtain ⟨actions', hactions'⟩ := h'
  refine ⟨actions ++ actions', fun coordination hcoordination => ?_⟩
  refine run_append_iff.2 ⟨_, hactions coordination hcoordination, ?_⟩
  rw [hactions' (coordination.apply e) rfl]
  simp only [Coordination.apply, List.append_assoc]

end SendsAs

section

variable [External] {config : TelemetryServiceConfig} {s : TelemetryServiceState}
  {service service' : TelemetryService} {a : Action}

theorem processTelemetryEvents_sends
    (hphase : s.initHandled = true → s.initHandlingStarted = true) :
    (processTelemetryEvents config s).1.shouldSendBy = s.shouldSendBy ∧
      (processTelemetryEvents config s).1.shouldSend = s.shouldSend := by
  let P : TelemetryServiceState → Prop := fun t =>
    (t.initHandled = true → t.initHandlingStarted = true) ∧
      t.shouldSendBy = s.shouldSendBy ∧ t.shouldSend = s.shouldSend
  have holds : P (processTelemetryEvents config s).1 := by
    refine Outcome.Satisfies.state (processTelemetryEvents_satisfies (P := fun _ => P)
      (fun _ _ h => h.1) ?_ ?_ ⟨hphase, rfl, rfl⟩)
    · intro d t o ht acquired
      have holds : P o.1 := by
        obtain ⟨-, hinit, hstarted⟩ := acquired.iterations_eq
        refine ⟨?_, ?_⟩
        · rw [hinit, hstarted]
          exact ht.1
        · cases acquired <;> exact ht.2
      obtain ⟨s', r⟩ := o
      cases r <;> exact holds
    · intro d t state event queue o ht hstate hqueue handled
      have holds : P o.1 := by
        refine ⟨handled.phase ht.1, ?_⟩
        cases handled <;> exact ht.2
      obtain ⟨s', r⟩ := o
      cases r <;> exact holds
  exact holds.2

theorem handleTelemetry_sends (hphase : s.initHandled = true → s.initHandlingStarted = true) :
    SendsAs config s (handleTelemetry config s) := by
  obtain ⟨hdue, hset⟩ := @processTelemetryEvents_sends _ config s hphase
  have tried (e : Effects) (r : Except Error Bool) (h : tryProcessingTelemetry config s = (e, r)) :
      e.state.shouldSendBy = s.shouldSendBy ∧
        (s.shouldSend = true → e.state.shouldSend = true) ∧ e.timers = [] := by
    unfold tryProcessingTelemetry at h
    split at h
    · cases h
      exact ⟨rfl, id, rfl⟩
    · split at h
      · next heq =>
        cases h
        rw [heq] at hdue hset
        exact ⟨hdue, fun h => hset.trans h, rfl⟩
      · next heq =>
        rw [heq] at hdue hset
        split at h
        · cases h
          exact ⟨hdue, fun _ => rfl, rfl⟩
        · cases h
          exact ⟨hdue, fun h => hset.trans h, rfl⟩
  unfold handleTelemetry
  split
  · next heq =>
    obtain ⟨hdue, hset, htimers⟩ := tried _ _ heq
    split
    · exact .work hdue hset htimers
    · exact .work hdue hset htimers
  · next heq =>
    obtain ⟨hdue, hset, htimers⟩ := tried _ _ heq
    exact .work hdue hset htimers

theorem handleIncomingTelemetry_sends (clock : Clock) (events : List LambdaTelemetry)
    (hphase : s.initHandled = true → s.initHandlingStarted = true) :
    SendsAs config s (handleIncomingTelemetry config clock events s) := by
  have handled (d : Effects) (hd : SendsAs config s d) (hcore : d.state.core = s.core) :
      SendsAs config s
        (let t := { d.state with telemetryEventQueue := d.state.telemetryEventQueue ++ events }
         { state := (handleTelemetry config t).state
           signals := d.signals ++ (handleTelemetry config t).signals
           timers := d.timers ++ (handleTelemetry config t).timers }) := by
    have queued : SendsAs config d.state
        { state :=
            { d.state with telemetryEventQueue := d.state.telemetryEventQueue ++ events } } :=
      .work rfl id rfl
    refine hd.trans (queued.trans (handleTelemetry_sends ?_))
    exact (SameCore.of_core hcore).phase hphase
  unfold handleIncomingTelemetry
  split
  · split
    · refine handled _ ?_ (signalShouldSendAfterDelayFromEvent_core clock _)
      unfold signalShouldSendAfterDelayFromEvent
      split
      · exact .request clock _
      · exact .nothing
    · exact handled _ .nothing rfl
  · exact handled _ .nothing rfl

theorem handleOtlpSpans_sends (clock : Clock) (spans : List ResourceSpans) :
    SendsAs config s (handleOtlpSpans config clock spans s) := by
  unfold handleOtlpSpans
  split
  · exact .work rfl id rfl
  · split
    · dsimp only
      split
      · exact .work rfl id rfl
      · split
        · exact .work rfl (fun _ => rfl) rfl
        · split
          · have processed (t : TelemetryServiceState) (hdue : t.shouldSendBy = s.shouldSendBy)
                (hset : t.shouldSend = s.shouldSend) :
                SendsAs config s (signalShouldSendAfterDelay config clock t) :=
              SendsAs.trans (e := { state := t })
                (.work hdue (fun h => hset.trans h) rfl) (.request clock _)
            exact processed _ rfl rfl
          · exact .work rfl id rfl
    · exact .work rfl id rfl

theorem handleOtlpMetrics_sends (clock : Clock) (metrics : List ResourceMetrics) :
    SendsAs config s (handleOtlpMetrics config clock metrics s) := by
  have processed (d : Effects) (hd : SendsAs config s d) :
      SendsAs config s { d with state := processFunctionMetrics config metrics d.state } := by
    obtain ⟨acc, buffer, heq⟩ := @processFunctionMetrics_state _ config metrics d.state
    have work : SendsAs config d.state { state := processFunctionMetrics config metrics d.state } := by
      rw [heq]
      exact .work rfl id rfl
    have both := hd.trans work
    rw [List.append_nil, List.append_nil] at both
    exact both
  unfold handleOtlpMetrics
  dsimp only
  split
  · exact processed _ (.request clock _)
  · exact processed _ .nothing

/-- What coordinates sending changes from one state of the service to the other by the machine's
actions. -/
def Coordinates (config : TelemetryServiceConfig) (received : List Signal)
    (service service' : TelemetryService) : Prop :=
  ∃ actions received', run (coordinationStep config) (service.coordination received) actions =
    some (service'.coordination received')

namespace Coordinates

variable {received : List Signal}

omit [External] in
theorem applied {e : Effects} (he : SendsAs config service.state e)
    (hcoordination : service'.coordination received = (service.coordination received).apply e) :
    Coordinates config received service service' := by
  obtain ⟨actions, hactions⟩ := he
  refine ⟨actions, received, ?_⟩
  rw [hactions (service.coordination received) rfl, hcoordination]

omit [External] in
theorem still (hdue : service'.state.shouldSendBy = service.state.shouldSendBy)
    (hset : service'.state.shouldSend = service.state.shouldSend)
    (hsignals : service'.signals = service.signals) (htimers : service'.timers = service.timers) :
    Coordinates config received service service' := by
  have work : SendsAs config service.state { state := service'.state } :=
    .work hdue (fun h => hset.trans h) rfl
  refine applied work ?_
  simp only [TelemetryService.coordination, Coordination.apply, hsignals, htimers, List.append_nil]

omit [External] in
theorem taken {signal : Signal} {rest : List Signal} (hsignals : service.signals = signal :: rest)
    (hstate : service'.state = service.state) (hrest : service'.signals = rest)
    (htimers : service'.timers = service.timers) :
    Coordinates config received service service' := by
  refine ⟨[.receive], received ++ [signal], run_cons.2 ⟨_, ?_, rfl⟩⟩
  simp only [coordinationStep, TelemetryService.coordination, hsignals, hstate, hrest, htimers]

omit [External] in
theorem sent (functionContext : FunctionContext)
    (hstate : service'.state = (service.send config functionContext).state)
    (hsignals : service'.signals = service.signals) (htimers : service'.timers = service.timers) :
    Coordinates config received service service' := by
  refine ⟨[.send functionContext], received, run_cons.2 ⟨_, ?_, rfl⟩⟩
  simp only [coordinationStep, TelemetryService.coordination, hstate, hsignals, htimers,
    TelemetryService.send]

omit [External] in
theorem sentIfNeeded {functionContext : FunctionContext} {now : Instant}
    (hstate : service'.state = (service.sendIfNeeded config functionContext now).state)
    (hsignals : service'.signals = service.signals) (htimers : service'.timers = service.timers) :
    Coordinates config received service service' := by
  rcases sendIfNeeded_cases functionContext now service with heq | heq
  · rw [heq] at hstate
    exact sent functionContext hstate hsignals htimers
  · rw [heq] at hstate
    exact still (congrArg (·.shouldSendBy) hstate) (congrArg (·.shouldSend) hstate) hsignals htimers

end Coordinates

omit [External] in
theorem sendIfNeeded_channel (functionContext : FunctionContext) (now : Instant) :
    (service.sendIfNeeded config functionContext now).signals = service.signals ∧
      (service.sendIfNeeded config functionContext now).timers = service.timers := by
  rcases sendIfNeeded_cases functionContext now service with heq | heq
  · rw [heq]
    exact ⟨rfl, rfl⟩
  · rw [heq]
    exact ⟨rfl, rfl⟩

/-- A step of the running handler. -/
theorem handlerStep_coordinates (received : List Signal) {now : Instant}
    (hphase : service.state.initHandled = true → service.state.initHandlingStarted = true)
    (hstep : handlerStep config now service = some service') :
    Coordinates config received service service' := by
  cases handlerStep_cases hstep with
  | drained e functionContext signal rest hhandler hsignals => exact .taken hsignals rfl rfl rfl
  | emptied => exact .still rfl rfl rfl rfl
  | enqueued e functionContext =>
    have push : SendsAs config service.state
        { state := pushInvokeEvent e functionContext service.state } := .work rfl id rfl
    exact .applied (push.trans (handleTelemetry_sends hphase)) rfl
  | checkedOnce functionContext =>
    obtain ⟨hsignals, htimers⟩ := @sendIfNeeded_channel config service functionContext now
    exact .sentIfNeeded rfl hsignals htimers
  | checked functionContext =>
    obtain ⟨hsignals, htimers⟩ := @sendIfNeeded_channel config service functionContext now
    exact .sentIfNeeded rfl hsignals htimers
  | woken functionContext rest hhandler hsignals => exact .taken hsignals rfl rfl rfl
  | done functionContext rest hhandler hsignals => exact .taken hsignals rfl rfl rfl
  | left => exact .still rfl rfl rfl rfl
  | returned =>
    refine .still ?_ ?_ rfl rfl
    · dsimp only
      split <;> rfl
    · dsimp only
      split <;> rfl

/-- The shutdown: a flush, and then a send. -/
theorem shutdown_coordinates (received : List Signal) {functionContext : FunctionContext}
    (hstep : serviceStep config service (.shutdown functionContext) = some service') :
    Coordinates config received service service' := by
  obtain ⟨-, rfl⟩ := serviceStep_shutdown hstep
  obtain ⟨m, out, rng, heq, -⟩ :=
    @flushEnqueuedTelemetry_spec _ config service.state functionContext
  have flushed : coordinationStep config (service.coordination received)
      (.work (flushEnqueuedTelemetry config functionContext service.state) []) =
      some { service.coordination received with
             state := flushEnqueuedTelemetry config functionContext service.state } := by
    simp only [coordinationStep, TelemetryService.coordination, List.append_nil]
    rw [if_pos (by rw [heq]; exact ⟨rfl, id⟩)]
  exact ⟨[.work (flushEnqueuedTelemetry config functionContext service.state) [],
    .send functionContext], received, run_cons.2 ⟨_, flushed, run_cons.2 ⟨_, rfl, rfl⟩⟩⟩

/-- A step of the service is made of such actions. -/
theorem serviceStep_coordination (received : List Signal)
    (hphase : service.state.initHandled = true → service.state.initHandlingStarted = true)
    (hstep : serviceStep config service a = some service') :
    Coordinates config received service service' := by
  cases a with
  | invoke e functionContext =>
    obtain ⟨-, rfl⟩ := serviceStep_invoke hstep
    exact .still rfl rfl rfl rfl
  | handler now => exact handlerStep_coordinates received hphase hstep
  | telemetry clock events =>
    cases hstep
    exact .applied (handleIncomingTelemetry_sends clock events hphase) rfl
  | otlpSpans clock spans =>
    cases hstep
    exact .applied (handleOtlpSpans_sends clock spans) rfl
  | otlpMetrics clock metrics =>
    cases hstep
    exact .applied (handleOtlpMetrics_sends clock metrics) rfl
  | wake deadline clock =>
    obtain ⟨hwake, rfl⟩ := serviceStep_wake hstep
    have fired : coordinationStep config (service.coordination received) (.wake deadline clock) =
        some ({ service.coordination received with timers := service.timers.erase deadline }.apply
          (wakeAfterDelay clock service.state)) := if_pos hwake
    exact ⟨[.wake deadline clock], received, run_cons.2 ⟨_, fired, rfl⟩⟩
  | shutdown functionContext => exact shutdown_coordinates received hstep

/-- What `deadlines_kept` says of the machine holds of the service: every run is one of its runs. -/
theorem serviceRun_coordination {now : Nat} {actions : List Action}
    (hrun : serviceRun config now actions = some service) :
    ∃ coordinationActions received,
      run (coordinationStep config) ((TelemetryService.new config now).coordination [])
        coordinationActions = some (service.coordination received) := by
  -- the service stays reachable, which is what its phase is known from
  have hsteps (service : TelemetryService) (c : Coordination) (a : Action)
      (service' : TelemetryService)
      (h : (∃ past, serviceRun config now past = some service) ∧
        ∃ received, c = service.coordination received)
      (hstep : serviceStep config service a = some service') :
      ∃ coordinationActions c', run (coordinationStep config) c coordinationActions = some c' ∧
        (∃ past, serviceRun config now past = some service') ∧
          ∃ received, c' = service'.coordination received := by
    obtain ⟨⟨past, hpast⟩, received, rfl⟩ := h
    have hphase := (serviceRun_betweenSteps hpast).invariant.phase
    obtain ⟨more, received', hmore⟩ := serviceStep_coordination received hphase hstep
    exact ⟨more, _, hmore, ⟨past ++ [a], run_snoc.2 ⟨service, hpast, hstep⟩⟩, received', rfl⟩
  obtain ⟨coordinationActions, c, hcoordination, -, received, rfl⟩ :=
    run_simulates hsteps ⟨⟨[], rfl⟩, [], rfl⟩ hrun
  exact ⟨coordinationActions, received, hcoordination⟩

end

end TelemetryExporter
