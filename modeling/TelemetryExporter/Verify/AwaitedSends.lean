import TelemetryExporter.Verify.SendProgress

/-!
# What the handler awaits

`handle_invoke_event` has one `SendingSupervisor` for each invocation, and before it returns it awaits
the tasks of that supervisor, for five seconds at most. When it has not run into the timeout, each
batch sent since the invocation began has been attempted in each lane, so the instance can be frozen
without interrupting an attempt.
-/

namespace TelemetryExporter

open Machine

/-! ## A call makes its attempt -/

section

variable {B T E : Type} {sender : RetryingSender B T E} {s s' : SenderState T E}

/-- The transport has come back to the call with its own batch. -/
def SenderState.HasAttempted (s : SenderState T E) (i : Nat) : Prop :=
  ∃ result, .returned i i result ∈ s.log

/-- A call whose batch has items does not get past its `send` without an attempt. -/
structure AttemptsMade (sender : RetryingSender B T E) (actions : List (SenderAction B E Unit))
    (s : SenderState T E) : Prop where
  sent : ∀ i call result, s.inFlight i = some call → call.result = .done result →
    sender.hasItems call.toSend.batch = true → s.HasAttempted i
  returned : ∀ i t, (startedBatches sender actions)[i]? = some t → sender.hasItems t = true →
    s.inFlight i = none → s.HasAttempted i

theorem SenderState.HasAttempted.mono {i : Nat} (h : s.HasAttempted i)
    (hlog : ∀ event ∈ s.log, event ∈ s'.log) : s'.HasAttempted i := by
  obtain ⟨result, hmem⟩ := h
  exact ⟨result, hlog _ hmem⟩

namespace AttemptsMade

variable {past : List (SenderAction B E Unit)}

/-- A call has got further with one of its sends. -/
theorem advance (h : AttemptsMade sender past s) {a : SenderAction B E Unit} (ha : a.batch = none)
    {i : Nat} {call : SendCall T E} {half : Half} {p : Sending E} {events : List (SenderEvent E)}
    (hcall : s.inFlight i = some call)
    (hp : half = .send → ∀ result, p = .done result → sender.hasItems call.toSend.batch = true →
      ∃ result', .returned i i result' ∈ events) :
    AttemptsMade sender (past ++ [a]) (s.advance i (call.setProgress half p) events) := by
  have hbatches : startedBatches sender (past ++ [a]) = startedBatches sender past := by
    simp [startedBatches, ha]
  have grown {j : Nat} (hj : s.HasAttempted j) :
      (s.advance i (call.setProgress half p) events).HasAttempted j :=
    hj.mono fun event hevent => List.mem_append_left _ hevent
  refine ⟨fun j call' result hcall' hresult hitems => ?_, fun j t ht hitems hnone => ?_⟩
  · simp only [SenderState.advance] at hcall'
    by_cases hj : j = i
    · subst hj
      rw [Function.update_self, Option.some.injEq] at hcall'
      subst hcall'
      cases half with
      | resend => exact grown (h.sent j call result hcall hresult hitems)
      | send =>
        obtain ⟨result', hmem⟩ := hp rfl result hresult hitems
        exact ⟨result', List.mem_append_right _ hmem⟩
    · rw [Function.update_of_ne hj] at hcall'
      exact grown (h.sent j call' result hcall' hresult hitems)
  · simp only [SenderState.advance] at hnone
    by_cases hj : j = i
    · subst hj
      rw [Function.update_self] at hnone
      cases hnone
    · rw [Function.update_of_ne hj] at hnone
      rw [hbatches] at ht
      exact grown (h.returned j t ht hitems hnone)

/-- A call returns. -/
theorem finish (h : AttemptsMade sender past s) (numbered : Numbered sender past s) (owned : Owned s)
    {i : Nat} {call : SendCall T E} {result : Except E Unit} {slot : Option (NumberedBatch T)}
    {events : List (SenderEvent E)} (hcall : s.inFlight i = some call)
    (hresult : call.result = .done result) :
    AttemptsMade sender (past ++ [.finish i])
      { s with
        inFlight := Function.update s.inFlight i none
        toRetry := slot
        log := s.log ++ events } := by
  have hbatches : startedBatches sender (past ++ [.finish i]) = startedBatches sender past := by
    simp [startedBatches, SenderAction.batch]
  refine ⟨fun j call' result' hcall' hresult' hitems => ?_, fun j t ht hitems hnone => ?_⟩
  · dsimp only at hcall'
    by_cases hj : j = i
    · subst hj
      rw [Function.update_self] at hcall'
      cases hcall'
    · rw [Function.update_of_ne hj] at hcall'
      exact (h.sent j call' result' hcall' hresult' hitems).mono
        fun event hevent => List.mem_append_left _ hevent
  · rw [hbatches] at ht
    have hattempted : s.HasAttempted j := by
      dsimp only at hnone
      by_cases hj : j = i
      · subst hj
        -- the batch of the call is the one that it was made with
        have hheld := numbered.held (.call j .send) call.toSend ⟨call, hcall, rfl⟩
        rw [(owned.own j call hcall).1, ht] at hheld
        cases hheld
        exact h.sent j call result hcall hresult hitems
      · rw [Function.update_of_ne hj] at hnone
        exact h.returned j t ht hitems hnone
    exact hattempted.mono fun event hevent => List.mem_append_left _ hevent

theorem start (h : AttemptsMade sender past s) (numbered : Numbered sender past s) (batch : B) :
    AttemptsMade sender (past ++ [.start batch]) (s.start (sender.convert batch)) := by
  have grown {j : Nat} (hj : s.HasAttempted j) :
      (s.start (sender.convert batch)).HasAttempted j :=
    hj.mono fun event hevent => List.mem_append_left _ hevent
  have hbatches : startedBatches sender (past ++ [.start batch]) =
      startedBatches sender past ++ [sender.convert batch] := by
    simp [startedBatches, SenderAction.batch]
  refine ⟨fun j call result hcall hresult hitems => ?_, fun j t ht hitems hnone => ?_⟩
  · simp only [SenderState.start] at hcall
    by_cases hj : j = s.started
    · subst hj
      rw [Function.update_self, Option.some.injEq] at hcall
      subst hcall
      cases hresult
    · rw [Function.update_of_ne hj] at hcall
      exact grown (h.sent j call result hcall hresult hitems)
  · simp only [SenderState.start] at hnone
    have hj : j ≠ s.started := by
      rintro rfl
      rw [Function.update_self] at hnone
      cases hnone
    rw [Function.update_of_ne hj] at hnone
    have hlt := (List.getElem?_eq_some_iff.1 ht).1
    rw [hbatches, List.length_append, List.length_singleton, ← numbered.started] at hlt
    rw [hbatches, List.getElem?_append_left (by rw [← numbered.started]; omega)] at ht
    exact grown (h.returned j t ht hitems hnone)

theorem step (h : AttemptsMade sender past s) (numbered : Numbered sender past s) (owned : Owned s)
    {a : SenderAction B E Unit} (hstep : SenderStep sender s a s') :
    AttemptsMade sender (past ++ [a]) s' := by
  cases hstep with
  | started batch => exact h.start numbered batch
  | handed i half call b hcall hprogress hbatch hitems => exact h.advance rfl hcall nofun
  | skipped a i half call result ha hcall hskip =>
    refine h.advance ha hcall ?_
    rintro rfl result' - hitems
    rcases hskip with hnone | ⟨-, -, hempty⟩
    · cases hnone
    · rw [hempty call.toSend rfl] at hitems
      cases hitems
  | completed i half call b result hcall hprogress hbatch =>
    refine h.advance rfl hcall ?_
    rintro rfl result' - -
    cases hbatch
    rw [(owned.own i call hcall).1]
    exact ⟨_, List.mem_singleton_self _⟩
  | dropped i call result hcall hretryResult hresult hdrop =>
    have hfinish : AttemptsMade sender (past ++ [.finish i])
        { s with inFlight := Function.update s.inFlight i none, log := s.log ++ [] } :=
      h.finish numbered owned hcall hresult
    rw [List.append_nil] at hfinish
    exact hfinish
  | recorded i call e hcall hretryResult hresult hretry => exact h.finish numbered owned hcall hresult

end AttemptsMade

theorem senderRun_attemptsMade {actions : List (SenderAction B E Unit)}
    (hrun : senderRun sender actions = some s) : AttemptsMade sender actions s := by
  have invariants := Machine.run_actions (I := fun past s =>
    senderRun sender past = some s ∧ AttemptsMade sender past s) ⟨rfl, nofun, nofun⟩ ?_ hrun
  · exact invariants.2
  · rintro past s a s' ⟨hpast, hattempts⟩ hstep
    obtain ⟨owned, -, numbered⟩ := senderRun_invariants hpast
    exact ⟨run_snoc.2 ⟨s, hpast, hstep⟩,
      hattempts.step numbered owned (senderStep_cases hstep)⟩

end

/-! ## The tasks of a lane -/

/-- A task whose call of the lane has returned has had its attempt. -/
theorem LaneState.Serves.attempted {B T E : Type} {sender : RetryingSender B T E}
    {offers : List (Option B)} {actions : List (SenderAction B E Unit)} {started : List Nat}
    {s : LaneState B T E} (h : s.Serves sender offers actions started) {task : Nat} {toSend : B}
    (hoffer : offers[task]? = some (some toSend)) (hfinished : s.finished task = true) :
    ∃ n, s.calls task = some (.started n) ∧ s.sender.inFlight n = none ∧
      (sender.hasItems (sender.convert toSend) = true → s.sender.HasAttempted n) := by
  have hcall := h.calls task
  rw [hoffer, Option.join_some, Option.map_some] at hcall
  unfold LaneState.finished at hfinished
  rw [hcall] at hfinished
  split at hcall
  · next hmem =>
    rw [if_pos hmem] at hfinished
    have hnone : s.sender.inFlight (started.idxOf task) = none := Option.isNone_iff_eq_none.1 hfinished
    refine ⟨_, hcall, hnone, fun hitems => ?_⟩
    have hbatches : startedBatches sender actions = (callInputs actions).map sender.convert := by
      rw [startedBatches, callInputs, List.map_filterMap]
    refine (senderRun_attemptsMade h.run).returned _ _ ?_ hitems hnone
    rw [hbatches, List.getElem?_map, h.input_eq hcall hoffer, Option.map_some]
  · next hmem =>
    rw [if_neg hmem] at hfinished
    cases hfinished

/-! ## The tasks of an invocation -/

section

variable [External] {setup : Setup} {x x' y : Exporter} {start : Instant} {now : Nat}

/-- No `handle_invoke_event` is running. -/
def Exporter.BetweenEvents (x : Exporter) : Prop :=
  x.service.handler = .idle ∨ x.service.handler = .shutDown

/-- The running `handle_invoke_event` supervises the tasks of the batches from this one on. -/
def Exporter.Supervises (x : Exporter) (first : Nat) : Prop :=
  x.BetweenEvents ∨ first ≤ x.service.sent.length ∧
    x.inFlightSendOperations = List.range' first (x.service.sent.length - first)

/-- Only an invoke event starts a handler. -/
theorem serviceStep_between {config : TelemetryServiceConfig} {service service' : TelemetryService}
    {a : Action} (h : serviceStep config service a = some service')
    (hbetween : service.handler = .idle ∨ service.handler = .shutDown)
    (ha : ∀ e functionContext, a ≠ .invoke e functionContext) :
    service'.handler = .idle ∨ service'.handler = .shutDown := by
  cases a with
  | invoke e functionContext => exact absurd rfl (ha e functionContext)
  | handler now =>
    simp only [serviceStep] at h
    unfold handlerStep at h
    rcases hbetween with hidle | hidle <;>
    · rw [hidle] at h
      cases h
  | telemetry clock events =>
    cases h
    exact hbetween
  | otlpSpans clock resourceSpans =>
    cases h
    exact hbetween
  | otlpMetrics clock resourceMetrics =>
    cases h
    exact hbetween
  | wake deadline clock =>
    obtain ⟨-, rfl⟩ := serviceStep_wake h
    exact hbetween
  | shutdown functionContext =>
    obtain ⟨-, rfl⟩ := serviceStep_shutdown h
    exact .inr rfl

/-- A step that begins no handler goes on with the same tasks, or shuts the service down. -/
theorem Exporter.Serves.goesOn {action : ExporterAction} {cache : FunctionContextCache}
    {inFlight : List Nat} {a : Action} {service : TelemetryService}
    (h : Exporter.Serves setup x action cache inFlight a) (haction : ∀ call, action ≠ .invoke call)
    (hstep : serviceStep setup.config.telemetryServiceConfig x.service a = some service) :
    service.handler = .shutDown ∨
      inFlight = x.inFlightSendOperations ∧ ∀ e functionContext, a ≠ .invoke e functionContext := by
  cases h with
  | invoke call => exact absurd rfl (haction call)
  | shutdown =>
    obtain ⟨-, rfl⟩ := serviceStep_shutdown hstep
    exact .inl rfl
  | _ =>
    refine .inr ⟨rfl, fun e functionContext heq => ?_⟩
    cases heq

namespace Exporter.Supervises

variable {first : Nat}

/-- An invoke event begins with no tasks. -/
theorem invoke {call : ProviderCall} (h : ExporterStep setup x (.invoke call) x') :
    x'.Supervises x.service.sent.length := by
  cases h with
  | served action cache inFlight a service hinvoke hstep hsent =>
    cases hinvoke
    refine .inr ⟨?_, ?_⟩
    · rw [hsent]
    · rw [hsent, Nat.sub_self, List.range'_zero]
  | sent action cache inFlight a service batch hinvoke hstep hsent =>
    cases hinvoke
    cases serviceStep_coreStep hstep with
    | still a service' hstate hsame =>
      have hlength := congrArg List.length (hsame.symm.trans hsent)
      rw [List.length_append, List.length_singleton] at hlength
      omega
  | failed call e hidle herror => exact .inl (.inl hidle)

theorem step (h : x.Supervises first) (hserves : x.delivery.Serves setup.senders x.service.sent)
    {action : ExporterAction} (haction : ∀ call, action ≠ .invoke call)
    (hstep : ExporterStep setup x action x') : x'.Supervises first := by
  cases hstep with
  | served action cache inFlight a service hgoes hservice hsent =>
    rcases hgoes.goesOn haction hservice with hdown | ⟨rfl, ha⟩
    · exact .inl (.inr hdown)
    · rcases h with hbetween | htasks
      · exact .inl (serviceStep_between hservice hbetween ha)
      · refine .inr ?_
        dsimp only
        rw [hsent]
        exact htasks
  | sent action cache inFlight a service batch hgoes hservice hsent =>
    rcases hgoes.goesOn haction hservice with hdown | ⟨rfl, ha⟩
    · exact .inl (.inr hdown)
    · rcases h with hbetween | ⟨hle, htasks⟩
      · exact .inl (serviceStep_between hservice hbetween ha)
      · refine .inr ⟨?_, ?_⟩
        · dsimp only
          rw [hsent, List.length_append]
          omega
        · dsimp only
          have hlength : x.service.sent.length + 1 - first = x.service.sent.length - first + 1 := by
            omega
          rw [hsent, List.length_append, List.length_singleton, htasks, hserves.1, hlength,
            List.range'_concat, Nat.one_mul, Nat.add_sub_cancel' hle]
  | failed call => exact absurd rfl (haction call)
  | delivered a delivery hdelivery => exact h

end Exporter.Supervises

/-- The tasks of an invocation are those of the batches sent since it began. -/
theorem supervises_since {before after : List ExporterAction} {call : ProviderCall}
    (hbefore : exporterRun setup start now before = some y)
    (hrun : Machine.run (Exporter.step setup) y (.invoke call :: after) = some x)
    (hafter : ∀ call', .invoke call' ∉ after) : x.Supervises y.service.sent.length := by
  obtain ⟨z, hinvoke, hrun⟩ := run_cons.1 hrun
  have hy := exporterRun_invariant hbefore
  have hbegun := (exporterStep_cases hinvoke).2
  refine (run_actions (I := fun past x => (∀ call', .invoke call' ∉ past) →
    x.Supervises y.service.sent.length ∧
      ExporterInvariant setup now (before ++ [.invoke call] ++ past) x)
    (fun _ => ⟨.invoke hbegun, ?_⟩) ?_ hrun hafter).1
  · rw [List.append_nil]
    exact hy.step hbegun
  · intro past x a x' hpast hstep hnone
    have hx := hpast fun call' hmem => hnone call' (List.mem_append_left _ hmem)
    have hcases := (exporterStep_cases hstep).2
    refine ⟨hx.1.step hx.2.delivery (fun call' heq => ?_) hcases, ?_⟩
    · rw [heq] at hnone
      exact hnone call' (List.mem_append_right _ (List.mem_singleton_self _))
    · rw [← List.append_assoc]
      exact hx.2.step hcases

/-- **What the handler awaits.** When `handle_invoke_event` returns without having run into its timeout,
every batch sent since it was called has had its attempt: for each lane to which the batch has
something to give, the call has returned, and the transport has come back with that batch, if it has
items. -/
theorem awaited_sends_attempted {before after : List ExporterAction} {call : ProviderCall}
    {time : Instant} (hbefore : exporterRun setup start now before = some y)
    (hrun : Machine.run (Exporter.step setup) y (.invoke call :: after) = some x)
    (hafter : ∀ call', .invoke call' ∉ after) (hawaiting : x.isAwaiting = true)
    (hstep : x.step setup (.handler time) = some x') :
    x'.service.handler = .idle ∧
      ∀ task batch, y.service.sent.length ≤ task → x.service.sent[task]? = some batch →
        ∀ lane toSend, setup.senders.route batch lane = some toSend →
          ∃ n, (x.delivery.lanes lane).calls task = some (.started n) ∧
            (x.delivery.lanes lane).sender.inFlight n = none ∧
            (lane.sender.hasItems (lane.sender.convert toSend) = true →
              (x.delivery.lanes lane).sender.HasAttempted n) := by
  have hserves : x.delivery.Serves setup.senders x.service.sent :=
    (exporterRun_invariant (run_append_iff.2 ⟨y, hbefore, hrun⟩)).delivery
  have hhandler : x.service.handler = .awaiting := by
    unfold Exporter.isAwaiting at hawaiting
    split at hawaiting
    · next h => exact h
    · cases hawaiting
  have hfinished : x.sendsFinished = true := by
    unfold Exporter.step at hstep
    split at hstep
    · cases hstep
    · simp only [hawaiting, Bool.true_and] at hstep
      split at hstep
      · cases hstep
      · next hnot => simpa using hnot
  refine ⟨?_, ?_⟩
  · cases (exporterStep_cases hstep).2 with
    | served action cache inFlight a service hgoes hservice hsent =>
      cases hgoes
      simp only [serviceStep, handlerStep, hhandler] at hservice
      cases hservice
      rfl
    | sent action cache inFlight a service batch hgoes hservice hsent =>
      cases hgoes
      simp only [serviceStep, handlerStep, hhandler] at hservice
      cases hservice
      rfl
  · intro task batch hle hbatch lane toSend hroute
    obtain hidle | ⟨-, htasks⟩ := supervises_since hbefore hrun hafter
    · rcases hidle with hidle | hdown
      · rw [hhandler] at hidle
        cases hidle
      · rw [hhandler] at hdown
        cases hdown
    · have hlt := (List.getElem?_eq_some_iff.1 hbatch).1
      have hmem : task ∈ x.inFlightSendOperations := by
        rw [htasks, List.mem_range'_1]
        omega
      have htask := List.all_eq_true.1 hfinished task hmem
      obtain ⟨laneActions, started, hlane⟩ := hserves.2 lane
      refine hlane.attempted ?_ (List.all_eq_true.1 htask lane lane.mem_all)
      rw [List.getElem?_map, hbatch, Option.map_some, hroute]

end

theorem awaited_sends_attempted_log :
    ∃ setup x x', startTelemetryExporter sampleReporting sampleStartContext "id" = .ok setup ∧
      @exporterRun sampleExternal setup 0 0
        (.invoke (sampleCall 0) :: sampleInvocation ++ sampleDeliveries) = some x ∧
      @Exporter.step sampleExternal setup x (.handler 0) = some x' ∧
      x'.service.handler = .idle ∧
      ∃ batch toSend, x.service.sent[0]? = some batch ∧
        setup.senders.route batch .mainLogs = some toSend ∧
        ∃ n, (x.delivery.lanes .mainLogs).calls 0 = some (.started n) ∧
          (x.delivery.lanes .mainLogs).sender.inFlight n = none ∧
          (x.delivery.lanes .mainLogs).sender.HasAttempted n := by
  obtain ⟨setup, x, hstart, hrun, hawaiting, hstep, hroute⟩ := @exists_exporterRun sampleExternal 0 0
    (.invoke (sampleCall 0) :: sampleInvocation ++ sampleDeliveries) sampleReporting
    sampleStartContext "id"
    (fun setup x => x.isAwaiting = true ∧
      (@Exporter.step sampleExternal setup x (.handler 0)).isSome = true ∧
      ((x.service.sent[0]?).any fun batch => (setup.senders.route batch .mainLogs).any fun toSend =>
        Lane.mainLogs.sender.hasItems (Lane.mainLogs.sender.convert toSend)) = true) _
    (by decide +kernel)
  obtain ⟨x', hstep⟩ := Option.isSome_iff_exists.1 hstep
  obtain ⟨batch, hbatch, hroute⟩ := (Option.any_eq_true _ _).1 hroute
  obtain ⟨toSend, hroute, hitems⟩ := (Option.any_eq_true _ _).1 hroute
  have hafter (call : ProviderCall) : .invoke call ∉ sampleInvocation ++ sampleDeliveries := by
    simp [sampleInvocation, sampleDeliveries]
  obtain ⟨hidle, hall⟩ := @awaited_sends_attempted sampleExternal setup x x' _ 0 0 [] _ _ 0 rfl hrun
    hafter hawaiting hstep
  obtain ⟨n, hcall, hreturned, hattempted⟩ :=
    hall 0 batch (Nat.zero_le _) hbatch .mainLogs toSend hroute
  exact ⟨setup, x, x', hstart, hrun, hstep, hidle, batch, toSend, hbatch, hroute, n, hcall, hreturned,
    hattempted hitems⟩

end TelemetryExporter
