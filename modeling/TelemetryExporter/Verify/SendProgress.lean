import Mathlib.Algebra.Order.BigOperators.Group.Finset
import Mathlib.Algebra.Group.Action.Defs
import Mathlib.Tactic.Ring
import TelemetryExporter.Verify.ExporterRuns

/-!
# The sends come to an end

A call of a lane starts, hands each of its two batches to the transport and gets them back, and
returns. No call waits for another one, so whatever the order in which the tasks go on, each step is
one of the few that a call has left, and until all calls have returned one of them can go on. This is
what `await_in_flight_sends` relies on.
-/

namespace TelemetryExporter

open Machine

/-! ## The steps that a call has left -/

variable {B T E : Type}

/-- The steps that one of the two sends has left. -/
def Sending.stepsLeft : Sending E → Nat
  | .waiting => 2
  | .inFlight => 1
  | .done _ => 0

/-- The steps that a call has left, the last of which is its return. -/
def SendCall.stepsLeft (call : SendCall T E) : Nat :=
  call.retryResult.stepsLeft + call.result.stepsLeft + 1

/-- The steps that the task has left in the lane. -/
def LaneState.stepsLeft (s : LaneState B T E) (task : Nat) : Nat :=
  (s.calls task).elim 0 fun
    | .waiting _ => 6
    | .started number => (s.sender.inFlight number).elim 0 SendCall.stepsLeft

theorem SendCall.stepsLeft_setProgress (call : SendCall T E) (half : Half) (p : Sending E) :
    (call.setProgress half p).stepsLeft + (call.progress half).stepsLeft =
      call.stepsLeft + p.stepsLeft := by
  cases half <;> simp only [stepsLeft, setProgress, progress] <;> omega

theorem SendCall.stepsLeft_le (call : SendCall T E) : call.stepsLeft ≤ 5 := by
  have hle (p : Sending E) : p.stepsLeft ≤ 2 := by
    cases p <;> simp [Sending.stepsLeft]
  have hretry := hle call.retryResult
  have hsend := hle call.result
  unfold stepsLeft
  omega

theorem LaneState.stepsLeft_le (s : LaneState B T E) (task : Nat) : s.stepsLeft task ≤ 6 := by
  unfold stepsLeft
  rcases s.calls task with _ | _ | number
  · exact Nat.zero_le _
  · exact Nat.le_refl _
  · cases hcall : s.sender.inFlight number with
    | none => simp [hcall]
    | some call =>
      have hle := call.stepsLeft_le
      simp only [Option.elim_some, hcall]
      omega

/-- A step of a call that has started leaves it with fewer steps, and the other calls as they are. -/
theorem senderStep_goesOn {sender : RetryingSender B T E} {s s' : SenderState T E}
    {a : SenderAction B E Unit} (ha : a.batch = none) (h : senderStep sender s a = some s') :
    ∃ i call next, s.inFlight i = some call ∧ s'.inFlight = Function.update s.inFlight i next ∧
      next.elim 0 SendCall.stepsLeft < call.stepsLeft := by
  cases a with
  | start batch => cases ha
  | hand i half =>
    simp only [senderStep] at h
    split at h
    · cases h
    · next call hcall =>
      split at h
      · next hprogress =>
        cases h
        have further (p : Sending E) (hp : p.stepsLeft < 2) :
            (call.setProgress half p).stepsLeft < call.stepsLeft := by
          have hsum := call.stepsLeft_setProgress half p
          rw [hprogress, Sending.stepsLeft] at hsum
          omega
        unfold SenderState.hand
        split
        · exact ⟨i, call, some _, hcall, rfl, further _ (Nat.zero_lt_two)⟩
        · split
          · exact ⟨i, call, some _, hcall, rfl, further _ (Nat.one_lt_two)⟩
          · exact ⟨i, call, some _, hcall, rfl, further _ (Nat.zero_lt_two)⟩
      · cases h
  | complete i half result =>
    simp only [senderStep] at h
    split at h
    · cases h
    · next call hcall =>
      split at h
      · next hprogress =>
        cases h
        refine ⟨i, call, some _, hcall, rfl, ?_⟩
        have hsum := call.stepsLeft_setProgress half (.done (result.map fun _ => ()))
        rw [hprogress, Sending.stepsLeft, Sending.stepsLeft] at hsum
        rw [Option.elim_some]
        omega
      · cases h
  | finish i =>
    simp only [senderStep] at h
    split at h
    · cases h
    · next call hcall =>
      split at h
      · cases h
        refine ⟨i, call, none, hcall, ?_, Nat.succ_pos _⟩
        unfold SenderState.finish
        split
        · rfl
        · split <;> rfl
      · cases h

/-! ## One lane -/

namespace LaneState.Serves

variable {sender : RetryingSender B T E} {offers : List (Option B)}
  {actions : List (SenderAction B E Unit)} {started : List Nat} {s s' : LaneState B T E}

theorem task_lt (h : s.Serves sender offers actions started) {task : Nat} {call : LaneCall B}
    (hcall : s.calls task = some call) : task < offers.length := by
  rw [h.calls] at hcall
  obtain ⟨toSend, hoffer, -⟩ := Option.map_eq_some_iff.1 hcall
  exact (List.getElem?_eq_some_iff.1 (Option.join_eq_some_iff.1 hoffer)).1

/-- A call in flight is that of a task. -/
theorem exists_task (h : s.Serves sender offers actions started) {n : Nat} {call : SendCall T E}
    (hcall : s.sender.inFlight n = some call) : ∃ task, s.calls task = some (.started n) := by
  have hlt := ((senderRun_invariants h.run).1.own n call hcall).2
  rw [h.count] at hlt
  exact ⟨started[n], h.calls_started.2 (List.getElem?_eq_getElem hlt)⟩

/-- The calls of the other tasks are other calls. -/
theorem started_ne (h : s.Serves sender offers actions started) {task task' n n' : Nat}
    (hcall : s.calls task = some (.started n)) (hcall' : s.calls task' = some (.started n'))
    (hne : task' ≠ task) : n' ≠ n := by
  rintro rfl
  have heq := (h.calls_started.1 hcall').symm.trans (h.calls_started.1 hcall)
  exact hne (Option.some.inj heq)

/-- A call that has started goes on. -/
theorem stepsLeft_goOn (h : s.Serves sender offers actions started) {a : SenderAction B E Unit}
    (ha : a.batch = none) {sender' : SenderState T E}
    (hstep : senderStep sender s.sender a = some sender') :
    ∃ task < offers.length,
      LaneState.stepsLeft { s with sender := sender' } task < s.stepsLeft task ∧
        ∀ other, other ≠ task →
          LaneState.stepsLeft { s with sender := sender' } other = s.stepsLeft other := by
  obtain ⟨n, call, next, hcall, hnext, hlt⟩ := senderStep_goesOn ha hstep
  obtain ⟨task, htask⟩ := h.exists_task hcall
  refine ⟨task, h.task_lt htask, ?_, ?_⟩
  · simp only [stepsLeft, htask, Option.elim_some, hcall, hnext, Function.update_self]
    exact hlt
  · intro other hne
    simp only [stepsLeft]
    rcases hother : s.calls other with _ | _ | n'
    · rfl
    · rfl
    · have hn : n' ≠ n := h.started_ne htask hother hne
      simp only [Option.elim_some, hnext, Function.update_of_ne hn]

theorem stepsLeft_start (h : s.Serves sender offers actions started) {task : Nat} {toSend : B}
    (hcall : s.calls task = some (.waiting toSend)) {sender' : SenderState T E}
    (hstep : senderStep (R := Unit) sender s.sender (.start toSend) = some sender') :
    let s' : LaneState B T E :=
      { sender := sender'
        calls := Function.update s.calls task (some (.started s.sender.started)) }
    s'.stepsLeft task < s.stepsLeft task ∧
      ∀ other, other ≠ task → s'.stepsLeft other = s.stepsLeft other := by
  cases hstep
  refine ⟨?_, ?_⟩
  · simp only [stepsLeft, Function.update_self, Option.elim_some, SenderState.start, hcall]
    exact Nat.lt_succ_self 5
  · intro other hne
    simp only [stepsLeft, Function.update_of_ne hne, SenderState.start]
    rcases hother : s.calls other with _ | _ | n
    · rfl
    · rfl
    · have hlt : n < started.length :=
        (List.getElem?_eq_some_iff.1 (h.calls_started.1 hother)).1
      rw [← h.count] at hlt
      simp only [Option.elim_some, Function.update_of_ne (Nat.ne_of_lt hlt)]

/-- One task has fewer steps left, and the others as many as before. -/
theorem stepsLeft_step (h : s.Serves sender offers actions started) {a : LaneState.Action E}
    (hstep : s.step sender a = some s') :
    ∃ task < offers.length, s'.stepsLeft task < s.stepsLeft task ∧
      ∀ other, other ≠ task → s'.stepsLeft other = s.stepsLeft other := by
  cases a with
  | start task =>
    simp only [LaneState.step] at hstep
    split at hstep
    · next toSend hcall =>
      obtain ⟨sender', hsender, rfl⟩ := Option.map_eq_some_iff.1 hstep
      exact ⟨task, h.task_lt hcall, h.stepsLeft_start hcall hsender⟩
    · cases hstep
  | hand call half =>
    obtain ⟨sender', hsender, rfl⟩ := Option.map_eq_some_iff.1 hstep
    exact h.stepsLeft_goOn rfl hsender
  | complete call half result =>
    obtain ⟨sender', hsender, rfl⟩ := Option.map_eq_some_iff.1 hstep
    exact h.stepsLeft_goOn rfl hsender
  | finish call =>
    obtain ⟨sender', hsender, rfl⟩ := Option.map_eq_some_iff.1 hstep
    exact h.stepsLeft_goOn rfl hsender

end LaneState.Serves

/-- What a call of a lane that has not returned can do next. -/
inductive LaneState.CanGoOn (sender : RetryingSender B T E) (s : LaneState B T E) : Prop where
  | start (task : Nat) (h : ∃ s', s.step sender (.start task) = some s')
  | hand (call : Nat) (half : Half) (h : ∃ s', s.step sender (.hand call half) = some s')
  | complete (call : Nat) (half : Half)
    (h : ∀ result, ∃ s', s.step sender (.complete call half result) = some s')
  | finish (call : Nat) (h : ∃ s', s.step sender (.finish call) = some s')

/-- A lane in which the call of a task has not returned can go on. -/
theorem LaneState.canGoOn {sender : RetryingSender B T E} {s : LaneState B T E} {task : Nat}
    (h : s.finished task = false) : s.CanGoOn sender := by
  unfold LaneState.finished at h
  split at h
  · cases h
  · next toSend hcall =>
    have hstep : s.step sender (.start task) = some
        { sender := s.sender.start (sender.convert toSend)
          calls := Function.update s.calls task (some (.started s.sender.started)) } := by
      simp only [LaneState.step, hcall]
      rfl
    exact .start task ⟨_, hstep⟩
  · next n hcall =>
    rw [Option.isNone_eq_false_iff, Option.isSome_iff_exists] at h
    obtain ⟨call, hn⟩ := h
    have half (half : Half) : s.CanGoOn sender ∨ ∃ r, call.progress half = .done r := by
      cases hprogress : call.progress half with
      | waiting =>
        have hstep : s.step sender (.hand n half) =
            some { s with sender := s.sender.hand sender n call half } := by
          simp only [LaneState.step, senderStep, hn, hprogress]
          rfl
        exact .inl (.hand n half ⟨_, hstep⟩)
      | inFlight =>
        have hstep (result : Except E Unit) : s.step sender (.complete n half result) =
            some { s with sender := s.sender.complete n call half result } := by
          simp only [LaneState.step, senderStep, hn, hprogress]
          rfl
        exact .inl (.complete n half fun result => ⟨_, hstep result⟩)
      | done r => exact .inr ⟨r, rfl⟩
    rcases half .resend with hgo | ⟨retried, hretried⟩
    · exact hgo
    · rcases half .send with hgo | ⟨sent, hsent⟩
      · exact hgo
      · have hstep : s.step sender (.finish n) =
            some { s with sender := s.sender.finish sender n call sent } := by
          simp only [SendCall.progress] at hretried hsent
          simp only [LaneState.step, senderStep, hn, hretried, hsent]
          rfl
        exact .finish n ⟨_, hstep⟩

/-! ## All lanes -/

/-- The steps that all calls have left. -/
def Delivery.stepsLeft (d : Delivery) : Nat :=
  ∑ call ∈ Lane.all.toFinset ×ˢ Finset.range d.tasks, (d.lanes call.1).stepsLeft call.2

theorem Lane.mem_all (lane : Lane) : lane ∈ Lane.all := by
  cases lane <;> decide

theorem Delivery.stepsLeft_le (d : Delivery) : d.stepsLeft ≤ 6 * Lane.all.length * d.tasks := by
  have hle := Finset.sum_le_card_nsmul (Lane.all.toFinset ×ˢ Finset.range d.tasks)
    (fun call => (d.lanes call.1).stepsLeft call.2) 6 fun call _ => LaneState.stepsLeft_le _ _
  rw [Finset.card_product, Finset.card_range, smul_eq_mul] at hle
  have hcard : Lane.all.toFinset.card = Lane.all.length := by decide
  rw [hcard] at hle
  unfold Delivery.stepsLeft
  calc _ ≤ Lane.all.length * d.tasks * 6 := hle
    _ = 6 * Lane.all.length * d.tasks := by ring

namespace Delivery.Serves

variable {senders : CompositeTelemetrySender} {sent : List TelemetryBatch} {d d' : Delivery}

theorem stepsLeft_lt (h : d.Serves senders sent) {a : DeliveryAction} (hstep : d.step a = some d') :
    d'.stepsLeft < d.stepsLeft := by
  obtain ⟨lane, action, s, hs, rfl⟩ := deliveryStep_cases hstep
  obtain ⟨actions, started, hlane⟩ := h.2 lane
  obtain ⟨task, htask, hlt, hothers⟩ := hlane.stepsLeft_step hs
  rw [List.length_map, ← h.1] at htask
  refine Finset.sum_lt_sum (fun call _ => ?_) ⟨(lane, task), ?_, ?_⟩
  · by_cases hcall : call.1 = lane
    · obtain ⟨lane', task'⟩ := call
      subst hcall
      rw [setLane_lanes_self]
      by_cases heq : task' = task
      · rw [heq]
        exact Nat.le_of_lt hlt
      · exact Nat.le_of_eq (hothers task' heq)
    · rw [setLane_lanes_ne hcall]
  · rw [Finset.mem_product, List.mem_toFinset, Finset.mem_range]
    exact ⟨lane.mem_all, htask⟩
  · rw [setLane_lanes_self]
    exact hlt

end Delivery.Serves

/-- As long as a task is not finished, some task can go on. -/
theorem Delivery.exists_step {d : Delivery} (h : ¬ ∀ task, d.finished task = true) :
    ∃ a d', d.step a = some d' := by
  simp only [not_forall, Bool.not_eq_true, Delivery.finished, List.all_eq_false] at h
  obtain ⟨task, lane, -, hfinished⟩ := h
  have enabled {a : DeliveryAction} {action : LaneState.Action lane.SendError}
      (ha : d.step a = ((d.lanes lane).step lane.sender action).map (d.setLane lane))
      (hstep : ∃ s, (d.lanes lane).step lane.sender action = some s) :
      ∃ a d', d.step a = some d' := by
    obtain ⟨s, hs⟩ := hstep
    exact ⟨a, d.setLane lane s, by rw [ha, hs, Option.map_some]⟩
  have outcome : Nonempty lane.Outcome := by
    cases lane with
    | firehose => exact ⟨Except.ok ()⟩
    | _ => exact ⟨OtlpOutcome.malformed⟩
  have hgo : (d.lanes lane).CanGoOn lane.sender := LaneState.canGoOn hfinished
  cases hgo with
  | start task h => exact enabled (a := .start lane task) rfl h
  | hand call half h => exact enabled (a := .hand lane call half) rfl h
  | complete call half h =>
    obtain ⟨o⟩ := outcome
    exact enabled (a := .complete lane call half o) rfl (h (lane.result o))
  | finish call h => exact enabled (a := .finish lane call) rfl h

/-! ## The exporter -/

section

variable [External] {setup : Setup} {x : Exporter} {start : Instant} {now : Nat}
  {actions : List ExporterAction}

/-- The exporter takes the steps of its tasks. -/
theorem exporter_run_deliveries (hcrashed : x.crashed = false) {deliveries : List DeliveryAction}
    {d : Delivery} (h : Machine.run Delivery.step x.delivery deliveries = some d) :
    Machine.run (Exporter.step setup) x (deliveries.map .delivery) = some { x with delivery := d } := by
  refine (run_map (f := fun d => { x with delivery := d }) (g := ExporterAction.delivery)
    (fun d a d' hstep => ?_) h).1
  simp only [Exporter.step, hcrashed, hstep]
  rfl

/-- **The sends come to an end.** In every state that the exporter can reach, and in whatever order the
tasks go on, they take at most 48 steps for each batch sent so far (there are 8 lanes and 6 steps in a
call); some task can go on until all are finished; and so there are steps after which
`await_in_flight_sends` returns. -/
theorem sends_end (hrun : exporterRun setup start now actions = some x) :
    (∀ deliveries d, Machine.run Delivery.step x.delivery deliveries = some d →
      deliveries.length ≤ 48 * x.service.sent.length ∧
        ((∀ task, d.finished task = true) ∨ ∃ a d', d.step a = some d')) ∧
    (x.crashed = false → ∃ (deliveries : List DeliveryAction) (x' : Exporter),
      Machine.run (Exporter.step setup) x (deliveries.map .delivery) = some x' ∧
        x'.sendsFinished = true ∧ x'.service = x.service) := by
  have hserves := (exporterRun_invariant hrun).delivery
  have hstep (d : Delivery) (a : DeliveryAction) (d' : Delivery)
      (h : d.Serves setup.senders x.service.sent) (hd : d.step a = some d') :
      d'.Serves setup.senders x.service.sent ∧ d'.stepsLeft < d.stepsLeft :=
    ⟨h.step hd, h.stepsLeft_lt hd⟩
  refine ⟨fun deliveries d hd => ⟨?_, ?_⟩, fun hcrashed => ?_⟩
  · have hlength := run_length_le hstep hserves hd
    have hle := x.delivery.stepsLeft_le
    rw [hserves.1] at hle
    have height : Lane.all.length = 8 := rfl
    rw [height] at hle
    omega
  · by_cases hdone : ∀ task, d.finished task = true
    · exact .inl hdone
    · exact .inr (Delivery.exists_step hdone)
  · obtain ⟨deliveries, d, hd, hdone⟩ :=
      exists_run_done hstep (fun d _ hnot => Delivery.exists_step hnot) hserves
    exact ⟨deliveries, _, exporter_run_deliveries hcrashed hd,
      List.all_eq_true.2 fun task _ => hdone task, rfl⟩

end

theorem sends_end_log :
    ∃ setup x, startTelemetryExporter sampleReporting sampleStartContext "id" = .ok setup ∧
      @exporterRun sampleExternal setup 0 0 (.invoke (sampleCall 0) :: sampleInvocation) = some x ∧
      x.service.sent.length = 1 ∧ x.sendsFinished = false ∧
      ∃ (deliveries : List DeliveryAction) (x' : Exporter),
        Machine.run (@Exporter.step sampleExternal setup) x (deliveries.map .delivery) = some x' ∧
          x'.sendsFinished = true := by
  obtain ⟨setup, x, hstart, hrun, hsent, hwaiting, hcrashed⟩ := @exists_exporterRun sampleExternal 0 0
    (.invoke (sampleCall 0) :: sampleInvocation) sampleReporting sampleStartContext "id"
    (fun _ x => x.service.sent.length = 1 ∧ x.sendsFinished = false ∧ x.crashed = false) _
    (by decide +kernel)
  obtain ⟨deliveries, x', hx', hfinished, -⟩ :=
    (@sends_end sampleExternal _ _ _ _ _ hrun).2 hcrashed
  exact ⟨setup, x, hstart, hrun, hsent, hwaiting, deliveries, x', hx', hfinished⟩

end TelemetryExporter
