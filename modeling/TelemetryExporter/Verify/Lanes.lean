import TelemetryExporter.Model.Delivery
import TelemetryExporter.Verify.Retry

/-!
# The calls of a lane

Each task makes one call of a lane, if its batch has something for it, and the calls are numbered in
the order in which they start, which need not be that of the tasks. What the sender of the lane does
is a run of it with these calls, so what holds of all runs of a sender holds of a lane.
-/

namespace TelemetryExporter

variable {B T E : Type} {sender : RetryingSender B T E}

/-- The batches that calls have started with. -/
def callInputs (actions : List (SenderAction B E Unit)) : List B :=
  actions.filterMap SenderAction.batch

/-- The lane serves what the tasks offer: its sender has taken these actions, and these tasks' calls
have started, in this order. -/
structure LaneState.Serves (sender : RetryingSender B T E) (offers : List (Option B))
    (actions : List (SenderAction B E Unit)) (started : List Nat) (s : LaneState B T E) :
    Prop where
  run : senderRun sender actions = some s.sender
  nodup : started.Nodup
  count : s.sender.started = started.length
  inputs : callInputs actions = started.filterMap fun task => (offers[task]?).join
  offered : ∀ task ∈ started, ∃ toSend, offers[task]? = some (some toSend)
  calls : ∀ task, s.calls task =
    (offers[task]?).join.map fun toSend =>
      if task ∈ started then .started (started.idxOf task) else .waiting toSend

namespace LaneState.Serves

variable {offers : List (Option B)} {actions : List (SenderAction B E Unit)} {started : List Nat}
  {s s' : LaneState B T E}

theorem initial : ({} : LaneState B T E).Serves sender [] [] [] where
  run := rfl
  nodup := .nil
  count := rfl
  inputs := rfl
  offered := nofun
  calls := fun _ => rfl

/-- A task has been spawned. -/
theorem call (h : s.Serves sender offers actions started) (offer : Option B) :
    (s.call offers.length offer).Serves sender (offers ++ [offer]) actions started := by
  have hlt (task : Nat) (htask : task ∈ started) : task < offers.length := by
    obtain ⟨toSend, hoffer⟩ := h.offered task htask
    exact (List.getElem?_eq_some_iff.1 hoffer).1
  have hnew : offers.length ∉ started := fun hmem => Nat.lt_irrefl _ (hlt _ hmem)
  have hsame : (s.call offers.length offer).sender = s.sender := by
    cases offer <;> rfl
  refine ⟨hsame ▸ h.run, h.nodup, hsame ▸ h.count, ?_, fun task htask => ?_, fun task => ?_⟩
  · rw [h.inputs]
    apply List.filterMap_congr
    intro task htask
    rw [List.getElem?_append_left (hlt task htask)]
  · rw [List.getElem?_append_left (hlt task htask)]
    exact h.offered task htask
  · by_cases htask : task = offers.length
    · subst htask
      have hnone := h.calls offers.length
      rw [List.getElem?_eq_none (Nat.le_refl _)] at hnone
      rw [List.getElem?_concat_length]
      cases offer with
      | none => exact hnone
      | some toSend => simp [LaneState.call, hnew]
    · have hcalls : (s.call offers.length offer).calls task = s.calls task := by
        cases offer with
        | none => rfl
        | some toSend => exact Function.update_of_ne htask _ _
      rw [hcalls, h.calls]
      by_cases hle : task < offers.length
      · rw [List.getElem?_append_left hle]
      · rw [List.getElem?_eq_none (by omega), List.getElem?_eq_none (by simp; omega)]

/-- The call of a task is polled for the first time. -/
theorem start (h : s.Serves sender offers actions started) {task : Nat} {toSend : B}
    (hcall : s.calls task = some (.waiting toSend)) {sender' : SenderState T E}
    (hstep : senderStep (R := Unit) sender s.sender (.start toSend) = some sender') :
    LaneState.Serves sender offers (actions ++ [.start toSend]) (started ++ [task])
      { sender := sender'
        calls := Function.update s.calls task (some (.started s.sender.started)) } := by
  rw [h.calls] at hcall
  obtain ⟨toSend', hoffer, hnew⟩ := Option.map_eq_some_iff.1 hcall
  have hmem : task ∉ started := by
    intro hmem
    rw [if_pos hmem] at hnew
    cases hnew
  rw [if_neg hmem] at hnew
  cases hnew
  have hoffered : offers[task]? = some (some toSend) := Option.join_eq_some_iff.1 hoffer
  have hstarted : sender'.started = s.sender.started + 1 := by
    cases hstep
    rfl
  refine ⟨Machine.run_snoc.2 ⟨_, h.run, hstep⟩, ?_, ?_, ?_, fun k hk => ?_, fun k => ?_⟩
  · refine List.nodup_append.2 ⟨h.nodup, List.nodup_singleton _, fun k hk k' hk' => ?_⟩
    rw [List.mem_singleton.1 hk']
    exact fun heq => hmem (heq ▸ hk)
  · rw [hstarted, h.count, List.length_append]
    rfl
  · have hinputs := h.inputs
    unfold callInputs at hinputs ⊢
    rw [List.filterMap_append, List.filterMap_append, hinputs]
    congr 1
    simp [SenderAction.batch, hoffer]
  · rcases List.mem_append.1 hk with hk | hk
    · exact h.offered k hk
    · rw [List.mem_singleton.1 hk]
      exact ⟨toSend, hoffered⟩
  · dsimp only
    by_cases hk : k = task
    · subst hk
      rw [Function.update_self, hoffer, Option.map_some,
        if_pos (List.mem_append_right _ (List.mem_singleton_self _)),
        List.idxOf_append_of_notMem hmem, h.count]
      simp
    · rw [Function.update_of_ne hk, h.calls]
      refine congrArg (Option.map · _) (funext fun toSend => ?_)
      by_cases hin : k ∈ started
      · rw [if_pos hin, if_pos (List.mem_append_left _ hin), List.idxOf_append_of_mem hin]
      · rw [if_neg hin, if_neg]
        rintro happ
        rcases List.mem_append.1 happ with happ | happ
        · exact hin happ
        · exact hk (List.mem_singleton.1 happ)

/-- A call that has started goes on. -/
theorem goOn (h : s.Serves sender offers actions started) {a : SenderAction B E Unit}
    (ha : a.batch = none) {sender' : SenderState T E}
    (hstep : senderStep sender s.sender a = some sender') :
    LaneState.Serves sender offers (actions ++ [a]) started { s with sender := sender' } := by
  refine ⟨Machine.run_snoc.2 ⟨_, h.run, hstep⟩, h.nodup, ?_, ?_, h.offered, h.calls⟩
  · rw [← h.count]
    cases senderStep_cases hstep with
    | started batch => cases ha
    | _ => rfl
  · rw [← h.inputs]
    unfold callInputs
    rw [List.filterMap_append, List.filterMap_cons_none ha, List.filterMap_nil, List.append_nil]

/-- One step of a lane. -/
theorem step (h : s.Serves sender offers actions started) {a : LaneState.Action E}
    (hstep : s.step sender a = some s') :
    ∃ actions' started', s'.Serves sender offers actions' started' := by
  cases a with
  | start task =>
    simp only [LaneState.step] at hstep
    split at hstep
    · next toSend hcall =>
      obtain ⟨sender', hsender, rfl⟩ := Option.map_eq_some_iff.1 hstep
      exact ⟨_, _, h.start hcall hsender⟩
    · cases hstep
  | hand call half =>
    obtain ⟨sender', hsender, rfl⟩ := Option.map_eq_some_iff.1 hstep
    exact ⟨_, _, h.goOn rfl hsender⟩
  | complete call half result =>
    obtain ⟨sender', hsender, rfl⟩ := Option.map_eq_some_iff.1 hstep
    exact ⟨_, _, h.goOn rfl hsender⟩
  | finish call =>
    obtain ⟨sender', hsender, rfl⟩ := Option.map_eq_some_iff.1 hstep
    exact ⟨_, _, h.goOn rfl hsender⟩

/-- A call that has started is that of one task. -/
theorem calls_started (h : s.Serves sender offers actions started) {task n : Nat} :
    s.calls task = some (.started n) ↔ started[n]? = some task := by
  rw [h.calls]
  constructor
  · intro hcall
    obtain ⟨toSend, -, hn⟩ := Option.map_eq_some_iff.1 hcall
    split at hn
    · next hmem =>
      cases hn
      exact List.getElem?_idxOf hmem
    · cases hn
  · intro htask
    obtain ⟨hlt, heq⟩ := List.getElem?_eq_some_iff.1 htask
    have hmem : task ∈ started := List.mem_of_getElem? htask
    obtain ⟨toSend, hoffer⟩ := h.offered task hmem
    rw [hoffer, Option.join_some, Option.map_some, if_pos hmem, ← heq,
      h.nodup.idxOf_getElem n hlt]

/-- The calls are made with what the tasks offer. -/
theorem input_eq (h : s.Serves sender offers actions started) {task n : Nat} {toSend : B}
    (hcall : s.calls task = some (.started n)) (hoffer : offers[task]? = some (some toSend)) :
    (callInputs actions)[n]? = some toSend := by
  have hstarted := h.calls_started.1 hcall
  have hmap : callInputs actions = started.map fun task => ((offers[task]?).join).getD toSend := by
    rw [h.inputs, ← List.filterMap_eq_map]
    apply List.filterMap_congr
    intro task htask
    obtain ⟨toSend', hoffer'⟩ := h.offered task htask
    simp [hoffer']
  rw [hmap, List.getElem?_map, hstarted, Option.map_some, hoffer]
  rfl

end LaneState.Serves

/-- The call with this number hands its batch over once, and only if that fails in a way that is retried,
another call does so once more: the batch is handed over at most twice, and neither after a success nor
after a failure that is not retried. -/
structure AtMostRetried (sender : RetryingSender B T E) (log : List (SenderEvent E)) (n : Nat) :
    Prop where
  lifecycle : Lifecycle sender n (attempts n log)
  handedTwice : log.countP (SenderEvent.isHanded n) ≤ 2
  afterSuccess : ∀ before after i j, log = before ++ .returned i n (.ok ()) :: after →
    .handed j n ∉ after
  afterFailure : ∀ before after i j e, log = before ++ .returned i n (.error e) :: after →
    sender.isRetryable e = false → .handed j n ∉ after

/-- The number is that of the call that a task makes with what it offers, which is sent as `batch`. -/
def LaneState.IsCallOf (sender : RetryingSender B T E) (offers : List (Option B))
    (s : LaneState B T E) (n task : Nat) (batch : T) : Prop :=
  s.calls task = some (.started n) ∧
    ∃ toSend, offers[task]? = some (some toSend) ∧ batch = sender.convert toSend

/-- What a lane does with the batches of the tasks. -/
structure LaneState.Delivers (sender : RetryingSender B T E) (offers : List (Option B))
    (s : LaneState B T E) : Prop where
  /-- A task that offers something has its call, which waits or is the only one of its number. -/
  offered : ∀ task toSend, offers[task]? = some (some toSend) →
    s.calls task = some (.waiting toSend) ∨
      ∃ n, s.calls task = some (.started n) ∧ AtMostRetried sender s.sender.log n ∧
        ∀ task', s.calls task' = some (.started n) → task' = task
  /-- A numbered batch, in the slot or in a call that can hand it over, is what the task of the call
  with that number has offered. -/
  held : ∀ holder b, s.sender.Holds holder b → ∃ task, s.IsCallOf sender offers b.number task b.batch
  /-- What is handed over is what some task has offered, and has items. -/
  handed : ∀ i n, .handed i n ∈ s.sender.log →
    ∃ task batch, s.IsCallOf sender offers n task batch ∧ sender.hasItems batch = true

/-- The batches are those of the tasks. -/
theorem LaneState.Serves.isCallOf {offers : List (Option B)}
    {actions : List (SenderAction B E Unit)} {started : List Nat} {s : LaneState B T E}
    (h : s.Serves sender offers actions started) {n : Nat} {batch : T}
    (hbatch : (startedBatches sender actions)[n]? = some batch) :
    ∃ task, s.IsCallOf sender offers n task batch := by
  have hbatches : startedBatches sender actions = (callInputs actions).map sender.convert := by
    rw [startedBatches, callInputs, List.map_filterMap]
  have hlt : n < started.length := by
    rw [← h.count, (senderRun_invariants h.run).2.2.started]
    exact (List.getElem?_eq_some_iff.1 hbatch).1
  rw [hbatches, List.getElem?_map] at hbatch
  obtain ⟨toSend, hinput, rfl⟩ := Option.map_eq_some_iff.1 hbatch
  obtain ⟨task, htask⟩ : ∃ task, started[n]? = some task := ⟨_, List.getElem?_eq_getElem hlt⟩
  obtain ⟨toSend', hoffer⟩ := h.offered task (List.mem_of_getElem? htask)
  have hcall := h.calls_started.2 htask
  rw [h.input_eq hcall hoffer] at hinput
  cases hinput
  exact ⟨task, hcall, toSend, hoffer, rfl⟩

theorem LaneState.Serves.delivers {offers : List (Option B)} {actions : List (SenderAction B E Unit)}
    {started : List Nat} {s : LaneState B T E} (h : s.Serves sender offers actions started) :
    s.Delivers sender offers := by
  have once := senderRun_deliveredOnce h.run
  obtain ⟨-, tracked, numbered⟩ := senderRun_invariants h.run
  constructor
  · intro task toSend hoffer
    have hcall := h.calls task
    rw [hoffer, Option.join_some, Option.map_some] at hcall
    split at hcall
    · next hmem =>
      refine .inr ⟨_, hcall, ⟨(tracked _).lifecycle_of_owned, once.handedTwice _,
        fun b a i j => once.afterSuccess b a i j _, fun b a i j => once.afterFailure b a i j _⟩,
        fun task' hcall' => ?_⟩
      have htask := h.calls_started.1 hcall
      rw [h.calls_started.1 hcall'] at htask
      exact Option.some.inj htask
    · exact .inl hcall
  · intro holder b hheld
    exact h.isCallOf (numbered.held holder b hheld)
  · intro i n hhanded
    obtain ⟨batch, hbatch, hitems⟩ := once.onlyItems i n hhanded
    obtain ⟨task, htask⟩ := h.isCallOf hbatch
    exact ⟨task, batch, htask, hitems⟩

end TelemetryExporter
