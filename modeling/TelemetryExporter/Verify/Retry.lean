import TelemetryExporter.Model.Senders

/-!
# Retrying

Who holds a batch, and what has happened to it, over all interleavings of the calls of a sender. A
batch is held by one call or by the retry slot, and the log has, for each batch, one attempt and, if
that failed in a way that is retried, at most one more.
-/

namespace TelemetryExporter

/-- Where a batch can be: in the retry slot, or in one of the two sends of a call. -/
inductive Holder where
  | slot
  | call (i : Nat) (half : Half)
  deriving DecidableEq

section

variable {B T E R : Type}

/-- The batch is held there. -/
def SenderState.Holds (s : SenderState T E) : Holder → NumberedBatch T → Prop
  | .slot, b => s.toRetry = some b
  | .call i half, b => ∃ call, s.inFlight i = some call ∧ call.batch half = some b

/-! ## Steps -/

/-- The batch that a call is made with. -/
def SenderAction.batch : SenderAction B E R → Option B
  | .start batch => some batch
  | _ => none

/-- What one step can do. -/
inductive SenderStep (sender : RetryingSender B T E) (s : SenderState T E) :
    SenderAction B E R → SenderState T E → Prop where
  | started (batch : B) : SenderStep sender s (.start batch) (s.start (sender.convert batch))
  | handed (i : Nat) (half : Half) (call : SendCall T E) (b : NumberedBatch T)
      (hcall : s.inFlight i = some call) (hprogress : call.progress half = .waiting)
      (hbatch : call.batch half = some b) (hitems : sender.hasItems b.batch = true) :
    SenderStep sender s (.hand i half)
      (s.advance i (call.setProgress half .inFlight) [.handed i b.number])
  /-- There is nothing to send. -/
  | skipped (a : SenderAction B E R) (i : Nat) (half : Half) (call : SendCall T E)
      (result : Except E Unit) (ha : a.batch = none) (hcall : s.inFlight i = some call)
      (hskip : call.batch half = none ∨ call.progress half = .waiting ∧ result = .ok () ∧
        ∀ b, call.batch half = some b → sender.hasItems b.batch = false) :
    SenderStep sender s a (s.advance i (call.setProgress half (.done result)) [])
  | completed (i : Nat) (half : Half) (call : SendCall T E) (b : NumberedBatch T)
      (result : Except E R) (hcall : s.inFlight i = some call)
      (hprogress : call.progress half = .inFlight) (hbatch : call.batch half = some b) :
    SenderStep sender s (.complete i half result)
      (s.advance i (call.setProgress half (.done (result.map fun _ => ())))
        [.returned i b.number (result.map fun _ => ())])
  | dropped (i : Nat) (call : SendCall T E) (result : Except E Unit)
      (hcall : s.inFlight i = some call) (hretryResult : ∃ r, call.retryResult = .done r)
      (hresult : call.result = .done result)
      (hdrop : ∀ e, result = .error e → sender.isRetryable e = false) :
    SenderStep sender s (.finish i) { s with inFlight := Function.update s.inFlight i none }
  | recorded (i : Nat) (call : SendCall T E) (e : E) (hcall : s.inFlight i = some call)
      (hretryResult : ∃ r, call.retryResult = .done r)
      (hresult : call.result = .done (.error e)) (hretry : sender.isRetryable e = true) :
    SenderStep sender s (.finish i)
      { s with
        inFlight := Function.update s.inFlight i none
        toRetry := some call.toSend
        log := s.log ++ [.recorded call.toSend.number] }

variable {sender : RetryingSender B T E} {s s' : SenderState T E} {a : SenderAction B E R}

theorem senderStep_cases (h : senderStep sender s a = some s') : SenderStep sender s a s' := by
  cases a with
  | start batch =>
    cases h
    exact .started batch
  | hand i half =>
    simp only [senderStep] at h
    split at h
    · cases h
    · next call hcall =>
      split at h
      · next hprogress =>
        simp only [SenderState.hand, Option.some.injEq] at h
        split at h
        · next hbatch =>
          subst h
          exact .skipped _ i half call _ rfl hcall (.inl hbatch)
        · next b hbatch =>
          split at h
          · next hitems =>
            subst h
            exact .handed i half call b hcall hprogress hbatch hitems
          · next hitems =>
            subst h
            refine .skipped _ i half call _ rfl hcall (.inr ⟨hprogress, rfl, fun b' hb' => ?_⟩)
            rw [hbatch, Option.some.injEq] at hb'
            subst hb'
            simpa using hitems
      · cases h
  | complete i half result =>
    simp only [senderStep] at h
    split at h
    · cases h
    · next call hcall =>
      split at h
      · next hprogress =>
        simp only [SenderState.complete, Option.some.injEq] at h
        subst h
        cases hbatch : call.batch half with
        | none => exact .skipped _ i half call _ rfl hcall (.inl hbatch)
        | some b => exact .completed i half call b result hcall hprogress hbatch
      · cases h
  | finish i =>
    simp only [senderStep] at h
    split at h
    · cases h
    · next call hcall =>
      split at h
      · next retryResult result hretryResult hresult =>
        simp only [SenderState.finish, Option.some.injEq] at h
        split at h
        · subst h
          exact .dropped i call _ hcall ⟨_, hretryResult⟩ hresult nofun
        · next e =>
          split at h
          · next hretry =>
            subst h
            exact .recorded i call e hcall ⟨_, hretryResult⟩ hresult hretry
          · next hretry =>
            subst h
            refine .dropped i call _ hcall ⟨_, hretryResult⟩ hresult ?_
            intro e' he
            cases he
            simpa using hretry
      · cases h

@[simp] theorem SendCall.batch_setProgress (call : SendCall T E) (half half' : Half)
    (p : Sending E) : (call.setProgress half p).batch half' = call.batch half' := by
  cases half <;> cases half' <;> rfl

/-! ## Who holds a batch -/

theorem holds_advance {i : Nat} {call : SendCall T E} {half : Half} {p : Sending E}
    {events : List (SenderEvent E)} {h : Holder} {b : NumberedBatch T}
    (hcall : s.inFlight i = some call) :
    (s.advance i (call.setProgress half p) events).Holds h b ↔ s.Holds h b := by
  cases h with
  | slot => exact Iff.rfl
  | call j half' =>
    simp only [SenderState.Holds, SenderState.advance]
    by_cases hj : j = i
    · subst hj
      simp [hcall]
    · rw [Function.update_of_ne hj]

theorem holds_start {toSend : T} {h : Holder} {b : NumberedBatch T}
    (hb : (s.start toSend).Holds h b) :
    h = .call s.started .send ∧ b = ⟨s.started, toSend⟩ ∨
      h = .call s.started .resend ∧ s.Holds .slot b ∨
      ∃ i half, h = .call i half ∧ i ≠ s.started ∧ s.Holds h b := by
  cases h with
  | slot => cases hb
  | call i half =>
    obtain ⟨call, hcall, hbatch⟩ := hb
    simp only [SenderState.start] at hcall
    by_cases hi : i = s.started
    · subst hi
      rw [Function.update_self, Option.some.injEq] at hcall
      subst hcall
      cases half with
      | resend => exact .inr (.inl ⟨rfl, hbatch⟩)
      | send => exact .inl ⟨rfl, (Option.some.inj hbatch).symm⟩
    · rw [Function.update_of_ne hi] at hcall
      exact .inr (.inr ⟨i, half, rfl, hi, call, hcall, hbatch⟩)

/-- When a call returns, what it held is dropped, or goes to the slot. -/
theorem holds_finish {i : Nat} {slot : Option (NumberedBatch T)} {log : List (SenderEvent E)}
    {h : Holder} {b : NumberedBatch T}
    (hb : ({ s with
             inFlight := Function.update s.inFlight i none
             toRetry := slot
             log } : SenderState T E).Holds h b) :
    h = .slot ∧ slot = some b ∨ ∃ j half, h = .call j half ∧ j ≠ i ∧ s.Holds h b := by
  cases h with
  | slot => exact .inl ⟨rfl, hb⟩
  | call j half =>
    obtain ⟨call, hcall, hbatch⟩ := hb
    dsimp only at hcall
    by_cases hj : j = i
    · subst hj
      rw [Function.update_self] at hcall
      cases hcall
    · rw [Function.update_of_ne hj] at hcall
      exact .inr ⟨j, half, rfl, hj, call, hcall, hbatch⟩

/-- The invariant of who holds what. Each batch has one holder; before its own call has returned,
that is the call. -/
structure Owned (s : SenderState T E) : Prop where
  own : ∀ i call, s.inFlight i = some call → call.toSend.number = i ∧ i < s.started
  retried : ∀ h b, s.Holds h b → h ≠ .call b.number .send →
    b.number < s.started ∧ s.inFlight b.number = none
  unique : ∀ h h' b b', s.Holds h b → s.Holds h' b' → b.number = b'.number → h = h'

namespace Owned

/-- The numbers held are those of calls that have been started. -/
theorem number_lt (hs : Owned s) {h : Holder} {b : NumberedBatch T} (hb : s.Holds h b) :
    b.number < s.started := by
  by_cases hne : h = .call b.number .send
  · rw [hne] at hb
    obtain ⟨call, hcall, -⟩ := hb
    exact (hs.own _ call hcall).2
  · exact (hs.retried h b hb hne).1

theorem advance {i : Nat} {call : SendCall T E} {half : Half} {p : Sending E}
    {events : List (SenderEvent E)} (hs : Owned s) (hcall : s.inFlight i = some call) :
    Owned (s.advance i (call.setProgress half p) events) where
  own j call' hcall' := by
    simp only [SenderState.advance] at hcall'
    by_cases hj : j = i
    · subst hj
      rw [Function.update_self, Option.some.injEq] at hcall'
      subst hcall'
      have own := hs.own j call hcall
      cases half <;> exact own
    · rw [Function.update_of_ne hj] at hcall'
      exact hs.own j call' hcall'
  retried h b hb hne := by
    obtain ⟨hlt, hnone⟩ := hs.retried h b ((holds_advance hcall).1 hb) hne
    refine ⟨hlt, ?_⟩
    have hi : b.number ≠ i := by
      intro heq
      rw [heq, hcall] at hnone
      cases hnone
    simpa only [SenderState.advance, Function.update_of_ne hi] using hnone
  unique h h' b b' hb hb' :=
    hs.unique h h' b b' ((holds_advance hcall).1 hb) ((holds_advance hcall).1 hb')

theorem start (hs : Owned s) (toSend : T) : Owned (s.start toSend) where
  own j call hcall := by
    simp only [SenderState.start] at hcall ⊢
    by_cases hj : j = s.started
    · subst hj
      rw [Function.update_self, Option.some.injEq] at hcall
      subst hcall
      exact ⟨rfl, Nat.lt_succ_self _⟩
    · rw [Function.update_of_ne hj] at hcall
      have own := hs.own j call hcall
      exact ⟨own.1, Nat.lt_succ_of_lt own.2⟩
  retried h b hb hne := by
    have old (h₀ : Holder) (hb : s.Holds h₀ b) (hne : h₀ ≠ .call b.number .send) :
        b.number < (s.start toSend).started ∧ (s.start toSend).inFlight b.number = none := by
      obtain ⟨hlt, hnone⟩ := hs.retried h₀ b hb hne
      refine ⟨Nat.lt_succ_of_lt hlt, ?_⟩
      simpa only [SenderState.start, Function.update_of_ne (Nat.ne_of_lt hlt)] using hnone
    rcases holds_start hb with ⟨rfl, rfl⟩ | ⟨rfl, hslot⟩ | ⟨i, half, rfl, hi, hold⟩
    · exact absurd rfl hne
    · exact old .slot hslot nofun
    · exact old _ hold hne
  unique h h' b b' hb hb' heq := by
    -- the number of the new call is above all numbers held so far
    rcases holds_start hb with ⟨rfl, rfl⟩ | ⟨rfl, hslot⟩ | ⟨i, half, rfl, hi, hold⟩ <;>
      rcases holds_start hb' with ⟨rfl, rfl⟩ | ⟨rfl, hslot'⟩ | ⟨i', half', rfl, hi', hold'⟩
    · rfl
    · exact absurd heq.symm (Nat.ne_of_lt (hs.number_lt hslot'))
    · exact absurd heq.symm (Nat.ne_of_lt (hs.number_lt hold'))
    · exact absurd heq (Nat.ne_of_lt (hs.number_lt hslot))
    · rfl
    · cases hs.unique _ _ b b' hslot hold' heq
    · exact absurd heq (Nat.ne_of_lt (hs.number_lt hold))
    · cases hs.unique _ _ b b' hold hslot' heq
    · exact hs.unique _ _ b b' hold hold' heq

/-- A call returns, and leaves in the slot its own batch or what was there. -/
theorem finish {i : Nat} {call : SendCall T E} {slot : Option (NumberedBatch T)}
    {log : List (SenderEvent E)} (hs : Owned s) (hcall : s.inFlight i = some call)
    (hslot : slot = s.toRetry ∨ slot = some call.toSend) :
    Owned { s with inFlight := Function.update s.inFlight i none, toRetry := slot, log } where
  own j call' hcall' := by
    dsimp only at hcall'
    by_cases hj : j = i
    · subst hj
      rw [Function.update_self] at hcall'
      cases hcall'
    · rw [Function.update_of_ne hj] at hcall'
      exact hs.own j call' hcall'
  retried h b hb hne := by
    have old (h₀ : Holder) (hb : s.Holds h₀ b) (hne : h₀ ≠ .call b.number .send) :
        b.number < s.started ∧ Function.update s.inFlight i none b.number = none := by
      obtain ⟨hlt, hnone⟩ := hs.retried h₀ b hb hne
      refine ⟨hlt, ?_⟩
      by_cases hi : b.number = i
      · rw [hi, Function.update_self]
      · rwa [Function.update_of_ne hi]
    rcases holds_finish hb with ⟨rfl, heq⟩ | ⟨j, half, rfl, hj, hold⟩
    · rcases hslot with rfl | rfl
      · exact old .slot heq nofun
      · cases heq
        have own := hs.own i call hcall
        dsimp only
        rw [own.1, Function.update_self]
        exact ⟨own.2, rfl⟩
    · exact old _ hold hne
  unique h h' b b' hb hb' heq := by
    have hsend : s.Holds (.call i .send) call.toSend := ⟨call, hcall, rfl⟩
    rcases holds_finish hb with ⟨rfl, h₁⟩ | ⟨j, half, rfl, hj, hold⟩ <;>
      rcases holds_finish hb' with ⟨rfl, h₂⟩ | ⟨j', half', rfl, hj', hold'⟩
    · rfl
    · rcases hslot with rfl | rfl
      · cases hs.unique .slot _ b b' h₁ hold' heq
      · cases h₁
        cases hs.unique _ _ _ b' hsend hold' heq
        exact absurd rfl hj'
    · rcases hslot with rfl | rfl
      · cases hs.unique _ .slot b b' hold h₂ heq
      · cases h₂
        cases hs.unique _ _ b _ hold hsend heq
        exact absurd rfl hj
    · exact hs.unique _ _ b b' hold hold' heq

theorem step (hs : Owned s) (h : SenderStep sender s a s') : Owned s' := by
  cases h with
  | started batch => exact hs.start _
  | handed i half call b hcall => exact hs.advance hcall
  | skipped a i half call result ha hcall => exact hs.advance hcall
  | completed i half call b result hcall => exact hs.advance hcall
  | dropped i call result hcall => exact hs.finish hcall (.inl rfl)
  | recorded i call e hcall => exact hs.finish hcall (.inr rfl)

theorem initial : Owned ({} : SenderState T E) where
  own i call hcall := by cases hcall
  retried h b hb := by
    cases h with
    | slot => cases hb
    | call i half =>
      obtain ⟨call, hcall, -⟩ := hb
      cases hcall
  unique h h' b b' hb := by
    cases h with
    | slot => cases hb
    | call i half =>
      obtain ⟨call, hcall, -⟩ := hb
      cases hcall

end Owned

/-! ## What has happened to a batch -/

/-- The entry is about an attempt to send the batch. -/
def SenderEvent.isAttempt (k : Nat) : SenderEvent E → Bool
  | .handed _ batch => batch == k
  | .returned _ batch _ => batch == k
  | _ => false

/-- The attempts to send a batch, in order. -/
def attempts (k : Nat) (log : List (SenderEvent E)) : List (SenderEvent E) :=
  log.filter (SenderEvent.isAttempt k)

theorem attempts_append (k : Nat) (a b : List (SenderEvent E)) :
    attempts k (a ++ b) = attempts k a ++ attempts k b :=
  List.filter_append ..

/-- An attempt by the call, as far as it has got. -/
def Attempted (i k : Nat) (events : List (SenderEvent E)) : Sending E → Prop
  | .waiting => events = []
  | .inFlight => events = [.handed i k]
  | .done result => events = [.handed i k, .returned i k result] ∨ events = [] ∧ result = .ok ()

/-- The batch's own call has failed to send it, in a way that is retried. -/
def FailedOnce (sender : RetryingSender B T E) (k : Nat) (events : List (SenderEvent E)) : Prop :=
  ∃ e, sender.isRetryable e = true ∧ events = [.handed k k, .returned k k (.error e)]

/-- All that can ever happen to a batch: its own call attempts to send it, and if that fails in a way
that is retried, another call does so once more. -/
def Lifecycle (sender : RetryingSender B T E) (k : Nat) (events : List (SenderEvent E)) : Prop :=
  (∃ p, Attempted k k events p) ∨
    ∃ first second i p, events = first ++ second ∧ FailedOnce sender k first ∧ i ≠ k ∧
      Attempted i k second p

/-- The invariant of one batch: what has happened to it, by who holds it. -/
structure Tracked (sender : RetryingSender B T E) (k : Nat) (s : SenderState T E) : Prop where
  unknown : s.started ≤ k → attempts k s.log = []
  sending : ∀ call, s.inFlight k = some call → Attempted k k (attempts k s.log) call.result
  waiting : ∀ b, s.Holds .slot b → b.number = k → FailedOnce sender k (attempts k s.log)
  resending : ∀ i call b, s.inFlight i = some call → call.toRetry = some b → b.number = k →
    ∃ first second, attempts k s.log = first ++ second ∧ FailedOnce sender k first ∧
      Attempted i k second call.retryResult
  lifecycle : s.inFlight k = none → Lifecycle sender k (attempts k s.log)

namespace Tracked

variable {k : Nat}

theorem initial : Tracked sender k ({} : SenderState T E) where
  unknown _ := rfl
  sending _ h := by cases h
  waiting _ h := by cases h
  resending _ _ _ h := by cases h
  lifecycle _ := .inl ⟨.waiting, rfl⟩

theorem lifecycle_of_owned (h : Tracked sender k s) : Lifecycle sender k (attempts k s.log) := by
  cases hcall : s.inFlight k with
  | none => exact h.lifecycle hcall
  | some call => exact .inl ⟨_, h.sending call hcall⟩

theorem start (h : Tracked sender k s) (hs : Owned s) (toSend : T) :
    Tracked sender k (s.start toSend) := by
  have hattempts : attempts k (s.start toSend).log = attempts k s.log := by
    simp [SenderState.start, attempts, SenderEvent.isAttempt]
  have inFlight {i : Nat} {call : SendCall T E} (hcall : (s.start toSend).inFlight i = some call) :
      i = s.started ∧ call = { toRetry := s.toRetry, toSend := ⟨s.started, toSend⟩ } ∨
        s.inFlight i = some call := by
    simp only [SenderState.start] at hcall
    by_cases hi : i = s.started
    · subst hi
      rw [Function.update_self, Option.some.injEq] at hcall
      exact .inl ⟨rfl, hcall.symm⟩
    · rw [Function.update_of_ne hi] at hcall
      exact .inr hcall
  refine ⟨fun hk => ?_, fun call hcall => ?_, fun b hb => (by cases hb), ?_, fun hnone => ?_⟩
  · rw [hattempts]
    exact h.unknown (Nat.le_of_succ_le hk)
  · rw [hattempts]
    rcases inFlight hcall with ⟨rfl, rfl⟩ | hcall
    · exact h.unknown (Nat.le_refl _)
    · exact h.sending call hcall
  · intro i call b hcall hbatch hk
    rw [hattempts]
    rcases inFlight hcall with ⟨rfl, rfl⟩ | hcall
    · exact ⟨_, [], (List.append_nil _).symm, h.waiting b hbatch hk, rfl⟩
    · exact h.resending i call b hcall hbatch hk
  · rw [hattempts]
    refine h.lifecycle ?_
    cases hcall : s.inFlight k with
    | none => rfl
    | some call =>
      have hk : k ≠ s.started := Nat.ne_of_lt (hs.own k call hcall).2
      simp only [SenderState.start, Function.update_of_ne hk, hcall] at hnone
      cases hnone

/-- The log grows by an attempt of the call that holds the batch. -/
theorem advance {i : Nat} {half : Half} {call : SendCall T E} {p : Sending E}
    {events : List (SenderEvent E)} (h : Tracked sender k s) (hs : Owned s)
    (hcall : s.inFlight i = some call)
    (hother : ∀ b, call.batch half = some b → b.number ≠ k → attempts k events = [])
    (hnone : call.batch half = none → events = [])
    (hattempt : ∀ b, call.batch half = some b → b.number = k → ∀ before,
      Attempted i k before (call.progress half) → Attempted i k (before ++ attempts k events) p) :
    Tracked sender k (s.advance i (call.setProgress half p) events) := by
  have hlog : attempts k (s.advance i (call.setProgress half p) events).log =
      attempts k s.log ++ attempts k events := attempts_append ..
  -- another holder's batch is not the one of this half
  have quiet (h' : Holder) (b' : NumberedBatch T) (hb' : s.Holds h' b') (hk : b'.number = k)
      (hne : h' ≠ .call i half) : attempts k events = [] := by
    cases hbatch : call.batch half with
    | none =>
      rw [hnone hbatch]
      rfl
    | some b =>
      refine hother b hbatch fun hb => hne ?_
      exact hs.unique h' (.call i half) b' b hb' ⟨call, hcall, hbatch⟩ (hk.trans hb.symm)
  have inFlight {j : Nat} {call' : SendCall T E}
      (hcall' : (s.advance i (call.setProgress half p) events).inFlight j = some call') :
      j = i ∧ call' = call.setProgress half p ∨ j ≠ i ∧ s.inFlight j = some call' := by
    simp only [SenderState.advance] at hcall'
    by_cases hj : j = i
    · subst hj
      rw [Function.update_self, Option.some.injEq] at hcall'
      exact .inl ⟨rfl, hcall'.symm⟩
    · rw [Function.update_of_ne hj] at hcall'
      exact .inr ⟨hj, hcall'⟩
  have own := hs.own i call hcall
  refine ⟨fun hk => ?_, fun call' hcall' => ?_, fun b hb hk => ?_, ?_, fun hnone' => ?_⟩
  · rw [hlog, h.unknown hk, List.nil_append]
    cases hbatch : call.batch half with
    | none =>
      rw [hnone hbatch]
      rfl
    | some b =>
      have hlt := hs.number_lt (h := .call i half) ⟨call, hcall, hbatch⟩
      exact hother b hbatch (Nat.ne_of_lt (Nat.lt_of_lt_of_le hlt hk))
  · rw [hlog]
    rcases inFlight hcall' with ⟨rfl, rfl⟩ | ⟨hj, hcall'⟩
    · cases half with
      | send => exact hattempt call.toSend rfl own.1 _ (h.sending call hcall)
      | resend =>
        rw [quiet (.call k .send) call.toSend ⟨call, hcall, rfl⟩ own.1 nofun, List.append_nil]
        exact h.sending call hcall
    · have hne : Holder.call k .send ≠ .call i half := fun heq => hj (Holder.call.inj heq).1
      rw [quiet (.call k .send) call'.toSend ⟨call', hcall', rfl⟩ (hs.own k call' hcall').1 hne,
        List.append_nil]
      exact h.sending call' hcall'
  · rw [hlog, quiet .slot b hb hk nofun, List.append_nil]
    exact h.waiting b hb hk
  · intro j call' b hcall' hbatch hk
    rw [hlog]
    rcases inFlight hcall' with ⟨rfl, rfl⟩ | ⟨hj, hcall'⟩
    · cases half with
      | resend =>
        obtain ⟨first, second, heq, hfirst, hsecond⟩ := h.resending j call b hcall hbatch hk
        refine ⟨first, second ++ attempts k events, ?_, hfirst, hattempt b hbatch hk _ hsecond⟩
        rw [heq, List.append_assoc]
      | send =>
        rw [quiet (.call j .resend) b ⟨call, hcall, hbatch⟩ hk nofun, List.append_nil]
        exact h.resending j call b hcall hbatch hk
    · have hne : Holder.call j .resend ≠ .call i half := fun heq => hj (Holder.call.inj heq).1
      rw [quiet (.call j .resend) b ⟨call', hcall', hbatch⟩ hk hne, List.append_nil]
      exact h.resending j call' b hcall' hbatch hk
  · have hk : k ≠ i := by
      rintro rfl
      simp only [SenderState.advance, Function.update_self] at hnone'
      cases hnone'
    simp only [SenderState.advance, Function.update_of_ne hk] at hnone'
    rw [hlog]
    have lifecycle := h.lifecycle hnone'
    cases hbatch : call.batch half with
    | none =>
      rw [hnone hbatch]
      simpa [attempts] using lifecycle
    | some b =>
      by_cases hb : b.number = k
      · cases half with
        | send =>
          cases hbatch
          exact absurd (hb.symm.trans own.1) hk
        | resend =>
          obtain ⟨first, second, heq, hfirst, hsecond⟩ := h.resending i call b hcall hbatch hb
          refine .inr ⟨first, second ++ attempts k events, i, p, ?_, hfirst, Ne.symm hk,
            hattempt b hbatch hb _ hsecond⟩
          rw [heq, List.append_assoc]
      · rwa [hother b hbatch hb, List.append_nil]

/-- A call returns. -/
theorem finish {i : Nat} {call : SendCall T E} {slot : Option (NumberedBatch T)}
    {events : List (SenderEvent E)} (h : Tracked sender k s) (hs : Owned s)
    (hcall : s.inFlight i = some call) (hevents : attempts k events = [])
    (hslot : slot = s.toRetry ∨ slot = some call.toSend ∧ ∃ e, sender.isRetryable e = true ∧
      call.result = .done (.error e)) :
    Tracked sender k { s with
      inFlight := Function.update s.inFlight i none, toRetry := slot, log := s.log ++ events } := by
  have hlog : attempts k (s.log ++ events) = attempts k s.log := by
    rw [attempts_append, hevents, List.append_nil]
  have inFlight {j : Nat} {call' : SendCall T E}
      (hcall' : Function.update s.inFlight i none j = some call') :
      j ≠ i ∧ s.inFlight j = some call' := by
    by_cases hj : j = i
    · subst hj
      rw [Function.update_self] at hcall'
      cases hcall'
    · rw [Function.update_of_ne hj] at hcall'
      exact ⟨hj, hcall'⟩
  have own := hs.own i call hcall
  refine ⟨fun hk => ?_, fun call' hcall' => ?_, fun b hb hk => ?_, ?_, fun _ => ?_⟩
  · exact hlog.trans (h.unknown hk)
  · dsimp only
    rw [hlog]
    exact h.sending call' (inFlight hcall').2
  · dsimp only
    rw [hlog]
    rcases hslot with rfl | ⟨rfl, e, hretry, hresult⟩
    · exact h.waiting b hb hk
    · cases hb
      obtain rfl : k = i := hk.symm.trans own.1
      have sent := h.sending call hcall
      rw [hresult] at sent
      rcases sent with sent | ⟨-, herror⟩
      · exact ⟨e, hretry, sent⟩
      · cases herror
  · intro j call' b hcall' hbatch hk
    dsimp only
    rw [hlog]
    exact h.resending j call' b (inFlight hcall').2 hbatch hk
  · dsimp only
    rw [hlog]
    exact h.lifecycle_of_owned

theorem step (h : Tracked sender k s) (hs : Owned s) (hstep : SenderStep sender s a s') :
    Tracked sender k s' := by
  cases hstep with
  | started batch => exact h.start hs _
  | handed i half call b hcall hprogress hbatch hitems =>
    refine h.advance hs hcall ?_ ?_ ?_
    · intro b' hbatch' hk
      rw [hbatch, Option.some.injEq] at hbatch'
      subst hbatch'
      simp [attempts, SenderEvent.isAttempt, hk]
    · intro hnone
      rw [hbatch] at hnone
      cases hnone
    · intro b' hbatch' hk before hbefore
      rw [hbatch, Option.some.injEq] at hbatch'
      subst hbatch'
      rw [hprogress] at hbefore
      subst hbefore
      simp [Attempted, attempts, SenderEvent.isAttempt, hk]
  | skipped a i half call result ha hcall hskip =>
    refine h.advance hs hcall (fun _ _ _ => rfl) (fun _ => rfl) ?_
    intro b hbatch hk before hbefore
    rcases hskip with hnone | ⟨hprogress, rfl, -⟩
    · rw [hnone] at hbatch
      cases hbatch
    · rw [hprogress] at hbefore
      subst hbefore
      exact .inr ⟨rfl, rfl⟩
  | completed i half call b result hcall hprogress hbatch =>
    refine h.advance hs hcall ?_ ?_ ?_
    · intro b' hbatch' hk
      rw [hbatch, Option.some.injEq] at hbatch'
      subst hbatch'
      simp [attempts, SenderEvent.isAttempt, hk]
    · intro hnone
      rw [hbatch] at hnone
      cases hnone
    · intro b' hbatch' hk before hbefore
      rw [hbatch, Option.some.injEq] at hbatch'
      subst hbatch'
      rw [hprogress] at hbefore
      subst hbefore
      simp [Attempted, attempts, SenderEvent.isAttempt, hk]
  | dropped i call result hcall hretryResult hresult hdrop =>
    have hfinish : Tracked sender k { s with
        inFlight := Function.update s.inFlight i none
        toRetry := s.toRetry
        log := s.log ++ [] } := h.finish hs hcall rfl (.inl rfl)
    rwa [List.append_nil] at hfinish
  | recorded i call e hcall hretryResult hresult hretry =>
    exact h.finish hs hcall (by simp [attempts, SenderEvent.isAttempt])
      (.inr ⟨rfl, e, hretry, hresult⟩)

end Tracked

/-! ## No duplicate delivery -/

/-- The entry hands the batch to the transport. -/
def SenderEvent.isHanded (k : Nat) : SenderEvent E → Bool
  | .handed _ batch => batch == k
  | _ => false

theorem Attempted.forms {i k : Nat} {events : List (SenderEvent E)} {p : Sending E}
    (h : Attempted i k events p) :
    events = [] ∨ events = [.handed i k] ∨ ∃ result, events = [.handed i k, .returned i k result] := by
  cases p with
  | waiting => exact .inl h
  | inFlight => exact .inr (.inl h)
  | done result =>
    rcases h with h | ⟨h, -⟩
    · exact .inr (.inr ⟨result, h⟩)
    · exact .inl h

theorem Attempted.handed_le {i k : Nat} {events : List (SenderEvent E)} {p : Sending E}
    (h : Attempted i k events p) : events.countP (SenderEvent.isHanded k) ≤ 1 := by
  rcases h.forms with rfl | rfl | ⟨result, rfl⟩ <;> simp [SenderEvent.isHanded]

/-- Nothing follows the return of an attempt. -/
theorem Attempted.nothing_after {i j k : Nat} {before after : List (SenderEvent E)} {p : Sending E}
    {result : Except E Unit} (h : Attempted i k (before ++ .returned j k result :: after) p) :
    after = [] := by
  rcases h.forms with h | h | ⟨result', h⟩
  · cases before <;> cases h
  · rcases before with _ | ⟨first, before⟩
    · cases h
    · cases before <;> cases h
  · rcases before with _ | ⟨first, _ | ⟨second, before⟩⟩
    · cases h
    · cases h
      rfl
    · cases before <;> cases h

theorem Lifecycle.handed_le {k : Nat} {events : List (SenderEvent E)}
    (h : Lifecycle sender k events) : events.countP (SenderEvent.isHanded k) ≤ 2 := by
  rcases h with ⟨p, h⟩ | ⟨first, second, i, p, rfl, ⟨e, -, rfl⟩, -, h⟩
  · exact Nat.le_succ_of_le h.handed_le
  · have hle := h.handed_le
    rw [List.countP_append]
    have hfirst : [SenderEvent.handed k k, .returned k k (.error e)].countP
        (SenderEvent.isHanded k) = 1 := by simp [SenderEvent.isHanded]
    omega

/-- An attempt that is not the last one has failed in a way that is retried. -/
theorem Lifecycle.failed_before {k i : Nat} {before after : List (SenderEvent E)}
    {result : Except E Unit}
    (h : Lifecycle sender k (before ++ .returned i k result :: after)) (hne : after ≠ []) :
    ∃ e, result = .error e ∧ sender.isRetryable e = true := by
  rcases h with ⟨p, h⟩ | ⟨first, second, j, p, heq, ⟨e, hretry, rfl⟩, -, h⟩
  · exact absurd h.nothing_after hne
  · rcases before with _ | ⟨x, _ | ⟨y, before⟩⟩
    · cases heq
    · cases heq
      exact ⟨e, rfl, hretry⟩
    · cases heq
      exact absurd h.nothing_after hne

/-- The batches that the calls have been made with, in order. -/
def startedBatches (sender : RetryingSender B T E) (actions : List (SenderAction B E R)) : List T :=
  actions.filterMap fun a => a.batch.map sender.convert

/-- The numbers name the batches, and only batches with items are handed to the transport. -/
structure Numbered (sender : RetryingSender B T E) (actions : List (SenderAction B E R))
    (s : SenderState T E) : Prop where
  started : s.started = (startedBatches sender actions).length
  held : ∀ h b, s.Holds h b → (startedBatches sender actions)[b.number]? = some b.batch
  handed : ∀ i k, .handed i k ∈ s.log →
    ∃ t, (startedBatches sender actions)[k]? = some t ∧ sender.hasItems t = true

theorem Numbered.step {past : List (SenderAction B E R)} (h : Numbered sender past s)
    (hstep : SenderStep sender s a s') : Numbered sender (past ++ [a]) s' := by
  have grown {k : Nat} {t : T} (hk : (startedBatches sender past)[k]? = some t) :
      (startedBatches sender (past ++ [a]))[k]? = some t := by
    obtain ⟨hlt, -⟩ := List.getElem?_eq_some_iff.1 hk
    have happend : startedBatches sender (past ++ [a]) =
        startedBatches sender past ++ startedBatches sender [a] := List.filterMap_append
    rw [happend, List.getElem?_append_left hlt]
    exact hk
  -- the steps of a call that has been started
  have continued (hlength : s'.started = s.started)
      (ha : startedBatches sender (past ++ [a]) = startedBatches sender past)
      (held : ∀ h b, s'.Holds h b → ∃ h₀, s.Holds h₀ b)
      (hlog : ∀ i k, .handed i k ∈ s'.log → .handed i k ∈ s.log ∨
        ∃ h b, s.Holds h b ∧ b.number = k ∧ sender.hasItems b.batch = true) :
      Numbered sender (past ++ [a]) s' := by
    refine ⟨?_, fun h' b hb => ?_, fun i k hk => ?_⟩
    · rw [hlength, ha, h.started]
    · obtain ⟨h₀, hb⟩ := held h' b hb
      exact grown (h.held h₀ b hb)
    · rcases hlog i k hk with hk | ⟨h₀, b, hb, rfl, hitems⟩
      · obtain ⟨t, ht, hitems⟩ := h.handed i k hk
        exact ⟨t, grown ht, hitems⟩
      · exact ⟨b.batch, grown (h.held h₀ b hb), hitems⟩
  cases hstep with
  | started batch =>
    have hbatches : startedBatches sender (past ++ [.start batch]) =
        startedBatches sender past ++ [sender.convert batch] := by
      simp [startedBatches, SenderAction.batch]
    refine ⟨?_, fun h' b hb => ?_, fun i k hk => ?_⟩
    · rw [hbatches, List.length_append, ← h.started]
      rfl
    · rcases holds_start hb with ⟨-, rfl⟩ | ⟨-, hslot⟩ | ⟨i, half, -, -, hold⟩
      · rw [hbatches, h.started, List.getElem?_concat_length]
      · exact grown (h.held .slot b hslot)
      · exact grown (h.held h' b hold)
    · simp only [SenderState.start, List.mem_append, List.mem_singleton, reduceCtorEq, or_false] at hk
      obtain ⟨t, ht, hitems⟩ := h.handed i k hk
      exact ⟨t, grown ht, hitems⟩
  | handed i half call b hcall hprogress hbatch hitems =>
    refine continued rfl (by simp [startedBatches, SenderAction.batch])
      (fun h' b hb => ⟨h', (holds_advance hcall).1 hb⟩) ?_
    intro j k hk
    simp only [SenderState.advance, List.mem_append, List.mem_singleton, SenderEvent.handed.injEq]
      at hk
    rcases hk with hk | ⟨-, rfl⟩
    · exact .inl hk
    · exact .inr ⟨.call i half, b, ⟨call, hcall, hbatch⟩, rfl, hitems⟩
  | skipped a i half call result ha hcall hskip =>
    refine continued rfl (by simp [startedBatches, ha])
      (fun h' b hb => ⟨h', (holds_advance hcall).1 hb⟩) fun j k hk => .inl ?_
    simpa [SenderState.advance] using hk
  | completed i half call b result hcall hprogress hbatch =>
    refine continued rfl (by simp [startedBatches, SenderAction.batch])
      (fun h' b hb => ⟨h', (holds_advance hcall).1 hb⟩) fun j k hk => .inl ?_
    simpa [SenderState.advance] using hk
  | dropped i call result hcall hretryResult hresult hdrop =>
    refine continued rfl (by simp [startedBatches, SenderAction.batch]) (fun h' b hb => ?_)
      fun _ _ hk => .inl hk
    rcases @holds_finish _ _ _ i s.toRetry s.log _ _ hb with ⟨rfl, hslot⟩ | ⟨_, _, -, -, hold⟩
    · exact ⟨.slot, hslot⟩
    · exact ⟨h', hold⟩
  | recorded i call e hcall hretryResult hresult hretry =>
    refine continued rfl (by simp [startedBatches, SenderAction.batch]) (fun h' b hb => ?_)
      fun j k hk => .inl ?_
    · rcases holds_finish hb with ⟨rfl, hslot⟩ | ⟨_, _, -, -, hold⟩
      · cases hslot
        exact ⟨.call i .send, call, hcall, rfl⟩
      · exact ⟨h', hold⟩
    · simpa using hk

/-- What is known of every state of a run. -/
theorem senderRun_invariants {actions : List (SenderAction B E R)}
    (hrun : senderRun sender actions = some s) :
    Owned s ∧ (∀ k, Tracked sender k s) ∧ Numbered sender actions s := by
  refine Machine.run_actions (I := fun past s =>
    Owned s ∧ (∀ k, Tracked sender k s) ∧ Numbered sender past s) ?_ ?_ hrun
  · refine ⟨.initial, fun k => .initial, rfl, fun h b hb => ?_, fun i k hk => by cases hk⟩
    cases h with
    | slot => cases hb
    | call i half =>
      obtain ⟨call, hcall, -⟩ := hb
      cases hcall
  · rintro past s a s' ⟨owned, tracked, numbered⟩ hstep
    have hstep := senderStep_cases hstep
    exact ⟨owned.step hstep, fun k => (tracked k).step owned hstep, numbered.step hstep⟩

/-- No batch is delivered twice: it is handed to the transport at most twice, never again after a
success or after a failure that is not retried, not at all if it has no items; and at any moment it
has at most one holder. -/
structure DeliveredOnce (sender : RetryingSender B T E) (actions : List (SenderAction B E R))
    (s : SenderState T E) : Prop where
  handedTwice : ∀ k, s.log.countP (SenderEvent.isHanded k) ≤ 2
  afterSuccess : ∀ before after i j k, s.log = before ++ .returned i k (.ok ()) :: after →
    .handed j k ∉ after
  afterFailure : ∀ before after i j k e, s.log = before ++ .returned i k (.error e) :: after →
    sender.isRetryable e = false → .handed j k ∉ after
  onlyItems : ∀ i k, .handed i k ∈ s.log →
    ∃ t, (startedBatches sender actions)[k]? = some t ∧ sender.hasItems t = true
  oneHolder : ∀ h h' b b', s.Holds h b → s.Holds h' b' → b.number = b'.number → h = h'

theorem senderRun_deliveredOnce {actions : List (SenderAction B E R)}
    (hrun : senderRun sender actions = some s) : DeliveredOnce sender actions s := by
  obtain ⟨owned, tracked, numbered⟩ := senderRun_invariants hrun
  have again {before after : List (SenderEvent E)} {i j k : Nat} {result : Except E Unit}
      (hlog : s.log = before ++ .returned i k result :: after) (hmem : .handed j k ∈ after) :
      ∃ e, result = .error e ∧ sender.isRetryable e = true := by
    have lifecycle := (tracked k).lifecycle_of_owned
    rw [hlog, attempts_append] at lifecycle
    have hreturned : attempts k (.returned i k result :: after) =
        .returned i k result :: attempts k after := by simp [attempts, SenderEvent.isAttempt]
    rw [hreturned] at lifecycle
    have hattempt : .handed j k ∈ attempts k after :=
      List.mem_filter.2 ⟨hmem, by simp [SenderEvent.isAttempt]⟩
    exact lifecycle.failed_before (List.ne_nil_of_mem hattempt)
  refine ⟨fun k => ?_, fun before after i j k hlog hmem => ?_,
    fun before after i j k e hlog hretry hmem => ?_, numbered.handed, owned.unique⟩
  · have hcount : s.log.countP (SenderEvent.isHanded k) =
        (attempts k s.log).countP (SenderEvent.isHanded k) := by
      rw [attempts, List.countP_filter]
      congr 1
      funext event
      cases event <;> simp [SenderEvent.isHanded, SenderEvent.isAttempt]
    rw [hcount]
    exact (tracked k).lifecycle_of_owned.handed_le
  · obtain ⟨e, he, -⟩ := again hlog hmem
    cases he
  · obtain ⟨e', he, hretry'⟩ := again hlog hmem
    cases he
    rw [hretry] at hretry'
    cases hretry'

end

/-- **No duplicate delivery.** For the three senders, whatever the transport returns and however
their calls interleave. -/
theorem no_duplicate_delivery (A : Type) [ItemCount A] :
    (∀ (actions : List (SenderAction (List A) CoralogixError OtlpExportResponse))
      (s : SenderState (List A) CoralogixError),
      senderRun (otlpPillarTelemetrySender A) actions = some s →
        DeliveredOnce (otlpPillarTelemetrySender A) actions s) ∧
    (∀ (actions : List (SenderAction TelemetryBatch CoralogixError OtlpExportResponse))
      (s : SenderState Telemetry CoralogixError),
      senderRun combinedTelemetrySender actions = some s →
        DeliveredOnce combinedTelemetrySender actions s) ∧
    ∀ (actions : List (SenderAction TelemetryBatch FirehoseError Unit))
      (s : SenderState Telemetry FirehoseError),
      senderRun firehoseTelemetrySender actions = some s →
        DeliveredOnce firehoseTelemetrySender actions s :=
  ⟨fun _ _ => senderRun_deliveredOnce, fun _ _ => senderRun_deliveredOnce,
    fun _ _ => senderRun_deliveredOnce⟩

/-- Resource metrics with one metric. -/
def sampleResourceMetrics : ResourceMetrics := ⟨none, [⟨none, [⟨"m", "", "", none⟩], ""⟩], ""⟩

/-- A batch with one metric. -/
def sampleBatch : TelemetryBatch := ⟨[], [], [sampleResourceMetrics], []⟩

/-- A call fails, and the next one retries its batch. -/
def sequentialCalls : List (SenderAction TelemetryBatch FirehoseError Unit) :=
  [.start sampleBatch, .hand 0 .resend, .hand 0 .send, .complete 0 .send (.error .communication),
    .finish 0, .start sampleBatch, .hand 1 .resend, .hand 1 .send, .complete 1 .resend (.ok ()),
    .complete 1 .send (.ok ()), .finish 1]

theorem exists_sequentialCalls : ∃ s, senderRun firehoseTelemetrySender sequentialCalls = some s ∧
    s.log = [.started 0, .handed 0 0, .returned 0 0 (.error .communication), .recorded 0,
      .started 1, .handed 1 0, .handed 1 1, .returned 1 0 (.ok ()), .returned 1 1 (.ok ())] :=
  ⟨_, rfl, rfl⟩

theorem no_duplicate_delivery_sequential : ∃ s,
    senderRun firehoseTelemetrySender sequentialCalls = some s ∧
      DeliveredOnce firehoseTelemetrySender sequentialCalls s := by
  obtain ⟨s, hrun, -⟩ := exists_sequentialCalls
  exact ⟨s, hrun, (no_duplicate_delivery ResourceMetrics).2.2 _ s hrun⟩

end TelemetryExporter
