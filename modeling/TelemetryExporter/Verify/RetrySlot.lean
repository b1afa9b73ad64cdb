import TelemetryExporter.Lib.Split
import TelemetryExporter.Verify.Retry

/-!
# The retry slot

The slot has room for one batch. What a recorded batch comes to is decided by what happens next: a
call starts and takes it, or another call records its batch over it.
-/

namespace TelemetryExporter

section

variable {B T E R : Type}

/-! ## A recorded batch -/

/-- A call starts. -/
def SenderEvent.isStarted : SenderEvent E → Bool
  | .started _ => true
  | _ => false

/-- A batch is recorded. -/
def SenderEvent.isRecorded : SenderEvent E → Bool
  | .recorded _ => true
  | _ => false

/-- The call has taken the batch and has still to attempt to send it. -/
def SenderState.WillResend (s : SenderState T E) (i k : Nat) : Prop :=
  ∃ call b, s.inFlight i = some call ∧ call.toRetry = some b ∧ b.number = k ∧
    call.retryResult = .waiting

/-- No one holds the batch any more. -/
structure SenderState.Gone (s : SenderState T E) (k : Nat) : Prop where
  started : k < s.started
  noCall : s.inFlight k = none
  noHolder : ∀ h b, s.Holds h b → b.number ≠ k

/-- What has become of the batch `k` since it was recorded, given the entries since then. -/
inductive Fate (s : SenderState T E) (k : Nat) (since : List (SenderEvent E)) : Prop where
  | waiting (hslot : ∃ b, s.Holds .slot b ∧ b.number = k)
      (hsince : ∀ e ∈ since, e.isStarted = false ∧ e.isRecorded = false)
      (hnever : ∀ i, .handed i k ∉ since)
  | overwritten (between rest : List (SenderEvent E)) (j : Nat)
      (hsince : since = between ++ .recorded j :: rest)
      (hbetween : ∀ e ∈ between, e.isStarted = false) (hgone : s.Gone k)
      (hnever : ∀ i, .handed i k ∉ since)
  | taken (between rest : List (SenderEvent E)) (i : Nat)
      (hsince : since = between ++ .started i :: rest)
      (hbetween : ∀ e ∈ between, e.isRecorded = false) (hi : i < s.started)
      (hattempt : .handed i k ∈ rest ∨ s.WillResend i k)

variable {sender : RetryingSender B T E} {s s' : SenderState T E} {a : SenderAction B E R} {k : Nat}

namespace Fate

/-- A step in which a call that has been started goes on. -/
theorem advance {since events : List (SenderEvent E)} {i : Nat} {half : Half} {call : SendCall T E}
    {p : Sending E} (h : Fate s k since) (hs : Owned s) (hcall : s.inFlight i = some call)
    (hkind : ∀ e ∈ events, e.isStarted = false ∧ e.isRecorded = false)
    (hhanded : ∀ j m, .handed j m ∈ events → ∃ b, s.Holds (.call i half) b ∧ b.number = m)
    (hresend : ∀ b, half = .resend → call.toRetry = some b → call.retryResult = .waiting →
      .handed i b.number ∈ events) :
    Fate (s.advance i (call.setProgress half p) events) k (since ++ events) := by
  cases h with
  | waiting hslot hsince hnever =>
    obtain ⟨b, hb, hk⟩ := hslot
    refine .waiting ⟨b, hb, hk⟩ ?_ fun j hmem => ?_
    · intro e he
      rcases List.mem_append.1 he with he | he
      · exact hsince e he
      · exact hkind e he
    · rcases List.mem_append.1 hmem with hmem | hmem
      · exact hnever j hmem
      · obtain ⟨b', hb', hk'⟩ := hhanded j k hmem
        cases hs.unique .slot (.call i half) b b' hb hb' (hk.trans hk'.symm)
  | overwritten between rest j hsince hbetween hgone hnever =>
    refine .overwritten between (rest ++ events) j ?_ hbetween ⟨hgone.started, ?_, ?_⟩ fun m hmem => ?_
    · rw [hsince, List.append_assoc]
      rfl
    · have hne : k ≠ i := by
        rintro rfl
        rw [hgone.noCall] at hcall
        cases hcall
      simpa only [SenderState.advance, Function.update_of_ne hne] using hgone.noCall
    · exact fun h b hb => hgone.noHolder h b ((holds_advance hcall).1 hb)
    · rcases List.mem_append.1 hmem with hmem | hmem
      · exact hnever m hmem
      · obtain ⟨b', hb', hk'⟩ := hhanded m k hmem
        exact hgone.noHolder _ b' hb' hk'
  | taken between rest j hsince hbetween hj hattempt =>
    refine .taken between (rest ++ events) j ?_ hbetween hj ?_
    · rw [hsince, List.append_assoc]
      rfl
    rcases hattempt with hmem | ⟨call', b, hcall', hbatch, hk, hwaiting⟩
    · exact .inl (List.mem_append_left _ hmem)
    by_cases hji : j = i
    · subst hji
      rw [hcall, Option.some.injEq] at hcall'
      subst hcall'
      cases half with
      | resend =>
        rw [← hk]
        exact .inl (List.mem_append_right _ (hresend b rfl hbatch hwaiting))
      | send =>
        refine .inr ⟨call.setProgress .send p, b, ?_, hbatch, hk, hwaiting⟩
        simp [SenderState.advance]
    · refine .inr ⟨call', b, ?_, hbatch, hk, hwaiting⟩
      simpa only [SenderState.advance, Function.update_of_ne hji] using hcall'

/-- A call starts: it takes the batch that waits. -/
theorem start {since : List (SenderEvent E)} (h : Fate s k since) (toSend : T) :
    Fate (s.start toSend) k (since ++ [.started s.started]) := by
  cases h with
  | waiting hslot hsince hnever =>
    obtain ⟨b, hb, hk⟩ := hslot
    refine .taken since [] s.started rfl (fun e he => (hsince e he).2) (Nat.lt_succ_self _)
      (.inr ⟨{ toRetry := s.toRetry, toSend := ⟨s.started, toSend⟩ }, b, ?_, hb, hk, rfl⟩)
    simp [SenderState.start]
  | overwritten between rest j hsince hbetween hgone hnever =>
    have hne : k ≠ s.started := Nat.ne_of_lt hgone.started
    refine .overwritten between (rest ++ [.started s.started]) j ?_ hbetween
      ⟨Nat.lt_succ_of_lt hgone.started, ?_, fun h' b hb => ?_⟩ fun i hmem => ?_
    · rw [hsince, List.append_assoc]
      rfl
    · simpa only [SenderState.start, Function.update_of_ne hne] using hgone.noCall
    · rcases holds_start hb with ⟨-, rfl⟩ | ⟨-, hslot⟩ | ⟨_, _, -, -, hold⟩
      · exact Ne.symm hne
      · exact hgone.noHolder _ b hslot
      · exact hgone.noHolder _ b hold
    · simp only [List.mem_append, List.mem_singleton, reduceCtorEq, or_false] at hmem
      exact hnever i hmem
  | taken between rest j hsince hbetween hj hattempt =>
    refine .taken between (rest ++ [.started s.started]) j ?_ hbetween (Nat.lt_succ_of_lt hj) ?_
    · rw [hsince, List.append_assoc]
      rfl
    rcases hattempt with hmem | ⟨call, b, hcall, hbatch, hk, hwaiting⟩
    · exact .inl (List.mem_append_left _ hmem)
    · refine .inr ⟨call, b, ?_, hbatch, hk, hwaiting⟩
      simpa only [SenderState.start, Function.update_of_ne (Nat.ne_of_lt hj)] using hcall

theorem willResend_finish {i j : Nat} {call : SendCall T E} {slot : Option (NumberedBatch T)}
    {log : List (SenderEvent E)} (h : s.WillResend j k) (hcall : s.inFlight i = some call)
    (hretryResult : ∃ r, call.retryResult = .done r) :
    ({ s with inFlight := Function.update s.inFlight i none, toRetry := slot, log } :
      SenderState T E).WillResend j k := by
  obtain ⟨call', b, hcall', hbatch, hk, hwaiting⟩ := h
  refine ⟨call', b, ?_, hbatch, hk, hwaiting⟩
  have hji : j ≠ i := by
    rintro rfl
    rw [hcall, Option.some.injEq] at hcall'
    subst hcall'
    obtain ⟨r, hr⟩ := hretryResult
    rw [hr] at hwaiting
    cases hwaiting
  simpa only [Function.update_of_ne hji] using hcall'

theorem gone_finish {i : Nat} {call : SendCall T E} {slot : Option (NumberedBatch T)}
    {log : List (SenderEvent E)} (h : s.Gone k) (hcall : s.inFlight i = some call)
    (hslot : slot = s.toRetry ∨ slot = some call.toSend) :
    ({ s with inFlight := Function.update s.inFlight i none, toRetry := slot, log } :
      SenderState T E).Gone k := by
  refine ⟨h.started, ?_, ?_⟩
  · by_cases hi : k = i
    · rw [hi]
      exact Function.update_self ..
    · simpa only [Function.update_of_ne hi] using h.noCall
  · intro h' b hb
    rcases holds_finish hb with ⟨rfl, heq⟩ | ⟨_, _, -, -, hold⟩
    · rcases hslot with rfl | rfl
      · exact h.noHolder .slot b heq
      · cases heq
        exact h.noHolder (.call i .send) _ ⟨call, hcall, rfl⟩
    · exact h.noHolder h' b hold

/-- A call returns without recording its batch. -/
theorem drop {since : List (SenderEvent E)} {i : Nat} {call : SendCall T E} (h : Fate s k since)
    (hcall : s.inFlight i = some call) (hretryResult : ∃ r, call.retryResult = .done r) :
    Fate { s with inFlight := Function.update s.inFlight i none } k since := by
  cases h with
  | waiting hslot hsince hnever => exact .waiting hslot hsince hnever
  | overwritten between rest j hsince hbetween hgone hnever =>
    exact .overwritten between rest j hsince hbetween (gone_finish hgone hcall (.inl rfl)) hnever
  | taken between rest j hsince hbetween hj hattempt =>
    refine .taken between rest j hsince hbetween hj ?_
    exact hattempt.imp_right fun h => willResend_finish h hcall hretryResult

/-- A call records its batch over the one that waits. -/
theorem record {since : List (SenderEvent E)} {i : Nat} {call : SendCall T E} (h : Fate s k since)
    (hs : Owned s) (hcall : s.inFlight i = some call)
    (hretryResult : ∃ r, call.retryResult = .done r) :
    Fate { s with
           inFlight := Function.update s.inFlight i none
           toRetry := some call.toSend
           log := s.log ++ [.recorded call.toSend.number] } k
      (since ++ [.recorded call.toSend.number]) := by
  have quiet (hnever : ∀ j, .handed j k ∉ since) (j : Nat) :
      .handed j k ∉ since ++ [.recorded call.toSend.number] := by
    simpa using hnever j
  cases h with
  | waiting hslot hsince hnever =>
    obtain ⟨b, hb, hk⟩ := hslot
    obtain ⟨hlt, hnone⟩ := hs.retried .slot b hb nofun
    have hsend : s.Holds (.call i .send) call.toSend := ⟨call, hcall, rfl⟩
    refine .overwritten since [] call.toSend.number rfl (fun e he => (hsince e he).1)
      ⟨hk ▸ hlt, ?_, fun h' b' hb' hk' => ?_⟩ (quiet hnever)
    · rw [hk] at hnone
      by_cases hi : k = i
      · rw [hi]
        exact Function.update_self ..
      · simpa only [Function.update_of_ne hi] using hnone
    · rcases holds_finish hb' with ⟨rfl, heq⟩ | ⟨j, half, rfl, -, hold⟩
      · cases heq
        cases hs.unique .slot _ b _ hb hsend (hk.trans hk'.symm)
      · cases hs.unique .slot _ b b' hb hold (hk.trans hk'.symm)
  | overwritten between rest j hsince hbetween hgone hnever =>
    refine .overwritten between (rest ++ [.recorded call.toSend.number]) j ?_ hbetween
      (gone_finish hgone hcall (.inr rfl)) (quiet hnever)
    rw [hsince, List.append_assoc]
    rfl
  | taken between rest j hsince hbetween hj hattempt =>
    refine .taken between (rest ++ [.recorded call.toSend.number]) j ?_ hbetween hj ?_
    · rw [hsince, List.append_assoc]
      rfl
    · rcases hattempt with hmem | h
      · exact .inl (List.mem_append_left _ hmem)
      · exact .inr (willResend_finish h hcall hretryResult)

end Fate

/-! ## Over a run -/

/-- What has become of each batch that has been recorded. -/
def Fated (s : SenderState T E) : Prop :=
  ∀ before since k, s.log = before ++ .recorded k :: since → Fate s k since

/-- A batch that a call has taken has items: it has been handed to the transport before. -/
theorem hasItems_of_taken {actions : List (SenderAction B E R)} {i : Nat} {call : SendCall T E}
    {b : NumberedBatch T} (tracked : ∀ k, Tracked sender k s) (numbered : Numbered sender actions s)
    (hcall : s.inFlight i = some call) (hbatch : call.toRetry = some b) :
    sender.hasItems b.batch = true := by
  obtain ⟨first, second, heq, ⟨e, -, rfl⟩, -⟩ :=
    (tracked b.number).resending i call b hcall hbatch rfl
  have hhanded : .handed b.number b.number ∈ attempts b.number s.log := by
    rw [heq]
    exact List.mem_cons_self
  obtain ⟨t, ht, hitems⟩ := numbered.handed _ _ (List.mem_filter.1 hhanded).1
  rw [numbered.held (.call i .resend) b ⟨call, hcall, hbatch⟩, Option.some.injEq] at ht
  rwa [ht]

theorem Fated.step {past : List (SenderAction B E R)} (h : Fated s) (hs : Owned s)
    (tracked : ∀ k, Tracked sender k s) (numbered : Numbered sender past s)
    (hstep : SenderStep sender s a s') : Fated s' := by
  -- a step that records nothing
  have quiet (events : List (SenderEvent E)) (hlog : s'.log = s.log ++ events)
      (hevents : ∀ e ∈ events, e.isRecorded = false)
      (hfate : ∀ k since, Fate s k since → Fate s' k (since ++ events)) : Fated s' := by
    intro before since k heq
    rw [hlog] at heq
    rcases List.append_eq_append_cons heq with ⟨rest, hrest, rfl⟩ | ⟨more, hmore, -⟩
    · exact hfate k rest (h before rest k hrest)
    · have := hevents (.recorded k) (by rw [hmore]; simp)
      cases this
  cases hstep with
  | started batch =>
    exact quiet _ rfl (by simp [SenderEvent.isRecorded]) fun k since hfate => hfate.start _
  | handed i half call b hcall hprogress hbatch hitems =>
    refine quiet _ rfl (by simp [SenderEvent.isRecorded]) fun k since hfate =>
      hfate.advance hs hcall (by simp [SenderEvent.isStarted, SenderEvent.isRecorded]) ?_ ?_
    · intro j m hmem
      simp only [List.mem_singleton, SenderEvent.handed.injEq] at hmem
      exact ⟨b, ⟨call, hcall, hbatch⟩, hmem.2.symm⟩
    · rintro b' rfl hbatch' hwaiting
      rw [show call.batch .resend = call.toRetry from rfl, hbatch', Option.some.injEq] at hbatch
      rw [hbatch]
      exact List.mem_singleton_self _
  | skipped a i half call result ha hcall hskip =>
    refine quiet [] rfl (by simp) fun k since hfate =>
      hfate.advance hs hcall (by simp) (by simp) ?_
    rintro b rfl hbatch hwaiting
    have hitems := hasItems_of_taken tracked numbered hcall hbatch
    rcases hskip with hnone | ⟨-, -, hskip⟩
    · rw [show call.batch .resend = call.toRetry from rfl, hbatch] at hnone
      cases hnone
    · rw [hskip b hbatch] at hitems
      cases hitems
  | completed i half call b result hcall hprogress hbatch =>
    refine quiet _ rfl (by simp [SenderEvent.isRecorded]) fun k since hfate =>
      hfate.advance hs hcall (by simp [SenderEvent.isStarted, SenderEvent.isRecorded]) (by simp) ?_
    rintro b' rfl hbatch' hwaiting
    rw [show call.progress .resend = call.retryResult from rfl, hwaiting] at hprogress
    cases hprogress
  | dropped i call result hcall hretryResult hresult hdrop =>
    apply quiet [] (List.append_nil _).symm (by simp)
    intro k since hfate
    rw [List.append_nil]
    exact hfate.drop hcall hretryResult
  | recorded i call e hcall hretryResult hresult hretry =>
    intro before since k heq
    rcases List.append_eq_append_cons heq with ⟨rest, hrest, rfl⟩ | ⟨more, hmore, -⟩
    · exact (h before rest k hrest).record hs hcall hretryResult
    · cases more with
      | nil =>
        obtain ⟨hk, rfl⟩ := List.cons.inj hmore
        exact .waiting ⟨call.toSend, rfl, SenderEvent.recorded.inj hk⟩ (by simp) (by simp)
      | cons x more =>
        obtain ⟨-, htail⟩ := List.cons.inj hmore
        cases more <;> cases htail

/-- A call whose batch has failed in a way that is retried has recorded it when it returns. -/
def FailuresRecorded (sender : RetryingSender B T E) (s : SenderState T E) : Prop :=
  ∀ k e, .returned k k (.error e) ∈ s.log → sender.isRetryable e = true →
    (∃ call, s.inFlight k = some call) ∨ .recorded k ∈ s.log

theorem FailuresRecorded.step (h : FailuresRecorded sender s) (hs : Owned s)
    (tracked : ∀ k, Tracked sender k s) (hstep : SenderStep sender s a s') :
    FailuresRecorded sender s' := by
  -- a call goes on
  have continued {i : Nat} {call : SendCall T E} {half : Half} {p : Sending E}
      {events : List (SenderEvent E)}
      (hnew : ∀ k e, .returned k k (.error e) ∈ events → k = i) :
      FailuresRecorded sender (s.advance i (call.setProgress half p) events) := by
    intro k e hmem hretry
    by_cases hk : k = i
    · exact .inl ⟨call.setProgress half p, by rw [hk]; simp [SenderState.advance]⟩
    · rcases List.mem_append.1 hmem with hmem | hmem
      · rcases h k e hmem hretry with ⟨call', hcall'⟩ | hrecorded
        · refine .inl ⟨call', ?_⟩
          simpa only [SenderState.advance, Function.update_of_ne hk] using hcall'
        · exact .inr (List.mem_append_left _ hrecorded)
      · exact absurd (hnew k e hmem) hk
  cases hstep with
  | started batch =>
    intro k e hmem hretry
    simp only [SenderState.start, List.mem_append, List.mem_singleton, reduceCtorEq, or_false]
      at hmem ⊢
    rcases h k e hmem hretry with ⟨call, hcall⟩ | hrecorded
    · have hk : k ≠ s.started := Nat.ne_of_lt (hs.own k call hcall).2
      exact .inl ⟨call, by rw [Function.update_of_ne hk]; exact hcall⟩
    · exact .inr hrecorded
  | handed i half call b hcall => exact continued (by simp)
  | skipped a i half call result ha hcall => exact continued (by simp)
  | completed i half call b result hcall =>
    apply continued
    intro k e hmem
    simp only [List.mem_singleton, SenderEvent.returned.injEq] at hmem
    exact hmem.1
  | dropped i call result hcall hretryResult hresult hdrop =>
    intro k e hmem hretry
    rcases h k e hmem hretry with ⟨call', hcall'⟩ | hrecorded
    · by_cases hk : k = i
      · subst hk
        rw [hcall, Option.some.injEq] at hcall'
        subst hcall'
        have sent := (tracked k).sending call hcall
        rw [hresult] at sent
        have hattempt : .returned k k (.error e) ∈ attempts k s.log :=
          List.mem_filter.2 ⟨hmem, by simp [SenderEvent.isAttempt]⟩
        rcases sent with sent | ⟨sent, -⟩
        · rw [sent] at hattempt
          simp only [List.mem_cons, reduceCtorEq, SenderEvent.returned.injEq, true_and,
            List.not_mem_nil, or_false, false_or] at hattempt
          rw [hdrop e hattempt.symm] at hretry
          cases hretry
        · rw [sent] at hattempt
          cases hattempt
      · exact .inl ⟨call', by simpa only [Function.update_of_ne hk] using hcall'⟩
    · exact .inr hrecorded
  | recorded i call e' hcall =>
    intro k e hmem hretry
    simp only [List.mem_append, List.mem_singleton, reduceCtorEq, or_false] at hmem
    rcases h k e hmem hretry with ⟨call', hcall'⟩ | hrecorded
    · by_cases hk : k = i
      · refine .inr (List.mem_append_right _ ?_)
        rw [hk, (hs.own i call hcall).1]
        exact List.mem_singleton_self _
      · exact .inl ⟨call', by simpa only [Function.update_of_ne hk] using hcall'⟩
    · exact .inr (List.mem_append_left _ hrecorded)

/-- Every batch that has failed in a way that is retried is recorded before its call returns; a
recorded batch waits in the slot, or a call that has started since has taken it and attempts it
again; and once a call has started since, and all calls have returned, it has been attempted again by
such a call. -/
structure FailuresRetried (sender : RetryingSender B T E) (s : SenderState T E) : Prop where
  recorded : FailuresRecorded sender s
  kept : ∀ before since k, s.log = before ++ .recorded k :: since →
    (∃ b, s.Holds .slot b ∧ b.number = k) ∨
      ∃ i, .started i ∈ since ∧ (.handed i k ∈ since ∨ s.WillResend i k)
  attempted : ∀ before since k, s.log = before ++ .recorded k :: since →
    (∃ i, .started i ∈ since) → (∀ i, s.inFlight i = none) →
    ∃ i, .started i ∈ since ∧ .handed i k ∈ since

/-- Between any two batches that are recorded a call starts. -/
def Separated (log : List (SenderEvent E)) : Prop :=
  ∀ before between after j k, log = before ++ .recorded j :: (between ++ .recorded k :: after) →
    ∃ i, .started i ∈ between

theorem failuresRetried_of_separated (hfated : Fated s) (hrecorded : FailuresRecorded sender s)
    (h : Separated s.log) : FailuresRetried sender s := by
  have taken {before since : List (SenderEvent E)} {k : Nat}
      (hlog : s.log = before ++ .recorded k :: since) :
      (∃ b, s.Holds .slot b ∧ b.number = k) ∧ (∀ e ∈ since, e.isStarted = false) ∨
        ∃ i, .started i ∈ since ∧ (.handed i k ∈ since ∨ s.WillResend i k) := by
    cases hfated before since k hlog with
    | waiting hslot hsince hnever => exact .inl ⟨hslot, fun e he => (hsince e he).1⟩
    | overwritten between rest j hsince hbetween hgone hnever =>
      rw [hsince] at hlog
      obtain ⟨i, hi⟩ := h before between rest k j hlog
      cases hbetween _ hi
    | taken between rest i hsince hbetween hi hattempt =>
      rw [hsince]
      refine .inr ⟨i, by simp, hattempt.imp_left fun hmem => ?_⟩
      exact List.mem_append_right _ (List.mem_cons_of_mem _ hmem)
  refine ⟨hrecorded, fun before since k hlog => ?_, fun before since k hlog hstarted hnone => ?_⟩
  · exact (taken hlog).imp_left And.left
  · rcases taken hlog with ⟨-, hquiet⟩ | ⟨i, hi, hmem | ⟨call, b, hcall, -⟩⟩
    · obtain ⟨i, hi⟩ := hstarted
      cases hquiet _ hi
    · exact ⟨i, hi, hmem⟩
    · rw [hnone i] at hcall
      cases hcall

theorem separated_of_failuresRetried (hfated : Fated s) (h : FailuresRetried sender s) :
    Separated s.log := by
  intro before between after j k hlog
  by_contra hnone
  have hquiet : ∀ i, .started i ∉ between := fun i hi => hnone ⟨i, hi⟩
  cases hfated before _ j hlog with
  | waiting hslot hsince hnever =>
    have := (hsince (.recorded k) (by simp)).2
    cases this
  | overwritten between' rest m hsince hbetween hgone hnever =>
    rcases h.kept before _ j hlog with ⟨b, hb, hj⟩ | ⟨i, -, hmem | ⟨call, b, hcall, hbatch, hj, -⟩⟩
    · exact hgone.noHolder .slot b hb hj
    · exact hnever i hmem
    · exact hgone.noHolder (.call i .resend) b ⟨call, hcall, hbatch⟩ hj
  | taken between' rest i hsince hbetween hi hattempt =>
    -- the entry that comes first
    rcases List.append_eq_append_cons hsince with ⟨rest', hrest, -⟩ | ⟨more, hmore, hbetween'⟩
    · exact hquiet i (by rw [hrest]; simp)
    · cases more with
      | nil => cases hmore
      | cons x more =>
        obtain ⟨rfl, -⟩ := List.cons.inj hmore
        have := hbetween (.recorded k) (by rw [hbetween']; simp)
        cases this

theorem senderRun_fated {actions : List (SenderAction B E R)}
    (hrun : senderRun sender actions = some s) : Fated s ∧ FailuresRecorded sender s := by
  refine (Machine.run_actions (I := fun past s => (Owned s ∧ (∀ k, Tracked sender k s) ∧
    Numbered sender past s) ∧ Fated s ∧ FailuresRecorded sender s) ?_ ?_ hrun).2
  · refine ⟨senderRun_invariants rfl, fun before since k h => ?_, fun k e h => by cases h⟩
    cases before <;> cases h
  · rintro past s a s' ⟨⟨owned, tracked, numbered⟩, fated, recorded⟩ hstep
    have hstep := senderStep_cases hstep
    exact ⟨⟨owned.step hstep, fun k => (tracked k).step owned hstep, numbered.step hstep⟩,
      fated.step owned tracked numbered hstep, recorded.step owned tracked hstep⟩

theorem senderRun_failuresRetried_iff {actions : List (SenderAction B E R)}
    (hrun : senderRun sender actions = some s) : FailuresRetried sender s ↔ Separated s.log := by
  obtain ⟨fated, recorded⟩ := senderRun_fated hrun
  exact ⟨separated_of_failuresRetried fated, failuresRetried_of_separated fated recorded⟩

end

/-- **Retries.** For the three senders, in every run: the batches that failed are retried if and only
if between any two of them that are recorded a call starts. -/
theorem failed_batches_retried_iff (A : Type) [ItemCount A] :
    (∀ (actions : List (SenderAction (List A) CoralogixError OtlpExportResponse))
      (s : SenderState (List A) CoralogixError),
      senderRun (otlpPillarTelemetrySender A) actions = some s →
        (FailuresRetried (otlpPillarTelemetrySender A) s ↔ Separated s.log)) ∧
    (∀ (actions : List (SenderAction TelemetryBatch CoralogixError OtlpExportResponse))
      (s : SenderState Telemetry CoralogixError),
      senderRun combinedTelemetrySender actions = some s →
        (FailuresRetried combinedTelemetrySender s ↔ Separated s.log)) ∧
    ∀ (actions : List (SenderAction TelemetryBatch FirehoseError Unit))
      (s : SenderState Telemetry FirehoseError),
      senderRun firehoseTelemetrySender actions = some s →
        (FailuresRetried firehoseTelemetrySender s ↔ Separated s.log) :=
  ⟨fun _ _ => senderRun_failuresRetried_iff, fun _ _ => senderRun_failuresRetried_iff,
    fun _ _ => senderRun_failuresRetried_iff⟩

theorem failed_batches_retried_iff_sequential : ∃ s,
    senderRun firehoseTelemetrySender sequentialCalls = some s ∧
      FailuresRetried firehoseTelemetrySender s := by
  obtain ⟨s, hrun, hlog⟩ := exists_sequentialCalls
  refine ⟨s, hrun, ((failed_batches_retried_iff ResourceMetrics).2.2 _ s hrun).2 ?_⟩
  rw [hlog]
  intro before between after j k h
  -- only one batch is recorded
  have hcount := congrArg (List.countP SenderEvent.isRecorded) h
  simp only [List.countP_cons, List.countP_nil, List.countP_append, SenderEvent.isRecorded,
    Bool.false_eq_true, if_false, if_true] at hcount
  omega

/-- Two calls overlap and both fail; a third one succeeds, with the batch that it retries too. -/
def overlappingCalls {B E R : Type} (batch : B) (e : E) (r : R) : List (SenderAction B E R) :=
  [.start batch, .hand 0 .resend, .hand 0 .send, .start batch, .hand 1 .resend, .hand 1 .send,
    .complete 0 .send (.error e), .finish 0, .complete 1 .send (.error e), .finish 1,
    .start batch, .hand 2 .resend, .hand 2 .send, .complete 2 .resend (.ok r),
    .complete 2 .send (.ok r), .finish 2]

/-- The third call retries the batch of the second one. -/
theorem overlappingCalls_log {B T E R : Type} (sender : RetryingSender B T E) (batch : B) (e : E)
    (r : R) (hitems : sender.hasItems (sender.convert batch) = true)
    (hretry : sender.isRetryable e = true) :
    ∃ s, senderRun sender (overlappingCalls batch e r) = some s ∧ s.log =
      [.started 0, .handed 0 0, .started 1, .handed 1 1, .returned 0 0 (.error e), .recorded 0,
        .returned 1 1 (.error e), .recorded 1, .started 2, .handed 2 1, .handed 2 2,
        .returned 2 1 (.ok ()), .returned 2 2 (.ok ())] := by
  simp [overlappingCalls, Machine.run, senderStep, SenderState.start, SenderState.hand,
    SenderState.complete, SenderState.finish, SenderState.advance, SendCall.progress,
    SendCall.batch, SendCall.setProgress, Except.map, hitems, hretry]

theorem overlappingCalls_lose {B T E R : Type} (sender : RetryingSender B T E) (batch : B) (e : E)
    (r : R) (hitems : sender.hasItems (sender.convert batch) = true)
    (hretry : sender.isRetryable e = true) :
    ∃ s, senderRun sender (overlappingCalls batch e r) = some s ∧ ¬ FailuresRetried sender s := by
  obtain ⟨s, hrun, hlog⟩ := overlappingCalls_log sender batch e r hitems hretry
  refine ⟨s, hrun, fun h => ?_⟩
  have separated := (senderRun_failuresRetried_iff hrun).1 h
  obtain ⟨i, hi⟩ := separated
    [.started 0, .handed 0 0, .started 1, .handed 1 1, .returned 0 0 (.error e)]
    [.returned 1 1 (.error e)] _ 0 1 hlog
  simp at hi

/-- The batch of the first of two overlapping calls that fail is lost. -/
theorem overlapping_calls_lose_batch :
    (∃ s, senderRun (otlpPillarTelemetrySender ResourceMetrics)
        (overlappingCalls [sampleResourceMetrics] .unavailable OtlpExportResponse.success) = some s ∧
      ¬ FailuresRetried (otlpPillarTelemetrySender ResourceMetrics) s) ∧
    (∃ s, senderRun combinedTelemetrySender
        (overlappingCalls sampleBatch .unavailable OtlpExportResponse.success) = some s ∧
      ¬ FailuresRetried combinedTelemetrySender s) ∧
    ∃ s, senderRun firehoseTelemetrySender
        (overlappingCalls sampleBatch .communication ()) = some s ∧
      ¬ FailuresRetried firehoseTelemetrySender s :=
  ⟨overlappingCalls_lose _ _ _ _ (by decide) rfl, overlappingCalls_lose _ _ _ _ (by decide) rfl,
    overlappingCalls_lose _ _ _ _ (by decide) rfl⟩

end TelemetryExporter
