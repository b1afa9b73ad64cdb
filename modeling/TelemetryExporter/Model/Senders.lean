import Mathlib.Algebra.GroupWithZero.Nat
import TelemetryExporter.Lib.Machine
import TelemetryExporter.Model.Otlp

/-!
# Senders that retry once

`OtlpPillarTelemetrySender`, `CombinedTelemetrySender` and `FirehoseTelemetrySender`. Their
`send_telemetry` is the same, up to what is sent, which batches have something to send and which
errors are retried: it takes the batch to retry, sends both batches at the same time, and records its
own batch if it has to be retried. `SendingSupervisor` spawns one task for each call, so that the
steps of the calls interleave in any order.

A batch carries the `number` of the call that was made with it. The source has no such number: the
model sets it when the call starts, so that a statement can name a batch, and keeps a `log`. No
modelled code reads either.
-/

namespace TelemetryExporter

/-! ## Counting items -/

/-- The trait `ItemCount`. -/
class ItemCount (A : Type) where
  itemCount : A → Nat

instance {A : Type} [ItemCount A] : ItemCount (List A) where
  itemCount items := (items.map ItemCount.itemCount).sum

instance : ItemCount ResourceLogs where
  itemCount rl := (rl.scopeLogs.map (·.logRecords.length)).sum

instance : ItemCount ResourceSpans where
  itemCount rs := (rs.scopeSpans.map (·.spans.length)).sum

instance : ItemCount ResourceMetrics where
  itemCount rm := (rm.scopeMetrics.map (·.metrics.length)).sum

/-! ## Errors -/

/-- `coralogix::Error`, without its payloads, which are only logged. -/
inductive CoralogixError where
  | unauthenticated
  | badRequest
  | quotaExceeded
  | permissionDenied
  | unavailable
  | unexpectedResponse
  | internal
  deriving DecidableEq

/-- `coralogix::Error::is_retryable`. -/
def CoralogixError.isRetryable : CoralogixError → Bool
  | unauthenticated => false
  | badRequest => false
  | quotaExceeded => false
  | permissionDenied => false
  | unavailable => true
  | unexpectedResponse => true
  | internal => false

/-- `OtlpExportResponse`. All of them are successes. -/
inductive OtlpExportResponse where
  | success
  | warning (message : String)
  | partialSuccess (message : String) (droppedItems : Int)

/-- `firehose::Error`, without its payloads. -/
inductive FirehoseError where
  | communication
  | internal
  deriving DecidableEq

/-! ## The three senders -/

/-- `Telemetry`. -/
structure Telemetry where
  logs : List ResourceLogs
  spans : List ResourceSpans
  metrics : List ResourceMetrics
  epsagonTraces : List String

/-- What distinguishes the senders: what is sent for a batch, whether `send` hands it to the
transport, and which errors are retried. -/
structure RetryingSender (B T E : Type) where
  convert : B → T
  hasItems : T → Bool
  isRetryable : E → Bool

/-- `OtlpPillarTelemetrySender`. -/
def otlpPillarTelemetrySender (A : Type) [ItemCount A] :
    RetryingSender (List A) (List A) CoralogixError where
  convert toSend := toSend
  hasItems t := ItemCount.itemCount t ≠ 0
  isRetryable := CoralogixError.isRetryable

/-- `CombinedTelemetrySender`. -/
def combinedTelemetrySender : RetryingSender TelemetryBatch Telemetry CoralogixError where
  convert batch :=
    { logs := batch.logs
      spans := batch.spans
      metrics := batch.metrics
      epsagonTraces := [] } -- not supported in this context
  hasItems t :=
    ¬ (ItemCount.itemCount t.logs = 0 ∧ ItemCount.itemCount t.spans = 0 ∧
      ItemCount.itemCount t.metrics = 0)
  isRetryable := CoralogixError.isRetryable

/-- `FirehoseTelemetrySender`. -/
def firehoseTelemetrySender : RetryingSender TelemetryBatch Telemetry FirehoseError where
  convert batch :=
    { logs := batch.logs
      spans := batch.spans
      metrics := batch.metrics
      epsagonTraces := batch.epsagonTraces }
  hasItems t :=
    ItemCount.itemCount t.logs ≠ 0 ∨ ItemCount.itemCount t.spans ≠ 0 ∨
      ItemCount.itemCount t.metrics ≠ 0 ∨ t.epsagonTraces.length ≠ 0
  isRetryable _ := true

/-! ## Calls -/

/-- A batch, with the number of the call that was made with it. -/
structure NumberedBatch (T : Type) where
  number : Nat
  batch : T

/-- How far one of the two joined sends of a call is. -/
inductive Sending (E : Type) where
  | waiting
  | inFlight
  | done (result : Except E Unit)

/-- The two joined sends. -/
inductive Half where
  | resend
  | send
  deriving DecidableEq

/-- A call of `send_telemetry` that has taken the batch to retry and has not returned. -/
structure SendCall (T E : Type) where
  toRetry : Option (NumberedBatch T)
  toSend : NumberedBatch T
  retryResult : Sending E := .waiting
  result : Sending E := .waiting

namespace SendCall

variable {T E : Type}

/-- The batch of one of the sends. -/
def batch (call : SendCall T E) : Half → Option (NumberedBatch T)
  | .resend => call.toRetry
  | .send => some call.toSend

/-- How far one of the sends is. -/
def progress (call : SendCall T E) : Half → Sending E
  | .resend => call.retryResult
  | .send => call.result

/-- The call with one of the sends at this point. -/
def setProgress (call : SendCall T E) : Half → Sending E → SendCall T E
  | .resend, retryResult => { call with retryResult }
  | .send, result => { call with result }

end SendCall

/-- An entry of the log. -/
inductive SenderEvent (E : Type) where
  /-- The call has taken the batch to retry. -/
  | started (call : Nat)
  /-- The call has handed the batch to the transport. -/
  | handed (call batch : Nat)
  /-- The transport has returned. -/
  | returned (call batch : Nat) (result : Except E Unit)
  /-- The call has recorded its batch as the one to retry. -/
  | recorded (batch : Nat)

/-- The `RetryState`, with the calls in flight, how many have been started, and the `log`. -/
structure SenderState (T E : Type) where
  toRetry : Option (NumberedBatch T) := none
  inFlight : Nat → Option (SendCall T E) := fun _ => none
  started : Nat := 0
  log : List (SenderEvent E) := []

/-- What can happen next. -/
inductive SenderAction (B E R : Type) where
  /-- A call of `send_telemetry` takes the batch to retry. -/
  | start (batch : B)
  /-- `resend` or `send` of the call hands its batch to the transport, if it has items. -/
  | hand (call : Nat) (half : Half)
  /-- The transport returns. -/
  | complete (call : Nat) (half : Half) (result : Except E R)
  /-- Both sends have returned: the call writes `to_retry` and returns. -/
  | finish (call : Nat)

section

variable {B T E R : Type} (sender : RetryingSender B T E)

/-- The call has got further. -/
def SenderState.advance (s : SenderState T E) (i : Nat) (call : SendCall T E)
    (events : List (SenderEvent E)) : SenderState T E :=
  { s with inFlight := Function.update s.inFlight i (some call), log := s.log ++ events }

/-- The start of `send_telemetry`. -/
def SenderState.start (s : SenderState T E) (toSend : T) : SenderState T E :=
  { toRetry := none
    inFlight := Function.update s.inFlight s.started
      (some { toRetry := s.toRetry, toSend := ⟨s.started, toSend⟩ })
    started := s.started + 1
    log := s.log ++ [.started s.started] }

/-- `resend` or `send`, up to the `await` of the transport. -/
def SenderState.hand (s : SenderState T E) (i : Nat) (call : SendCall T E) (half : Half) :
    SenderState T E :=
  match call.batch half with
  | none => s.advance i (call.setProgress half (.done (.ok ()))) []
  | some b =>
    if sender.hasItems b.batch then
      s.advance i (call.setProgress half .inFlight) [.handed i b.number]
    else s.advance i (call.setProgress half (.done (.ok ()))) []

/-- `resend` or `send`, after the `await` of the transport. -/
def SenderState.complete (s : SenderState T E) (i : Nat) (call : SendCall T E) (half : Half)
    (result : Except E R) : SenderState T E :=
  let result := result.map fun _ => ()
  s.advance i (call.setProgress half (.done result))
    ((call.batch half).toList.map fun b => .returned i b.number result)

/-- The end of `send_telemetry`. -/
def SenderState.finish (s : SenderState T E) (i : Nat) (call : SendCall T E)
    (result : Except E Unit) : SenderState T E :=
  let s := { s with inFlight := Function.update s.inFlight i none }
  match result with
  | .ok () => s
  | .error e =>
    if sender.isRetryable e then
      { s with toRetry := some call.toSend, log := s.log ++ [.recorded call.toSend.number] }
    else s

/-- One step of one of the calls. -/
def senderStep (s : SenderState T E) : SenderAction B E R → Option (SenderState T E)
  | .start batch => some (s.start (sender.convert batch))
  | .hand i half =>
    match s.inFlight i with
    | none => none
    | some call =>
      match call.progress half with
      | .waiting => some (s.hand sender i call half)
      | _ => none
  | .complete i half result =>
    match s.inFlight i with
    | none => none
    | some call =>
      match call.progress half with
      | .inFlight => some (s.complete i call half result)
      | _ => none
  | .finish i =>
    match s.inFlight i with
    | none => none
    | some call =>
      match call.retryResult, call.result with
      | .done _, .done result => some (s.finish sender i call result)
      | _, _ => none

/-- A run of the calls of one sender. -/
abbrev senderRun (actions : List (SenderAction B E R)) : Option (SenderState T E) :=
  Machine.run (senderStep sender) {} actions

end

end TelemetryExporter
