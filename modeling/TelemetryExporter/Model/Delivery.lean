import TelemetryExporter.Model.TelemetrySenders

/-!
# Delivery

`SendingSupervisor` spawns one task for each batch. The task calls
`CompositeTelemetrySender::send_telemetry`, which makes one call for each lane that there is and
awaits them together, so a task is finished when all its calls have returned. The calls of all tasks
interleave, and those of one lane share its retry state.
-/

namespace TelemetryExporter

/-! ## Results of the transport -/

/-- `tonic::Code`. -/
inductive Code where
  | ok
  | cancelled
  | unknown
  | invalidArgument
  | deadlineExceeded
  | notFound
  | alreadyExists
  | permissionDenied
  | resourceExhausted
  | failedPrecondition
  | aborted
  | outOfRange
  | unimplemented
  | internal
  | unavailable
  | dataLoss
  | unauthenticated
  deriving DecidableEq

/-- `handle_service_error`. -/
def handleServiceError : Code → CoralogixError
  | .unauthenticated => .unauthenticated
  | .resourceExhausted => .quotaExceeded
  | .invalidArgument => .badRequest
  | .internal => .unavailable
  | .deadlineExceeded => .unavailable
  | .unavailable => .unavailable
  | .permissionDenied => .permissionDenied
  | _ => .unexpectedResponse

/-- `ExportLogsPartialSuccess` and its likes. -/
structure PartialSuccess where
  rejected : Int
  errorMessage : String

/-- The response of an export, by its `partial_success`. -/
def exportResponse : Option PartialSuccess → OtlpExportResponse
  | none => .success
  | some p =>
    if p.rejected = 0 ∧ p.errorMessage.isEmpty then .success
    else if p.rejected = 0 then .warning p.errorMessage
    else .partialSuccess p.errorMessage p.rejected

/-- What the transport of an OTLP sender comes back with. -/
inductive OtlpOutcome where
  | response (partialSuccess : Option PartialSuccess)
  | status (code : Code)
  /-- The request could not be made: its metadata is malformed. -/
  | malformed

/-- `OtlpSender::send`. -/
def OtlpOutcome.result : OtlpOutcome → Except CoralogixError OtlpExportResponse
  | response partialSuccess => .ok (exportResponse partialSuccess)
  | status code => .error (handleServiceError code)
  | malformed => .error .internal

namespace Lane

/-- What the transport of the lane comes back with. -/
def Outcome : Lane → Type
  | firehose => Except FirehoseError Unit
  | _ => OtlpOutcome

/-- The result of `send`, up to the response of a success, which is only logged. -/
def result : (lane : Lane) → lane.Outcome → Except lane.SendError Unit
  | logs, outcome => outcome.result.map fun _ => ()
  | traces, outcome => outcome.result.map fun _ => ()
  | metrics, outcome => outcome.result.map fun _ => ()
  | mainLogs, outcome => outcome.result.map fun _ => ()
  | mainSpans, outcome => outcome.result.map fun _ => ()
  | mainMetrics, outcome => outcome.result.map fun _ => ()
  | combined, outcome => outcome.result.map fun _ => ()
  | firehose, outcome => outcome

end Lane

/-! ## The calls of a lane -/

/-- A call of the lane's `send_telemetry`: its future has not been polled, or it is this call of the
sender. -/
inductive LaneCall (B : Type) where
  | waiting (toSend : B)
  | started (number : Nat)

/-- The sender of a lane, and the calls that tasks have made of it. -/
structure LaneState (B T E : Type) where
  sender : SenderState T E := {}
  calls : Nat → Option (LaneCall B) := fun _ => none

namespace LaneState

variable {B T E : Type}

/-- The task makes a call, if the batch has something for the lane. -/
def call (s : LaneState B T E) (task : Nat) : Option B → LaneState B T E
  | none => s
  | some toSend => { s with calls := Function.update s.calls task (some (.waiting toSend)) }

/-- The call of the task has returned, or there is none. -/
def finished (s : LaneState B T E) (task : Nat) : Bool :=
  match s.calls task with
  | none => true
  | some (.waiting _) => false
  | some (.started number) => (s.sender.inFlight number).isNone

/-- What can happen in a lane. -/
inductive Action (E : Type) where
  /-- The call of the task is polled for the first time. -/
  | start (task : Nat)
  | hand (call : Nat) (half : Half)
  | complete (call : Nat) (half : Half) (result : Except E Unit)
  | finish (call : Nat)

/-- One step of one of the calls. -/
def step (sender : RetryingSender B T E) (s : LaneState B T E) : Action E → Option (LaneState B T E)
  | .start task =>
    match s.calls task with
    | some (.waiting toSend) =>
      (senderStep (R := Unit) sender s.sender (.start toSend)).map fun sender' =>
        { sender := sender'
          calls := Function.update s.calls task (some (.started s.sender.started)) }
    | _ => none
  | .hand call half =>
    (senderStep (R := Unit) sender s.sender (.hand call half)).map ({ s with sender := · })
  | .complete call half result =>
    (senderStep sender s.sender (.complete call half result)).map ({ s with sender := · })
  | .finish call =>
    (senderStep (R := Unit) sender s.sender (.finish call)).map ({ s with sender := · })

end LaneState

/-! ## All lanes -/

/-- The lanes, and how many tasks have been spawned. -/
structure Delivery where
  lanes : (lane : Lane) → LaneState lane.Input lane.Message lane.SendError := fun _ => {}
  tasks : Nat := 0

/-- What can happen to the tasks. -/
inductive DeliveryAction where
  /-- The lane's call of the task is polled for the first time. -/
  | start (lane : Lane) (task : Nat)
  /-- One of the two sends of a call hands its batch to the transport. -/
  | hand (lane : Lane) (call : Nat) (half : Half)
  /-- The transport comes back. -/
  | complete (lane : Lane) (call : Nat) (half : Half) (outcome : lane.Outcome)
  /-- Both sends of the call have returned. -/
  | finish (lane : Lane) (call : Nat)

namespace Delivery

/-- `SendingSupervisor::send`: the number of the new task is that of the tasks before. -/
def spawn (senders : CompositeTelemetrySender) (batch : TelemetryBatch) (d : Delivery) : Delivery :=
  { lanes := fun lane => (d.lanes lane).call d.tasks (senders.route batch lane)
    tasks := d.tasks + 1 }

/-- `JoinHandle::is_finished` of a task. -/
def finished (d : Delivery) (task : Nat) : Bool :=
  Lane.all.all fun lane => (d.lanes lane).finished task

/-- The lane has got further. -/
def setLane (d : Delivery) (lane : Lane)
    (s : LaneState lane.Input lane.Message lane.SendError) : Delivery :=
  { d with lanes := Function.update d.lanes lane s }

@[simp] theorem setLane_lanes_self (d : Delivery) (lane : Lane)
    (s : LaneState lane.Input lane.Message lane.SendError) : (d.setLane lane s).lanes lane = s :=
  Function.update_self ..

@[simp] theorem setLane_lanes_ne {d : Delivery} {lane lane' : Lane} (h : lane' ≠ lane)
    (s : LaneState lane.Input lane.Message lane.SendError) :
    (d.setLane lane s).lanes lane' = d.lanes lane' :=
  Function.update_of_ne h ..

/-- One step of one of the tasks. -/
def step (d : Delivery) : DeliveryAction → Option Delivery
  | .start lane task => ((d.lanes lane).step lane.sender (.start task)).map (d.setLane lane)
  | .hand lane call half => ((d.lanes lane).step lane.sender (.hand call half)).map (d.setLane lane)
  | .complete lane call half outcome =>
    ((d.lanes lane).step lane.sender (.complete call half (lane.result outcome))).map (d.setLane lane)
  | .finish lane call => ((d.lanes lane).step lane.sender (.finish call)).map (d.setLane lane)

end Delivery

end TelemetryExporter
