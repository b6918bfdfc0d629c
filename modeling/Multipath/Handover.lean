import Multipath.Scheduler.Operation
/-!
# Handing rebuilds over

A call in use is a scheduler together with the transport that its rebuilds go to. Operations come one
at a time. Those that can begin a rebuild are followed by a handover: every pending ticket goes to the
transport, or, when there is nobody to take it, is answered as failed at once. Tickets outlive the
call; an answer that comes after its end is refused.
-/

namespace Multipath

inductive Transport where
  /-- Nobody ever did. -/
  | absent
  /-- Tickets wait in order to be received. -/
  | listening (waiting : List Ticket)
  /-- Somebody did and has left. -/
  | gone
  deriving DecidableEq, Repr

namespace Transport

def receive : Transport → List Ticket × Transport
  | listening waiting => (waiting, listening [])
  | transport => ([], transport)

/-- Waiting tickets are lost with a listener that leaves. -/
def hangUp : Transport → Transport
  | listening _ => gone
  | transport => transport

end Transport

/-- Can an operation begin a rebuild? -/
def Operation.handsOver : Operation → Bool
  | feedback _ | lateness _ | countWindow .. | checkQuarantine _ => true
  | _ => false

structure SharedCall where
  call : CallId
  /-- None after the end of the call. -/
  scheduler : Option Scheduler
  transport : Transport

namespace SharedCall

def start (s : Scheduler) (transport : Transport) : SharedCall := ⟨s.call, some s, transport⟩

/-- One ticket goes to the transport, or comes back as a failure. -/
def offer (s : Scheduler) (transport : Transport) (now : Instant) (ticket : Ticket) :
    Scheduler × Transport × List Notice :=
  match transport with
  | .listening waiting => (s, .listening (waiting ++ [ticket]), [])
  | .absent => refuse (.noRequester ticket.circuit ticket.epoch)
  | .gone => refuse (.requesterGone ticket.circuit ticket.epoch)
where
  refuse (remark : Notice) : Scheduler × Transport × List Notice :=
    let done := s.complete now ticket .failed
    let discarded : List Notice := match done.result with
      | .error refusal => [.failureDiscarded ticket.circuit refusal]
      | .ok () => []
    (done.scheduler, transport, remark :: done.notices ++ discarded)

def offerAll (s : Scheduler) (transport : Transport) (now : Instant) :
    List Ticket → Scheduler × Transport × List Notice
  | [] => (s, transport, [])
  | ticket :: rest =>
    let (s, transport, first) := offer s transport now ticket
    let (s, transport, others) := offerAll s transport now rest
    (s, transport, first ++ others)

/-- The call with a scheduler whose pending rebuilds have been handed over. -/
def handOver (c : SharedCall) (s : Scheduler) (now : Instant) : SharedCall × List Notice :=
  let (s', transport, notices) := offerAll { s with pending := [] } c.transport now s.pending
  ({ c with scheduler := some s', transport }, notices)

/-- One operation, and the handover if it calls for one. Nothing is answered after the end. -/
def step (c : SharedCall) (now : Instant) (operation : Operation) :
    Option (Answer × SharedCall × List Notice) :=
  c.scheduler.map fun s =>
    let step := s.step now operation
    if operation.handsOver then
      let (c, notices) := c.handOver step.scheduler now
      (step.answer, c, step.notices ++ notices)
    else (step.answer, { c with scheduler := some step.scheduler }, step.notices)

def complete (c : SharedCall) (now : Instant) (ticket : Ticket) (outcome : Outcome) :
    Except Refusal Unit × SharedCall × List Notice :=
  match c.scheduler with
  | none => (.error (.callEnded c.call.text), c, [.lateCompletion c.call ticket.circuit])
  | some s =>
    let done := s.complete now ticket outcome
    (done.result, { c with scheduler := some done.scheduler }, done.notices)

def endCall (c : SharedCall) : SharedCall := { c with scheduler := none }

end SharedCall

end Multipath
