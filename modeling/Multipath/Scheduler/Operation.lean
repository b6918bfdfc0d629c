import Multipath.Scheduler.Pick
/-!
# Operations

Everything that can be asked of a scheduler, as data, and `Scheduler.step`, which carries one operation
out. A call is a list of operations with the times at which they are made.
-/

namespace Multipath

inductive Operation where
  /-- The circuit for the next frame. -/
  | pick
  | sent (circuit : Nat)
  | sendFailed (circuit : Nat)
  /-- The share of frames that missed their playout here, kept for the next window. -/
  | lateToBuffer (circuit : Nat) (percent : Float)
  /-- A feedback message of the peer, circuit by circuit. -/
  | feedback (reports : List (Nat × PeerReport))
  /-- A feedback message of a peer that only measures lateness. -/
  | lateness (percents : List (Nat × Float))
  /-- A window for the rebuild rules alone. -/
  | countWindow (circuit : Nat) (lateToBuffer : Float)
  /-- Has a quarantine come to its end? -/
  | checkQuarantine (circuit : Nat)
  | rebuilt (circuit epoch : Nat)
  | rebuildFailed (circuit : Nat)
  /-- The answer to a ticket. -/
  | complete (ticket : Ticket) (outcome : Outcome)
  /-- Hands the rebuilds that were begun to the transport. -/
  | takeRequests

inductive Answer where
  | nothing
  | circuit (circuit : Nat)
  | result (result : Except Refusal Unit)
  | tickets (tickets : List Ticket)

structure Completion where
  result : Except Refusal Unit
  scheduler : Scheduler
  notices : List Notice := []

structure Step where
  answer : Answer := .nothing
  scheduler : Scheduler
  notices : List Notice := []

namespace Scheduler

def takeReports (s : Scheduler) (now : Instant) : List (Nat × PeerReport) → Scheduler × List Notice
  | [] => (s, [])
  | (circuit, report) :: rest =>
    let (s, first) := s.act now circuit "update_from_receiver_feedback" (·.feedback report)
    let (s, others) := s.takeReports now rest
    (s, first ++ others)

/-- A feedback message, followed by the state of all circuits. -/
def feedback (s : Scheduler) (now : Instant) (reports : List (Nat × PeerReport)) :
    Scheduler × List Notice :=
  let (s, notices) := s.takeReports now reports
  (s, notices ++ [.health (s.healthReport now)])

/-- The circuit with its record, or the refusal of a number that is none's. -/
def lookUp (s : Scheduler) (circuit : Nat) : Except Refusal Health :=
  match s.circuits[circuit]? with
  | some h => .ok h
  | none => .error (.noSuchCircuit circuit s.size)

/-- The record of a circuit whose rebuild is in flight under `epoch`. -/
def awaiting (s : Scheduler) (circuit epoch : Nat) : Except Refusal Health := do
  let h ← s.lookUp circuit
  if h.rebuilding && h.epoch = epoch then .ok h else .error (.staleRebuild circuit epoch h.epoch)

/-- The transport rebuilt a circuit. Refused unless its rebuild is in flight under this epoch. -/
def rebuilt (s : Scheduler) (now : Instant) (circuit epoch : Nat) : Completion :=
  match s.awaiting circuit epoch with
  | .ok h =>
    let t := (s.scene now circuit).rebuilt epoch h
    { result := .ok (), scheduler := s.apply circuit t, notices := t.notices }
  | .error refusal =>
    { result := .error refusal
      scheduler := s
      notices := match refusal with
        | .staleRebuild circuit epoch current => [.staleCompletion circuit epoch current]
        | _ => [] }

def rebuildFailed (s : Scheduler) (now : Instant) (circuit : Nat) : Scheduler × List Notice :=
  s.act now circuit "on_circuit_rebuild_failed" (·.rebuildFailed)

/-- The answer to a ticket, which counts only while that very ticket is in flight. -/
def complete (s : Scheduler) (now : Instant) (ticket : Ticket) (outcome : Outcome) :
    Completion :=
  if ticket.call ≠ s.call then
    { result := .error (.foreignCall ticket.call.text s.call.text), scheduler := s }
  else match outcome with
    | .rebuilt => s.rebuilt now ticket.circuit ticket.epoch
    | .failed =>
      match s.awaiting ticket.circuit ticket.epoch with
      | .error refusal => { result := .error refusal, scheduler := s }
      | .ok _ =>
        let (s, notices) := s.rebuildFailed now ticket.circuit
        { result := .ok (), scheduler := s, notices }

def step (s : Scheduler) (now : Instant) : Operation → Step
  | .pick =>
    let (circuit, s, notices) := s.pick now
    { answer := .circuit circuit, scheduler := s, notices }
  | .sent circuit => quiet (s.act now circuit "report_send_success" fun _ h => { health := h.countSent })
  | .sendFailed circuit => quiet (s.act now circuit "report_send_failure" (·.sendFailed))
  | .lateToBuffer circuit percent =>
    quiet (s.act now circuit "report_late_to_buffer"
      fun _ h => { health := { h with lateToBuffer := percent } })
  | .feedback reports => quiet (s.feedback now reports)
  | .lateness percents =>
    quiet (s.feedback now (percents.map fun (circuit, late) => (circuit, .lateOnly late)))
  | .countWindow circuit lateToBuffer =>
    quiet (s.act now circuit "evaluate_circuit_rebuild" (·.countWindow lateToBuffer))
  | .checkQuarantine circuit =>
    quiet (s.act now circuit "check_quarantine_recovery" (·.checkQuarantine))
  | .rebuilt circuit epoch => answered (s.rebuilt now circuit epoch)
  | .rebuildFailed circuit => quiet (s.rebuildFailed now circuit)
  | .complete ticket outcome => answered (s.complete now ticket outcome)
  | .takeRequests =>
    { answer := .tickets s.pending, scheduler := { s with pending := [] } }
where
  quiet (r : Scheduler × List Notice) : Step := { scheduler := r.1, notices := r.2 }
  answered (c : Completion) : Step :=
    { answer := .result c.result, scheduler := c.scheduler, notices := c.notices }

end Scheduler

end Multipath
