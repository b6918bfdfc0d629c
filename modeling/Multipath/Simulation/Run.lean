import Multipath.Handover
import Multipath.Simulation.Network
/-!
# Simulated calls

A simulated call sends one frame every 20 ms of virtual time over a network of virtual circuits and
gives the scheduler the peer's feedback at a fixed interval. One worker rebuilds circuits: it takes
one ticket at a time, and a rebuild takes the set latency.

The worker runs after each frame, for as long as it has not to wait. When the frames are sent the call
ends; what the worker holds or has waiting is then done at once, and its answers come too late.
-/

namespace Multipath.Simulation

/-- Milliseconds between two frames. -/
def frameMillis : Nat := 20

/-- What a simulation is asked for, besides the settings of the scheduler. -/
structure Scenario where
  /-- Virtual length of the call. -/
  seconds : Nat := 120
  seed : Option UInt64 := none
  loss : List Float := []
  sendFailure : List Float := []
  /-- Milliseconds between two feedback messages. -/
  feedbackInterval : Nat := 5000
  rebuildSuccess : Float := 0.8
  /-- Milliseconds that a rebuild takes. -/
  rebuildLatency : Nat := 2000
  events : Bool := false

namespace Scenario

def frames (scenario : Scenario) : Nat := scenario.seconds * 1000 % UInt64.size / frameMillis

/-- Feedback comes with every so many frames. -/
def framesPerFeedback (scenario : Scenario) : Nat := max (scenario.feedbackInterval / frameMillis) 1

end Scenario

structure Tally where
  selected : Nat := 0
  sendFailures : Nat := 0
  lost : Nat := 0
  deriving DecidableEq, Repr

def Tally.count (t : Tally) (fate : Fate) : Tally :=
  { selected := t.selected + 1
    sendFailures := if fate = .sendFailed then t.sendFailures + 1 else t.sendFailures
    lost := if fate = .lost then t.lost + 1 else t.lost }

/-- The rebuild worker: what it is at, until when, and what came of its rebuilds. -/
structure Worker where
  busy : Option (Ticket × Nat) := none
  rebuilt : Nat := 0
  failed : Nat := 0
  /-- Answers that came too late. -/
  discarded : Nat := 0

structure State where
  clock : Clock
  call : SharedCall
  network : Network
  worker : Worker := {}
  tallies : List Tally
  /-- Events so far, oldest first. -/
  events : Array Event := #[]

namespace State

def millisNow (s : State) : Nat := s.clock.reading / 1000

def record (s : State) (notices : List Notice) : State :=
  { s with events := s.events ++ (Notice.events notices).toArray }

def operate (s : State) (operation : Operation) : Answer × State :=
  match s.call.step s.clock.reading operation with
  | none => (.nothing, s)
  | some (answer, call, notices) => (answer, { s with call }.record notices)

/-- The rebuild that the worker is at ends: the circuit is reconnected and the ticket answered. -/
def finishRebuild (s : State) (ticket : Ticket) : State :=
  let (succeeded, network) := s.network.reconnect ticket.circuit
  let outcome : Outcome := if succeeded then .rebuilt else .failed
  let (result, call, notices) := s.call.complete s.clock.reading ticket outcome
  let w := s.worker
  let worker := match result, succeeded with
    | .ok (), true => { w with busy := none, rebuilt := w.rebuilt + 1 }
    | .ok (), false => { w with busy := none, failed := w.failed + 1 }
    | .error _, _ => { w with busy := none, discarded := w.discarded + 1 }
  { s with network, call, worker }.record notices

def workOn (s : State) : State :=
  match s.worker.busy with
  | some (ticket, due) => if due ≤ s.millisNow then s.finishRebuild ticket else s
  | none => s

/-- The worker takes tickets in order. Those that it does not get to wait on. -/
def takeUp (latency : Nat) (s : State) : List Ticket → State
  | [] => s
  | ticket :: rest =>
    match s.worker.busy with
    | some _ => { s with call := { s.call with transport := .listening (ticket :: rest) } }
    | none =>
      let due := (s.millisNow + latency) % UInt64.size
      let s := { s with worker := { s.worker with busy := some (ticket, due) } }.workOn
      takeUp latency s rest

/-- The worker runs until it has to wait. -/
def work (latency : Nat) (s : State) : State :=
  let s := s.workOn
  let (waiting, transport) := s.call.transport.receive
  takeUp latency { s with call := { s.call with transport } } waiting

/-- One frame: a circuit is chosen, the frame goes to it, and the scheduler is told. -/
def sendFrame (s : State) : State :=
  let (answer, s) := s.operate .pick
  let circuit := match answer with
    | .circuit circuit => circuit
    | _ => 0
  let (fate, network) := s.network.transmit circuit
  let s := { s with network, tallies := s.tallies.modify circuit (·.count fate) }
  let told : Operation := if fate = .sendFailed then .sendFailed circuit else .sent circuit
  (s.operate told).2

/-- A feedback message. Playout blames a tenth of the late frames on itself. -/
def giveFeedback (s : State) : State :=
  let (all, network) := s.network.feedback
  let reports := all.zipIdx.map fun (report, circuit) => (circuit, report)
  let s := reports.foldl
    (fun s (circuit, report) => (s.operate (.lateToBuffer circuit (report.late * 0.1))).2)
    { s with network }
  (s.operate (.feedback reports)).2

/-- Frame number `frame`, with the feedback message that may come with it, and the worker's share of
the time. -/
def frame (scenario : Scenario) (s : State) (frame : Nat) : State :=
  let s := s.sendFrame
  let s := { s with clock := s.clock.advanceMillis frameMillis }
  let s := if frame % scenario.framesPerFeedback = 0 then s.giveFeedback else s
  s.work scenario.rebuildLatency

def frames (scenario : Scenario) (s : State) (first : Nat) : Nat → State
  | 0 => s
  | n + 1 => frames scenario (s.frame scenario first) (first + 1) n

def windUp (s : State) : State :=
  let s := { s with call := s.call.endCall }
  let s := match s.worker.busy with
    | some (ticket, _) => s.finishRebuild ticket
    | none => s
  let (waiting, transport) := s.call.transport.receive
  waiting.foldl finishRebuild { s with call := { s.call with transport } }

end State

structure CircuitSummary where
  tally : Tally
  loss : Float
  reconnects : Nat
  view : CircuitView

structure Report where
  call : CallId
  seconds : Nat
  frames : Nat
  finalPhase : Phase
  circuits : List CircuitSummary
  events : List Event
  showEvents : Bool
  rebuilt : Nat
  failed : Nat
  discarded : Nat

/-- The state before the first frame. -/
def start (settings : Settings) (scenario : Scenario) (call : CallId) (entropy : UInt64) :
    Except Refusal State := do
  let (scheduler, notices) ← Scheduler.build settings call entropy 0
  let count := settings.circuits.toNat
  let state : State :=
    { clock := {}
      call := .start scheduler (.listening [])
      network := .make scenario.loss scenario.sendFailure count scenario.rebuildSuccess
        (scenario.seed.getD entropy)
      tallies := List.replicate count {} }
  return state.record notices

/-- A whole simulated call. The entropy takes the place of missing seeds. -/
def run (settings : Settings) (scenario : Scenario) (call : CallId) (entropy : UInt64) :
    Except Refusal Report := do
  let first ← start settings scenario call entropy
  let last := first.frames scenario 1 scenario.frames
  let (finalPhase, views) := match last.call.scheduler with
    | some s => (s.phase last.clock.reading, s.views last.clock.reading)
    | none => (.establishment, [])
  let rest := last.windUp
  return {
    call
    seconds := scenario.seconds
    frames := scenario.frames
    finalPhase
    circuits := (views.zip (rest.tallies.zip rest.network.circuits)).map
      fun (view, tally, c) => { tally, loss := c.loss, reconnects := c.reconnects, view }
    events := rest.events.toList
    showEvents := scenario.events
    rebuilt := rest.worker.rebuilt
    failed := rest.worker.failed
    discarded := rest.worker.discarded }

end Multipath.Simulation
