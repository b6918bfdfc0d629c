import Multipath.Random.Generator
import Multipath.Scheduler.Turn
import Multipath.Selection
import Multipath.Settings.Check
/-!
# The scheduler of one call

A scheduler holds the records of a call's circuits, the burst in progress, the generator of its
choices, and the one rebuild that may be in flight. It has no clock: every operation is told the time
and answers with the scheduler afterwards and the notices in their order.
-/

namespace Multipath

structure Scheduler where
  call : CallId
  settings : Settings
  start : Instant
  circuits : List Health
  burst : Burst
  generator : Random.Generator
  /-- The rebuild that awaits its answer. -/
  inFlight : Option Ticket := none
  /-- Rebuilds begun and not yet handed to the transport, oldest first. -/
  pending : List Ticket := []

namespace Scheduler

/-- The state at the start of a call. The burst is over and stands on the last circuit, so that the
first probe goes to circuit 0. The entropy takes the place of a missing seed. -/
def fresh (settings : Settings) (call : CallId) (entropy : UInt64) (now : Instant) : Scheduler where
  call
  settings
  start := now
  circuits :=
    List.replicate settings.circuits.toNat (.fresh settings.rebuild.initialBackoff.toNat)
  burst := ⟨settings.circuits.toNat - 1, Counter.limit⟩
  generator := .ofSeed (settings.selection.seed.getD entropy)

/-- A scheduler for settings that pass every check. -/
def build (settings : Settings) (call : CallId) (entropy : UInt64) (now : Instant) :
    Except Refusal (Scheduler × List Notice) :=
  if settings.circuits = 0 then .error (.noCircuits 0)
  else match settings.check with
    | .error flaw => .error (.invalidSettings flaw.message)
    | .ok () =>
      let extra := settings.spareRankWeights
      .ok (fresh settings call entropy now,
        if 0 < extra then [.spareWeights extra settings.circuits.toNat] else [])

def size (s : Scheduler) : Nat := s.circuits.length

/-- Time since the call started; none before it did. -/
def elapsed (s : Scheduler) (now : Instant) : Nat := now - s.start

def phase (s : Scheduler) (now : Instant) : Phase := s.settings.phases.phaseAt (s.elapsed now)

def scene (s : Scheduler) (now : Instant) (circuit : Nat) : Scene where
  settings := s.settings
  now
  phase := s.phase now
  circuit
  holder := s.inFlight.map Ticket.circuit

/-- The scheduler after a circuit's turn. A slot is only freed by the circuit that holds it. -/
def apply (s : Scheduler) (circuit : Nat) (turn : Turn) : Scheduler :=
  let s := { s with circuits := s.circuits.set circuit turn.health }
  match turn.slot with
  | .keep => s
  | .take epoch =>
    let ticket : Ticket := ⟨s.call, circuit, epoch⟩
    { s with inFlight := some ticket, pending := s.pending ++ [ticket] }
  | .free =>
    if s.inFlight.any (·.circuit = circuit) then { s with inFlight := none } else s

/-- One circuit takes its turn; a circuit that does not exist is ignored with a remark. -/
def act (s : Scheduler) (now : Instant) (circuit : Nat) (operation : String)
    (turn : Scene → Health → Turn) : Scheduler × List Notice :=
  match s.circuits[circuit]? with
  | none => (s, [.strayCircuit circuit s.size operation])
  | some h =>
    let t := turn (s.scene now circuit) h
    (s.apply circuit t, t.notices)

def minFrames (s : Scheduler) : Nat := s.settings.cooldown.minFrames.toNat

def views (s : Scheduler) (now : Instant) : List CircuitView :=
  s.circuits.zipIdx.map fun (h, circuit) => h.view circuit now s.minFrames

def healthReport (s : Scheduler) (now : Instant) : HealthReport where
  phase := s.phase now
  elapsed := s.elapsed now
  views := s.views now

end Scheduler

end Multipath
