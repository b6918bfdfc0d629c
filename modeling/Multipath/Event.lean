import Multipath.Circuit.Health
import Multipath.Text.Json
/-!
# Events

Every step of a circuit's cooldown and rebuild is an event. Events are what an observer of a call
records; their order is the order of the steps.
-/

namespace Multipath

inductive Event where
  | cooldownTriggered (circuit : Nat) (cause : CooldownCause)
  /-- No circuit could be chosen, and this one was forced back into service. -/
  | rescued (circuit : Nat)
  | quarantined (circuit backoff : Nat)
  /-- The quarantine is over and the circuit got better. -/
  | quarantineReleased (circuit : Nat)
  | rebuildRequested (circuit epoch : Nat)
  /-- Another circuit is being rebuilt; this one waits for a later window. -/
  | rebuildDeferred (circuit : Nat)
  | rebuildSucceeded (circuit epoch : Nat)
  | rebuildFailed (circuit failures backoff : Nat)
  deriving DecidableEq, Repr

namespace Event

def circuit : Event → Nat
  | cooldownTriggered circuit _ | rescued circuit | quarantined circuit _
  | quarantineReleased circuit | rebuildRequested circuit _ | rebuildDeferred circuit
  | rebuildSucceeded circuit _ | rebuildFailed circuit _ _ => circuit

def kind : Event → String
  | cooldownTriggered .. => "cooldown_triggered"
  | rescued .. => "rescued"
  | quarantined .. => "quarantined"
  | quarantineReleased .. => "quarantine_released"
  | rebuildRequested .. => "rebuild_requested"
  | rebuildDeferred .. => "rebuild_deferred"
  | rebuildSucceeded .. => "rebuild_succeeded"
  | rebuildFailed .. => "rebuild_failed"

def details : Event → List (String × Json)
  | cooldownTriggered _ cause => [("reason", .text cause.name)]
  | quarantined _ backoff => [("backoff_ms", .count backoff)]
  | rebuildRequested _ epoch | rebuildSucceeded _ epoch => [("epoch", .count epoch)]
  | rebuildFailed _ failures backoff =>
    [("failures", .count failures), ("backoff_ms", .count backoff)]
  | rescued _ | quarantineReleased _ | rebuildDeferred _ => []

def members (event : Event) : List (String × Json) :=
  ("event", .text event.kind) :: ("circuit", .count event.circuit) :: event.details

end Event

end Multipath
