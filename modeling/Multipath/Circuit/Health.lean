import Multipath.Call
import Multipath.Counter
import Multipath.Decimal.Binary
/-!
# The record of one circuit

What is known of a circuit: how its own sends went, what the peer reported of it, and where it stands
in the cooldown and rebuild rules. The score sums it up, and the lowest score is the best circuit.
-/

namespace Multipath

inductive CooldownCause where
  | sendFailure
  | deliveryRate
  | highMissing
  | highConcealed
  deriving DecidableEq, Repr

namespace CooldownCause

def all : List CooldownCause := [.sendFailure, .deliveryRate, .highMissing, .highConcealed]

def name : CooldownCause → String
  | .sendFailure => "send-failure"
  | .deliveryRate => "delivery-rate"
  | .highMissing => "high-missing"
  | .highConcealed => "high-plc"

end CooldownCause

/-- What the peer says of one circuit and one window. The numbers are totals, never differences. -/
structure PeerReport where
  late : Float := 0.0
  missing : Float := 0.0
  concealed : Float := 0.0
  /-- Frames the peer has received on the circuit. -/
  received : Nat := 0
  deriving DecidableEq

def PeerReport.lateOnly (late : Float) : PeerReport := { late }

structure Health where
  /-- Failed sends since the last one that went out. -/
  failures : Nat := 0
  late : Float := 0.0
  missing : Float := 0.0
  concealed : Float := 0.0
  /-- Frames sent over the whole call. -/
  sent : Nat := 0
  /-- `sent` when the path in use was built. -/
  baseline : Nat := 0
  /-- Frames received, as the peer last said. -/
  received : Nat := 0
  coolingUntil : Option Instant := none
  /-- Share of its rank's weight that the circuit has earned, between 0 and 1. -/
  weight : Float := 1.0
  cleanStreak : Nat := 0
  badStreak : Nat := 0
  lowDeliveries : Nat := 0
  heldUntil : Option Instant := none
  quarantined : Bool := false
  /-- A rebuild was asked for and has not been answered. -/
  rebuilding : Bool := false
  /-- Share of frames that missed their playout here. -/
  lateToBuffer : Float := 0.0
  rebuildFailures : Nat := 0
  /-- Length of the next quarantine, in milliseconds. -/
  backoff : Nat
  epoch : Nat := 0
  lastCause : Option CooldownCause := none
  deriving DecidableEq

namespace Health

def fresh (initialBackoff : Nat) : Health := { backoff := initialBackoff }

/-- Penalties summed from left to right. Loss and audible concealment weigh far more than lateness;
a failed send is a strong and cheap sign. -/
def score (h : Health) : Float :=
  h.late * 0.5 + h.missing * 1.5 + h.concealed * 2.0 + h.failures.toUInt64.toFloat * 5.0

/-- Place of the score in the line of doubles. A score can be undefined for two reasons: infinite
penalties that cancel place the circuit before all others, and a report that is itself undefined
places it after them. The first of the two to come up in the sum decides. -/
def standing (h : Health) : Int :=
  let cancelled := (h.late * 0.5 + h.missing * 1.5).isNaN
  let reported := h.late.isNaN || h.missing.isNaN || (h.concealed.isNaN && !cancelled)
  if h.score.isNaN && !reported then -(UInt64.size : Int) else Decimal.orderKey h.score

def cooling (h : Health) (now : Instant) : Bool :=
  match h.coolingUntil with
  | none => false
  | some time => now < time

/-- In quarantine or being rebuilt: the weight stays at zero. -/
def held (h : Health) : Bool := h.quarantined || h.rebuilding

def selectable (h : Health) (now : Instant) : Bool := !h.cooling now && decide (0.0 < h.weight)

def sentOnPath (h : Health) : Nat := h.sent - h.baseline

/-- Share of the frames sent on the path in use that the peer has received, once enough were sent. -/
def deliveryRate (h : Health) (minFrames : Nat) : Option Float :=
  if h.sentOnPath < minFrames || h.sentOnPath = 0 then none
  else some (h.received.toUInt64.toFloat / h.sentOnPath.toUInt64.toFloat)

def takeReport (h : Health) (report : PeerReport) : Health :=
  { h with
    late := report.late
    missing := report.missing
    concealed := report.concealed
    received := report.received }

/-- Delivery is counted from here on. -/
def startPath (h : Health) : Health :=
  { h with baseline := h.sent, received := 0, lowDeliveries := 0 }

def countSent (h : Health) : Health := { h with failures := 0, sent := Counter.nextTotal h.sent }

end Health

structure CircuitView where
  circuit : Nat
  health : Health
  cooling : Bool
  delivery : Option Float

def Health.view (h : Health) (circuit : Nat) (now : Instant) (minFrames : Nat) : CircuitView where
  circuit
  health := h
  cooling := h.cooling now
  delivery := h.deliveryRate minFrames

end Multipath
