import Multipath.Circuit.Health
import Multipath.Settings.Basic
/-!
# Quarantine and rebuild

A circuit that stays bad over several windows is first held at zero weight with its path kept open.
When the hold is over it is released if it got better, and torn down and built anew if it did not. A
failed rebuild holds it again, twice as long, up to a limit.
-/

namespace Multipath

inductive HoldVerdict where
  /-- There is none, or it is not over. -/
  | pending
  | release
  | rebuild
  deriving DecidableEq, Repr

namespace Health

/-- A window is bad on severe concealment, on concealment together with loss, or on concealment that
late playout does not explain. -/
def badWindow (h : Health) (rules : RebuildRules) (lateToBuffer : Float) : Bool :=
  decide (rules.severeConcealed ≤ h.concealed) ||
    (decide (rules.combinedConcealed ≤ h.concealed) &&
      decide (rules.combinedMissing ≤ h.missing)) ||
    (decide (rules.networkConcealed ≤ h.concealed) &&
      decide (lateToBuffer < rules.networkLateToBuffer))

/-- One window, and whether the bad ones have become enough for a quarantine. -/
def countWindow (h : Health) (rules : RebuildRules) (bad : Bool) : Health × Bool :=
  let badStreak := if bad then Counter.bump h.badStreak else 0
  ({ h with badStreak }, rules.badStreak.toNat ≤ badStreak)

/-- Held at zero weight for the circuit's backoff. -/
def quarantine (h : Health) (now : Instant) : Health :=
  { h with heldUntil := some (now + millis h.backoff), weight := 0.0, quarantined := true }

def holdVerdict (h : Health) (rules : RebuildRules) (now : Instant) : HoldVerdict :=
  if !h.quarantined then .pending
  else if h.heldUntil.any (now < ·) then .pending
  else if rules.rebuildStreak.toNat ≤ h.badStreak then .rebuild
  else .release

def release (h : Health) (minWeight : Float) : Health :=
  { h with
    weight := minWeight
    cleanStreak := 0
    quarantined := false
    badStreak := 0
    heldUntil := none }

/-- A rebuild begins under the next epoch. The weight stays at zero until it is answered. -/
def beginRebuild (h : Health) : Health :=
  { h with
    epoch := Counter.nextEpoch h.epoch
    rebuilding := true
    quarantined := false
    heldUntil := none
    badStreak := 0
    weight := 0.0
    cleanStreak := 0
    failures := 0
    lowDeliveries := 0 }

/-- The new path is up: the backoff starts over, and so does the count of delivered frames. -/
def completeRebuild (h : Health) (rules : RebuildRules) (minWeight : Float) : Health :=
  startPath { h with
    rebuilding := false
    rebuildFailures := 0
    backoff := rules.initialBackoff.toNat
    weight := minWeight
    cleanStreak := 0
    badStreak := 0 }

/-- The path could not be rebuilt: the circuit is held again, twice as long as the last time but no
longer than the limit, and must fail new windows before it is rebuilt again. -/
def failRebuild (h : Health) (rules : RebuildRules) (now : Instant) : Health :=
  quarantine { h with
    rebuilding := false
    rebuildFailures := Counter.bump h.rebuildFailures
    backoff := min (2 * h.backoff) rules.maxBackoff.toNat
    badStreak := 0 } now

end Health

end Multipath
