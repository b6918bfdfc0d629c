import Multipath.Circuit.Cooldown
import Multipath.Circuit.Rebuild
import Multipath.Journal
/-!
# One circuit's turn

Almost everything that happens to a circuit depends on its own record, on the time, and on one thing
it shares with the others: whether the call's single rebuild slot is taken. A `Turn` is what such a
step does: the record afterwards, the notices, and what becomes of the slot. Turns are put together
with `Turn.andThen`; only the scheduler touches more than one circuit.
-/

namespace Multipath

/-- What a turn does with the rebuild slot of the call. -/
inductive SlotUse where
  | keep
  /-- The circuit's rebuild begins under this epoch. -/
  | take (epoch : Nat)
  /-- The circuit's rebuild has ended. -/
  | free
  deriving DecidableEq, Repr

structure Turn where
  health : Health
  notices : List Notice := []
  slot : SlotUse := .keep

structure Scene where
  settings : Settings
  now : Instant
  phase : Phase
  circuit : Nat
  /-- The circuit whose rebuild is in flight. -/
  holder : Option Nat

namespace Turn

/-- A second turn of the same circuit, in the same circumstances. -/
def andThen (t : Turn) (next : Health → Turn) : Turn :=
  let u := next t.health
  { health := u.health
    notices := t.notices ++ u.notices
    slot := match u.slot with
      | .keep => t.slot
      | use => use }

end Turn

namespace Scene

def minWeight (scene : Scene) : Float := scene.settings.selection.minWeight

def minFrames (scene : Scene) : Nat := scene.settings.cooldown.minFrames.toNat

def coolDown (scene : Scene) (cause : CooldownCause) (h : Health) : Turn :=
  let rules := scene.settings.cooldown
  { health := h.coolDown rules scene.minWeight cause scene.now
    notices := [.cooldownStarted scene.circuit cause rules.duration.toNat,
      .event (.cooldownTriggered scene.circuit cause)] }

def sendFailed (scene : Scene) (h : Health) : Turn :=
  let rules := scene.settings.cooldown
  let threshold := rules.failureThreshold.toNat
  match h.countFailure rules with
  | (h, true) =>
    Turn.andThen { health := h, notices := [.thresholdReached scene.circuit threshold] }
      (scene.coolDown .sendFailure)
  | (h, false) =>
    { health := h, notices := [.failureCounted scene.circuit h.failures threshold] }

/-- The cooldown rules look at a window. A cooldown that is running is neither extended nor given
another cause. -/
def judge (scene : Scene) (h : Health) : Turn :=
  let verdict := h.judge scene.settings.cooldown scene.phase
  let h := verdict.health
  let seen : Turn :=
    { health := h
      notices := verdict.low.toList.map fun low =>
        .lowDelivery low.rate low.floor low.windows low.persistent low.audible }
  match verdict.cause with
  | none => seen
  | some cause =>
    let due : Turn :=
      { seen with
        notices := seen.notices ++
          [.cooldownDue scene.circuit scene.phase h.missing h.concealed cause] }
    if h.cooling scene.now then due else due.andThen (scene.coolDown cause)

/-- The ramp looks at a window, when the circuit is in service below its full weight. -/
def ramp (scene : Scene) (h : Health) : Turn :=
  if !h.cooling scene.now && decide (0.0 < h.weight) && decide (h.weight < 1.0) then
    match h.ramp scene.settings.cooldown with
    | (h, true) => { health := h, notices := [.rampGrew scene.circuit h.weight] }
    | (h, false) =>
      { health := h, notices := if h.cleanStreak = 0 then [.rampReset scene.circuit] else [] }
  else { health := h }

def quarantine (scene : Scene) (h : Health) : Turn :=
  { health := h.quarantine scene.now
    notices := [.quarantineStarted scene.circuit h.backoff h.concealed h.badStreak h.rebuildFailures,
      .event (.quarantined scene.circuit h.backoff)] }

/-- The rebuild rules look at a window, when the call has settled and enough frames were sent on the
path. A circuit with enough bad windows is held, unless it is held already or another one is being
rebuilt. -/
def countWindow (scene : Scene) (lateToBuffer : Float) (h : Health) : Turn :=
  let rules := scene.settings.rebuild
  if !scene.phase.settled || h.sentOnPath < scene.minFrames then { health := h }
  else
    let bad := h.badWindow rules lateToBuffer
    let (counted, due) := h.countWindow rules bad
    let remarks : List Notice :=
      if bad then [.badWindow scene.circuit counted.badStreak counted.concealed counted.missing]
      else if 0 < h.badStreak then [.streakReset scene.circuit h.badStreak]
      else []
    let seen : Turn := { health := counted, notices := remarks }
    if due && !counted.held && scene.holder.isNone then seen.andThen scene.quarantine else seen

/-- The rebuild of a circuit begins, or waits while another one is in flight. -/
def requestRebuild (scene : Scene) (h : Health) : Turn :=
  match scene.holder with
  | some holder =>
    { health := h
      notices := [.slotTaken scene.circuit holder, .event (.rebuildDeferred scene.circuit)] }
  | none =>
    let begun := h.beginRebuild
    { health := begun
      notices := [.rebuildStarted scene.circuit begun.epoch h.concealed h.score,
        .event (.rebuildRequested scene.circuit begun.epoch)]
      slot := .take begun.epoch }

/-- A quarantine that is over ends in a release or in a rebuild. -/
def checkQuarantine (scene : Scene) (h : Health) : Turn :=
  match h.holdVerdict scene.settings.rebuild scene.now with
  | .pending => { health := h }
  | .release =>
    { health := h.release scene.minWeight
      notices := [.recovered scene.circuit, .event (.quarantineReleased scene.circuit)] }
  | .rebuild => scene.requestRebuild h

/-- All rules look at one feedback window, in their order. -/
def judgeWindow (scene : Scene) (h : Health) : Turn :=
  let t := (scene.judge h).andThen scene.ramp
  let t :=
    if scene.settings.rebuild.onFeedback then
      t.andThen fun h => scene.countWindow h.lateToBuffer h
    else t
  if t.health.quarantined then t.andThen scene.checkQuarantine else t

/-- A peer's report is always stored; it is judged once the call has settled and the peer has received
enough frames. -/
def feedback (scene : Scene) (report : PeerReport) (h : Health) : Turn :=
  let h := h.takeReport report
  if scene.phase.settled && decide (scene.minFrames ≤ report.received) then scene.judgeWindow h
  else { health := h }

/-- The transport rebuilt the path under this epoch. -/
def rebuilt (scene : Scene) (epoch : Nat) (h : Health) : Turn :=
  { health := h.completeRebuild scene.settings.rebuild scene.minWeight
    notices := [.rebuildDone scene.circuit epoch, .event (.rebuildSucceeded scene.circuit epoch)]
    slot := .free }

/-- The transport could not rebuild the path. Nothing happens when it was not asked to. -/
def rebuildFailed (scene : Scene) (h : Health) : Turn :=
  if h.rebuilding then
    let h := h.failRebuild scene.settings.rebuild scene.now
    { health := h
      notices := [.rebuildLost scene.circuit h.rebuildFailures h.backoff,
        .event (.rebuildFailed scene.circuit h.rebuildFailures h.backoff)]
      slot := .free }
  else { health := h, notices := [.strayFailure scene.circuit h.epoch] }

end Scene

end Multipath
