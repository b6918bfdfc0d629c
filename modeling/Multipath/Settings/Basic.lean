import Multipath.Call
/-!
# Settings

Every number that steers the scheduler, with its default. Counts that a settings file bounds by 32 or
64 bits have that width here; a time is in milliseconds, a percentage lies between 0 and 100 once the
settings are checked.
-/

namespace Multipath

structure SelectionRules where
  /-- Consecutive frames sent on one circuit before a new choice. -/
  burstSize : UInt32 := 4
  /-- Share of the circuit at each rank, healthiest first. Ranks past the end have none. -/
  rankWeights : List Float := [0.70, 0.20, 0.10]
  /-- Weight of a circuit that starts to earn its share back. -/
  minWeight : Float := 0.05
  /-- Seed of the choices, for runs that can be repeated. -/
  seed : Option UInt64 := none
  deriving BEq, DecidableEq

structure PhaseBounds where
  establishment : UInt64 := 3000
  warmup : UInt64 := 15000
  relaxed : UInt64 := 45000
  deriving BEq, DecidableEq

structure CooldownRules where
  duration : UInt64 := 8000
  /-- Consecutive send failures that start a cooldown. -/
  failureThreshold : UInt32 := 3
  /-- Frames that must have been sent and received before a circuit is judged. -/
  minFrames : UInt64 := 30
  relaxedMissing : Float := 15.0
  relaxedConcealed : Float := 10.0
  strictMissing : Float := 5.0
  strictConcealed : Float := 5.0
  relaxedDelivery : Float := 0.85
  strictDelivery : Float := 0.92
  /-- Consecutive windows of low delivery that start a cooldown on their own. -/
  lowDeliveryWindows : UInt32 := 2
  /-- Concealment above which a single window of low delivery is enough. -/
  audibleConcealed : Float := 3.0
  cleanMissing : Float := 2.0
  cleanConcealed : Float := 3.0
  cleanLate : Float := 5.0
  /-- Consecutive clean windows before the weight grows. -/
  cleanStreak : UInt32 := 2
  rampFactor : Float := 1.5
  deriving BEq, DecidableEq

structure RebuildRules where
  /-- Concealment that makes a window bad by itself. -/
  severeConcealed : Float := 12.0
  /-- Concealment that makes a window bad together with `combinedMissing`. -/
  combinedConcealed : Float := 8.0
  combinedMissing : Float := 5.0
  /-- Concealment that makes a window bad when late playout does not explain it. -/
  networkConcealed : Float := 10.0
  /-- Rate of late playout below which the network is to blame. -/
  networkLateToBuffer : Float := 1.0
  /-- Consecutive bad windows that start a quarantine. -/
  badStreak : UInt32 := 3
  /-- Bad windows still counted at the end of a quarantine that call for a rebuild. -/
  rebuildStreak : UInt32 := 2
  initialBackoff : UInt64 := 10000
  maxBackoff : UInt64 := 60000
  /-- Every feedback window also counts for the rebuild rules. -/
  onFeedback : Bool := true
  deriving BEq, DecidableEq

structure Settings where
  circuits : UInt64 := 3
  selection : SelectionRules := {}
  phases : PhaseBounds := {}
  cooldown : CooldownRules := {}
  rebuild : RebuildRules := {}
  deriving BEq, DecidableEq

def PhaseBounds.phaseAt (bounds : PhaseBounds) (elapsed : Nat) : Phase :=
  let ms := elapsed / 1000
  if ms < bounds.establishment.toNat then .establishment
  else if ms < bounds.warmup.toNat then .warmup
  else if ms < bounds.relaxed.toNat then .relaxed
  else .strict

/-- The most missing and the most concealed frames of a phase, in percent. Before the call has
settled there is no limit. -/
def CooldownRules.quality (rules : CooldownRules) : Phase → Option (Float × Float)
  | .establishment | .warmup => none
  | .relaxed => some (rules.relaxedMissing, rules.relaxedConcealed)
  | .strict => some (rules.strictMissing, rules.strictConcealed)

/-- The least share of delivered frames of a phase. -/
def CooldownRules.delivery (rules : CooldownRules) : Phase → Option Float
  | .establishment | .warmup => none
  | .relaxed => some rules.relaxedDelivery
  | .strict => some rules.strictDelivery

theorem CooldownRules.quality_isSome (rules : CooldownRules) (phase : Phase) :
    (rules.quality phase).isSome = phase.settled := by
  cases phase <;> rfl

theorem CooldownRules.delivery_isSome (rules : CooldownRules) (phase : Phase) :
    (rules.delivery phase).isSome = phase.settled := by
  cases phase <;> rfl

end Multipath
