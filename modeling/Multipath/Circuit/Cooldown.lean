import Multipath.Circuit.Health
import Multipath.Settings.Basic
/-!
# Cooldown and ramp

A cooldown takes a circuit out of the choice for a bounded time. It comes back at the least weight and
earns the rest by consecutive clean windows.
-/

namespace Multipath.Health

/-- Out of the choice until `duration` from now, with the ramp to start over. A circuit that is held
keeps its zero weight. -/
def coolDown (h : Health) (rules : CooldownRules) (minWeight : Float) (cause : CooldownCause)
    (now : Instant) : Health :=
  { h with
    coolingUntil := some (now + millis rules.duration.toNat)
    weight := if h.held then h.weight else minWeight
    cleanStreak := 0
    lowDeliveries := 0
    lastCause := some cause }

/-- One failed send, and whether it is the one that starts a cooldown; then the count starts over. -/
def countFailure (h : Health) (rules : CooldownRules) : Health × Bool :=
  let failures := Counter.bump h.failures
  if rules.failureThreshold.toNat ≤ failures then ({ h with failures := 0 }, true)
  else ({ h with failures }, false)

structure LowDelivery where
  rate : Float
  floor : Float
  /-- Consecutive windows of low delivery, this one included. -/
  windows : Nat
  persistent : Bool
  audible : Bool
  deriving DecidableEq

structure Verdict where
  health : Health
  cause : Option CooldownCause := none
  low : Option LowDelivery := none

/-- Delivery below the floor of the phase calls for a cooldown when it lasts, or at once when the
concealment can be heard. At or above the floor the count starts over. -/
def judgeDelivery (h : Health) (rules : CooldownRules) (phase : Phase) : Verdict :=
  match rules.delivery phase, h.deliveryRate rules.minFrames.toNat with
  | some floor, some rate =>
    if floor ≤ rate then { health := { h with lowDeliveries := 0 } }
    else
      let windows := Counter.bump h.lowDeliveries
      let persistent := decide (rules.lowDeliveryWindows.toNat ≤ windows)
      let audible := decide (rules.audibleConcealed < h.concealed)
      { health := { h with lowDeliveries := windows }
        cause := if persistent || audible then some .deliveryRate else none
        low := some { rate, floor, windows, persistent, audible } }
  | _, _ => { health := h }

/-- The cause for a cooldown that a window gives, if any: missing frames before concealment, and
delivery only when neither is above its limit. -/
def judge (h : Health) (rules : CooldownRules) (phase : Phase) : Verdict :=
  match rules.quality phase with
  | none => { health := h }
  | some (missing, concealed) =>
    if missing < h.missing then { health := h, cause := some .highMissing }
    else if concealed < h.concealed then { health := h, cause := some .highConcealed }
    else h.judgeDelivery rules phase

def clean (h : Health) (rules : CooldownRules) : Bool :=
  decide (h.missing < rules.cleanMissing) && decide (h.concealed < rules.cleanConcealed) &&
    decide (h.late < rules.cleanLate)

/-- The smaller of two numbers; an undefined one never wins. -/
def lesser (x y : Float) : Float := if x.isNaN then y else if y.isNaN || x ≤ y then x else y

/-- One window of the ramp, and whether the weight grew. A window that is not clean starts the streak
over and leaves the weight. -/
def ramp (h : Health) (rules : CooldownRules) : Health × Bool :=
  if 1.0 ≤ h.weight then (h, false)
  else if !h.clean rules then ({ h with cleanStreak := 0 }, false)
  else
    let cleanStreak := Counter.bump h.cleanStreak
    if cleanStreak < rules.cleanStreak.toNat then ({ h with cleanStreak }, false)
    else ({ h with cleanStreak, weight := lesser (h.weight * rules.rampFactor) 1.0 }, true)

/-! What each rule touches of a record, and nothing else. -/

theorem countFailure_fst (h : Health) (rules : CooldownRules) :
    ∃ failures, (h.countFailure rules).1 = { h with failures } := by
  unfold countFailure
  by_cases hc : rules.failureThreshold.toNat ≤ Counter.bump h.failures
  · exact ⟨0, by simp only [hc, if_true]⟩
  · exact ⟨Counter.bump h.failures, by simp only [hc, if_false]⟩

theorem judgeDelivery_health (h : Health) (rules : CooldownRules) (phase : Phase) :
    ∃ lowDeliveries, (h.judgeDelivery rules phase).health = { h with lowDeliveries } := by
  unfold judgeDelivery
  cases rules.delivery phase with
  | none => exact ⟨h.lowDeliveries, rfl⟩
  | some floor =>
      cases h.deliveryRate rules.minFrames.toNat with
      | none => exact ⟨h.lowDeliveries, rfl⟩
      | some rate =>
          by_cases hr : floor ≤ rate
          · exact ⟨0, by simp only [hr, if_true]⟩
          · exact ⟨Counter.bump h.lowDeliveries, by simp only [hr, if_false]⟩

theorem judge_health (h : Health) (rules : CooldownRules) (phase : Phase) :
    ∃ lowDeliveries, (h.judge rules phase).health = { h with lowDeliveries } := by
  unfold judge
  cases rules.quality phase with
  | none => exact ⟨h.lowDeliveries, rfl⟩
  | some limits =>
      obtain ⟨missing, concealed⟩ := limits
      by_cases hm : missing < h.missing
      · exact ⟨h.lowDeliveries, by simp only [hm, if_true]⟩
      · by_cases hc : concealed < h.concealed
        · exact ⟨h.lowDeliveries, by simp only [hm, hc, if_true, if_false]⟩
        · simpa only [hm, hc, if_false] using judgeDelivery_health h rules phase

/-- Whether it grew or not, the weight is one of two numbers. -/
theorem ramp_fst (h : Health) (rules : CooldownRules) :
    ∃ cleanStreak weight, (h.ramp rules).1 = { h with cleanStreak, weight } ∧
      (weight = h.weight ∨ weight = lesser (h.weight * rules.rampFactor) 1.0) := by
  unfold ramp
  by_cases hf : 1.0 ≤ h.weight
  · exact ⟨h.cleanStreak, h.weight, by simp only [hf, if_true], .inl rfl⟩
  · cases hc : h.clean rules with
    | false => exact ⟨0, h.weight, by simp [hf], .inl rfl⟩
    | true =>
        by_cases hs : Counter.bump h.cleanStreak < rules.cleanStreak.toNat
        · exact ⟨Counter.bump h.cleanStreak, h.weight, by simp [hf, hs], .inl rfl⟩
        · exact ⟨Counter.bump h.cleanStreak, lesser (h.weight * rules.rampFactor) 1.0,
            by simp [hf, hs], .inr rfl⟩

end Multipath.Health
