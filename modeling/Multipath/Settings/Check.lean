import Multipath.Settings.Basic
import Multipath.Decimal.Layout
/-!
# Checking settings

`Settings.flaws` lists everything that is wrong with settings, in the order in which it is reported;
settings are accepted when the list is empty, and otherwise the first flaw is the answer. Every
comparison is written so that an undefined number is a flaw.
-/

namespace Multipath

inductive Flaw where
  | noCircuits
  | emptyBurst
  | noRankWeights
  | rankWeight (weight : Float)
  | firstRankWeight
  | minWeight (weight : Float)
  | phaseOrder (establishment warmup relaxed : UInt64)
  | noCooldown
  | noFailureThreshold
  | rampFactor (factor : Float)
  | deliveryRate (key : String) (rate : Float)
  | noBadStreak
  | noBackoff
  | backoffLimit (initial limit : UInt64)
  | percentage (part key : String) (value : Float)
  deriving DecidableEq

def Flaw.message : Flaw → String
  | .noCircuits => "num_circuits must be >= 1 (got 0)"
  | .emptyBurst => "selection.burst_size must be > 0 (got 0)"
  | .noRankWeights => "selection.rank_weights cannot be empty"
  | .rankWeight weight =>
    s!"selection.rank_weights must be finite and >= 0 (got {Decimal.Layout.plain.render weight})"
  | .firstRankWeight =>
    "selection.rank_weights[0] must be > 0 so the best circuit is selectable"
  | .minWeight weight =>
    s!"selection.min_circuit_weight must be in (0, 1] (got {Decimal.Layout.plain.render weight})"
  | .phaseOrder establishment warmup relaxed =>
    s!"phase boundaries must be non-decreasing: establishment_ms ({establishment}) <= warmup_ms ({warmup}) <= relaxed_ms ({relaxed})"
  | .noCooldown => "cooldown.duration_ms must be > 0 (got 0)"
  | .noFailureThreshold => "cooldown.send_failure_threshold must be > 0 (got 0)"
  | .rampFactor factor =>
    s!"cooldown.ramp_factor must be > 1.0 (got {Decimal.Layout.plain.render factor}); a recovering circuit would never ramp back"
  | .deliveryRate key rate =>
    s!"cooldown.{key} must be in [0, 1] (got {Decimal.Layout.plain.render rate})"
  | .noBadStreak => "rebuild.bad_windows_to_quarantine must be > 0 (got 0)"
  | .noBackoff => "rebuild.initial_backoff_ms must be > 0 (got 0)"
  | .backoffLimit initial limit =>
    s!"rebuild.max_backoff_ms ({limit}) must be >= rebuild.initial_backoff_ms ({initial})"
  | .percentage part key value =>
    s!"{part}.{key} must be a percentage in [0, 100] (got {Decimal.Layout.plain.render value})"

/-- A flaw, if the condition that rules it out fails. -/
def Flaw.unless (flaw : Flaw) (fine : Bool) : List Flaw := if fine then [] else [flaw]

/-- The number lies between two others, ends included; an undefined one never does. -/
def within (low high x : Float) : Bool := decide (low ≤ x) && decide (x ≤ high)

def Flaw.percentages (part : String) (values : List (String × Float)) : List Flaw :=
  values.flatMap fun (key, value) => (percentage part key value).unless (within 0.0 100.0 value)

def SelectionRules.flaws (rules : SelectionRules) : List Flaw :=
  Flaw.emptyBurst.unless (rules.burstSize != 0) ++
  Flaw.noRankWeights.unless (!rules.rankWeights.isEmpty) ++
  rules.rankWeights.flatMap (fun w => (Flaw.rankWeight w).unless (w.isFinite && !decide (w < 0.0))) ++
  Flaw.firstRankWeight.unless (rules.rankWeights.head?.all fun w => !decide (w ≤ 0.0)) ++
  (Flaw.minWeight rules.minWeight).unless
    (decide (0.0 < rules.minWeight) && decide (rules.minWeight ≤ 1.0))

def PhaseBounds.flaws (bounds : PhaseBounds) : List Flaw :=
  (Flaw.phaseOrder bounds.establishment bounds.warmup bounds.relaxed).unless
    (decide (bounds.establishment ≤ bounds.warmup) && decide (bounds.warmup ≤ bounds.relaxed))

def CooldownRules.flaws (rules : CooldownRules) : List Flaw :=
  Flaw.noCooldown.unless (rules.duration != 0) ++
  Flaw.noFailureThreshold.unless (rules.failureThreshold != 0) ++
  (Flaw.rampFactor rules.rampFactor).unless
    (!decide (rules.rampFactor ≤ 1.0) && rules.rampFactor.isFinite) ++
  (Flaw.deliveryRate "relaxed_delivery_rate" rules.relaxedDelivery).unless
    (within 0.0 1.0 rules.relaxedDelivery) ++
  (Flaw.deliveryRate "strict_delivery_rate" rules.strictDelivery).unless
    (within 0.0 1.0 rules.strictDelivery) ++
  Flaw.percentages "cooldown" [
    ("relaxed_missing_percent", rules.relaxedMissing),
    ("relaxed_plc_percent", rules.relaxedConcealed),
    ("strict_missing_percent", rules.strictMissing),
    ("strict_plc_percent", rules.strictConcealed),
    ("delivery_plc_gate", rules.audibleConcealed),
    ("clean_missing_percent", rules.cleanMissing),
    ("clean_plc_percent", rules.cleanConcealed),
    ("clean_late_percent", rules.cleanLate)]

def RebuildRules.flaws (rules : RebuildRules) : List Flaw :=
  Flaw.noBadStreak.unless (rules.badStreak != 0) ++
  Flaw.noBackoff.unless (rules.initialBackoff != 0) ++
  (Flaw.backoffLimit rules.initialBackoff rules.maxBackoff).unless
    (decide (rules.initialBackoff ≤ rules.maxBackoff)) ++
  Flaw.percentages "rebuild" [
    ("severe_plc_percent", rules.severeConcealed),
    ("combined_plc_percent", rules.combinedConcealed),
    ("combined_missing_percent", rules.combinedMissing),
    ("network_plc_percent", rules.networkConcealed),
    ("network_late_to_buffer_percent", rules.networkLateToBuffer)]

namespace Settings

/-- Everything that is wrong, in the order of the settings file. -/
def flaws (settings : Settings) : List Flaw :=
  Flaw.noCircuits.unless (settings.circuits != 0) ++ settings.selection.flaws ++
    settings.phases.flaws ++ settings.cooldown.flaws ++ settings.rebuild.flaws

def check (settings : Settings) : Except Flaw Unit :=
  match settings.flaws with
  | [] => .ok ()
  | flaw :: _ => .error flaw

/-- Rank weights that no circuit can take up. -/
def spareRankWeights (settings : Settings) : Nat :=
  settings.selection.rankWeights.length - settings.circuits.toNat

end Settings

end Multipath
