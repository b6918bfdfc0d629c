import Multipath.Event
import Multipath.Call
/-!
# The journal of a call

Operations report what they do as notices: events for observers, and remarks for the log. A notice
holds values only; `Notice.line` is its line in the log. An event is a notice too, and its line comes
after the remark on the step that caused it.
-/

namespace Multipath

inductive Level where
  | debug
  | info
  | warn
  | error
  deriving DecidableEq, Repr

def Level.name : Level → String
  | debug => "DEBUG"
  | info => "INFO"
  | warn => "WARN"
  | error => "ERROR"

structure LogLine where
  level : Level
  message : String
  fields : List (String × Json)

structure HealthReport where
  phase : Phase
  /-- Microseconds since the call started. -/
  elapsed : Nat
  views : List CircuitView

inductive Notice where
  | event (event : Event)
  | strayCircuit (circuit count : Nat) (operation : String)
  | rescue (circuit : Nat) (score : Float)
  | thresholdReached (circuit threshold : Nat)
  | failureCounted (circuit failures threshold : Nat)
  | cooldownStarted (circuit : Nat) (cause : CooldownCause) (duration : Nat)
  | cooldownDue (circuit : Nat) (phase : Phase) (missing concealed : Float) (cause : CooldownCause)
  | lowDelivery (rate floor : Float) (windows : Nat) (persistent audible : Bool)
  | rampGrew (circuit : Nat) (weight : Float)
  | rampReset (circuit : Nat)
  | badWindow (circuit streak : Nat) (concealed missing : Float)
  | streakReset (circuit streak : Nat)
  | quarantineStarted (circuit backoff : Nat) (concealed : Float) (streak failures : Nat)
  | recovered (circuit : Nat)
  | slotTaken (circuit holder : Nat)
  | rebuildStarted (circuit epoch : Nat) (concealed score : Float)
  | staleCompletion (circuit epoch current : Nat)
  | rebuildDone (circuit epoch : Nat)
  | strayFailure (circuit current : Nat)
  | rebuildLost (circuit failures backoff : Nat)
  | health (report : HealthReport)
  | spareWeights (extra circuits : Nat)
  | noRequester (circuit epoch : Nat)
  | requesterGone (circuit epoch : Nat)
  | failureDiscarded (circuit : Nat) (refusal : Refusal)
  | lateCompletion (call : CallId) (circuit : Nat)

namespace Notice

def event? : Notice → Option Event
  | event e => some e
  | _ => none

def events (notices : List Notice) : List Event := notices.filterMap event?

end Notice

def Event.line (e : Event) : LogLine where
  level := match e with
    | cooldownTriggered .. | rescued .. | quarantined .. | rebuildRequested .. => .warn
    | quarantineReleased .. | rebuildDeferred .. | rebuildSucceeded .. => .info
    | rebuildFailed .. => .error
  message := match e with
    | cooldownTriggered .. => "telemetry: circuit cooldown"
    | rescued .. => "telemetry: circuit rescued from all-unusable state"
    | quarantined .. => "telemetry: circuit quarantined"
    | quarantineReleased .. => "telemetry: circuit released from quarantine"
    | rebuildRequested .. => "telemetry: circuit rebuild requested"
    | rebuildDeferred .. => "telemetry: circuit rebuild deferred"
    | rebuildSucceeded .. => "telemetry: circuit rebuilt"
    | rebuildFailed .. => "telemetry: circuit rebuild failed"
  fields := ("circuit", .count e.circuit) :: e.details

/-- A share as a percentage without decimals. -/
def wholePercent (share : Float) : String := Decimal.fixed 0 (share * 100.0) ++ "%"

/-- Where a circuit stands, in a word. Nothing is said of one that is fully in service. -/
def CircuitView.standing (view : CircuitView) : String :=
  let h := view.health
  let cause := h.lastCause.elim "?" CooldownCause.name
  if view.cooling then s!"COOLDOWN({cause}) "
  else if h.rebuilding then s!"REBUILDING(epoch={h.epoch}) "
  else if h.quarantined then "QUARANTINED "
  else if h.weight < 1.0 then s!"RAMP={wholePercent h.weight} "
  else ""

def CircuitView.summary (view : CircuitView) : String :=
  let h := view.health
  s!"[{view.circuit}: score={Decimal.fixed 1 h.score} late={Decimal.fixed 1 h.late}% " ++
  s!"missing={Decimal.fixed 1 h.missing}% plc={Decimal.fixed 1 h.concealed}% " ++
  view.standing ++
  s!"sent={h.sentOnPath} peerRecv={h.received}" ++
  view.delivery.elim "" (fun rate => s!" ({wholePercent rate})") ++
  "] "

/-- Microseconds as seconds: the whole ones plus the nanoseconds left over divided by 10⁹. -/
def seconds (microseconds : Nat) : Float :=
  (microseconds / 1000000).toUInt64.toFloat +
    (microseconds % 1000000 * 1000).toUInt64.toFloat / 1000000000.0

def HealthReport.line (report : HealthReport) : LogLine where
  level := .debug
  message := "Circuit health: " ++ String.join (report.views.map CircuitView.summary)
  fields := [("phase", .text report.phase.name), ("elapsed_s", .real (seconds report.elapsed))]

def Notice.line : Notice → LogLine
  | event e => e.line
  | strayCircuit circuit count operation =>
    ⟨.warn, "Ignoring out-of-range circuit index",
      [("circuit", .count circuit), ("count", .count count), ("op", .text operation)]⟩
  | rescue circuit score =>
    ⟨.warn, "All circuits unusable, rescued least-bad circuit",
      [("circuit", .count circuit), ("score", .real score)]⟩
  | thresholdReached circuit threshold =>
    ⟨.warn, "Send failure threshold reached",
      [("circuit", .count circuit), ("threshold", .count threshold)]⟩
  | failureCounted circuit failures threshold =>
    ⟨.debug, "Circuit send failure",
      [("circuit", .count circuit), ("failures", .count failures), ("threshold", .count threshold)]⟩
  | cooldownStarted circuit cause duration =>
    ⟨.warn, "Circuit cooldown triggered, will ramp from minimum weight",
      [("circuit", .count circuit), ("reason", .text cause.name), ("duration_ms", .count duration)]⟩
  | cooldownDue circuit phase missing concealed cause =>
    ⟨.debug, "Cooldown condition met",
      [("circuit", .count circuit), ("phase", .text phase.name), ("missing", .real missing),
        ("plc", .real concealed), ("reason", .text cause.name)]⟩
  | lowDelivery rate floor windows persistent audible =>
    ⟨.debug, "Delivery rate below threshold",
      [("delivery", .real (rate * 100.0)), ("threshold", .real (floor * 100.0)),
        ("bad_windows", .count windows), ("persistent", .flag persistent),
        ("audible", .flag audible)]⟩
  | rampGrew circuit weight =>
    ⟨.debug, "Circuit ramping up", [("circuit", .count circuit), ("weight", .real weight)]⟩
  | rampReset circuit =>
    ⟨.debug, "Circuit ramp-up reset due to quality issues", [("circuit", .count circuit)]⟩
  | badWindow circuit streak concealed missing =>
    ⟨.debug, "Circuit bad rebuild window",
      [("circuit", .count circuit), ("bad_windows", .count streak), ("plc", .real concealed),
        ("missing", .real missing)]⟩
  | streakReset circuit streak =>
    ⟨.debug, "Circuit good window, bad streak reset",
      [("circuit", .count circuit), ("from", .count streak)]⟩
  | quarantineStarted circuit backoff concealed streak failures =>
    ⟨.warn, "Circuit quarantined",
      [("circuit", .count circuit), ("backoff_ms", .count backoff), ("plc", .real concealed),
        ("bad_windows", .count streak), ("failures", .count failures)]⟩
  | recovered circuit =>
    ⟨.info, "Circuit recovered during quarantine, ramping from minimum weight",
      [("circuit", .count circuit)]⟩
  | slotTaken circuit holder =>
    ⟨.warn, "Rebuild already in progress, deferring",
      [("circuit", .count circuit), ("in_flight", .count holder)]⟩
  | rebuildStarted circuit epoch concealed score =>
    ⟨.warn, "Rebuilding circuit",
      [("circuit", .count circuit), ("epoch", .count epoch), ("plc", .real concealed),
        ("score", .real score)]⟩
  | staleCompletion circuit epoch current =>
    ⟨.debug, "Discarding stale rebuild completion",
      [("circuit", .count circuit), ("epoch", .count epoch), ("current", .count current)]⟩
  | rebuildDone circuit epoch =>
    ⟨.info, "Circuit rebuild succeeded, starting at minimum weight",
      [("circuit", .count circuit), ("epoch", .count epoch)]⟩
  | strayFailure circuit current =>
    ⟨.debug, "Discarding rebuild failure with no rebuild in flight",
      [("circuit", .count circuit), ("current", .count current)]⟩
  | rebuildLost circuit failures backoff =>
    ⟨.error, "Circuit rebuild failed",
      [("circuit", .count circuit), ("failures", .count failures), ("backoff_ms", .count backoff)]⟩
  | health report => report.line
  | spareWeights extra circuits =>
    ⟨.warn, "selection.rank_weights has more entries than circuits; extras are unused",
      [("extra", .count extra), ("num_circuits", .count circuits)]⟩
  | noRequester circuit epoch =>
    ⟨.warn, "No rebuild requester attached, failing rebuild",
      [("circuit", .count circuit), ("epoch", .count epoch)]⟩
  | requesterGone circuit epoch =>
    ⟨.warn, "Rebuild worker gone, failing rebuild",
      [("circuit", .count circuit), ("epoch", .count epoch)]⟩
  | failureDiscarded circuit refusal =>
    ⟨.debug, "Discarded rebuild failure: " ++ refusal.message, [("circuit", .count circuit)]⟩
  | lateCompletion call circuit =>
    ⟨.debug, "Rebuild completed after call ended, discarding",
      [("call_id", .text call.text), ("circuit", .count circuit)]⟩

end Multipath
