import Multipath.Circuit.Health
import Multipath.Text.Json
/-!
# Views as members of a JSON object

A view is written in two sizes: `statistics`, the few numbers of a dashboard, and `snapshot`,
everything an observer may see.
-/

namespace Multipath.CircuitView

def statistics (view : CircuitView) : List (String × Json) := [
  ("circuit_index", .count view.circuit),
  ("late_frame_percent", .real view.health.late),
  ("send_failures", .count view.health.failures),
  ("total_frames_sent", .count view.health.sent),
  ("in_cooldown", .flag view.cooling)]

def snapshot (view : CircuitView) : List (String × Json) :=
  let h := view.health
  [("circuit_index", .count view.circuit),
    ("score", .real h.score),
    ("late_frame_percent", .real h.late),
    ("missing_frame_percent", .real h.missing),
    ("plc_percent", .real h.concealed),
    ("ramp_up_weight", .real h.weight),
    ("in_cooldown", .flag view.cooling),
    ("last_cooldown_reason", .optional (fun cause => .text cause.name) h.lastCause),
    ("quarantined", .flag h.quarantined),
    ("rebuilding", .flag h.rebuilding),
    ("rebuild_epoch", .count h.epoch),
    ("rebuild_failures", .count h.rebuildFailures),
    ("rebuild_backoff_ms", .count h.backoff),
    ("send_failures", .count h.failures),
    ("total_frames_sent", .count h.sent),
    ("peer_frames_received", .count h.received),
    ("delivery_rate", .optional .real view.delivery)]

end Multipath.CircuitView
