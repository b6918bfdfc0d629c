/-!
# The template of a settings file

A file that names every setting with its default, with remarks for whoever changes it.
-/

namespace Multipath

def template : String :=
  String.join (lines.map (· ++ "\n"))
where
  lines : List String := [
    "# circuit-mux scheduler configuration",
    "# Location: ~/.config/circuit-mux/config.toml",
    "#",
    "# Every value below is the built-in default. Remove lines you do not change.",
    "",
    "num_circuits = 3",
    "",
    "[selection]",
    "burst_size = 4                    # frames per circuit before reselecting",
    "rank_weights = [0.70, 0.20, 0.10] # best, second, third",
    "min_circuit_weight = 0.05         # ramp weight after cooldown/rescue",
    "# seed = 42                       # deterministic selection (testing only)",
    "",
    "[phases]",
    "establishment_ms = 3000  # equal probing",
    "warmup_ms = 15000        # metrics only, no cooldowns",
    "relaxed_ms = 45000       # relaxed thresholds; strict afterwards",
    "",
    "[cooldown]",
    "duration_ms = 8000",
    "send_failure_threshold = 3",
    "min_frames_for_evaluation = 30",
    "relaxed_missing_percent = 15.0",
    "relaxed_plc_percent = 10.0",
    "strict_missing_percent = 5.0",
    "strict_plc_percent = 5.0",
    "relaxed_delivery_rate = 0.85",
    "strict_delivery_rate = 0.92",
    "bad_delivery_windows = 2",
    "delivery_plc_gate = 3.0",
    "clean_missing_percent = 2.0",
    "clean_plc_percent = 3.0",
    "clean_late_percent = 5.0",
    "clean_windows_to_ramp = 2",
    "ramp_factor = 1.5",
    "",
    "[rebuild]",
    "severe_plc_percent = 12.0",
    "combined_plc_percent = 8.0",
    "combined_missing_percent = 5.0",
    "network_plc_percent = 10.0",
    "network_late_to_buffer_percent = 1.0",
    "bad_windows_to_quarantine = 3",
    "bad_windows_to_rebuild = 2",
    "initial_backoff_ms = 10000",
    "max_backoff_ms = 60000",
    "evaluate_on_feedback = true"]

end Multipath
