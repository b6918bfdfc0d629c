import Multipath.Scheduler.Basic

/-! # What accepted settings promise

Settings are accepted when no flaw is left. Every theorem that needs a bound on a setting takes it from
here, so that a change of the checks is felt in one place.
-/

namespace Multipath

theorem Flaw.unless_eq_nil {flaw : Flaw} {fine : Bool} : flaw.unless fine = [] ↔ fine = true := by
  cases fine <;> simp [Flaw.unless]

namespace Settings

theorem check_eq_ok {settings : Settings} : settings.check = .ok () ↔ settings.flaws = [] := by
  unfold check
  cases settings.flaws with
  | nil => simp
  | cons flaw rest => simp

theorem circuits_pos {settings : Settings} (accepted : settings.check = .ok ()) :
    0 < settings.circuits.toNat := by
  rw [check_eq_ok] at accepted
  simp only [flaws, List.append_eq_nil_iff, Flaw.unless_eq_nil] at accepted
  have hne : settings.circuits ≠ 0 := by simpa using accepted.1.1.1.1
  have hnat : settings.circuits.toNat ≠ 0 := fun h => hne (UInt64.toNat_inj.1 h)
  exact Nat.pos_of_ne_zero hnat

theorem minWeight_bounds {settings : Settings} (accepted : settings.check = .ok ()) :
    0.0 < settings.selection.minWeight ∧ settings.selection.minWeight ≤ 1.0 := by
  rw [check_eq_ok] at accepted
  simp only [flaws, SelectionRules.flaws, List.append_eq_nil_iff, Flaw.unless_eq_nil,
    Bool.and_eq_true, decide_eq_true_eq] at accepted
  exact accepted.1.1.1.2.2

theorem minWeight_pos {settings : Settings} (accepted : settings.check = .ok ()) :
    0.0 < settings.selection.minWeight :=
  (minWeight_bounds accepted).1

/-- Ranks are worth something finite, and not less than nothing. -/
theorem rankWeights_bounds {settings : Settings} (accepted : settings.check = .ok ()) {weight : Float}
    (mem : weight ∈ settings.selection.rankWeights) : weight.isFinite = true ∧ ¬ weight < 0.0 := by
  rw [check_eq_ok] at accepted
  simp only [flaws, SelectionRules.flaws, List.append_eq_nil_iff, List.flatMap_eq_nil_iff,
    Flaw.unless_eq_nil, Bool.and_eq_true, Bool.not_eq_true', decide_eq_false_iff_not] at accepted
  exact accepted.1.1.1.2.1.1.2 weight mem

/-- The first rank is worth something. -/
theorem firstRankWeight {settings : Settings} (accepted : settings.check = .ok ()) :
    ∃ weight, settings.selection.rankWeights[0]? = some weight ∧ ¬ weight ≤ 0.0 := by
  rw [check_eq_ok] at accepted
  simp only [flaws, SelectionRules.flaws, List.append_eq_nil_iff, Flaw.unless_eq_nil] at accepted
  cases ranks : settings.selection.rankWeights with
  | nil => simp [ranks] at accepted
  | cons weight rest => exact ⟨weight, rfl, by simpa [ranks] using accepted.1.1.1.2.1.2⟩

/-- The ramp multiplies by a number that is neither undefined nor too small to grow by. -/
theorem rampFactor_bounds {settings : Settings} (accepted : settings.check = .ok ()) :
    ¬ settings.cooldown.rampFactor ≤ 1.0 ∧ settings.cooldown.rampFactor.isFinite = true := by
  rw [check_eq_ok] at accepted
  simp only [flaws, CooldownRules.flaws, List.append_eq_nil_iff, Flaw.unless_eq_nil,
    Bool.and_eq_true, Bool.not_eq_true', decide_eq_false_iff_not] at accepted
  exact accepted.1.2.1.1.1.2

/-- A cooldown lasts. -/
theorem duration_pos {settings : Settings} (accepted : settings.check = .ok ()) :
    0 < settings.cooldown.duration.toNat := by
  rw [check_eq_ok] at accepted
  simp only [flaws, CooldownRules.flaws, List.append_eq_nil_iff, Flaw.unless_eq_nil] at accepted
  have hne : settings.cooldown.duration ≠ 0 := by simpa using accepted.1.2.1.1.1.1.1
  have hnat : settings.cooldown.duration.toNat ≠ 0 := fun h => hne (UInt64.toNat_inj.1 h)
  exact Nat.pos_of_ne_zero hnat

/-- No circuit is cooled down before a frame has failed. -/
theorem failureThreshold_pos {settings : Settings} (accepted : settings.check = .ok ()) :
    0 < settings.cooldown.failureThreshold.toNat := by
  rw [check_eq_ok] at accepted
  simp only [flaws, CooldownRules.flaws, List.append_eq_nil_iff, Flaw.unless_eq_nil] at accepted
  have hne : settings.cooldown.failureThreshold ≠ 0 := by simpa using accepted.1.2.1.1.1.1.2
  have hnat : settings.cooldown.failureThreshold.toNat ≠ 0 := fun h => hne (UInt32.toNat_inj.1 h)
  exact Nat.pos_of_ne_zero hnat

/-- A quarantine lasts, and its length has room to grow in. -/
theorem backoff_bounds {settings : Settings} (accepted : settings.check = .ok ()) :
    0 < settings.rebuild.initialBackoff.toNat ∧
      settings.rebuild.initialBackoff.toNat ≤ settings.rebuild.maxBackoff.toNat := by
  rw [check_eq_ok] at accepted
  simp only [flaws, RebuildRules.flaws, List.append_eq_nil_iff, Flaw.unless_eq_nil,
    decide_eq_true_eq] at accepted
  obtain ⟨⟨⟨-, some_⟩, room⟩, -⟩ := accepted.2
  have hne : settings.rebuild.initialBackoff ≠ 0 := by simpa using some_
  have hnat : settings.rebuild.initialBackoff.toNat ≠ 0 := fun h => hne (UInt64.toNat_inj.1 h)
  exact ⟨Nat.pos_of_ne_zero hnat, UInt64.le_iff_toNat_le.1 room⟩

/-- No circuit is held before there is a bad window. -/
theorem badStreak_pos {settings : Settings} (accepted : settings.check = .ok ()) :
    0 < settings.rebuild.badStreak.toNat := by
  rw [check_eq_ok] at accepted
  simp only [flaws, RebuildRules.flaws, List.append_eq_nil_iff, Flaw.unless_eq_nil] at accepted
  obtain ⟨⟨⟨some_, -⟩, -⟩, -⟩ := accepted.2
  have hne : settings.rebuild.badStreak ≠ 0 := by simpa using some_
  have hnat : settings.rebuild.badStreak.toNat ≠ 0 := fun h => hne (UInt32.toNat_inj.1 h)
  exact Nat.pos_of_ne_zero hnat

/-- No limit of a phase is below zero. -/
theorem quality_bounds {settings : Settings} (accepted : settings.check = .ok ()) {phase : Phase}
    {missing concealed : Float}
    (limits : settings.cooldown.quality phase = some (missing, concealed)) :
    0.0 ≤ missing ∧ 0.0 ≤ concealed := by
  rw [check_eq_ok] at accepted
  simp only [flaws, CooldownRules.flaws, Flaw.percentages, List.flatMap_cons,
    List.append_eq_nil_iff, Flaw.unless_eq_nil, within, Bool.and_eq_true,
    decide_eq_true_eq] at accepted
  obtain ⟨relaxedMissing, relaxedConcealed, strictMissing, strictConcealed, -⟩ := accepted.1.2.2
  cases phase with
  | establishment => cases limits
  | warmup => cases limits
  | relaxed =>
      cases limits
      exact ⟨relaxedMissing.1, relaxedConcealed.1⟩
  | strict =>
      cases limits
      exact ⟨strictMissing.1, strictConcealed.1⟩

/-- No floor of a phase is above one. -/
theorem delivery_le_one {settings : Settings} (accepted : settings.check = .ok ()) {phase : Phase}
    {floor : Float} (asked : settings.cooldown.delivery phase = some floor) : floor ≤ 1.0 := by
  rw [check_eq_ok] at accepted
  simp only [flaws, CooldownRules.flaws, List.append_eq_nil_iff, Flaw.unless_eq_nil, within,
    Bool.and_eq_true, decide_eq_true_eq] at accepted
  obtain ⟨⟨-, relaxed⟩, strict⟩ := accepted.1.2.1
  cases phase with
  | establishment => cases asked
  | warmup => cases asked
  | relaxed =>
      cases asked
      exact relaxed.2
  | strict =>
      cases asked
      exact strict.2

end Settings

/-- Every accepted settings value builds a scheduler, and nothing else does. -/
theorem Scheduler.build_eq_ok {settings : Settings} {call : CallId} {entropy : UInt64}
    {now : Instant} {s : Scheduler} {notices : List Notice} :
    build settings call entropy now = .ok (s, notices) ↔
      settings.check = .ok () ∧ s = fresh settings call entropy now ∧
        notices = if 0 < settings.spareRankWeights then
          [.spareWeights settings.spareRankWeights settings.circuits.toNat] else [] := by
  unfold build
  split
  · rename_i none_
    have refused : settings.check ≠ .ok () := fun accepted => by
      have pos := Settings.circuits_pos accepted
      simp [none_] at pos
    simp [refused]
  · cases settings.check with
    | error flaw => simp
    | ok accepted => simp [eq_comm]

end Multipath
