import Multipath.Proofs.Independence

/-! # Asking for the end of a quarantine

Whether a quarantine has come to its end may be asked at any time and of any circuit, by the windows and
by whoever keeps the time. As long as there is none that is over, asking does nothing
(`checkQuarantine_of_not_over`). One that is over ends in a release or in a rebuild, or it stays as it is
until the slot is free, and in each case asking once more at the same time changes nothing: the circuit
is out of quarantine, or the answer is the same (`quarantine_checked`).
-/

namespace Multipath

namespace Health

/-- In quarantine, with the end of it reached. -/
structure HoldOver (h : Health) (now : Instant) : Prop where
  quarantined : h.quarantined = true
  reached : ∀ time, h.heldUntil = some time → time ≤ now

variable {h : Health} {now : Instant}

theorem holdVerdict_of_over (due : h.HoldOver now) (rules : RebuildRules) :
    h.holdVerdict rules now =
      if rules.rebuildStreak.toNat ≤ h.badStreak then .rebuild else .release := by
  have reached : h.heldUntil.any (now < ·) = false := by
    cases timed : h.heldUntil with
    | none => rfl
    | some time => simpa using due.reached time timed
  simp [holdVerdict, due.quarantined, reached]

theorem holdVerdict_of_not_over (held : ¬ h.HoldOver now) (rules : RebuildRules) :
    h.holdVerdict rules now = .pending := by
  unfold holdVerdict
  cases quarantined : h.quarantined with
  | false => rfl
  | true =>
      cases timed : h.heldUntil with
      | none => exact (held ⟨quarantined, fun time other => nomatch timed.symm.trans other⟩).elim
      | some time =>
          have later : now < time := Nat.lt_of_not_le fun reached =>
            held ⟨quarantined, fun t same => Option.some.inj (timed.symm.trans same) ▸ reached⟩
          simp [later]

end Health

namespace Scene

variable (scene : Scene) {h : Health}

theorem checkQuarantine_of_not_over (held : ¬ h.HoldOver scene.now) :
    scene.checkQuarantine h = { health := h } := by
  simp only [checkQuarantine, Health.holdVerdict_of_not_over held]

theorem checkQuarantine_of_better (due : h.HoldOver scene.now)
    (few : h.badStreak < scene.settings.rebuild.rebuildStreak.toNat) :
    scene.checkQuarantine h =
      { health := h.release scene.minWeight
        notices := [.recovered scene.circuit, .event (.quarantineReleased scene.circuit)] } := by
  simp only [checkQuarantine, Health.holdVerdict_of_over due, Nat.not_le.2 few, if_false]

theorem checkQuarantine_of_bad (due : h.HoldOver scene.now)
    (many : scene.settings.rebuild.rebuildStreak.toNat ≤ h.badStreak) :
    scene.checkQuarantine h = scene.requestRebuild h := by
  simp only [checkQuarantine, Health.holdVerdict_of_over due, many, if_true]

end Scene

namespace Scheduler

/-- What comes of asking for the end of a quarantine, and of asking twice. -/
structure Checked (s : Scheduler) (now : Instant) (c : Nat) : Prop where
  idle :
    let check := s.step now (.checkQuarantine c)
    (∀ h, s.circuits[c]? = some h → ¬ h.HoldOver now) → check.events = [] ∧ check.scheduler = s
  released (h : Health) (found : s.circuits[c]? = some h) (due : h.HoldOver now) :
    let check := s.step now (.checkQuarantine c)
    h.badStreak < s.settings.rebuild.rebuildStreak.toNat →
      check.events = [.quarantineReleased c] ∧
        check.scheduler = { s with
          circuits := s.circuits.set c
            { h with
              weight := s.settings.selection.minWeight
              cleanStreak := 0
              badStreak := 0
              quarantined := false
              heldUntil := none } }
  begun (h : Health) (found : s.circuits[c]? = some h) (due : h.HoldOver now) :
    let check := s.step now (.checkQuarantine c)
    let t : Ticket := ⟨s.call, c, Counter.nextEpoch h.epoch⟩
    s.settings.rebuild.rebuildStreak.toNat ≤ h.badStreak → s.inFlight = none →
      check.events = [.rebuildRequested c t.epoch] ∧
        check.scheduler = { s with
          circuits := s.circuits.set c
            { h with
              epoch := t.epoch
              rebuilding := true
              weight := 0.0
              quarantined := false
              heldUntil := none
              cleanStreak := 0
              badStreak := 0
              lowDeliveries := 0
              failures := 0 }
          inFlight := some t
          pending := s.pending ++ [t] }
  deferred (h : Health) (found : s.circuits[c]? = some h) (due : h.HoldOver now) :
    let check := s.step now (.checkQuarantine c)
    s.settings.rebuild.rebuildStreak.toNat ≤ h.badStreak → s.inFlight ≠ none →
      check.events = [.rebuildDeferred c] ∧ check.scheduler = s
  others :
    let check := s.step now (.checkQuarantine c)
    ∀ j ≠ c, check.scheduler.circuits[j]? = s.circuits[j]?
  again :
    let check := s.step now (.checkQuarantine c)
    (check.scheduler.step now (.checkQuarantine c)).scheduler = check.scheduler

variable {s : Scheduler} {now : Instant} {c : Nat} {h : Health}

theorem check_of_found (found : s.circuits[c]? = some h) (now : Instant) :
    let check := s.step now (.checkQuarantine c)
    let t := (s.scene now c).checkQuarantine h
    check.scheduler = s.apply c t ∧ check.events = t.events :=
  step_of_found .checkQuarantine found now

theorem check_of_not_over (held : ∀ h, s.circuits[c]? = some h → ¬ h.HoldOver now) :
    let check := s.step now (.checkQuarantine c)
    check.events = [] ∧ check.scheduler = s := by
  intro check
  cases found : s.circuits[c]? with
  | none => exact (step_of_stray .checkQuarantine found now).symm
  | some h =>
      obtain ⟨turn, told⟩ := check_of_found found now
      rw [(s.scene now c).checkQuarantine_of_not_over (held h found)] at turn told
      exact ⟨told, turn.trans (apply_idle found rfl)⟩

theorem check_of_better (found : s.circuits[c]? = some h) (due : h.HoldOver now)
    (few : h.badStreak < s.settings.rebuild.rebuildStreak.toNat) :
    let check := s.step now (.checkQuarantine c)
    check.events = [.quarantineReleased c] ∧
      check.scheduler =
        { s with circuits := s.circuits.set c (h.release s.settings.selection.minWeight) } := by
  intro check
  obtain ⟨turn, told⟩ := check_of_found found now
  rw [(s.scene now c).checkQuarantine_of_better due few] at turn told
  exact ⟨told, turn⟩

theorem check_of_bad (found : s.circuits[c]? = some h) (due : h.HoldOver now)
    (many : s.settings.rebuild.rebuildStreak.toNat ≤ h.badStreak) (free : s.inFlight = none) :
    let check := s.step now (.checkQuarantine c)
    let t : Ticket := ⟨s.call, c, Counter.nextEpoch h.epoch⟩
    check.events = [.rebuildRequested c t.epoch] ∧
      check.scheduler = { s with
        circuits := s.circuits.set c h.beginRebuild
        inFlight := some t
        pending := s.pending ++ [t] } := by
  intro check t
  have holder : (s.scene now c).holder = none := congrArg (Option.map Ticket.circuit) free
  obtain ⟨turn, told⟩ := check_of_found found now
  rw [(s.scene now c).checkQuarantine_of_bad due many, Scene.requestRebuild, holder]
    at turn told
  exact ⟨told, turn⟩

theorem check_of_taken (found : s.circuits[c]? = some h) (due : h.HoldOver now)
    (many : s.settings.rebuild.rebuildStreak.toNat ≤ h.badStreak) (taken : s.inFlight ≠ none) :
    let check := s.step now (.checkQuarantine c)
    check.events = [.rebuildDeferred c] ∧ check.scheduler = s := by
  intro check
  obtain ⟨t, flight⟩ := Option.ne_none_iff_exists'.1 taken
  have holder : (s.scene now c).holder = some t.circuit :=
    congrArg (Option.map Ticket.circuit) flight
  obtain ⟨turn, told⟩ := check_of_found found now
  rw [(s.scene now c).checkQuarantine_of_bad due many, Scene.requestRebuild, holder]
    at turn told
  exact ⟨told, turn.trans (apply_idle found rfl)⟩

/-- Once a circuit is out of quarantine there is nothing to ask for. -/
theorem check_of_out {s' : Scheduler} (found : s'.circuits[c]? = some h)
    (out : h.quarantined = false) : (s'.step now (.checkQuarantine c)).scheduler = s' := by
  refine (check_of_not_over fun g found' due => ?_).2
  obtain rfl : g = h := Option.some.inj (found'.symm.trans found)
  exact nomatch out.symm.trans due.quarantined

theorem check_again (s : Scheduler) (now : Instant) (c : Nat) :
    let check := s.step now (.checkQuarantine c)
    (check.scheduler.step now (.checkQuarantine c)).scheduler = check.scheduler := by
  intro check
  have idle : check.scheduler = s →
      (check.scheduler.step now (.checkQuarantine c)).scheduler = check.scheduler := by
    intro same
    rw [same]
    exact same
  cases found : s.circuits[c]? with
  | none => exact idle (step_of_stray .checkQuarantine found now).1
  | some h =>
      by_cases due : h.HoldOver now
      · have inside := (List.getElem?_eq_some_iff.1 found).1
        rcases Nat.lt_or_ge h.badStreak s.settings.rebuild.rebuildStreak.toNat with few | many
        · refine check_of_out (h := h.release s.settings.selection.minWeight) ?_ rfl
          rw [(check_of_better found due few).2]
          exact List.getElem?_set_self inside
        · by_cases free : s.inFlight = none
          · refine check_of_out (h := h.beginRebuild) ?_ rfl
            rw [(check_of_bad found due many free).2]
            exact List.getElem?_set_self inside
          · exact idle (check_of_taken found due many free).2
      · refine idle (check_of_not_over fun g found' => ?_).2
        obtain rfl : g = h := Option.some.inj (found'.symm.trans found)
        exact due

/-- In any state and for any circuit, asking for the end of a quarantine does what the count of bad
windows calls for, to this circuit alone; asking again at the same time changes nothing. -/
theorem quarantine_checked (s : Scheduler) (now : Instant) (c : Nat) : s.Checked now c where
  idle := check_of_not_over
  released _ found due few := check_of_better found due few
  begun _ found due many free := check_of_bad found due many free
  deferred _ found due many taken := check_of_taken found due many taken
  others := by
    intro check j other
    cases found : s.circuits[c]? with
    | none => rw [show check.scheduler = s from (step_of_stray .checkQuarantine found now).1]
    | some h =>
        have turn : check.scheduler = _ := (check_of_found found now).1
        rw [turn, apply_circuit? found, if_neg other]
  again := s.check_again now c

/-- Two circuits whose quarantines are over, with bad windows enough: the first to be asked about is
rebuilt, and the other one waits. -/
theorem quarantine_checked_brisk :
    let u := (Session.brisk.run [Session.badWindow 0, Session.badWindow 1, .advance 1000]).final
    let first := u.scheduler.step u.now (.checkQuarantine 0)
    let second := first.scheduler.step u.now (.checkQuarantine 1)
    Session.brisk.Opened .brisk ⟨"A"⟩ ∧
      (∃ h, u.scheduler.circuits[0]? = some h ∧ h.HoldOver u.now) ∧
      first.events = [.rebuildRequested 0 1] ∧ first.scheduler.pending = [⟨⟨"A"⟩, 0, 1⟩] ∧
      second.events = [.rebuildDeferred 1] ∧ second.scheduler = first.scheduler ∧
      (second.scheduler.step u.now (.checkQuarantine 1)).scheduler = second.scheduler := by
  intro u first second
  obtain ⟨h, found⟩ : ∃ h, u.scheduler.circuits[0]? = some h := ⟨_, rfl⟩
  obtain ⟨g, found'⟩ : ∃ g, first.scheduler.circuits[1]? = some g := ⟨_, rfl⟩
  have due : h.HoldOver u.now := by
    cases found
    exact ⟨by decide +kernel, fun time timed => by cases timed; decide +kernel⟩
  have due' : g.HoldOver u.now := by
    cases found'
    exact ⟨by decide +kernel, fun time timed => by cases timed; decide +kernel⟩
  obtain ⟨told, state⟩ := (quarantine_checked u.scheduler u.now 0).begun h found due
    (by cases found; decide +kernel) rfl
  obtain ⟨told', same⟩ := (quarantine_checked first.scheduler u.now 1).deferred g found' due'
    (by cases found'; decide +kernel) (by rw [state]; nofun)
  exact ⟨Session.brisk_opened, ⟨h, found, due⟩, by cases found; exact told,
    by rw [state]; cases found; rfl, told', same, (quarantine_checked first.scheduler u.now 1).again⟩

end Scheduler

end Multipath
