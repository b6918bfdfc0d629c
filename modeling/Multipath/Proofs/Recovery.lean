import Multipath.Proofs.Checks
import Multipath.Proofs.Completion
import Multipath.Proofs.Service

/-! # Ways back into service

A circuit without weight is not chosen and earns nothing, so it depends on the rebuild rules to bring it
back. `WayBack` is how they can: the slot holds its ticket, or its quarantine has an end, after which a
check releases the circuit, begins its rebuild, or finds another circuit in the slot, which any answer
to that one's ticket frees. `none_stranded` says that every circuit without weight has a way back.
-/

namespace Multipath

namespace Scheduler

/-- In service at the least weight. -/
def Returned (s : Scheduler) (c : Nat) : Prop :=
  ∃ h, s.circuits[c]? = some h ∧ h.weight = s.settings.selection.minWeight ∧ h.held = false

/-- What becomes of a quarantine that is over when it is checked. -/
structure Due (s : Scheduler) (now : Instant) (c : Nat) (h : Health) : Prop where
  released :
    let check := s.step now (.checkQuarantine c)
    h.badStreak < s.settings.rebuild.rebuildStreak.toNat →
      Notice.events check.notices = [.quarantineReleased c] ∧ check.scheduler.Returned c
  rebuilt :
    let check := s.step now (.checkQuarantine c)
    let t : Ticket := ⟨s.call, c, Counter.nextEpoch h.epoch⟩
    s.settings.rebuild.rebuildStreak.toNat ≤ h.badStreak → s.inFlight = none →
      Notice.events check.notices = [.rebuildRequested c t.epoch] ∧
        check.scheduler.inFlight = some t ∧ check.scheduler.pending = s.pending ++ [t]
  deferred :
    let check := s.step now (.checkQuarantine c)
    s.settings.rebuild.rebuildStreak.toNat ≤ h.badStreak → ∀ t, s.inFlight = some t →
      Notice.events check.notices = [.rebuildDeferred c] ∧ check.scheduler = s ∧
        t.circuit ≠ c ∧ ∀ outcome, (s.step now (.complete t outcome)).scheduler.inFlight = none

inductive WayBack (s : Scheduler) (c : Nat) (h : Health) : Prop
  | rebuild (t : Ticket) (own : t.circuit = c) (taken : s.inFlight = some t)
      (answer : ∀ now, (s.step now (.complete t .rebuilt)).answer = .result (.ok ()) ∧
        (s.step now (.complete t .rebuilt)).scheduler.Returned c)
  | quarantine (time : Instant) (quarantined : h.quarantined = true)
      (timed : h.heldUntil = some time) (due : ∀ now, time ≤ now → s.Due now c h)

variable {s : Scheduler} {now : Instant} {c : Nat} {h : Health}

theorem returned_apply (found : s.circuits[c]? = some h) {t : Turn}
    (weight : t.health.weight = s.settings.selection.minWeight) (unheld : t.health.held = false) :
    (s.apply c t).Returned c :=
  ⟨t.health, by rw [apply_circuit? found, if_pos rfl], by rw [apply_settings, weight], unheld⟩

theorem SlotKept.due (kept : SlotKept s) (found : s.circuits[c]? = some h) {time : Instant}
    (quarantined : h.quarantined = true) (timed : h.heldUntil = some time) (ended : time ≤ now) :
    s.Due now c h := by
  have due : h.HoldOver now :=
    ⟨quarantined, fun t same => Option.some.inj (timed.symm.trans same) ▸ ended⟩
  have unbuilt : h.rebuilding = false := kept.apart c h.hold (hold?_of_found found) quarantined
  constructor
  · intro check few
    obtain ⟨turn, told⟩ := check_of_found found now
    rw [(s.scene now c).checkQuarantine_of_better due few] at turn told
    refine ⟨told, ?_⟩
    rw [turn]
    exact returned_apply found rfl (by simpa [Health.held, Health.release] using unbuilt)
  · intro check t many free
    obtain ⟨told, state⟩ := check_of_bad found due many free
    rw [state]
    exact ⟨told, rfl, rfl⟩
  · intro check many t taken
    obtain ⟨told, same⟩ := check_of_taken found due many (taken ▸ Option.some_ne_none t)
    refine ⟨told, same, ?_, complete_inFlight kept taken now⟩
    rintro rfl
    obtain ⟨g, found', rebuilding, -⟩ := complete_of_taken kept taken now .rebuilt
    rw [found] at found'
    cases found'
    rw [unbuilt] at rebuilding
    cases rebuilding

theorem SlotKept.wayBack (kept : SlotKept s) (found : s.circuits[c]? = some h)
    (held : h.held = true) : s.WayBack c h := by
  cases quarantined : h.quarantined with
  | true =>
      have timed : h.quarantined = h.heldUntil.isSome := kept.timed c h.hold (hold?_of_found found)
      obtain ⟨time, timed⟩ := Option.isSome_iff_exists.1 (timed.symm.trans quarantined)
      exact .quarantine time quarantined timed fun now ended => kept.due found quarantined timed ended
  | false =>
      have rebuilding : h.rebuilding = true := by simpa [Health.held, quarantined] using held
      have taken : s.inFlight = some ⟨s.call, c, h.epoch⟩ :=
        kept.inFlight_of_rebuilding (hold?_of_found found) rebuilding
      refine .rebuild _ rfl taken fun now => ?_
      obtain ⟨g, found', -, -, answered⟩ := complete_of_taken kept taken now .rebuilt
      rw [found] at found'
      cases found'
      simp only [step, step.answered, answered, true_and]
      exact returned_apply found rfl ((Bool.or_false _).trans quarantined)

end Scheduler

namespace Session

variable {settings : Settings} {call : CallId} {w : Session}

/-- Every weight lies between zero and one, and a circuit without weight has a way back. -/
theorem none_stranded (opened : w.Opened settings call) (moves : List Move) {c : Nat} {h : Health}
    (found : (w.run moves).final.scheduler.circuits[c]? = some h) :
    h.weight.isNaN = false ∧ 0.0 ≤ h.weight ∧ h.weight ≤ 1.0 ∧
      (¬ 0.0 < h.weight → (w.run moves).final.scheduler.WayBack c h) := by
  have sound : h.service.Sound := opened.sound moves c h found
  exact ⟨Doubles.isNaN_of_le sound.low, sound.low, sound.high, fun weightless =>
    (opened.slotKept moves).wayBack found (sound.served.resolve_left weightless)⟩

/-- Circuit 0 is held, so only the end of its quarantine can bring it back. -/
theorem none_stranded_brisk :
    let s := (brisk.run [badWindow 0]).final.scheduler
    brisk.Opened .brisk ⟨"A"⟩ ∧
      ∃ h, s.circuits[0]? = some h ∧ ¬ 0.0 < h.weight ∧ s.WayBack 0 h :=
  ⟨brisk_opened, _, rfl, by decide,
    (none_stranded brisk_opened [badWindow 0] rfl).2.2.2 (by decide)⟩

end Session

end Multipath
