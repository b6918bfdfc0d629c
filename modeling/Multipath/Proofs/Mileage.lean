import Multipath.Proofs.Completion
import Multipath.Proofs.Intake

/-! # Who counts frames

Three numbers of a record say how far its circuit has carried: the frames sent over the whole call, how
many of them went out before the path in use was built, and how many the peer has received on it. A
frame that went out writes the first, a new path the other two, a report the last; every other turn
of a circuit leaves them alone.
-/

namespace Multipath

structure Mileage where
  sent : Nat
  baseline : Nat
  received : Nat
  deriving DecidableEq, Repr

def Health.mileage (h : Health) : Mileage := ⟨h.sent, h.baseline, h.received⟩

def Reading.mileage (r : Reading) : Mileage := ⟨r.sent, r.baseline, r.received⟩

namespace Mileage

/-- One more frame went out. -/
def drive (m : Mileage) : Mileage := { m with sent := Counter.nextTotal m.sent }

/-- The peer has received that many frames. -/
def hear (m : Mileage) (received : Nat) : Mileage := { m with received }

/-- A new path. -/
def renew (m : Mileage) : Mileage := ⟨m.sent, m.sent, 0⟩

end Mileage

/-! ## Turns -/

namespace Scene

variable (scene : Scene) (h : Health)

theorem sendFailed_mileage : (scene.sendFailed h).health.mileage = h.mileage := by
  obtain ⟨failures, turn | turn⟩ := scene.sendFailed_outcome h
  · rw [turn]
    rfl
  · rw [turn]
    rfl

theorem countWindow_mileage (lateToBuffer : Float) :
    (scene.countWindow lateToBuffer h).health.mileage = h.mileage :=
  congrArg Reading.mileage (scene.countWindow_reading h lateToBuffer)

theorem checkQuarantine_mileage : (scene.checkQuarantine h).health.mileage = h.mileage :=
  congrArg Reading.mileage (scene.checkQuarantine_reading h)

theorem rebuildFailed_mileage : (scene.rebuildFailed h).health.mileage = h.mileage := by
  unfold rebuildFailed
  split
  · rfl
  · rfl

theorem answered_mileage (epoch : Nat) (outcome : Outcome) :
    (scene.answered epoch h outcome).health.mileage =
      if outcome = .rebuilt then h.mileage.renew else h.mileage := by
  cases outcome with
  | rebuilt => rfl
  | failed => exact scene.rebuildFailed_mileage h

end Scene

/-! ## Operations -/

namespace Scheduler

variable {s : Scheduler} {now : Instant} {c : Nat} {operation : String}
  {turn : Scene → Health → Turn}

def mileages (s : Scheduler) : List Mileage := s.circuits.map Health.mileage

theorem mileages_getElem? (s : Scheduler) (c : Nat) :
    s.mileages[c]? = s.circuits[c]?.map Health.mileage :=
  List.getElem?_map

theorem apply_mileages {h : Health} {t : Turn} {f : Mileage → Mileage}
    (found : s.circuits[c]? = some h) (counts : t.health.mileage = f h.mileage) :
    (s.apply c t).mileages = s.mileages.modify c f := by
  refine List.ext_getElem? fun j => ?_
  rw [List.getElem?_modify, mileages_getElem?, mileages_getElem?, apply_circuit? found]
  by_cases same : j = c
  · subst j
    simp [found, counts]
  · simp [same, Ne.symm same]

theorem act_mileages {f : Mileage → Mileage}
    (counts : ∀ (scene : Scene) h, (turn scene h).health.mileage = f h.mileage) :
    (s.act now c operation turn).1.mileages = s.mileages.modify c f := by
  unfold act
  cases found : s.circuits[c]? with
  | none =>
      have outside : s.mileages.length ≤ c := by
        simpa [mileages] using List.getElem?_eq_none_iff.1 found
      exact (List.modify_eq_self outside).symm
  | some h => exact apply_mileages found (counts _ h)

theorem act_mileages_eq
    (same : ∀ (scene : Scene) h, (turn scene h).health.mileage = h.mileage) :
    (s.act now c operation turn).1.mileages = s.mileages :=
  (act_mileages (f := id) same).trans (List.modify_id ..)

theorem pick_mileages (s : Scheduler) (now : Instant) : (s.pick now).2.1.mileages = s.mileages := by
  have chosen : (s.choose now).2.1.mileages = s.mileages := by
    rcases s.choose_cases now with ⟨c, generator, he⟩ | ⟨h, found, -, he⟩
    · rw [he]
      rfl
    · have same : (h.rescued s.settings.selection.minWeight).mileage = id h.mileage := rfl
      rw [he]
      exact (apply_mileages (t := { health := h.rescued _ }) found same).trans (List.modify_id ..)
  rcases s.pick_cases now with ⟨-, he⟩ | ⟨-, -, -, he⟩ | ⟨-, -, he⟩
  · rw [he]
    rfl
  · rw [he]
    rfl
  · rw [he]
    exact chosen

/-- What the counters of a circuit can be after a feedback message: what they were, or what a report
of the circuit makes of them. -/
theorem takeReports_mileage {reports : List (Nat × PeerReport)} {j : Nat} {m' : Mileage}
    (found : (s.takeReports now reports).1.mileages[j]? = some m') :
    ∃ m, s.mileages[j]? = some m ∧
      (m' = m ∨ ∃ report, (j, report) ∈ reports ∧ m' = m.hear report.received) := by
  obtain ⟨h', found', rfl⟩ := Option.map_eq_some_iff.1 (mileages_getElem? _ j ▸ found)
  have inside : j < s.size :=
    (s.takeReports_strides now reports).size_eq ▸ (List.getElem?_eq_some_iff.1 found').1
  have before : s.circuits[j]? = some s.circuits[j] := List.getElem?_eq_getElem inside
  obtain ⟨g, found'', shown⟩ := takeReports_reading now reports before
  obtain rfl : h' = g := Option.some.inj (found'.symm.trans found'')
  refine ⟨s.circuits[j].mileage, by rw [mileages_getElem?, before]; rfl, ?_⟩
  cases last : lastAbout j reports with
  | none =>
      rw [last] at shown
      exact .inl (congrArg Health.mileage shown)
  | some report =>
      rw [last] at shown
      exact .inr ⟨report, mem_of_lastAbout last, congrArg Reading.mileage shown⟩

/-- The answer to the ticket in flight counts frames from zero when there is a new path. -/
theorem complete_mileages (kept : SlotKept s) {t : Ticket} (taken : s.inFlight = some t)
    (now : Instant) (outcome : Outcome) :
    (s.complete now t outcome).scheduler.mileages =
      if outcome = .rebuilt then s.mileages.modify t.circuit Mileage.renew else s.mileages := by
  obtain ⟨h, found, -, -, he⟩ := complete_of_taken kept taken now outcome
  have counts := (s.scene now t.circuit).answered_mileage h t.epoch outcome
  rw [he]
  cases outcome with
  | rebuilt => exact apply_mileages found counts
  | failed =>
      exact (apply_mileages (f := id) found counts).trans (List.modify_id ..)

end Scheduler

end Multipath
