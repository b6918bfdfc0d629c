import Multipath.Proofs.Runs

/-! # The one rebuild slot

The slot and the flags of the circuits are written apart, by every rule that begins or ends a rebuild.
`SlotKept` is what they say together: the slot holds exactly the ticket of the circuit that is being
rebuilt, under its epoch, and a circuit is in quarantine exactly as long as it has an end of it. Every
stride keeps it, and `slot_in_step` reads it off at the end of any run.
-/

namespace Multipath

namespace Scheduler

structure SlotKept (s : Scheduler) : Prop where
  slot : ∀ t : Ticket, s.inFlight = some t ↔
    t.call = s.call ∧ ∃ a, s.hold? t.circuit = some a ∧ a.rebuilding = true ∧ a.epoch = t.epoch
  apart : ∀ c a, s.hold? c = some a → a.quarantined = true → a.rebuilding = false
  timed : ∀ c a, s.hold? c = some a → a.quarantined = a.heldUntil.isSome

namespace SlotKept

variable {s s' : Scheduler} {now : Instant}

theorem inFlight_of_rebuilding (kept : SlotKept s) {c : Nat} {a : Hold}
    (found : s.hold? c = some a) (rebuilding : a.rebuilding = true) :
    s.inFlight = some ⟨s.call, c, a.epoch⟩ :=
  (kept.slot _).2 ⟨rfl, a, found, rebuilding, rfl⟩

/-- Two circuits are never rebuilt at once. -/
theorem unique (kept : SlotKept s) {c c' : Nat} {a a' : Hold} (found : s.hold? c = some a)
    (found' : s.hold? c' = some a') (hr : a.rebuilding = true) (hr' : a'.rebuilding = true) :
    c = c' := by
  have h := kept.inFlight_of_rebuilding found hr
  rw [kept.inFlight_of_rebuilding found' hr'] at h
  exact (congrArg Ticket.circuit (Option.some.inj h)).symm

theorem congr (kept : SlotKept s) (call : s'.call = s.call) (holds : ∀ j, s'.hold? j = s.hold? j)
    (slot : s'.inFlight = s.inFlight) : SlotKept s' := by
  constructor
  · intro t
    rw [slot, call, holds]
    exact kept.slot t
  · intro c a found
    exact kept.apart c a (holds c ▸ found)
  · intro c a found
    exact kept.timed c a (holds c ▸ found)

/-- A shift of one hold, from what it does to the slot and to that hold. -/
theorem shifted (kept : SlotKept s) {c : Nat} {a' : Hold}
    (call : s'.call = s.call) (holds : ∀ j, s'.hold? j = if j = c then some a' else s.hold? j)
    (own : ∀ t : Ticket, t.circuit = c → (s'.inFlight = some t ↔
      t.call = s.call ∧ a'.rebuilding = true ∧ a'.epoch = t.epoch))
    (others : ∀ t : Ticket, t.circuit ≠ c → (s'.inFlight = some t ↔ s.inFlight = some t))
    (apart : a'.quarantined = true → a'.rebuilding = false)
    (timed : a'.quarantined = a'.heldUntil.isSome) : SlotKept s' := by
  constructor
  · intro t
    rw [call, holds]
    by_cases ht : t.circuit = c
    · rw [own t ht, if_pos ht]
      simp
    · rw [others t ht, if_neg ht]
      exact kept.slot t
  · intro j b hb
    rw [holds] at hb
    by_cases hj : j = c
    · rw [if_pos hj] at hb
      cases hb
      exact apart
    · rw [if_neg hj] at hb
      exact kept.apart j b hb
  · intro j b hb
    rw [holds] at hb
    by_cases hj : j = c
    · rw [if_pos hj] at hb
      cases hb
      exact timed
    · rw [if_neg hj] at hb
      exact kept.timed j b hb

theorem own (kept : SlotKept s) {c : Nat} {a : Hold} (found : s.hold? c = some a) (t : Ticket)
    (ht : t.circuit = c) :
    s.inFlight = some t ↔ t.call = s.call ∧ a.rebuilding = true ∧ a.epoch = t.epoch := by
  rw [kept.slot, ht, found]
  simp

/-- When the circuit that holds the slot gives it back, nobody holds it. -/
theorem freed (kept : SlotKept s) {c : Nat} {a : Hold} (found : s.hold? c = some a)
    (rebuilding : a.rebuilding = true) : s.slotAfter c .free = none := by
  simp [slotAfter, kept.inFlight_of_rebuilding found rebuilding]

theorem released (kept : SlotKept s) {c : Nat} {a a' : Hold} (found : s.hold? c = some a)
    (rebuilding : a.rebuilding = true) (call : s'.call = s.call)
    (holds : ∀ j, s'.hold? j = if j = c then some a' else s.hold? j) (slot : s'.inFlight = none)
    (ended : a'.rebuilding = false) (timed : a'.quarantined = a'.heldUntil.isSome) :
    SlotKept s' := by
  refine kept.shifted call holds ?_ ?_ (fun _ => ended) timed
  · intro t ht
    simp [slot, ended]
  · intro t ht
    rw [slot, kept.inFlight_of_rebuilding found rebuilding]
    constructor
    · nofun
    · rintro ⟨⟩
      exact (ht rfl).elim

theorem stride (kept : SlotKept s) {e : Option Event} (h : Stride now s e s') : SlotKept s' := by
  rcases h.hold_cases with ⟨-, holds, slot⟩ | ⟨c, a, a', found, shift, holds, slot⟩
  · exact kept.congr h.call_eq holds slot
  · have call := h.call_eq
    have same : a' = a → slotUse e = .keep → SlotKept s' := by
      rintro rfl keep
      refine kept.congr call (fun j => ?_) (by rw [slot, keep]; rfl)
      rw [holds]
      split
      · rename_i hj
        rw [hj, found]
      · rfl
    cases shift with
    | silent => exact same rfl rfl
    | coolDown cause => exact same rfl rfl
    | rescue => exact same rfl rfl
    | defer held taken => exact same rfl rfl
    | quarantine unheld free time =>
        refine kept.shifted call holds (fun t ht => ?_) (fun t _ => ?_) (fun _ => unheld.2) rfl
        · rw [slot]
          exact kept.own found t ht
        · rw [slot]
          rfl
    | release held =>
        refine kept.shifted call holds (fun t ht => ?_) (fun t _ => ?_) nofun rfl
        · rw [slot]
          exact kept.own found t ht
        · rw [slot]
          rfl
    | begin held free =>
        have empty : s.inFlight = none := Option.map_eq_none_iff.1 free
        refine kept.shifted call holds (fun t ht => ?_) (fun t ht => ?_) nofun rfl
        · obtain ⟨owner, circuit, epoch⟩ := t
          cases ht
          simp [slot, slotUse, Event.slotUse, slotAfter, eq_comm]
        · rw [slot, empty]
          constructor
          · rintro ⟨⟩
            exact (ht rfl).elim
          · nofun
    | complete awaited =>
        have timed := kept.timed c a found
        exact kept.released found awaited call holds (slot.trans (kept.freed found awaited)) rfl timed
    | fail awaited time =>
        exact kept.released found awaited call holds (slot.trans (kept.freed found awaited)) rfl rfl

theorem fresh (settings : Settings) (call : CallId) (entropy : UInt64) (now : Instant) :
    SlotKept (Scheduler.fresh settings call entropy now) := by
  have blank : ∀ (c : Nat) (a : Hold), (Scheduler.fresh settings call entropy now).hold? c = some a →
      a = (Health.fresh settings.rebuild.initialBackoff.toNat).hold := by
    intro c a found
    obtain ⟨h, hh, rfl⟩ := hold?_eq_some.1 found
    rw [List.eq_of_mem_replicate (List.mem_of_getElem? hh)]
  constructor
  · intro t
    constructor
    · nofun
    · rintro ⟨-, a, found, rebuilding, -⟩
      rw [blank _ a found] at rebuilding
      cases rebuilding
  · intro c a found
    rw [blank c a found]
    nofun
  · intro c a found
    rw [blank c a found]
    rfl

end SlotKept

/-- At most one rebuild, and one account of it. -/
structure OneRebuild (s : Scheduler) : Prop where
  taken_iff : (∃ t, s.inFlight = some t) ↔
    ∃ (c : Nat) (h : Health), s.circuits[c]? = some h ∧ h.rebuilding = true
  ticket : ∀ t : Ticket, s.inFlight = some t →
    t.call = s.call ∧
    (∃ h, s.circuits[t.circuit]? = some h ∧ h.rebuilding = true ∧ h.epoch = t.epoch) ∧
    ∀ (c : Nat) (h : Health), s.circuits[c]? = some h → h.rebuilding = true → c = t.circuit
  apart : ∀ (c : Nat) (h : Health), s.circuits[c]? = some h →
    ¬ (h.quarantined = true ∧ h.rebuilding = true)
  timed : ∀ (c : Nat) (h : Health), s.circuits[c]? = some h →
    (h.quarantined = true ↔ ∃ time, h.heldUntil = some time)

theorem SlotKept.oneRebuild {s : Scheduler} (kept : SlotKept s) : OneRebuild s := by
  have awaited : ∀ t : Ticket, s.inFlight = some t →
      t.call = s.call ∧ ∃ h, s.circuits[t.circuit]? = some h ∧ h.rebuilding = true ∧
        h.epoch = t.epoch := by
    intro t taken
    obtain ⟨call, a, ha, rebuilding, epoch⟩ := (kept.slot t).1 taken
    obtain ⟨h, found, rfl⟩ := hold?_eq_some.1 ha
    exact ⟨call, h, found, rebuilding, epoch⟩
  refine ⟨⟨?_, ?_⟩, ?_, ?_, ?_⟩
  · rintro ⟨t, taken⟩
    obtain ⟨-, h, found, rebuilding, -⟩ := awaited t taken
    exact ⟨t.circuit, h, found, rebuilding⟩
  · rintro ⟨c, h, found, rebuilding⟩
    exact ⟨_, kept.inFlight_of_rebuilding (hold?_of_found found) rebuilding⟩
  · intro t taken
    obtain ⟨call, h, found, rebuilding, epoch⟩ := awaited t taken
    exact ⟨call, ⟨h, found, rebuilding, epoch⟩, fun c h' found' rebuilding' =>
      kept.unique (hold?_of_found found') (hold?_of_found found) rebuilding' rebuilding⟩
  · rintro c h found ⟨quarantined, rebuilding⟩
    have idle : h.rebuilding = false := kept.apart c h.hold (hold?_of_found found) quarantined
    rw [idle] at rebuilding
    cases rebuilding
  · intro c h found
    have timed : h.quarantined = h.heldUntil.isSome := kept.timed c h.hold (hold?_of_found found)
    rw [timed, Option.isSome_iff_exists]

end Scheduler

namespace Session

theorem run_slotKept {w : Session} (kept : w.scheduler.SlotKept) (moves : List Move) :
    (w.run moves).final.scheduler.SlotKept :=
  run_invariant (fun stride kept => kept.stride stride) kept moves

theorem Opened.slotKept {settings : Settings} {call : CallId} {w : Session}
    (opened : w.Opened settings call) (moves : List Move) :
    (w.run moves).final.scheduler.SlotKept := by
  obtain ⟨entropy, start⟩ := opened.scheduler_eq
  exact run_slotKept (start ▸ .fresh ..) moves

/-- After any run the slot holds the one circuit that is being rebuilt, and nothing when there is none. -/
theorem slot_in_step {settings : Settings} {call : CallId} {w : Session}
    (opened : w.Opened settings call) (moves : List Move) :
    (w.run moves).final.scheduler.OneRebuild :=
  (opened.slotKept moves).oneRebuild

theorem slot_in_step_brisk :
    brisk.Opened .brisk ⟨"A"⟩ ∧
      (brisk.run toRebuild).final.scheduler.inFlight = some ⟨⟨"A"⟩, 0, 1⟩ ∧
      (brisk.run toRebuild).final.scheduler.OneRebuild :=
  ⟨brisk_opened, rfl, slot_in_step brisk_opened toRebuild⟩

end Session

end Multipath
