import Multipath.Proofs.Settled

/-! # Where the frames of a simulated call went

Three parts of a simulation count the frames of a circuit, each for itself: the scheduler what went
out and what the peer said it received, the network what arrived on the path in use, the tally what was
done with the frames that the circuit was chosen for. `Fits` is how the three accounts go together. They
are started over at different times and by different code, yet every entry keeps it.
-/

namespace Multipath.Simulation

/-! ## One circuit -/

/-- The accounts of one circuit after `n` frames of the call. -/
structure Fits (n : Nat) (m : Mileage) (v : VirtualCircuit) (t : Tally) : Prop where
  heard : m.received ≤ v.received
  arrived : m.baseline + v.received ≤ m.sent
  sent : m.sent + t.sendFailures = t.selected
  lost : t.lost ≤ m.sent
  few : t.selected ≤ n

namespace Fits

variable {n n' : Nat} {m : Mileage} {v : VirtualCircuit} {t : Tally}

theorem mono (fits : Fits n m v t) (le : n ≤ n') : Fits n' m v t :=
  { fits with few := Nat.le_trans fits.few le }

/-- A frame of the circuit. The total is far from running round. -/
theorem meet (fits : Fits n m v t) (room : n + 1 < UInt64.size) (fate : Fate) :
    Fits (n + 1) (fate.drive m) (v.meet fate) (t.count fate) := by
  obtain ⟨heard, arrived, sent, lost, few⟩ := fits
  have next : Counter.nextTotal m.sent = m.sent + 1 := Counter.nextTotal_of_lt (by omega)
  cases fate with
  | sendFailed =>
      have counted : t.count .sendFailed =
          { t with selected := t.selected + 1, sendFailures := t.sendFailures + 1 } := rfl
      rw [counted]
      exact ⟨heard, arrived, congrArg (· + 1) sent, lost, Nat.succ_le_succ few⟩
  | lost =>
      have counted : t.count .lost =
          { t with selected := t.selected + 1, lost := t.lost + 1 } := rfl
      have carried : v.meet .lost =
          { v with sentInWindow := v.sentInWindow + 1, lostInWindow := v.lostInWindow + 1 } := rfl
      rw [counted, carried, Fate.drive, Mileage.drive, next]
      constructor <;> simp only <;> omega
  | delivered =>
      have counted : t.count .delivered = { t with selected := t.selected + 1 } := rfl
      have carried : v.meet .delivered =
          { v with sentInWindow := v.sentInWindow + 1, received := v.received + 1 } := rfl
      rw [counted, carried, Fate.drive, Mileage.drive, next]
      constructor <;> simp only <;> omega

theorem hear (fits : Fits n m v t) : Fits n (m.hear v.received) v t :=
  { fits with heard := Nat.le_refl v.received }

theorem closeWindow (fits : Fits n m v t) : Fits n m v.closeWindow t :=
  ⟨fits.heard, fits.arrived, fits.sent, fits.lost, fits.few⟩

/-- A new path: the scheduler and the network start over together. -/
theorem renew (fits : Fits n m v t) (loss : Float) : Fits n m.renew (v.reconnect loss) t :=
  ⟨Nat.le_refl 0, Nat.le_refl m.sent, fits.sent, fits.lost, fits.few⟩

end Fits

/-! ## All circuits -/

structure Books.Carried (n : Nat) (b : Books) : Prop where
  fits : ∀ {j : Nat} {m : Mileage} {v : VirtualCircuit} {t : Tally},
    b.mileages[j]? = some m → b.circuits[j]? = some v → b.tallies[j]? = some t → Fits n m v t
  selected : (b.tallies.map Tally.selected).sum = n

theorem found_of_modify {α : Type} {l : List α} {f : α → α} {i j : Nat} {x' : α}
    (found : (l.modify i f)[j]? = some x') :
    ∃ x, l[j]? = some x ∧ x' = if i = j then f x else x := by
  rw [List.getElem?_modify] at found
  obtain ⟨x, before, rfl⟩ := Option.map_eq_some_iff.1 found
  exact ⟨x, before, rfl⟩

theorem Entry.carried {b b' : Books} {k n : Nat} (entry : Entry b n b')
    (room : k + n < UInt64.size) (carried : b.Carried k) : b'.Carried (k + n) := by
  obtain ⟨fits, selected⟩ := carried
  cases entry with
  | idle => exact ⟨fits, selected⟩
  | @frame c fate told inside unresolved =>
      refine ⟨fun {j m' v' t'} foundm foundv foundt => ?_, ?_⟩
      · obtain ⟨m, hm, rfl⟩ := found_of_modify foundm
        obtain ⟨v, hv, rfl⟩ := found_of_modify foundv
        obtain ⟨t, ht, rfl⟩ := found_of_modify foundt
        by_cases here : c = j
        · simp only [here, if_true]
          exact (fits hm hv ht).meet room fate
        · simp only [here, if_false]
          exact (fits hm hv ht).mono (Nat.le_succ k)
      · rw [← selected]
        exact sum_map_modify inside fun _ => rfl
  | report heard unresolved =>
      refine ⟨fun {j m' v' t'} foundm foundv foundt => ?_, selected⟩
      rw [List.getElem?_map] at foundv
      obtain ⟨v, hv, rfl⟩ := Option.map_eq_some_iff.1 foundv
      obtain ⟨m, hm, rfl | ⟨w, hw, rfl⟩⟩ := heard j m' foundm
      · exact (fits hm hv foundt).closeWindow
      · rw [hv] at hw
        cases hw
        exact (fits hm hv foundt).hear.closeWindow
  | @rebuilt c loss e inside resolved =>
      refine ⟨fun {j m' v' t'} foundm foundv foundt => ?_, selected⟩
      obtain ⟨m, hm, rfl⟩ := found_of_modify foundm
      obtain ⟨v, hv, rfl⟩ := found_of_modify foundv
      by_cases here : c = j
      · simp only [here, if_true]
        exact (fits hm hv foundt).renew loss
      · simp only [here, if_false]
        exact fits hm hv foundt
  | failed resolved => exact ⟨fits, selected⟩

theorem opening_carried (settings : Settings) (scenario : Scenario) (call : CallId)
    (entropy : UInt64) :
    ((opening settings scenario call entropy).books (.fresh settings call entropy 0)).Carried 0 := by
  constructor
  · intro j m v t foundm foundv foundt
    have zerom : m = ⟨0, 0, 0⟩ := by
      have mem := List.mem_of_getElem? foundm
      simp only [State.books, Scheduler.mileages, Scheduler.fresh, List.map_replicate] at mem
      exact List.eq_of_mem_replicate mem
    have zerov : v.received = 0 := by
      obtain ⟨i, -, rfl⟩ := List.mem_map.1 (List.mem_of_getElem? foundv)
      rfl
    have zerot : t = {} := List.eq_of_mem_replicate (List.mem_of_getElem? foundt)
    subst zerom zerot
    exact ⟨Nat.zero_le _, by simp [zerov], rfl, Nat.le_refl 0, Nat.le_refl 0⟩
  · simp [State.books, opening]

theorem Scenario.frames_lt (scenario : Scenario) : scenario.frames < UInt64.size := by
  have below : scenario.seconds * 1000 % UInt64.size < UInt64.size := Nat.mod_lt _ (by decide)
  exact Nat.lt_of_le_of_lt (Nat.div_le_self ..) below

/-- After every frame of the call the accounts fit together. -/
theorem frames_carry {settings : Settings} (accepted : settings.check = .ok ())
    (scenario : Scenario) (call : CallId) (entropy : UInt64) {n : Nat} (le : n ≤ scenario.frames) :
    Lives (session settings call entropy) (Books.Carried n)
      ((opening settings scenario call entropy).frames scenario 1 n) := by
  have first : Lives (session settings call entropy) (Books.Carried 0)
      (opening settings scenario call entropy) :=
    ⟨_, _, opening_live settings scenario call entropy, opening_carried ..⟩
  have carried := frames_live (B := Books.Carried) (session_opened accepted call entropy)
    (fun entry le => entry.carried (Nat.lt_of_le_of_lt le scenario.frames_lt)) first scenario 1 n
    (Nat.le_trans (Nat.le_of_eq (Nat.zero_add n)) le)
  rw [Nat.zero_add] at carried
  exact carried

/-- After every frame the peer has reported no more frames of a circuit than the network has delivered
on its path, and those are no more than were sent on the path. No rate of delivery exceeds one. -/
theorem received_le_sent {settings : Settings} (accepted : settings.check = .ok ())
    (scenario : Scenario) (call : CallId) (entropy : UInt64) :
    ∃ first, start settings scenario call entropy = .ok first ∧
      ∀ n ≤ scenario.frames,
        let after := first.frames scenario 1 n
        ∃ s, after.call.scheduler = some s ∧ ∀ c < settings.circuits.toNat,
          ∃ h v, s.circuits[c]? = some h ∧ after.network.circuits[c]? = some v ∧
            h.received ≤ v.received ∧ v.received ≤ h.sentOnPath := by
  refine ⟨_, start_eq accepted scenario call entropy, fun n le => ?_⟩
  intro after
  obtain ⟨s, waiting, live, carried⟩ := frames_carry accepted scenario call entropy le
  refine ⟨s, congrArg SharedCall.scheduler live.call, fun c inside => ?_⟩
  rw [← live.size_eq (session_opened accepted call entropy)] at inside
  have found : s.circuits[c]? = some _ := List.getElem?_eq_getElem inside
  have foundv : after.network.circuits[c]? = some _ :=
    List.getElem?_eq_getElem (live.circuits.symm ▸ inside)
  have foundt : after.tallies[c]? = some _ :=
    List.getElem?_eq_getElem (live.tallies.symm ▸ inside)
  have foundm : s.mileages[c]? = some s.circuits[c].mileage := by
    rw [s.mileages_getElem?, found]
    rfl
  have fits := carried.fits foundm foundv foundt
  refine ⟨_, _, found, foundv, fits.heard, ?_⟩
  have arrived := fits.arrived
  simp only [Health.mileage] at arrived
  unfold Health.sentOnPath
  omega

theorem received_le_sent_brisk :
    Settings.brisk.check = .ok () ∧
      ∃ first, start .brisk lossy ⟨"A"⟩ 0 = .ok first ∧
        ∀ n ≤ 50,
          let after := first.frames lossy 1 n
          ∃ s, after.call.scheduler = some s ∧ ∀ c < 2,
            ∃ h v, s.circuits[c]? = some h ∧ after.network.circuits[c]? = some v ∧
              h.received ≤ v.received ∧ v.received ≤ h.sentOnPath :=
  ⟨rfl, received_le_sent rfl lossy ⟨"A"⟩ 0⟩

/-! ## The clock -/

namespace State

theorem blameLate_clock (s : State) (reports : List (Nat × PeerReport)) :
    (s.blameLate reports).clock = s.clock := by
  induction reports generalizing s with
  | nil => rfl
  | cons item rest ih => exact (ih _).trans (s.operate_clock _)

theorem giveFeedback_clock (s : State) : s.giveFeedback.clock = s.clock := by
  rw [giveFeedback_eq]
  exact (operate_clock ..).trans (blameLate_clock ..)

theorem sendFrame_clock (s : State) : s.sendFrame.clock = s.clock :=
  (operate_clock ..).trans (s.operate_clock .pick)

theorem Chore.clock_eq {latency : Nat} {s s' : State} (chore : Chore latency s s') :
    s'.clock = s.clock := by
  cases chore with
  | report => exact giveFeedback_clock _
  | takeUp ticket rest free => rfl
  | finish busy ready => rfl

theorem frame_clock (s : State) (scenario : Scenario) (frame : Nat) :
    (s.frame scenario frame).clock = s.clock.advanceMillis frameMillis := by
  have start : s.sendFrame.clock.advanceMillis frameMillis = s.clock.advanceMillis frameMillis :=
    congrArg (Clock.advanceMillis · frameMillis) s.sendFrame_clock
  exact frame_keeps (I := fun st => st.clock = s.clock.advanceMillis frameMillis)
    (fun chore same => chore.clock_eq.trans same) start

theorem frames_clock {s : State} {start : Nat} (reads : s.clock = ⟨start⟩) (scenario : Scenario)
    (first n : Nat) (room : start + n * millis frameMillis < Clock.span) :
    (s.frames scenario first n).clock = ⟨start + n * millis frameMillis⟩ := by
  induction n generalizing s start first with
  | zero =>
      rw [Nat.zero_mul, Nat.add_zero]
      exact reads
  | succ n ih =>
      rw [Nat.succ_mul] at room ⊢
      have one : (s.frame scenario first).clock = ⟨start + millis frameMillis⟩ := by
        have below : start + millis frameMillis < Clock.span := by omega
        rw [frame_clock, reads]
        exact congrArg Clock.mk (Clock.reading_advanceMillis_of_lt below)
      have sum : start + millis frameMillis + n * millis frameMillis =
          start + (n * millis frameMillis + millis frameMillis) := by omega
      rw [State.frames, ih one (first + 1) (by omega)]
      exact congrArg Clock.mk sum

end State

/-! ## The whole call -/

theorem Scenario.frames_eq {scenario : Scenario} (room : scenario.seconds * 1000000 < UInt64.size) :
    scenario.frames = 50 * scenario.seconds := by
  simp only [Scenario.frames, frameMillis, UInt64.size] at room ⊢
  omega

theorem Live.start_eq {settings : Settings} {call : CallId} {entropy : UInt64} {st : State}
    {s : Scheduler} {waiting : List Ticket}
    (live : Live (session settings call entropy) st s waiting) : s.start = 0 := by
  obtain ⟨moves, final, -⟩ := live.reached
  have kept : ((session settings call entropy).run moves).final.scheduler.start = 0 :=
    Session.run_invariant (I := fun s => s.start = 0) (fun stride same => stride.start_eq.trans same)
      rfl moves
  rw [final] at kept
  exact kept

end Multipath.Simulation
