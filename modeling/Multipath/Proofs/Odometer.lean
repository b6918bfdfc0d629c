import Mathlib.Data.List.Induction
import Multipath.Proofs.Balance
import Multipath.Proofs.Mileage

/-! # Frames sent, and frames sent on the path in use

The two totals of a record against the run that led to it: frames that went out since the start, and
those since the last rebuild of the circuit that succeeded. `Logs` says what one operation does to the
totals of every circuit; only a frame that went out moves the first and only a new path the second, and
no operation does both.

Totals run round, so the run law holds modulo their size. It takes fewer frames than that for the
totals to be what they count.
-/

namespace Multipath

/-- A new path of the circuit is up. -/
def Event.renews (c : Nat) : Event → Bool
  | rebuildSucceeded circuit _ => circuit = c
  | _ => false

theorem Event.not_renews {e : Event} (other : e.outcome? ≠ some .rebuilt) (c : Nat) :
    e.renews c = false := by
  cases e with
  | rebuildSucceeded circuit epoch => exact (other rfl).elim
  | _ => rfl

/-- A frame went out on the circuit. -/
def Operation.sends (c : Nat) : Operation → Bool
  | sent circuit => circuit = c
  | _ => false

namespace Transition

def sends (c : Nat) (t : Transition) : Bool :=
  match t.move with
  | .ask operation => operation.sends c
  | .advance _ => false

def renews (c : Nat) (t : Transition) : Bool := t.events.any (·.renews c)

end Transition

namespace Run

/-- Frames that went out on the circuit. -/
def sent (r : Run) (c : Nat) : Nat := r.transitions.countP (·.sends c)

/-- Frames that went out since the last new path, or since the start. -/
def sentOnPath (r : Run) (c : Nat) : Nat :=
  (r.transitions.reverse.takeWhile (!·.renews c)).countP (·.sends c)

theorem sentOnPath_le (r : Run) (c : Nat) : r.sentOnPath c ≤ r.sent c := by
  unfold sentOnPath sent
  rw [← List.countP_reverse (l := r.transitions)]
  exact (List.takeWhile_sublist _).countP_le

end Run

theorem Health.deliveryRate_eq_none (h : Health) (minFrames : Nat) :
    h.deliveryRate minFrames = none ↔ h.sentOnPath < max 1 minFrames := by
  unfold deliveryRate
  split
  · rename_i early
    simp only [Bool.or_eq_true, decide_eq_true_eq] at early
    simp only [true_iff]
    omega
  · rename_i enough
    simp only [Bool.or_eq_true, decide_eq_true_eq] at enough
    simp only [reduceCtorEq, false_iff]
    omega

/-- The totals went on by a frame, or by a new path, or stayed. -/
structure Mileage.Counts (m m' : Mileage) (sends renews : Bool) : Prop where
  sent : m'.sent = if sends then Counter.nextTotal m.sent else m.sent
  baseline : m'.baseline = if renews then m.sent else m.baseline
  apart : sends = true → renews = false

namespace Scheduler

variable {s s' : Scheduler} {es : List Event} {c : Nat}

/-- The totals of every circuit went on as the frame that was sent and the events say. -/
def Logs (s : Scheduler) (sends : Nat → Bool) (es : List Event) (s' : Scheduler) : Prop :=
  ∀ (c : Nat) (m' : Mileage), s'.mileages[c]? = some m' →
    ∃ m, s.mileages[c]? = some m ∧ m.Counts m' (sends c) (es.any (·.renews c))

theorem any_renews_of_old (old : ∀ e ∈ es, e.outcome? ≠ some .rebuilt) (c : Nat) :
    es.any (·.renews c) = false :=
  List.any_eq_false.2 fun e mem => by
    rw [Event.not_renews (old e mem)]
    exact Bool.false_ne_true

theorem Logs.of_still (old : ∀ e ∈ es, e.outcome? ≠ some .rebuilt)
    (still : ∀ (c : Nat) (m' : Mileage), s'.mileages[c]? = some m' →
      ∃ m, s.mileages[c]? = some m ∧ m'.sent = m.sent ∧ m'.baseline = m.baseline) :
    Logs s (fun _ => false) es s' := by
  intro c m' found'
  obtain ⟨m, found, sent, baseline⟩ := still c m' found'
  rw [any_renews_of_old old]
  exact ⟨m, found, sent, baseline, nofun⟩

theorem Logs.of_eq (old : ∀ e ∈ es, e.outcome? ≠ some .rebuilt)
    (same : s'.mileages = s.mileages) : Logs s (fun _ => false) es s' :=
  .of_still old fun _ m' found' => ⟨m', same ▸ found', rfl, rfl⟩

theorem Logs.of_sent (old : ∀ e ∈ es, e.outcome? ≠ some .rebuilt)
    (driven : s'.mileages = s.mileages.modify c Mileage.drive) :
    Logs s (fun j => decide (c = j)) es s' := by
  intro j m' found'
  rw [driven, List.getElem?_modify] at found'
  obtain ⟨m, found, rfl⟩ := Option.map_eq_some_iff.1 found'
  refine ⟨m, found, ?_⟩
  rw [any_renews_of_old old]
  by_cases same : c = j
  · simp only [same, if_true, decide_true]
    exact ⟨rfl, rfl, fun _ => rfl⟩
  · simp only [same, if_false, decide_false]
    exact ⟨rfl, rfl, nofun⟩

theorem Logs.of_renewed {epoch : Nat} (renewed : s'.mileages = s.mileages.modify c Mileage.renew) :
    Logs s (fun _ => false) [.rebuildSucceeded c epoch] s' := by
  intro j m' found'
  rw [renewed, List.getElem?_modify] at found'
  obtain ⟨m, found, rfl⟩ := Option.map_eq_some_iff.1 found'
  refine ⟨m, found, ?_⟩
  rw [List.any_cons, List.any_nil, Bool.or_false, Event.renews]
  by_cases same : c = j
  · rw [if_pos same, decide_eq_true same]
    exact ⟨rfl, rfl, nofun⟩
  · rw [if_neg same, decide_eq_false same]
    exact ⟨rfl, rfl, nofun⟩

/-! ## Answers -/

theorem rebuilt_logs (s : Scheduler) (now : Instant) (c epoch : Nat) :
    Logs s (fun _ => false) (Notice.events (s.rebuilt now c epoch).notices)
      (s.rebuilt now c epoch).scheduler := by
  unfold rebuilt
  cases awaited : s.awaiting c epoch with
  | error refusal => cases refusal <;> exact .of_eq nofun rfl
  | ok h =>
      obtain ⟨found, -, -⟩ := awaiting_eq_ok.1 awaited
      exact .of_renewed (apply_mileages found rfl)

theorem rebuildFailed_old (s : Scheduler) (now : Instant) (c : Nat) :
    ∀ e ∈ Notice.events (s.rebuildFailed now c).2, e.outcome? ≠ some .rebuilt := by
  unfold rebuildFailed act Scene.rebuildFailed
  cases s.circuits[c]? with
  | none => exact fun e mem => absurd mem List.not_mem_nil
  | some h =>
      cases awaited : h.rebuilding with
      | false =>
          simp only [awaited, Bool.false_eq_true, if_false]
          exact fun e mem => absurd mem List.not_mem_nil
      | true =>
          simp only [awaited, if_true]
          intro e mem
          rw [List.mem_singleton.1 mem]
          simp [Event.outcome?]

theorem rebuildFailed_logs (s : Scheduler) (now : Instant) (c : Nat) :
    Logs s (fun _ => false) (Notice.events (s.rebuildFailed now c).2)
      (s.rebuildFailed now c).1 :=
  .of_eq (s.rebuildFailed_old now c) (act_mileages_eq fun scene h => scene.rebuildFailed_mileage h)

theorem complete_logs (s : Scheduler) (now : Instant) (t : Ticket) (outcome : Outcome) :
    Logs s (fun _ => false) (Notice.events (s.complete now t outcome).notices)
      (s.complete now t outcome).scheduler := by
  unfold complete
  split
  · exact .of_eq nofun rfl
  · cases outcome with
    | rebuilt => exact s.rebuilt_logs now t.circuit t.epoch
    | failed =>
        cases s.awaiting t.circuit t.epoch with
        | error refusal => exact .of_eq nofun rfl
        | ok h => exact s.rebuildFailed_logs now t.circuit

/-! ## Operations -/

theorem takeReports_still {now : Instant} {reports : List (Nat × PeerReport)} {m' : Mileage}
    (found' : (s.takeReports now reports).1.mileages[c]? = some m') :
    ∃ m, s.mileages[c]? = some m ∧ m'.sent = m.sent ∧ m'.baseline = m.baseline := by
  obtain ⟨m, found, rfl | ⟨report, -, rfl⟩⟩ := takeReports_mileage found'
  · exact ⟨m', found, rfl, rfl⟩
  · exact ⟨m, found, rfl, rfl⟩

theorem step_logs (s : Scheduler) (now : Instant) (operation : Operation) :
    Logs s (operation.sends ·) (Notice.events (s.step now operation).notices)
      (s.step now operation).scheduler := by
  have old (silent : operation.answers = false) :
      ∀ e ∈ Notice.events (s.step now operation).notices, e.outcome? ≠ some .rebuilt := by
    intro e mem
    rw [step_unresolved silent e mem]
    nofun
  cases operation with
  | pick => exact .of_eq (old rfl) (s.pick_mileages now)
  | sent c => exact .of_sent (old rfl) (act_mileages fun _ _ => rfl)
  | sendFailed c => exact .of_eq (old rfl) (act_mileages_eq fun scene h => scene.sendFailed_mileage h)
  | lateToBuffer c percent => exact .of_eq (old rfl) (act_mileages_eq fun _ _ => rfl)
  | feedback reports => exact .of_still (old rfl) fun _ _ => takeReports_still
  | lateness percents => exact .of_still (old rfl) fun _ _ => takeReports_still
  | countWindow c lateToBuffer =>
      exact .of_eq (old rfl) (act_mileages_eq fun scene h => scene.countWindow_mileage h lateToBuffer)
  | checkQuarantine c =>
      exact .of_eq (old rfl) (act_mileages_eq fun scene h => scene.checkQuarantine_mileage h)
  | rebuilt c epoch => exact s.rebuilt_logs now c epoch
  | rebuildFailed c => exact s.rebuildFailed_logs now c
  | complete ticket outcome => exact s.complete_logs now ticket outcome
  | takeRequests => exact .of_eq (old rfl) rfl

end Scheduler

namespace Session

variable {settings : Settings} {call : CallId} {w : Session} {c : Nat}

theorem make_counts {move : Move} {m' : Mileage}
    (found' : (w.make move).after.scheduler.mileages[c]? = some m') :
    ∃ m, w.scheduler.mileages[c]? = some m ∧
      m.Counts m' ((w.make move).sends c) ((w.make move).renews c) := by
  cases move with
  | advance us => exact ⟨m', found', rfl, rfl, nofun⟩
  | ask operation => exact w.scheduler.step_logs w.now operation c m' found'

/-! ## Runs -/

theorem run_concat_sent (w : Session) (moves : List Move) (move : Move) (c : Nat) :
    (w.run (moves ++ [move])).sent c =
      if ((w.run moves).final.make move).sends c then (w.run moves).sent c + 1
      else (w.run moves).sent c := by
  rw [run_concat, Run.sent, List.countP_append, List.countP_singleton]
  split <;> rfl

theorem run_concat_sentOnPath (w : Session) (moves : List Move) (move : Move) (c : Nat) :
    (w.run (moves ++ [move])).sentOnPath c =
      if ((w.run moves).final.make move).renews c then 0
      else if ((w.run moves).final.make move).sends c then (w.run moves).sentOnPath c + 1
      else (w.run moves).sentOnPath c := by
  rw [run_concat, Run.sentOnPath, List.reverse_append, List.reverse_singleton,
    List.singleton_append, List.takeWhile_cons]
  cases renews : ((w.run moves).final.make move).renews c with
  | true => rfl
  | false =>
      simp only [Bool.not_false, if_true, Bool.false_eq_true, if_false]
      rw [List.countP_cons]
      split <;> rfl

/-- The totals of a record are the frames of the run, modulo the size of a total. -/
theorem run_mileage (opened : w.Opened settings call) (moves : List Move) {m : Mileage}
    (found : (w.run moves).final.scheduler.mileages[c]? = some m) :
    m.sent = (w.run moves).sent c % UInt64.size ∧
      m.baseline = ((w.run moves).sent c - (w.run moves).sentOnPath c) % UInt64.size := by
  induction moves using List.reverseRecOn generalizing m with
  | nil =>
      obtain ⟨entropy, start⟩ := opened.scheduler_eq
      have zero : m = ⟨0, 0, 0⟩ := by
        rw [run_nil, start] at found
        simp only [Scheduler.mileages, Scheduler.fresh, List.map_replicate] at found
        exact List.eq_of_mem_replicate (List.mem_of_getElem? found)
      rw [zero]
      exact ⟨rfl, rfl⟩
  | append_singleton moves move ih =>
      have after : (w.run (moves ++ [move])).final = ((w.run moves).final.make move).after := by
        rw [run_concat]
      rw [after] at found
      obtain ⟨m₀, found₀, counts⟩ := make_counts found
      obtain ⟨sent, baseline⟩ := ih found₀
      rw [run_concat_sent, run_concat_sentOnPath, counts.sent, counts.baseline, sent, baseline]
      cases renews : ((w.run moves).final.make move).renews c with
      | true =>
          cases sends : ((w.run moves).final.make move).sends c with
          | true =>
              rw [counts.apart sends] at renews
              cases renews
          | false => exact ⟨rfl, rfl⟩
      | false =>
          cases sends : ((w.run moves).final.make move).sends c with
          | true =>
              refine ⟨Nat.mod_add_mod .., ?_⟩
              simp only [if_true, Bool.false_eq_true, if_false]
              rw [Nat.add_sub_add_right]
          | false => exact ⟨rfl, rfl⟩

/-- The totals of a record count what the run did, as long as they do not run round: the baseline never
passes the total, and there is no delivery before enough frames went out on the path in use. -/
theorem frames_counted (opened : w.Opened settings call) (moves : List Move) {h : Health} :
    let r := w.run moves
    r.final.scheduler.circuits[c]? = some h → r.sent c < UInt64.size →
      h.sent = r.sent c ∧ h.baseline ≤ h.sent ∧ h.sentOnPath = r.sentOnPath c ∧
        ∀ minFrames, h.deliveryRate minFrames = none ↔ r.sentOnPath c < max 1 minFrames := by
  intro r found few
  have entry : r.final.scheduler.mileages[c]? = some h.mileage := by
    rw [Scheduler.mileages_getElem?, found]
    rfl
  obtain ⟨sent, baseline⟩ := run_mileage opened moves entry
  have within : r.sentOnPath c ≤ r.sent c := r.sentOnPath_le c
  have total : h.sent = r.sent c := sent.trans (Nat.mod_eq_of_lt few)
  have started : h.baseline = r.sent c - r.sentOnPath c :=
    baseline.trans (Nat.mod_eq_of_lt (Nat.lt_of_le_of_lt (Nat.sub_le ..) few))
  have path : h.sentOnPath = r.sentOnPath c := by
    rw [Health.sentOnPath, total, started, Nat.sub_sub_self within]
  refine ⟨total, by rw [total, started]; exact Nat.sub_le .., path, fun minFrames => ?_⟩
  rw [← path]
  exact h.deliveryRate_eq_none minFrames

/-- Circuit 0 sends three frames before its rebuild fails, one before the next one succeeds, and two
after that. -/
def rebuiltTwice : List Move :=
  [.ask (.sent 0), .ask (.sent 1), .ask (.sent 0), .ask (.sent 0)] ++ toRebuild ++
    [.ask (.complete ⟨⟨"A"⟩, 0, 1⟩ .failed), badWindow 0, .advance 2000, badWindow 0, .ask (.sent 0),
      .ask (.complete ⟨⟨"A"⟩, 0, 2⟩ .rebuilt), .ask (.sent 0), .ask (.sent 1), .ask (.sent 0)]

theorem frames_counted_brisk :
    let r := brisk.run rebuiltTwice
    brisk.Opened .brisk ⟨"A"⟩ ∧ ∃ h, r.final.scheduler.circuits[0]? = some h ∧
      h.sent = 6 ∧ h.baseline = 4 ∧ h.deliveryRate 2 ≠ none ∧ h.deliveryRate 3 = none := by
  intro r
  have sent : r.sent 0 = 6 := by decide +kernel
  have onPath : r.sentOnPath 0 = 2 := by decide +kernel
  obtain ⟨h, found⟩ := Option.isSome_iff_exists.1
    (show r.final.scheduler.circuits[0]?.isSome = true by decide +kernel)
  obtain ⟨total, within, path, rate⟩ :=
    frames_counted brisk_opened rebuiltTwice found (sent ▸ by decide)
  have started : 6 - h.baseline = 2 := by rw [← sent, ← total, ← onPath, ← path, Health.sentOnPath]
  refine ⟨brisk_opened, h, found, total.trans sent, by omega, ?_, ?_⟩
  · exact mt (rate 2).1 (onPath.symm ▸ by decide)
  · exact (rate 3).2 (onPath.symm ▸ by decide)

end Session

end Multipath
