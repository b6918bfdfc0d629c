import Multipath.Proofs.Runs

/-! # Circuits side by side

Most operations speak of one circuit and are a turn of it: they read its record, the time, and whether
the rebuild slot is taken. The slot is all that the circuits share. As long as neither of two such
operations begins or ends a rebuild, it makes no difference which of them comes first.
-/

namespace Multipath

/-- A rebuild begins or ends with this event. -/
def Event.movesSlot : Event → Bool
  | rebuildRequested .. | rebuildSucceeded .. | rebuildFailed .. => true
  | _ => false

theorem Event.slotUse_of_not_movesSlot {e : Event} (still : e.movesSlot = false) :
    e.slotUse = .keep := by
  cases e with
  | rebuildRequested circuit epoch => cases still
  | rebuildSucceeded circuit epoch => cases still
  | rebuildFailed circuit failures backoff => cases still
  | _ => rfl

/-- A turn that tells no beginning and no end of a rebuild leaves the slot alone. -/
theorem Scene.Course.slot_keep {scene : Scene} {h : Health} {t : Turn} (course : scene.Course h t)
    (still : ∀ e ∈ t.events, e.movesSlot = false) : t.slot = .keep := by
  induction course with
  | idle same quiet keep => exact keep
  | @deed h t e deed told use =>
      rw [use]
      cases e with
      | none => rfl
      | some e => exact Event.slotUse_of_not_movesSlot (still e (by simp [told]))
  | @andThen h t next first keep rest ihfirst ihrest =>
      rw [andThen_slot keep]
      refine ihrest fun e mem => still e ?_
      rw [Turn.events_andThen]
      exact List.mem_append_right _ mem

def Step.events (step : Step) : List Event := Notice.events step.notices

namespace Operation

/-- The operation speaks of one circuit. -/
inductive On (c : Nat) : Operation → Prop
  | sent : On c (.sent c)
  | sendFailed : On c (.sendFailed c)
  | lateToBuffer (percent : Float) : On c (.lateToBuffer c percent)
  | feedback (report : PeerReport) : On c (.feedback [(c, report)])
  | countWindow (late : Float) : On c (.countWindow c late)
  | checkQuarantine : On c (.checkQuarantine c)
  | rebuilt (epoch : Nat) : On c (.rebuilt c epoch)
  | rebuildFailed : On c (.rebuildFailed c)

/-- The turn that the circuit of an operation takes. -/
def turn : Operation → Scene → Health → Turn
  | .sent _, _, h => { health := h.countSent }
  | .sendFailed _, scene, h => scene.sendFailed h
  | .lateToBuffer _ percent, _, h => { health := { h with lateToBuffer := percent } }
  | .feedback ((_, report) :: _), scene, h => scene.feedback report h
  | .countWindow _ late, scene, h => scene.countWindow late h
  | .checkQuarantine _, scene, h => scene.checkQuarantine h
  | .rebuilt _ epoch, scene, h =>
      if h.rebuilding = true ∧ h.epoch = epoch then scene.rebuilt epoch h else { health := h }
  | .rebuildFailed _, scene, h => scene.rebuildFailed h
  | _, _, h => { health := h }

variable {a : Operation} {c : Nat}

theorem On.turn_course (on : a.On c) (scene : Scene) (h : Health) :
    scene.Course h (a.turn scene h) := by
  cases on with
  | sent => exact .deed .sent rfl rfl
  | sendFailed => exact scene.sendFailed_course h
  | lateToBuffer percent => exact .deed (.lateToBuffer percent) rfl rfl
  | feedback report => exact scene.feedback_course report h
  | countWindow late => exact scene.countWindow_course late h
  | checkQuarantine => exact scene.checkQuarantine_course h
  | rebuilt epoch =>
      by_cases awaited : h.rebuilding = true ∧ h.epoch = epoch
      · simp only [turn, awaited, and_self, if_true]
        exact awaited.2 ▸ scene.rebuilt_course h awaited.1
      · simp only [turn, awaited, if_false]
        exact .idle rfl rfl rfl
  | rebuildFailed => exact scene.rebuildFailed_course h

end Operation

namespace Scheduler

open Operation

variable {s s' : Scheduler} {now : Instant} {c i j : Nat} {a b : Operation} {h : Health}

/-! ## Operations as turns -/

theorem rebuilt_of_found (found : s.circuits[c]? = some h) (now : Instant) (epoch : Nat) :
    let t := (Operation.rebuilt c epoch).turn (s.scene now c) h
    (s.rebuilt now c epoch).scheduler = s.apply c t ∧
      Notice.events (s.rebuilt now c epoch).notices = t.events := by
  unfold rebuilt
  by_cases awaited : h.rebuilding = true ∧ h.epoch = epoch
  · simp only [awaiting_eq_ok.2 ⟨found, awaited⟩, turn, awaited, and_self, if_true, true_and]
    rfl
  · cases refused : s.awaiting c epoch with
    | ok g =>
        obtain ⟨found', awaited'⟩ := awaiting_eq_ok.1 refused
        rw [found] at found'
        cases found'
        exact (awaited awaited').elim
    | error refusal =>
        simp only [turn, awaited, if_false]
        refine ⟨(apply_idle found rfl).symm, ?_⟩
        cases refusal <;> rfl

/-- An operation on a circuit that exists is its turn. -/
theorem step_of_found (on : a.On c) (found : s.circuits[c]? = some h) (now : Instant) :
    (s.step now a).scheduler = s.apply c (a.turn (s.scene now c) h) ∧
      (s.step now a).events = (a.turn (s.scene now c) h).events := by
  cases on with
  | feedback report =>
      have told : (s.step now (.feedback [(c, report)])).events = _ := s.feedback_events now [(c, report)]
      rw [told]
      simp [step, step.quiet, feedback, takeReports, act_of_found found, turn, Turn.events]
  | rebuilt epoch => exact rebuilt_of_found found now epoch
  | rebuildFailed =>
      simp only [step, step.quiet, rebuildFailed, act_of_found found, Step.events]
      exact ⟨rfl, rfl⟩
  | _ =>
      simp only [step, step.quiet, act_of_found found, Step.events]
      exact ⟨rfl, rfl⟩

theorem awaiting_of_stray (stray : s.circuits[c]? = none) (epoch : Nat) :
    s.awaiting c epoch = .error (.noSuchCircuit c s.size) := by
  simp [awaiting, lookUp, stray, bind, Except.bind]

/-- An operation on a circuit that does not exist does nothing. -/
theorem step_of_stray (on : a.On c) (stray : s.circuits[c]? = none) (now : Instant) :
    (s.step now a).scheduler = s ∧ (s.step now a).events = [] := by
  have ignored : ∀ operation turn, (s.act now c operation turn).1 = s ∧
      Notice.events (s.act now c operation turn).2 = [] := by
    intro operation turn
    rw [act_of_stray stray]
    exact ⟨rfl, rfl⟩
  cases on with
  | feedback report =>
      obtain ⟨same, quiet⟩ := ignored "update_from_receiver_feedback" (·.feedback report)
      simp only [step, step.quiet, feedback, takeReports, Step.events, Notice.events_append, quiet, same,
        true_and]
      rfl
  | rebuilt epoch =>
      simp only [step, step.answered, rebuilt, awaiting_of_stray stray, true_and]
      rfl
  | _ => exact ignored _ _

/-- The answer of an operation is read off the record of its circuit. -/
theorem answer_eq_of_on (on : a.On c) (record : s'.circuits[c]? = s.circuits[c]?)
    (size : s'.size = s.size) (now : Instant) : (s'.step now a).answer = (s.step now a).answer := by
  cases on with
  | rebuilt epoch =>
      have awaiting : s'.awaiting c epoch = s.awaiting c epoch := by
        simp only [Scheduler.awaiting, lookUp, record, size]
      simp only [step, step.answered, rebuilt, awaiting]
      cases s.awaiting c epoch <;> rfl
  | _ => rfl

/-! ## Two operations on two circuits -/

/-- No rebuild begins or ends with the operation. -/
def Still (s : Scheduler) (now : Instant) (a : Operation) : Prop :=
  ∀ e ∈ (s.step now a).events, e.movesSlot = false

instance (s : Scheduler) (now : Instant) (a : Operation) : Decidable (s.Still now a) :=
  inferInstanceAs (Decidable (∀ e ∈ (s.step now a).events, e.movesSlot = false))

/-- Such an operation writes the record of its circuit and nothing else. -/
theorem Still.step_of_found (still : s.Still now a) (on : a.On c)
    (found : s.circuits[c]? = some h) :
    (s.step now a).scheduler =
      { s with circuits := s.circuits.set c (a.turn (s.scene now c) h).health } := by
  obtain ⟨turn, told⟩ := Scheduler.step_of_found on found now
  have keep : (a.turn (s.scene now c) h).slot = .keep :=
    (on.turn_course _ h).slot_keep (told ▸ still)
  rw [turn, apply_keep keep]

/-- What another circuit can see of it. -/
theorem Still.unseen (still : s.Still now a) (on : a.On i) (apart : i ≠ j) :
    let after := (s.step now a).scheduler
    after.circuits[j]? = s.circuits[j]? ∧ after.size = s.size ∧ after.scene now j = s.scene now j := by
  intro after
  cases found : s.circuits[i]? with
  | none =>
      have same : after = s := (step_of_stray on found now).1
      rw [same]
      exact ⟨rfl, rfl, rfl⟩
  | some h =>
      have same : after = { s with circuits := s.circuits.set i (a.turn (s.scene now i) h).health } :=
        still.step_of_found on found
      rw [same]
      exact ⟨List.getElem?_set_ne apart, List.length_set, rfl⟩

/-- So another circuit tells the same after it. -/
theorem Still.events_after (still : s.Still now a) (onA : a.On i) (onB : b.On j) (apart : i ≠ j) :
    ((s.step now a).scheduler.step now b).events = (s.step now b).events := by
  obtain ⟨record, -, scene⟩ := still.unseen onA apart
  cases found : s.circuits[j]? with
  | none =>
      rw [(step_of_stray onB found now).2, (step_of_stray onB (record.trans found) now).2]
  | some h =>
      rw [(Scheduler.step_of_found onB found now).2,
        (Scheduler.step_of_found onB (record.trans found) now).2, scene]

theorem Still.after (still : s.Still now a) (still' : s.Still now b) (onA : a.On i) (onB : b.On j)
    (apart : i ≠ j) : (s.step now a).scheduler.Still now b := by
  unfold Still
  rw [still.events_after onA onB apart]
  exact still'

/-! ## Both orders -/

theorem scheduler_comm_of_stray (still : s.Still now b) (onA : a.On i) (onB : b.On j) (apart : i ≠ j)
    (stray : s.circuits[i]? = none) :
    ((s.step now a).scheduler.step now b).scheduler =
      ((s.step now b).scheduler.step now a).scheduler := by
  obtain ⟨record, -, -⟩ := still.unseen onB apart.symm
  rw [(step_of_stray onA stray now).1, (step_of_stray onA (record.trans stray) now).1]

theorem scheduler_after_both (stillA : s.Still now a) (stillB : s.Still now b) (onA : a.On i)
    (onB : b.On j) (apart : i ≠ j) {g : Health} (foundA : s.circuits[i]? = some h)
    (foundB : s.circuits[j]? = some g) :
    ((s.step now a).scheduler.step now b).scheduler =
      { s with
        circuits := (s.circuits.set i (a.turn (s.scene now i) h).health).set j
          (b.turn (s.scene now j) g).health } := by
  obtain ⟨record, -, scene⟩ := stillA.unseen onA apart
  rw [(stillA.after stillB onA onB apart).step_of_found onB (record.trans foundB), scene,
    stillA.step_of_found onA foundA]

theorem scheduler_comm (stillA : s.Still now a) (stillB : s.Still now b) (onA : a.On i)
    (onB : b.On j) (apart : i ≠ j) :
    ((s.step now a).scheduler.step now b).scheduler =
      ((s.step now b).scheduler.step now a).scheduler := by
  cases foundA : s.circuits[i]? with
  | none => exact scheduler_comm_of_stray stillB onA onB apart foundA
  | some h =>
      cases foundB : s.circuits[j]? with
      | none => exact (scheduler_comm_of_stray stillA onB onA apart.symm foundB).symm
      | some g =>
          rw [scheduler_after_both stillA stillB onA onB apart foundA foundB,
            scheduler_after_both stillB stillA onB onA apart.symm foundB foundA,
            List.set_comm _ _ apart]

theorem events_of_on (on : a.On c) : ∀ e ∈ (s.step now a).events, e.circuit = c := by
  cases found : s.circuits[c]? with
  | none =>
      rw [(step_of_stray on found now).2]
      nofun
  | some h =>
      rw [(step_of_found on found now).2]
      exact (on.turn_course (s.scene now c) h).circuit_eq

theorem filter_append_comm {es es' : List Event} (onA : ∀ e ∈ es, e.circuit = i)
    (onB : ∀ e ∈ es', e.circuit = j) (apart : i ≠ j) (c : Nat) :
    (es ++ es').filter (·.circuit = c) = (es' ++ es).filter (·.circuit = c) := by
  rw [List.filter_append, List.filter_append]
  by_cases own : i = c
  · have others : es'.filter (·.circuit = c) = [] :=
      Event.filter_of_ne fun e mem => by simpa [onB e mem, ← own] using apart.symm
    rw [others, List.append_nil, List.nil_append]
  · have none_ : es.filter (·.circuit = c) = [] :=
      Event.filter_of_ne fun e mem => by simpa [onA e mem] using own
    rw [none_, List.append_nil, List.nil_append]

/-- Two circuits give the same in either order: the same scheduler, the same events of each circuit, and
the same answers. -/
theorem operations_commute (apart : i ≠ j) (onA : a.On i) (onB : b.On j) (stillA : s.Still now a)
    (stillB : s.Still now b) :
    let first := s.step now a
    let second := s.step now b
    let ab := first.scheduler.step now b
    let ba := second.scheduler.step now a
    ab.scheduler = ba.scheduler ∧
      (∀ c, (first.events ++ ab.events).filter (·.circuit = c) =
        (second.events ++ ba.events).filter (·.circuit = c)) ∧
      ab.answer = second.answer ∧ ba.answer = first.answer := by
  intro first second ab ba
  have toldB : ab.events = second.events := stillA.events_after onA onB apart
  have toldA : ba.events = first.events := stillB.events_after onB onA apart.symm
  obtain ⟨recordB, sizeB, -⟩ := stillA.unseen onA apart
  obtain ⟨recordA, sizeA, -⟩ := stillB.unseen onB apart.symm
  refine ⟨scheduler_comm stillA stillB onA onB apart, fun c => ?_, answer_eq_of_on onB recordB sizeB now,
    answer_eq_of_on onA recordA sizeA now⟩
  rw [toldA, toldB]
  exact filter_append_comm (events_of_on onA) (events_of_on onB) apart c

end Scheduler

namespace Session

open Scheduler

/-- The quarantines of both circuits are over. -/
def bothDue : List Move := [badWindow 0, badWindow 1, .advance 1000]

/-- While circuit 0 is being rebuilt, a window of it and the end of the other one's quarantine. -/
theorem operations_commute_brisk :
    let s := (brisk.run (bothDue ++ [badWindow 0])).final.scheduler
    let a : Operation := .feedback [(0, { concealed := 50.0 })]
    let b : Operation := .checkQuarantine 1
    let first := s.step 1000 a
    let second := s.step 1000 b
    let ab := first.scheduler.step 1000 b
    let ba := second.scheduler.step 1000 a
    s.Still 1000 a ∧ s.Still 1000 b ∧ second.events = [.rebuildDeferred 1] ∧
      ab.scheduler = ba.scheduler ∧
      (∀ c, (first.events ++ ab.events).filter (·.circuit = c) =
        (second.events ++ ba.events).filter (·.circuit = c)) ∧
      ab.answer = second.answer ∧ ba.answer = first.answer := by
  intro s a b first second ab ba
  have stillA : s.Still 1000 a := by decide
  have stillB : s.Still 1000 b := by decide
  exact ⟨stillA, stillB, rfl,
    operations_commute (by decide) (.feedback _) .checkQuarantine stillA stillB⟩

/-- The first of two checks takes the slot. -/
example :
    let s := (brisk.run bothDue).final.scheduler
    let check (s : Scheduler) (c : Nat) : Scheduler := (s.step 1000 (.checkQuarantine c)).scheduler
    (check (check s 0) 1).inFlight ≠ (check (check s 1) 0).inFlight := by
  decide

end Session

end Multipath
