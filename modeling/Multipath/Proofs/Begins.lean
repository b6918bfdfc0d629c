import Multipath.Handover
import Multipath.Proofs.Strides

/-! # What an operation begins

The operations that hand over are the ones that can begin a rebuild, and no other does: `step_rests` and
`step_begins` say so for every operation. The slot is not given back by those that begin, so they begin
one rebuild at most, when the slot is free at first.
-/

namespace Multipath

namespace Scheduler

/-- No rebuild is begun. -/
structure Rests (s s' : Scheduler) : Prop where
  pending : s.pending = [] → s'.pending = []
  slot : s.inFlight = none → s'.inFlight = none

/-- At most one rebuild is begun, when the slot is free. -/
inductive Begins (s s' : Scheduler) : Prop
  | none (slot : s'.inFlight = s.inFlight) (pending : s'.pending = s.pending)
  | one (t : Ticket) (free : s.inFlight = none) (slot : s'.inFlight = some t)
      (pending : s'.pending = s.pending ++ [t])

variable {s s' s'' : Scheduler} {now : Instant} {c : Nat} {operation : String}
  {turn : Scene → Health → Turn}

theorem Rests.refl (s : Scheduler) : Rests s s := ⟨id, id⟩

theorem Rests.trans (first : Rests s s') (second : Rests s' s'') : Rests s s'' :=
  ⟨second.pending ∘ first.pending, second.slot ∘ first.slot⟩

theorem Begins.refl (s : Scheduler) : Begins s s := .none rfl rfl

theorem Begins.trans (first : Begins s s') (second : Begins s' s'') : Begins s s'' := by
  cases first with
  | none slot pending =>
      cases second with
      | none slot' pending' => exact .none (slot'.trans slot) (pending'.trans pending)
      | one t free slot' pending' => exact .one t (slot ▸ free) slot' (pending ▸ pending')
  | one t free slot pending =>
      cases second with
      | none slot' pending' => exact .one t free (slot'.trans slot) (pending'.trans pending)
      | one t' free' slot' pending' =>
          rw [slot] at free'
          cases free'

theorem apply_rests {t : Turn} (untaken : ∀ epoch, t.slot ≠ .take epoch) :
    Rests s (s.apply c t) := by
  unfold apply
  cases use : t.slot with
  | keep => exact ⟨id, id⟩
  | take epoch => exact (untaken epoch use).elim
  | free =>
      simp only
      split
      · exact ⟨id, fun _ => rfl⟩
      · exact ⟨id, id⟩

theorem act_rests (untaken : ∀ scene h epoch, (turn scene h).slot ≠ .take epoch) :
    Rests s (s.act now c operation turn).1 := by
  unfold act
  cases s.circuits[c]? with
  | none => exact .refl s
  | some h => exact apply_rests (untaken _ h)

theorem act_begins (careful : ∀ (scene : Scene) h, scene.TakesFree (turn scene h)) :
    Begins s (s.act now c operation turn).1 := by
  unfold act
  cases s.circuits[c]? with
  | none => exact .refl s
  | some h =>
      rcases careful (s.scene now c) h with keep | ⟨epoch, take, free⟩
      · exact .none (by simp only [apply, keep]) (by simp only [apply, keep])
      · exact .one ⟨s.call, c, epoch⟩ (Option.map_eq_none_iff.1 free)
          (by simp only [apply, take]) (by simp only [apply, take])

theorem pick_rests (s : Scheduler) (now : Instant) : Rests s (s.pick now).2.1 := by
  have chosen : Rests s (s.choose now).2.1 := by
    rcases s.choose_cases now with ⟨c, generator, he⟩ | ⟨h, -, -, he⟩
    · rw [he]
      exact ⟨id, id⟩
    · rw [he]
      exact ⟨id, id⟩
  rcases s.pick_cases now with ⟨-, he⟩ | ⟨-, -, -, he⟩ | ⟨-, -, he⟩
  · rw [he]
    exact ⟨id, id⟩
  · rw [he]
    exact ⟨id, id⟩
  · rw [he]
    exact ⟨chosen.pending, chosen.slot⟩

theorem rebuilt_rests (s : Scheduler) (now : Instant) (c epoch : Nat) :
    Rests s (s.rebuilt now c epoch).scheduler := by
  unfold rebuilt
  cases s.awaiting c epoch with
  | error refusal => exact .refl s
  | ok h =>
      have freed : ∀ e, ((s.scene now c).rebuilt epoch h).slot ≠ .take e := fun _ => nofun
      exact apply_rests freed

theorem rebuildFailed_rests (s : Scheduler) (now : Instant) (c : Nat) :
    Rests s (s.rebuildFailed now c).1 := by
  refine act_rests fun scene h epoch => ?_
  unfold Scene.rebuildFailed
  split
  · nofun
  · nofun

theorem complete_rests (s : Scheduler) (now : Instant) (t : Ticket) (outcome : Outcome) :
    Rests s (s.complete now t outcome).scheduler := by
  unfold complete
  split
  · exact .refl s
  · cases outcome with
    | rebuilt => exact s.rebuilt_rests now t.circuit t.epoch
    | failed =>
        cases s.awaiting t.circuit t.epoch with
        | error refusal => exact .refl s
        | ok h => exact s.rebuildFailed_rests now t.circuit

/-- An operation that hands nothing over has begun nothing. -/
theorem step_rests {operation : Operation} (quiet : operation.handsOver = false) :
    Rests s (s.step now operation).scheduler := by
  cases operation with
  | pick => exact s.pick_rests now
  | sent c => exact act_rests fun _ _ _ => nofun
  | sendFailed c =>
      refine act_rests fun scene h epoch taken => ?_
      rw [Scene.sendFailed_slot] at taken
      cases taken
  | lateToBuffer c percent => exact act_rests fun _ _ _ => nofun
  | rebuilt c epoch => exact s.rebuilt_rests now c epoch
  | rebuildFailed c => exact s.rebuildFailed_rests now c
  | complete t outcome => exact s.complete_rests now t outcome
  | takeRequests => exact ⟨fun _ => rfl, id⟩
  | _ => cases quiet

theorem takeReports_begins (s : Scheduler) (now : Instant) (reports : List (Nat × PeerReport)) :
    Begins s (s.takeReports now reports).1 := by
  induction reports generalizing s with
  | nil => exact .refl s
  | cons item rest ih =>
      obtain ⟨c, report⟩ := item
      exact (act_begins fun scene h => scene.feedback_takesFree report h).trans (ih _)

/-- The slot is not given back by an operation that hands over, so it begins one rebuild at most. -/
theorem step_begins {operation : Operation} (hands : operation.handsOver = true) :
    Begins s (s.step now operation).scheduler := by
  cases operation with
  | feedback reports => exact s.takeReports_begins now reports
  | lateness percents => exact s.takeReports_begins now _
  | countWindow c lateToBuffer =>
      exact act_begins fun scene h => .inl (scene.countWindow_slot lateToBuffer h)
  | checkQuarantine c => exact act_begins fun scene h => scene.checkQuarantine_takesFree h
  | _ => cases hands

end Scheduler

end Multipath
