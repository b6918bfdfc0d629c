import Multipath.Proofs.Delay
import Multipath.Proofs.Timeline

/-! # The same call at another time

A run of a call that begins later is the same run, later (`Session.run_delayed`), as long as its clock
does not run round. Two calls with the same seed that begin at different times are both delays of the
call that begins at zero, so nothing that they reply, and nothing in their state but the times noted in
it, depends on when they began.
-/

namespace Multipath

namespace Session

def delayed (w : Session) (d : Nat) : Session := ⟨⟨w.clock.reading + d⟩, w.scheduler.delayed d⟩

end Session

def Transition.delayed (t : Transition) (d : Nat) : Transition :=
  { t with
    before := t.before.delayed d
    notices := t.notices.map (Notice.delayed d)
    after := t.after.delayed d }

def Run.delayed (r : Run) (d : Nat) : Run :=
  ⟨r.final.delayed d, r.transitions.map (·.delayed d)⟩

/-- What every move was answered, and the events that it told. -/
def Run.replies (r : Run) : List (Answer × List Event) :=
  r.transitions.map fun t => (t.answer, t.events)

theorem Run.replies_delayed (r : Run) (d : Nat) : (r.delayed d).replies = r.replies := by
  have same : (fun t : Transition => (t.answer, t.events)) ∘ (Transition.delayed · d) =
      fun t : Transition => (t.answer, t.events) :=
    funext fun t => congrArg (t.answer, ·) (Notice.events_delayed t.notices d)
  rw [replies, delayed, List.map_map, same]
  rfl

theorem Clock.advance_delayed {clock : Clock} {d us : Nat}
    (fits : Fits ⟨clock.reading + d⟩ us) :
    advance ⟨clock.reading + d⟩ us = ⟨(clock.advance us).reading + d⟩ := by
  have near : clock.reading + min us (span - 1) < span :=
    Nat.lt_of_le_of_lt (Nat.add_le_add_right (Nat.le_add_right ..) _) fits
  rw [advance, advance, Nat.mod_eq_of_lt fits, Nat.mod_eq_of_lt near, Nat.add_right_comm]

namespace Session

variable {w w' : Session} {d : Nat} {move : Move} {moves : List Move}

theorem make_delayed (fits : ∀ us, move = .advance us → (w.delayed d).clock.Fits us) :
    (w.delayed d).make move = (w.make move).delayed d := by
  cases move with
  | advance us =>
      have clock : (w.delayed d).clock.advance us = ⟨(w.clock.advance us).reading + d⟩ :=
        Clock.advance_delayed (fits us rfl)
      simp only [make, clock]
      rfl
  | ask operation =>
      have step : (w.delayed d).scheduler.step (w.delayed d).now operation =
          (w.scheduler.step w.now operation).delayed d :=
        w.scheduler.step_delayed d w.now operation
      simp only [make, step]
      rfl

/-- A call that begins later runs the same way, as long as its clock does not run round. -/
theorem run_delayed (steady : (w.delayed d).Steady moves) :
    (w.delayed d).run moves = (w.run moves).delayed d := by
  induction moves generalizing w with
  | nil => rfl
  | cons move moves ih =>
      have first : (w.delayed d).make move = (w.make move).delayed d := by
        refine make_delayed fun us advance => ?_
        subst advance
        exact steady _ List.mem_cons_self us rfl
      have rest : ((w.make move).after.delayed d).run moves =
          ((w.make move).after.run moves).delayed d := by
        refine ih ?_
        have tail := steady.tail
        rw [first] at tail
        exact tail
      simp only [run, first]
      change Run.mk (((w.make move).after.delayed d).run moves).final
        (_ :: (((w.make move).after.delayed d).run moves).transitions) = _
      rw [rest]
      rfl

theorem Steady.take (steady : w.Steady moves) (k : Nat) : w.Steady (moves.take k) := by
  intro t mem
  have whole := run_append w (moves.take k) (moves.drop k)
  rw [List.take_append_drop] at whole
  refine steady t ?_
  rw [whole]
  exact List.mem_append_left _ mem

/-- The session of a call that begins at zero. -/
def atZero (settings : Settings) (call : CallId) : Session := ⟨{}, .fresh settings call 0 0⟩

variable {settings : Settings} {call : CallId}

theorem fresh_delayed (settings : Settings) (call : CallId) (entropy : UInt64) (now : Instant) :
    Scheduler.fresh settings call entropy now =
      (Scheduler.fresh settings call entropy 0).delayed now := by
  simp only [Scheduler.fresh, Scheduler.delayed, List.map_replicate, Nat.zero_add]
  rfl

/-- With a seed in the settings, nothing is left to chance. -/
theorem Opened.eq_delayed (opened : w.Opened settings call)
    (seeded : settings.selection.seed.isSome = true) :
    w = (atZero settings call).delayed w.now := by
  obtain ⟨entropy, start⟩ := opened.scheduler_eq
  obtain ⟨seed, drawn⟩ := Option.isSome_iff_exists.1 seeded
  have same : Scheduler.fresh settings call entropy 0 = .fresh settings call 0 0 := by
    simp only [Scheduler.fresh, drawn, Option.getD_some]
  obtain ⟨clock, scheduler⟩ := w
  simp only at start
  rw [start, fresh_delayed, same]
  simp only [delayed, atZero, now, Nat.zero_add]

/-- When a call begins makes no difference to it. Two calls with the same seeded settings that are
asked the same and wait the same reply the same, and after every move they are in the same phase and
in the same state, but for the times noted in it, which lie as far from the start in one as in the
other. -/
theorem start_unseen (seeded : settings.selection.seed.isSome = true)
    (opened : w.Opened settings call) (opened' : w'.Opened settings call)
    (steady : w.Steady moves) (steady' : w'.Steady moves) :
    (w.run moves).replies = (w'.run moves).replies ∧
      ∀ k, let u := (w.run (moves.take k)).final
        let u' := (w'.run (moves.take k)).final
        u.scheduler.phase u.now = u'.scheduler.phase u'.now ∧
          ∃ s : Scheduler, s.start = 0 ∧
            u.scheduler = s.delayed w.now ∧ u'.scheduler = s.delayed w'.now := by
  have begins := opened.eq_delayed seeded
  have begins' := opened'.eq_delayed seeded
  generalize w.now = d at begins ⊢
  generalize w'.now = d' at begins' ⊢
  subst begins begins'
  refine ⟨?_, fun k => ?_⟩
  · rw [run_delayed steady, run_delayed steady', Run.replies_delayed, Run.replies_delayed]
  · rw [run_delayed (steady.take k), run_delayed (steady'.take k)]
    generalize final : ((atZero settings call).run (moves.take k)).final = u
    have start : u.scheduler.start = 0 := by
      rw [← final]
      exact run_invariant (I := fun s => s.start = 0) (fun stride same => stride.start_eq.trans same)
        rfl _
    simp only [Run.delayed, final]
    refine ⟨?_, u.scheduler, start, rfl, rfl⟩
    exact (u.scheduler.phase_delayed d u.now).trans (u.scheduler.phase_delayed d' u.now).symm

/-- The brisk settings with a seed. -/
def seeded : Settings := { Settings.brisk with selection := { seed := some 7 } }

theorem start_unseen_seeded :
    let w : Session := ⟨{}, .fresh seeded ⟨"A"⟩ 0 0⟩
    let w' : Session := ⟨⟨5000⟩, .fresh seeded ⟨"A"⟩ 1 5000⟩
    seeded.selection.seed.isSome = true ∧ w.Opened seeded ⟨"A"⟩ ∧ w'.Opened seeded ⟨"A"⟩ ∧
      w.Steady toRebuild ∧ w'.Steady toRebuild ∧
      (w.run toRebuild).replies = (w'.run toRebuild).replies ∧
      ∀ k, let u := (w.run (toRebuild.take k)).final
        let u' := (w'.run (toRebuild.take k)).final
        u.scheduler.phase u.now = u'.scheduler.phase u'.now ∧
          ∃ s : Scheduler, s.start = 0 ∧ u.scheduler = s.delayed 0 ∧ u'.scheduler = s.delayed 5000 := by
  intro w w'
  have opened : w.Opened seeded ⟨"A"⟩ := opened_of_check rfl ⟨"A"⟩ 0 {}
  have opened' : w'.Opened seeded ⟨"A"⟩ := opened_of_check rfl ⟨"A"⟩ 1 ⟨5000⟩
  have steady : w.Steady toRebuild := steady_of_duration (by decide)
  have steady' : w'.Steady toRebuild := steady_of_duration (by decide)
  exact ⟨rfl, opened, opened', steady, steady', start_unseen rfl opened opened' steady steady'⟩

end Session

end Multipath
