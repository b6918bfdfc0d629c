import Multipath.Proofs.Accepted
import Multipath.Proofs.Strides

/-! # Runs of a call

A session is a scheduler beside the clock that it is told the time by. Time passes, or something is
asked of the scheduler: these are its moves, and a run makes them one by one and keeps what each of
them did. `Opened` is a session whose scheduler has just been built, at any reading of the clock.

`run_induction` carries a law from strides to runs. A law that speaks of answers is proved of the
transitions, each of which starts where the run up to it ends (`run_transition_at`).
-/

namespace Multipath

structure Session where
  clock : Clock
  scheduler : Scheduler

inductive Move where
  | advance (microseconds : Nat)
  | ask (operation : Operation)

/-- What one move did. -/
structure Transition where
  before : Session
  move : Move
  answer : Answer := .nothing
  notices : List Notice := []
  after : Session

def Transition.events (t : Transition) : List Event := Notice.events t.notices

structure Run where
  final : Session
  transitions : List Transition

def Run.events (r : Run) : List Event := r.transitions.flatMap Transition.events

/-- Two circuits that are judged from the start: one bad window holds a circuit for a millisecond,
and the next one rebuilds it. -/
def Settings.brisk : Settings where
  circuits := 2
  phases := ⟨0, 0, 0⟩
  cooldown := { minFrames := 0 }
  rebuild := { badStreak := 1, rebuildStreak := 1, initialBackoff := 1, maxBackoff := 4 }

/-- The defaults, but for a call with one circuit. -/
def Settings.single : Settings := { circuits := 1 }

namespace Session

def now (w : Session) : Instant := w.clock.reading

def make (w : Session) : Move → Transition
  | .advance us =>
      { before := w, move := .advance us, after := { w with clock := w.clock.advance us } }
  | .ask operation =>
      let step := w.scheduler.step w.now operation
      { before := w
        move := .ask operation
        answer := step.answer
        notices := step.notices
        after := { w with scheduler := step.scheduler } }

def run (w : Session) : List Move → Run
  | [] => ⟨w, []⟩
  | move :: moves =>
      let t := w.make move
      let rest := t.after.run moves
      ⟨rest.final, t :: rest.transitions⟩

def Opened (settings : Settings) (call : CallId) (w : Session) : Prop :=
  ∃ entropy notices, Scheduler.build settings call entropy w.now = .ok (w.scheduler, notices)

/-! ## Composition -/

@[simp] theorem run_nil (w : Session) : w.run [] = ⟨w, []⟩ := rfl

theorem run_cons_events (w : Session) (move : Move) (moves : List Move) :
    (w.run (move :: moves)).events = (w.make move).events ++ ((w.make move).after.run moves).events :=
  List.flatMap_cons

theorem run_append (w : Session) (first second : List Move) :
    w.run (first ++ second) =
      let a := w.run first
      let b := a.final.run second
      ⟨b.final, a.transitions ++ b.transitions⟩ := by
  induction first generalizing w with
  | nil => rfl
  | cons move first ih => simp only [List.cons_append, run, ih]

theorem run_append_final (w : Session) (first second : List Move) :
    (w.run (first ++ second)).final = ((w.run first).final.run second).final := by
  rw [run_append]

theorem run_append_events (w : Session) (first second : List Move) :
    (w.run (first ++ second)).events =
      (w.run first).events ++ ((w.run first).final.run second).events := by
  rw [run_append]
  exact List.flatMap_append

theorem run_concat (w : Session) (moves : List Move) (move : Move) :
    w.run (moves ++ [move]) =
      let t := (w.run moves).final.make move
      ⟨t.after, (w.run moves).transitions ++ [t]⟩ :=
  w.run_append moves [move]

/-- Place `k` of a run is a move from where the first `k` moves lead. -/
theorem run_transition_at {w : Session} {moves : List Move} {k : Nat} {t : Transition}
    (h : (w.run moves).transitions[k]? = some t) :
    ∃ move, moves[k]? = some move ∧ t = (w.run (moves.take k)).final.make move := by
  induction moves generalizing w k with
  | nil => simp at h
  | cons move moves ih =>
      cases k with
      | zero =>
          simp only [run, List.getElem?_cons_zero, Option.some.injEq] at h
          exact ⟨move, rfl, h.symm⟩
      | succ k =>
          simp only [run, List.getElem?_cons_succ] at h
          exact ih h

/-! ## From strides to runs -/

theorem make_move (w : Session) (move : Move) : (w.make move).move = move := by
  cases move <;> rfl

theorem make_strides (w : Session) (move : Move) :
    Scheduler.Strides w.now w.scheduler (w.make move).events (w.make move).after.scheduler := by
  cases move with
  | advance us => exact .refl w.scheduler
  | ask operation => exact w.scheduler.step_strides w.now operation

/-- A law of strides that composes is a law of runs. -/
theorem run_induction {R : Scheduler → List Event → Scheduler → Prop}
    (refl : ∀ s, R s [] s)
    (stride : ∀ {now s s' s'' e es}, Scheduler.Stride now s e s' → R s' es s'' →
      R s (e.toList ++ es) s'')
    (w : Session) (moves : List Move) :
    R w.scheduler (w.run moves).events (w.run moves).final.scheduler := by
  induction moves generalizing w with
  | nil => exact refl w.scheduler
  | cons move moves ih =>
      rw [run_cons_events]
      exact (w.make_strides move).before stride (ih (w.make move).after)

/-- What every stride keeps, every run keeps. -/
theorem run_invariant {I : Scheduler → Prop}
    (keep : ∀ {now s s' e}, Scheduler.Stride now s e s' → I s → I s')
    {w : Session} (start : I w.scheduler) (moves : List Move) : I (w.run moves).final.scheduler :=
  run_induction (R := fun s _ s' => I s → I s') (fun _ => id)
    (fun first rest h => rest (keep first h)) w moves start

theorem run_settings_eq (w : Session) (moves : List Move) :
    (w.run moves).final.scheduler.settings = w.scheduler.settings :=
  run_invariant (fun stride same => stride.settings_eq.trans same) rfl moves

/-! ## Freshly built sessions -/

variable {settings : Settings} {call : CallId} {w : Session}

theorem opened_of_check (accepted : settings.check = .ok ()) (call : CallId) (entropy : UInt64)
    (clock : Clock) :
    Opened settings call ⟨clock, .fresh settings call entropy clock.reading⟩ :=
  ⟨entropy, _, Scheduler.build_eq_ok.2 ⟨accepted, rfl, rfl⟩⟩

theorem Opened.accepted (opened : w.Opened settings call) : settings.check = .ok () := by
  obtain ⟨entropy, notices, built⟩ := opened
  exact (Scheduler.build_eq_ok.1 built).1

theorem Opened.scheduler_eq (opened : w.Opened settings call) :
    ∃ entropy, w.scheduler = Scheduler.fresh settings call entropy w.now := by
  obtain ⟨entropy, notices, built⟩ := opened
  exact ⟨entropy, (Scheduler.build_eq_ok.1 built).2.1⟩

theorem Opened.settings_eq (opened : w.Opened settings call) (moves : List Move) :
    (w.run moves).final.scheduler.settings = settings := by
  obtain ⟨entropy, start⟩ := opened.scheduler_eq
  rw [run_settings_eq, start]
  rfl

def brisk : Session := ⟨{}, .fresh .brisk ⟨"A"⟩ 0 0⟩

theorem brisk_opened : brisk.Opened .brisk ⟨"A"⟩ := opened_of_check rfl ⟨"A"⟩ 0 {}

def single : Session := ⟨{}, .fresh .single ⟨"A"⟩ 0 0⟩

theorem single_opened : single.Opened .single ⟨"A"⟩ := opened_of_check rfl ⟨"A"⟩ 0 {}

/-- A window of circuit 0, with more frames received than the defaults ask for. -/
def window (concealed : Float) : Move := .ask (.feedback [(0, { concealed, received := 40 })])

def badWindow (c : Nat) : Move := .ask (.feedback [(c, { concealed := 50.0 })])

/-- Circuit 0 is held and then rebuilt. -/
def toRebuild : List Move := [badWindow 0, .advance 1000, badWindow 0]

end Session

end Multipath
