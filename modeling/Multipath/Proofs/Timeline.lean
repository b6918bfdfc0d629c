import Multipath.Proofs.Runs

/-! # Runs in time

The log of a run is its events with the times at which they were told. A passage is a row of strides
that may lie at different times, with its log; a run is one (`run_passage`). A passage can be cut at
any entry of its log, into what led to the event, the stride that told it, and what came after
(`Passage.cut`): a law on what follows an event is proved of the last of the three.

In a steady run the clock never runs round, so the log is in the order of time.
-/

namespace Multipath

abbrev Log := List (Instant × Event)

def Transition.log (t : Transition) : Log := t.events.map (t.before.now, ·)

def Run.log (r : Run) : Log := r.transitions.flatMap Transition.log

/-- Without its times the log is the events. -/
theorem Run.log_map_snd (r : Run) : r.log.map Prod.snd = r.events := by
  simp [Run.log, Run.events, Transition.log, List.map_flatMap, Function.comp_def]

namespace Scheduler

/-- Strides in a row, each at its own time. -/
inductive Passage : Scheduler → Log → Scheduler → Prop
  | refl (s : Scheduler) : Passage s [] s
  | step {now : Instant} {s s' s'' : Scheduler} {e : Option Event} {log : Log}
      (first : Stride now s e s') (rest : Passage s' log s'') :
      Passage s (e.toList.map (now, ·) ++ log) s''

namespace Passage

variable {s s' s'' : Scheduler} {log log' : Log}

theorem trans (h : Passage s log s') (h' : Passage s' log' s'') : Passage s (log ++ log') s'' := by
  induction h with
  | refl s => exact h'
  | step first rest ih =>
      rw [List.append_assoc]
      exact .step first (ih h')

theorem settings_eq (h : Passage s log s') : s'.settings = s.settings := by
  induction h with
  | refl s => rfl
  | step first rest ih => exact ih.trans first.settings_eq

theorem size_eq (h : Passage s log s') : s'.size = s.size := by
  induction h with
  | refl s => rfl
  | step first rest ih => exact ih.trans first.size_eq

/-- What led to an event, the stride that told it, and what came after. -/
theorem cut {past since : Log} {time : Instant} {e : Event}
    (h : Passage s (past ++ (time, e) :: since) s'') :
    ∃ before after, Passage s past before ∧ Stride time before (some e) after ∧
      Passage after since s'' := by
  generalize split : past ++ (time, e) :: since = log at h
  induction h generalizing past with
  | refl s => simp at split
  | @step now s s' s'' e' log first rest ih =>
      cases e' with
      | none =>
          obtain ⟨before, after, led, told, followed⟩ := ih split
          exact ⟨before, after, .step first led, told, followed⟩
      | some e' =>
          cases past with
          | nil =>
              simp only [Option.toList_some, List.map_cons, List.map_nil, List.nil_append,
                List.cons_append, List.cons.injEq, Prod.mk.injEq] at split
              obtain ⟨⟨rfl, rfl⟩, rfl⟩ := split
              exact ⟨s, s', .refl s, first, rest⟩
          | cons entry past =>
              simp only [Option.toList_some, List.map_cons, List.map_nil, List.nil_append,
                List.cons_append, List.cons.injEq] at split
              obtain ⟨rfl, split⟩ := split
              obtain ⟨before, after, led, told, followed⟩ := ih split
              exact ⟨before, after, .step first led, told, followed⟩

end Passage

theorem Strides.passage {now : Instant} {s s' : Scheduler} {es : List Event}
    (h : Strides now s es s') : Passage s (es.map (now, ·)) s' := by
  induction h with
  | refl s => exact .refl s
  | step first rest ih =>
      rw [List.map_append]
      exact .step first ih

end Scheduler

namespace Session

theorem run_cons_log (w : Session) (move : Move) (moves : List Move) :
    (w.run (move :: moves)).log =
      (w.make move).events.map (w.now, ·) ++ ((w.make move).after.run moves).log := by
  cases move <;> exact List.flatMap_cons

theorem run_passage (w : Session) (moves : List Move) :
    w.scheduler.Passage (w.run moves).log (w.run moves).final.scheduler := by
  induction moves generalizing w with
  | nil => exact .refl w.scheduler
  | cons move moves ih =>
      rw [run_cons_log]
      exact (w.make_strides move).passage.trans (ih (w.make move).after)

/-! ## Steady runs -/

/-- The clock never runs round. -/
def Steady (w : Session) (moves : List Move) : Prop :=
  ∀ t ∈ (w.run moves).transitions, ∀ us, t.move = .advance us → t.before.clock.Fits us

variable {w : Session} {move : Move} {moves : List Move}

theorem steady_cons (fits : ∀ us, move = .advance us → w.clock.Fits us)
    (rest : (w.make move).after.Steady moves) : w.Steady (move :: moves) := by
  intro t mem
  rcases List.mem_cons.1 mem with rfl | others
  · intro us advance
    rw [make_move] at advance
    cases move <;> exact fits us advance
  · exact rest t others

/-- How far moves put the clock on. -/
def duration : List Move → Nat
  | [] => 0
  | .advance us :: moves => us + duration moves
  | .ask _ :: moves => duration moves

/-- A run is steady when the clock is far enough from running round for all its steps together. -/
theorem steady_of_duration (enough : w.now + duration moves < Clock.span) : w.Steady moves := by
  induction moves generalizing w with
  | nil => exact fun _ mem => (List.not_mem_nil mem).elim
  | cons move moves ih =>
      cases move with
      | advance us =>
          have near : w.clock.reading + us < Clock.span :=
            Nat.lt_of_le_of_lt (Nat.add_le_add_left (Nat.le_add_right ..) _) enough
          have there : (w.clock.advance us).reading = w.clock.reading + us :=
            Clock.reading_advance_of_lt near
          refine steady_cons ?_ (ih ?_)
          · rintro us' ⟨⟩
            exact Nat.lt_of_le_of_lt (Nat.add_le_add_left (Nat.min_le_left ..) _) near
          · change (w.clock.advance us).reading + _ < _
            rw [there, Nat.add_assoc]
            exact enough
      | ask operation => exact steady_cons nofun (ih enough)

theorem Steady.tail (steady : w.Steady (move :: moves)) : (w.make move).after.Steady moves :=
  fun t mem => steady t (List.mem_cons_of_mem _ mem)

theorem Steady.now_le (steady : w.Steady (move :: moves)) : w.now ≤ (w.make move).after.now := by
  cases move with
  | advance us => exact Clock.reading_le_advance (steady _ List.mem_cons_self us rfl)
  | ask operation => exact Nat.le_refl _

theorem Steady.now_le_final (steady : w.Steady moves) : w.now ≤ (w.run moves).final.now := by
  induction moves generalizing w with
  | nil => exact Nat.le_refl _
  | cons move moves ih => exact Nat.le_trans steady.now_le (ih steady.tail)

theorem Steady.now_le_log (steady : w.Steady moves) : ∀ x ∈ (w.run moves).log, w.now ≤ x.1 := by
  induction moves generalizing w with
  | nil => nofun
  | cons move moves ih =>
      rw [run_cons_log]
      intro x mem
      rcases List.mem_append.1 mem with first | others
      · obtain ⟨e, -, rfl⟩ := List.mem_map.1 first
        exact Nat.le_refl _
      · exact Nat.le_trans steady.now_le (ih steady.tail x others)

theorem Steady.log_sorted (steady : w.Steady moves) :
    (w.run moves).log.Pairwise fun x y => x.1 ≤ y.1 := by
  induction moves generalizing w with
  | nil => exact .nil
  | cons move moves ih =>
      rw [run_cons_log]
      refine List.pairwise_append.2 ⟨?_, ih steady.tail, ?_⟩
      · exact List.pairwise_map.2 (List.pairwise_of_forall fun _ _ => Nat.le_refl _)
      · intro x first y others
        obtain ⟨e, -, rfl⟩ := List.mem_map.1 first
        exact Nat.le_trans steady.now_le (steady.tail.now_le_log y others)

end Session

end Multipath
