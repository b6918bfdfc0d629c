import Multipath.Proofs.Choice
import Multipath.Proofs.Independence

/-! # Circuits that do not exist

The numbers of circuits come from the peer and from the transport, and nothing keeps them from naming a
circuit that the call does not have. Such a number is a stray. It is remarked on, or refused where there
is an answer to give, and that is all (`step_of_tells`, `rebuilt_of_stray`, `complete_of_stray`). In a
message the other items are taken as if the strays were not there (`feedback_trimmed`). So a run goes as
if nobody had ever named a stray (`run_trimmed`).
-/

namespace Multipath

/-- The remark on a stray. -/
def Notice.isStray : Notice → Bool
  | strayCircuit .. => true
  | _ => false

theorem Notice.events_filter_not_isStray (notices : List Notice) :
    Notice.events (notices.filter (!·.isStray)) = Notice.events notices := by
  induction notices with
  | nil => rfl
  | cons notice notices ih =>
      cases notice with
      | event e => exact congrArg (e :: ·) ih
      | _ => exact ih

/-- The step when its remarks on strays are passed over. -/
def Step.withoutStrays (step : Step) : Step :=
  { step with notices := step.notices.filter (!·.isStray) }

theorem Step.withoutStrays_events (step : Step) : step.withoutStrays.events = step.events :=
  Notice.events_filter_not_isStray step.notices

namespace Operation

/-- The operation speaks of one circuit and is not answered. -/
inductive Tells (c : Nat) : Operation → Prop
  | sent : Tells c (.sent c)
  | sendFailed : Tells c (.sendFailed c)
  | lateToBuffer (percent : Float) : Tells c (.lateToBuffer c percent)
  | countWindow (late : Float) : Tells c (.countWindow c late)
  | checkQuarantine : Tells c (.checkQuarantine c)
  | rebuildFailed : Tells c (.rebuildFailed c)

/-- The one circuit that the operation names. -/
def circuit? : Operation → Option Nat
  | sent c | sendFailed c | lateToBuffer c _ | countWindow c _ | checkQuarantine c | rebuilt c _
  | rebuildFailed c => some c
  | complete ticket _ => some ticket.circuit
  | pick | feedback _ | lateness _ | takeRequests => none

/-- What is left of an operation in a call with `n` circuits when its strays are removed. -/
def trimmed (n : Nat) : Operation → Option Operation
  | feedback reports => some (feedback (reports.filter (·.1 < n)))
  | lateness percents => some (lateness (percents.filter (·.1 < n)))
  | a => if a.circuit?.all (· < n) then some a else none

/-- Only an operation whose one circuit is a stray is removed as a whole. -/
theorem stray_of_removed {n : Nat} {a : Operation} (removed : a.trimmed n = none) :
    (∃ c, a.On c ∧ n ≤ c) ∨ ∃ ticket outcome, a = complete ticket outcome ∧ n ≤ ticket.circuit := by
  cases a with
  | complete ticket outcome =>
      exact .inr ⟨ticket, outcome, rfl, by simpa [trimmed, circuit?] using removed⟩
  | sent c => exact .inl ⟨c, .sent, by simpa [trimmed, circuit?] using removed⟩
  | sendFailed c => exact .inl ⟨c, .sendFailed, by simpa [trimmed, circuit?] using removed⟩
  | lateToBuffer c percent =>
      exact .inl ⟨c, .lateToBuffer percent, by simpa [trimmed, circuit?] using removed⟩
  | countWindow c late => exact .inl ⟨c, .countWindow late, by simpa [trimmed, circuit?] using removed⟩
  | checkQuarantine c => exact .inl ⟨c, .checkQuarantine, by simpa [trimmed, circuit?] using removed⟩
  | rebuilt c epoch => exact .inl ⟨c, .rebuilt epoch, by simpa [trimmed, circuit?] using removed⟩
  | rebuildFailed c => exact .inl ⟨c, .rebuildFailed, by simpa [trimmed, circuit?] using removed⟩
  | _ => cases removed

end Operation

/-! ## Turns make no remark on strays -/

def Turn.Own (t : Turn) : Prop := ∀ notice ∈ t.notices, notice.isStray = false

theorem Turn.Own.andThen {t : Turn} {next : Health → Turn} (first : t.Own)
    (rest : (next t.health).Own) : (t.andThen next).Own :=
  List.forall_mem_append.2 ⟨first, rest⟩

namespace Scene

theorem judge_own (scene : Scene) (h : Health) : (scene.judge h).Own := by
  unfold judge
  generalize h.judge scene.settings.cooldown scene.phase = verdict
  obtain ⟨g, cause, low⟩ := verdict
  cases cause with
  | none => simp [Turn.Own, Notice.isStray]
  | some cause =>
      dsimp only
      split
      · simp +contextual [Turn.Own, Notice.isStray, or_imp]
      · refine Turn.Own.andThen ?_ ?_
        · simp +contextual [Turn.Own, Notice.isStray, or_imp]
        · simp [Turn.Own, coolDown, Notice.isStray]

theorem ramp_own (scene : Scene) (h : Health) : (scene.ramp h).Own := by
  unfold ramp
  split
  · split
    · simp [Turn.Own, Notice.isStray]
    · dsimp only [Turn.Own]
      split <;> simp [Notice.isStray]
  · exact List.forall_mem_nil _

theorem countWindow_own (scene : Scene) (lateToBuffer : Float) (h : Health) :
    (scene.countWindow lateToBuffer h).Own := by
  simp only [countWindow]
  generalize h.badWindow scene.settings.rebuild lateToBuffer = bad
  generalize h.countWindow scene.settings.rebuild bad = window
  obtain ⟨h', due⟩ := window
  have seen : Turn.Own
      { health := h'
        notices := if bad then [.badWindow scene.circuit h'.badStreak h'.concealed h'.missing]
          else if 0 < h.badStreak then [.streakReset scene.circuit h.badStreak]
          else [] } := by
    dsimp only [Turn.Own]
    split
    · simp [Notice.isStray]
    · split <;> simp [Notice.isStray]
  split
  · exact List.forall_mem_nil _
  · split
    · exact seen.andThen (by simp [Turn.Own, quarantine, Notice.isStray])
    · exact seen

theorem checkQuarantine_own (scene : Scene) (h : Health) : (scene.checkQuarantine h).Own := by
  unfold checkQuarantine
  split
  · exact List.forall_mem_nil _
  · simp [Turn.Own, Notice.isStray]
  · unfold requestRebuild
    split <;> simp [Turn.Own, Notice.isStray]

theorem feedback_own (scene : Scene) (report : PeerReport) (h : Health) :
    (scene.feedback report h).Own := by
  simp only [feedback]
  split
  · refine scene.judgeWindow_turn _ ((scene.judge_own _).andThen (scene.ramp_own _)) ?_ ?_
    · exact fun t own => own.andThen (scene.countWindow_own _ _)
    · exact fun t own => own.andThen (scene.checkQuarantine_own _)
  · exact List.forall_mem_nil _

end Scene

namespace Scheduler

variable {s : Scheduler} {now : Instant} {a : Operation} {c : Nat}

/-! ## One stray -/

theorem circuits_of_stray (stray : s.size ≤ c) : s.circuits[c]? = none :=
  List.getElem?_eq_none stray

theorem step_of_tells (tells : a.Tells c) (stray : s.size ≤ c) (now : Instant) :
    ∃ name, s.step now a = { scheduler := s, notices := [.strayCircuit c s.size name] } := by
  have remarked : ∀ name turn,
      step.quiet (s.act now c name turn) =
        { scheduler := s, notices := [.strayCircuit c s.size name] } := by
    intro name turn
    rw [act_of_stray (circuits_of_stray stray)]
    rfl
  cases tells <;> exact ⟨_, remarked _ _⟩

theorem rebuilt_of_stray (stray : s.size ≤ c) (now : Instant) (epoch : Nat) :
    s.rebuilt now c epoch = { result := .error (.noSuchCircuit c s.size), scheduler := s } := by
  simp only [rebuilt, awaiting_of_stray (circuits_of_stray stray)]

/-- The call of a ticket is looked at first. -/
theorem complete_of_stray (ticket : Ticket) (stray : s.size ≤ ticket.circuit) (now : Instant)
    (outcome : Outcome) :
    s.complete now ticket outcome =
      { result := .error (if ticket.call = s.call then .noSuchCircuit ticket.circuit s.size
          else .foreignCall ticket.call.text s.call.text)
        scheduler := s } := by
  by_cases call : ticket.call = s.call
  · cases outcome with
    | rebuilt => simp [complete, call, rebuilt_of_stray stray]
    | failed => simp [complete, call, awaiting_of_stray (circuits_of_stray stray)]
  · simp [complete, call]

/-! ## Messages with strays -/

theorem takeReports_trimmed (s : Scheduler) (now : Instant) (reports : List (Nat × PeerReport)) :
    let full := s.takeReports now reports
    let kept := s.takeReports now (reports.filter (·.1 < s.size))
    full.1 = kept.1 ∧ full.2.filter (!·.isStray) = kept.2 := by
  induction reports generalizing s with
  | nil => exact ⟨rfl, rfl⟩
  | cons item reports ih =>
      obtain ⟨c, report⟩ := item
      cases found : s.circuits[c]? with
      | none =>
          have outside : ¬ c < s.size := Nat.not_lt.2 (List.getElem?_eq_none_iff.1 found)
          obtain ⟨same, told⟩ := ih s
          simp only [takeReports, act_of_stray found, List.filter_cons, outside, decide_false,
            Bool.false_eq_true, if_false, List.filter_append]
          exact ⟨same, told⟩
      | some h =>
          have inside : c < s.size := (List.getElem?_eq_some_iff.1 found).1
          let t := (s.scene now c).feedback report h
          have size : (s.apply c t).size = s.size := by simp [Scheduler.size]
          have own : t.notices.filter (!·.isStray) = t.notices :=
            List.filter_eq_self.2 fun notice mem => by
              simp [(s.scene now c).feedback_own report h notice mem]
          obtain ⟨same, told⟩ := ih (s.apply c t)
          rw [size] at same told
          simp only [takeReports, act_of_found found, List.filter_cons, inside, decide_true, if_true,
            List.filter_append]
          exact ⟨same, by rw [own, told]⟩

theorem feedback_trimmed (s : Scheduler) (now : Instant) (reports : List (Nat × PeerReport)) :
    (s.step now (.feedback reports)).withoutStrays =
      s.step now (.feedback (reports.filter (·.1 < s.size))) := by
  obtain ⟨same, told⟩ := s.takeReports_trimmed now reports
  simp only [step, step.quiet, feedback, Step.withoutStrays, List.filter_append, same, told]
  rfl

theorem lateness_trimmed (s : Scheduler) (now : Instant) (percents : List (Nat × Float)) :
    (s.step now (.lateness percents)).withoutStrays =
      s.step now (.lateness (percents.filter (·.1 < s.size))) := by
  have trimmed := s.feedback_trimmed now (percents.map fun p => (p.1, .lateOnly p.2))
  rw [List.filter_map] at trimmed
  exact trimmed

/-! ## Runs with strays -/

/-- What a scheduler does with a circuit that it does not have. -/
structure Ignores (s : Scheduler) (now : Instant) (c : Nat) : Prop where
  tells : ∀ a : Operation, a.Tells c →
    ∃ name, s.step now a = { scheduler := s, notices := [.strayCircuit c s.size name] }
  rebuilt : ∀ epoch, s.step now (.rebuilt c epoch) =
    { answer := .result (.error (.noSuchCircuit c s.size)), scheduler := s }
  complete : ∀ call epoch outcome, s.step now (.complete ⟨call, c, epoch⟩ outcome) =
    { answer := .result (.error (if call = s.call then .noSuchCircuit c s.size
        else .foreignCall call.text s.call.text))
      scheduler := s }

theorem ignores_of_stray (stray : s.size ≤ c) (now : Instant) : s.Ignores now c where
  tells a tells := step_of_tells tells stray now
  rebuilt epoch := by simp only [step, step.answered, rebuilt_of_stray stray]
  complete call epoch outcome := by
    simp only [step, step.answered, complete_of_stray ⟨call, c, epoch⟩ stray]

/-- An operation that is removed as a whole does nothing. -/
theorem step_of_removed (removed : a.trimmed s.size = none) (now : Instant) :
    (s.step now a).scheduler = s ∧ (s.step now a).events = [] := by
  rcases Operation.stray_of_removed removed with ⟨c, on, stray⟩ | ⟨ticket, outcome, rfl, stray⟩
  · exact step_of_stray on (circuits_of_stray stray) now
  · simp only [step, step.answered, complete_of_stray ticket stray, true_and]
    rfl

/-- What is left of an operation does what the operation does. -/
theorem step_of_trimmed {b : Operation} (left : a.trimmed s.size = some b) (now : Instant) :
    (s.step now b).scheduler = (s.step now a).scheduler ∧
      (s.step now b).events = (s.step now a).events := by
  cases a with
  | feedback reports =>
      cases left
      rw [← s.feedback_trimmed now reports]
      exact ⟨rfl, Step.withoutStrays_events _⟩
  | lateness percents =>
      cases left
      rw [← s.lateness_trimmed now percents]
      exact ⟨rfl, Step.withoutStrays_events _⟩
  | _ =>
      simp only [Operation.trimmed, Option.ite_none_right_eq_some, Option.some.injEq] at left
      rw [← left.2]
      exact ⟨rfl, rfl⟩

end Scheduler

/-- What is left of a move in a call with `n` circuits when its strays are removed. -/
def Move.trimmed (n : Nat) : Move → Option Move
  | advance us => some (advance us)
  | ask a => (a.trimmed n).map ask

namespace Session

variable {settings : Settings} {call : CallId} {w : Session}

theorem make_of_removed {move : Move} (removed : move.trimmed w.scheduler.size = none) :
    (w.make move).after = w ∧ (w.make move).events = [] := by
  cases move with
  | advance us => cases removed
  | ask a =>
      obtain ⟨same, quiet⟩ := Scheduler.step_of_removed (Option.map_eq_none_iff.1 removed) w.now
      refine ⟨?_, quiet⟩
      simp only [make, same]

theorem make_of_trimmed {move move' : Move} (left : move.trimmed w.scheduler.size = some move') :
    (w.make move').after = (w.make move).after ∧ (w.make move').events = (w.make move).events := by
  cases move with
  | advance us =>
      cases left
      exact ⟨rfl, rfl⟩
  | ask a =>
      obtain ⟨b, left', rfl⟩ := Option.map_eq_some_iff.1 left
      obtain ⟨same, told⟩ := Scheduler.step_of_trimmed left' w.now
      refine ⟨?_, told⟩
      simp only [make, same]

/-- It makes no difference to a run whether strays are named in it. -/
theorem run_trimmed (w : Session) (moves : List Move) :
    let kept := w.run (moves.filterMap (Move.trimmed w.scheduler.size))
    kept.final = (w.run moves).final ∧ kept.events = (w.run moves).events := by
  induction moves generalizing w with
  | nil => exact ⟨rfl, rfl⟩
  | cons move moves ih =>
      have size : (w.make move).after.scheduler.size = w.scheduler.size :=
        (w.make_strides move).size_eq
      obtain ⟨final, told⟩ := ih (w.make move).after
      rw [size] at final told
      cases left : move.trimmed w.scheduler.size with
      | none =>
          obtain ⟨same, quiet⟩ := make_of_removed left
          rw [List.filterMap_cons_none left, run_cons_events, quiet]
          rw [same] at final told
          exact ⟨final.trans (congrArg (fun u => (u.run moves).final) same.symm), by rw [told, same]; rfl⟩
      | some move' =>
          obtain ⟨same, told'⟩ := make_of_trimmed left
          rw [List.filterMap_cons_some left]
          refine ⟨?_, ?_⟩
          · rw [← same] at final
            exact final.trans (congrArg (fun u => (u.run moves).final) same)
          · rw [run_cons_events, run_cons_events, told', same, told]

/-- Circuits that the call does not have are ignored in every state that it reaches, and a message is taken
as if it did not name them. -/
theorem strays_ignored (opened : w.Opened settings call) (moves : List Move) (now : Instant) :
    let s := (w.run moves).final.scheduler
    s.size = settings.circuits.toNat ∧
      (∀ c, settings.circuits.toNat ≤ c → s.Ignores now c) ∧
      (∀ reports, (s.step now (.feedback reports)).withoutStrays =
        s.step now (.feedback (reports.filter (·.1 < settings.circuits.toNat)))) ∧
      ∀ percents, (s.step now (.lateness percents)).withoutStrays =
        s.step now (.lateness (percents.filter (·.1 < settings.circuits.toNat))) := by
  intro s
  have size : s.size = settings.circuits.toNat := opened.size_eq moves
  rw [← size]
  exact ⟨rfl, fun c stray => Scheduler.ignores_of_stray stray now, s.feedback_trimmed now,
    s.lateness_trimmed now⟩

/-- While circuit 0 of two is being rebuilt, the peer speaks of circuits 7 and 1. -/
theorem strays_ignored_brisk :
    let s := (brisk.run toRebuild).final.scheduler
    brisk.Opened .brisk ⟨"A"⟩ ∧ s.inFlight = some ⟨⟨"A"⟩, 0, 1⟩ ∧ s.Ignores 1000 2 ∧
      (s.step 1000 (.feedback [(7, {}), (1, { concealed := 50.0 })])).withoutStrays =
        s.step 1000 (.feedback [(1, { concealed := 50.0 })]) := by
  intro s
  obtain ⟨-, ignores, feedback, -⟩ := strays_ignored brisk_opened toRebuild 1000
  exact ⟨brisk_opened, rfl, ignores 2 (by decide), feedback _⟩

end Session

end Multipath
