import Multipath.Proofs.Punctual
import Multipath.Proofs.Traffic

/-! # Rebuilds are answered on time

The worker sees the clock move a frame at a time, and it runs until it has to wait. So the ticket of a
request is taken up in the frame that made it, and is answered at the end of the first frame at which
the latency is over. `Keeps` is a live call together with the request that is open: the worker has its
ticket, under the time at which it was due from the start. Every chore keeps it and tells only what
may follow the open request; a run that is `Rested` after each frame leaves nothing for later, which
is why no answer is late.
-/

namespace Multipath

/-- An operation that hands nothing over and answers nothing begins no rebuild and ends none. -/
theorem Scheduler.step_plain {s : Scheduler} (kept : s.SlotKept) (handed : s.pending = [])
    (now : Instant) {operation : Operation} (silent : operation.answers = false)
    (hands : operation.handsOver = false) :
    ∀ e ∈ Notice.events (s.step now operation).notices, e.begins = false ∧ e.outcome? = none := by
  intro e mem
  have unresolved : ∀ e ∈ Notice.events (s.step now operation).notices, e.outcome? = none :=
    step_unresolved silent
  refine ⟨?_, unresolved e mem⟩
  have none_ : (s.step now operation).scheduler.pending = [] := (step_rests hands).pending handed
  have slot : (s.step now operation).scheduler.inFlight.toList =
      s.inFlight.toList ++ (s.step now operation).scheduler.pending := step_inFlight silent handed
  have events : ((⟨⟨now⟩, s⟩ : Session).run [.ask operation]).events =
      Notice.events (s.step now operation).notices := by
    rw [Session.run_cons_events]
    exact List.append_nil _
  have balanced : s.Balanced _ (s.step now operation).scheduler :=
    Session.run_balanced ⟨⟨now⟩, s⟩ [.ask operation]
  have sum := (balanced kept).2
  rw [none_, List.append_nil] at slot
  rw [events, outcomes_of_unresolved unresolved, outcomes_of_unresolved unresolved, load, load,
    slot] at sum
  have none_begun : begun (Notice.events (s.step now operation).notices) = 0 := by omega
  simpa using List.countP_eq_zero.1 none_begun e mem

namespace Simulation

/-! ## The chronicle of a simulation -/

namespace State

/-- What was told from one state to a later one. -/
def toldSince (s before : State) : List Event := s.events.toList.drop before.events.size

theorem toldSince_eq {s before : State} {told : List Event}
    (more : s.events.toList = before.events.toList ++ told) : s.toldSince before = told := by
  rw [toldSince, more, ← Array.length_toList, List.drop_left]

/-- The marks of one frame: the choice and what is told while the frame is sent, then, with the clock
moved on, what is told of the chores. -/
def entries (scenario : Scenario) (s : State) (frame : Nat) : Chronicle :=
  (s.millisNow, .chosen) :: stamp s.millisNow (s.sendFrame.toldSince s) ++
    stamp (s.frame scenario frame).millisNow ((s.frame scenario frame).toldSince s.sendFrame)

def chronicle (scenario : Scenario) (s : State) (first : Nat) : Nat → Chronicle
  | 0 => []
  | n + 1 => s.entries scenario first ++ (s.frame scenario first).chronicle scenario (first + 1) n

end State

/-! ## The worker -/

namespace State

theorem finishRebuild_busy (s : State) (ticket : Ticket) :
    (s.finishRebuild ticket).worker.busy = none := by
  simp only [finishRebuild, record]
  split <;> rfl

/-- The worker has to wait. -/
def Rested (s : State) : Prop :=
  ∀ ticket due, s.worker.busy = some (ticket, due) → s.millisNow < due

theorem workOn_rested (s : State) : s.workOn.Rested := by
  cases busy : s.worker.busy with
  | none =>
      have idle : s.workOn = s := by simp only [workOn, busy]
      intro ticket due held
      rw [idle, busy] at held
      cases held
  | some work =>
      obtain ⟨ticket, due⟩ := work
      by_cases ready : due ≤ s.millisNow
      · have finished : s.workOn = s.finishRebuild ticket := by simp only [workOn, busy, ready, if_true]
        intro ticket' due' held
        rw [finished, finishRebuild_busy] at held
        cases held
      · have waits : s.workOn = s := by simp only [workOn, busy, ready, if_false]
        intro ticket' due' held
        rw [waits] at held ⊢
        rw [busy] at held
        cases held
        exact Nat.lt_of_not_le ready

/-- The worker takes tickets until one keeps it. -/
theorem takeUp_rested {latency : Nat} {s : State} {tickets : List Ticket}
    (rested : (s.withWaiting []).Rested) :
    let after := (s.withWaiting []).takeUp latency tickets
    after.Rested ∧ (after.worker.busy = none → after.call.transport = .listening []) := by
  induction tickets generalizing s with
  | nil => exact ⟨rested, fun _ => rfl⟩
  | cons ticket rest ih =>
      cases busy : s.worker.busy with
      | some work =>
          have kept : (s.withWaiting []).takeUp latency (ticket :: rest) =
              s.withWaiting (ticket :: rest) := by
            have held : (s.withWaiting []).worker.busy = some work := busy
            simp only [takeUp, held]
            rfl
          rw [kept]
          exact ⟨rested, fun idle => absurd (busy.symm.trans idle) nofun⟩
      | none =>
          have taken : (s.withWaiting []).takeUp latency (ticket :: rest) =
              ((s.takeFirst latency ticket).workOn.withWaiting []).takeUp latency rest := by
            have free : (s.withWaiting []).worker.busy = none := busy
            rw [← workOn_withWaiting]
            simp only [takeUp, free]
            rfl
          rw [taken]
          exact ih (workOn_rested _)

theorem work_rested (latency : Nat) {s : State} {waiting : List Ticket}
    (listens : s.call.transport = .listening waiting) :
    (s.work latency).Rested ∧
      ((s.work latency).worker.busy = none → (s.work latency).call.transport = .listening []) := by
  have rested : s.workOn.Rested := s.workOn_rested
  have same : s = s.withWaiting waiting := by
    obtain ⟨clock, ⟨call, scheduler, transport⟩, network, worker, tallies, events⟩ := s
    cases listens
    rfl
  have worked : s.work latency = (s.workOn.withWaiting []).takeUp latency waiting := by
    rw [same, work, workOn_withWaiting]
    rfl
  rw [worked]
  exact takeUp_rested rested

end State

/-! ## The open errand -/

/-- The worker has the ticket of an errand, in its hands or before it, and will be done with it at its
time. -/
structure Errand.InHand (r : Errand) (latency : Nat) (st : State) (waiting : List Ticket) : Prop where
  begun : r.time % frameMillis = 0
  past : r.time ≤ st.millisNow
  soon : st.millisNow < max r.time (r.due latency) + frameMillis
  fresh : waiting ≠ [] → r.time = st.millisNow
  due : ∀ ticket due, st.worker.busy = some (ticket, due) → due = r.due latency

theorem Errand.InHand.congr {r : Errand} {latency : Nat} {st st' : State} {waiting : List Ticket}
    (inHand : r.InHand latency st waiting) (clock : st'.clock = st.clock)
    (worker : st'.worker = st.worker) : r.InHand latency st' waiting := by
  have now : st'.millisNow = st.millisNow := congrArg (·.reading / 1000) clock
  obtain ⟨begun, past, soon, fresh, due⟩ := inHand
  exact ⟨begun, now ▸ past, now ▸ soon, now ▸ fresh, worker ▸ due⟩

/-- A live call with the errand that is open. -/
structure Keeps (w : Session) (latency : Nat) (st : State) (s : Scheduler) (waiting : List Ticket)
    (o : Option Errand) : Prop extends Live w st s waiting where
  opens : s.Opens o
  inHand : ∀ r, o = some r → r.InHand latency st waiting

/-- What was told from one state to a later one, at one time, follows the open errand. -/
structure Tells (latency : Nat) (st : State) (o : Option Errand) (st' : State) (o' : Option Errand) :
    Prop where
  clock : st'.clock = st.clock
  told : ∃ told, st'.events.toList = st.events.toList ++ told ∧
    Punctual latency o (stamp st.millisNow told) o'

namespace Tells

variable {latency : Nat} {st st' st'' : State} {o o' o'' : Option Errand}

theorem refl (st : State) (o : Option Errand) : Tells latency st o st o :=
  ⟨rfl, [], (List.append_nil _).symm, .nil o⟩

theorem now (tells : Tells latency st o st' o') : st'.millisNow = st.millisNow :=
  congrArg (·.reading / 1000) tells.clock

theorem trans (first : Tells latency st o st' o') (second : Tells latency st' o' st'' o'') :
    Tells latency st o st'' o'' := by
  have same := first.now
  obtain ⟨clock, told, more, punctual⟩ := first
  obtain ⟨clock', told', more', punctual'⟩ := second
  rw [same] at punctual'
  refine ⟨clock'.trans clock, told ++ told', ?_, ?_⟩
  · rw [more', more, List.append_assoc]
  · rw [stamp, List.map_append]
    exact punctual.append punctual'

end Tells

namespace Keeps

variable {settings : Settings} {call : CallId} {w : Session} {latency : Nat} {st : State}
  {s : Scheduler} {waiting : List Ticket} {o : Option Errand}

/-- With nothing in flight there is nothing in the worker's hands and nothing before it. -/
theorem idle_iff (keeps : Keeps w latency st s waiting o) :
    o = none ↔ st.worker.busy = none ∧ waiting = [] := by
  rw [keeps.opens.none_iff, ← Option.toList_eq_nil_iff, ← keeps.tickets, List.append_eq_nil_iff,
    Option.toList_eq_nil_iff, Option.map_eq_none_iff]

theorem operate (keeps : Keeps w latency st s waiting o) (grid : st.millisNow % frameMillis = 0)
    (operation : Operation) (silent : operation.answers = false) :
    ∃ o', Keeps w latency (st.operate operation).2
        { (s.step st.clock.reading operation).scheduler with pending := [] }
        (waiting ++ (s.step st.clock.reading operation).scheduler.pending) o' ∧
      Tells latency st o (st.operate operation).2 o' := by
  have live := keeps.operated operation silent
  have slot : (s.step st.clock.reading operation).scheduler.inFlight.toList =
      s.inFlight.toList ++ (s.step st.clock.reading operation).scheduler.pending :=
    Scheduler.step_inFlight silent keeps.handed
  obtain ⟨o', opens, punctual, kept, asked⟩ :=
    (s.step_strides st.clock.reading operation).reopens keeps.opens
      (Scheduler.step_unresolved silent) st.millisNow latency
  have now : (st.operate operation).2.millisNow = st.millisNow :=
    congrArg (·.reading / 1000) (st.operate_clock operation)
  have worker : (st.operate operation).2.worker = st.worker := by
    rw [keeps.operate_eq]
  refine ⟨o', ⟨live, opens, fun r open_ => ?_⟩, st.operate_clock operation, _, ?_, punctual⟩
  · cases before : o with
    | some r' =>
        -- Another rebuild is in flight, so that this one is the one that was.
        obtain rfl : r' = r := Option.some.inj ((kept r' before).symm.trans open_)
        have inHand := keeps.inHand r' before
        have none_ : (s.step st.clock.reading operation).scheduler.pending = [] := by
          have taken : s.inFlight = some (r'.ticket s.call) := by
            rw [← keeps.opens, before]
            rfl
          have one := (s.step st.clock.reading operation).scheduler.load_le_one
          rw [Scheduler.load, slot, taken, List.length_append] at one
          exact List.length_eq_zero_iff.1 (Nat.le_zero.1 (Nat.le_of_add_le_add_left one))
        refine ⟨inHand.begun, now ▸ inHand.past, now ▸ inHand.soon, ?_, worker ▸ inHand.due⟩
        rw [none_, List.append_nil, now]
        exact inHand.fresh
    | none =>
        have made : r.time = st.millisNow := (asked r open_).resolve_left (by simp [before])
        have idle := (keeps.idle_iff.1 before).1
        refine ⟨made ▸ grid, ?_, ?_, ?_, ?_⟩
        · rw [now, made]
        · rw [now, made]
          unfold frameMillis
          omega
        · exact fun _ => made.trans now.symm
        · intro ticket due busy
          rw [worker, idle] at busy
          cases busy
  · rw [keeps.operate_eq]
    simp

theorem blameLate (keeps : Keeps w latency st s waiting o) (grid : st.millisNow % frameMillis = 0)
    (reports : List (Nat × PeerReport)) :
    ∃ s' waiting' o', Keeps w latency (st.blameLate reports) s' waiting' o' ∧
      Tells latency st o (st.blameLate reports) o' := by
  induction reports generalizing st s waiting o with
  | nil => exact ⟨s, waiting, o, keeps, .refl st o⟩
  | cons item rest ih =>
      obtain ⟨c, report⟩ := item
      obtain ⟨o₁, keeps₁, tells₁⟩ :=
        keeps.operate grid (.lateToBuffer c (report.late * 0.1)) rfl
      obtain ⟨s₂, waiting₂, o₂, keeps₂, tells₂⟩ := ih keeps₁ (tells₁.now.symm ▸ grid)
      exact ⟨s₂, waiting₂, o₂, keeps₂, tells₁.trans tells₂⟩

theorem giveFeedback (keeps : Keeps w latency st s waiting o)
    (grid : st.millisNow % frameMillis = 0) :
    ∃ s' waiting' o', Keeps w latency st.giveFeedback s' waiting' o' ∧
      Tells latency st o st.giveFeedback o' := by
  rw [State.giveFeedback_eq]
  generalize List.map _ st.network.feedback.1.zipIdx = reports
  have closed : Keeps w latency { st with network := st.network.feedback.2 } s waiting o :=
    { keeps with
      circuits := (List.length_map _).trans keeps.circuits
      inHand := fun r open_ => (keeps.inHand r open_).congr rfl rfl }
  obtain ⟨s₁, waiting₁, o₁, keeps₁, tells₁⟩ := closed.blameLate grid reports
  obtain ⟨o₂, keeps₂, tells₂⟩ :=
    keeps₁.operate (tells₁.now.symm ▸ grid) (.feedback reports) rfl
  have blamed : Tells latency st o _ o₁ := ⟨tells₁.clock, tells₁.told⟩
  exact ⟨_, _, o₂, keeps₂, blamed.trans tells₂⟩

theorem takeFirst {ticket : Ticket} {rest : List Ticket}
    (keeps : Keeps w latency (st.withWaiting (ticket :: rest)) s waiting o)
    (free : st.worker.busy = none) :
    Keeps w latency ((st.takeFirst latency ticket).withWaiting rest) s rest o := by
  have waits : ticket :: rest = waiting :=
    Transport.listening.inj (congrArg SharedCall.transport keeps.call)
  subst waits
  refine ⟨keeps.toLive.takeFirst latency free, keeps.opens, fun r open_ => ?_⟩
  obtain ⟨begun, past, soon, fresh, -⟩ := keeps.inHand r open_
  have made : r.time = st.millisNow := fresh (List.cons_ne_nil _ _)
  refine ⟨begun, past, soon, fun _ => made, ?_⟩
  rintro ticket' due ⟨⟩
  rw [Errand.due, made]

/-- The worker is done with the open errand, at the one time that there is for it. -/
theorem finishRebuild (keeps : Keeps w latency st s waiting o) (opened : w.Opened settings call)
    (grid : st.millisNow % frameMillis = 0) {ticket : Ticket} {due : Nat}
    (busy : st.worker.busy = some (ticket, due)) (ready : due ≤ st.millisNow) :
    ∃ s' waiting', Keeps w latency (st.finishRebuild ticket) s' waiting' none ∧
      Tells latency st o (st.finishRebuild ticket) none := by
  obtain ⟨taken, rfl⟩ := keeps.taken busy
  obtain ⟨r, rfl, rfl⟩ := keeps.opens.errand taken
  obtain ⟨begun, past, soon, -, due_⟩ := keeps.inHand r rfl
  have now : st.millisNow = r.answerTime latency :=
    Errand.answerTime_unique past (due_ _ _ busy ▸ ready) soon begun grid
  obtain ⟨s', waiting', live, -⟩ := keeps.toLive.finishRebuild opened busy
  have finished := keeps.finishRebuild_eq opened busy
  simp only at finished
  generalize (if (st.network.reconnect (r.ticket s.call).circuit).1 then Outcome.rebuilt
    else .failed) = outcome at finished
  have call' := live.call
  rw [finished] at call'
  simp only [SharedCall.start, SharedCall.mk.injEq, Option.some.injEq] at call'
  refine ⟨s', waiting', ⟨live, ?_, fun r open_ => ?_⟩, ?_, _, ?_, now ▸
    Scheduler.complete_punctual (keeps.kept opened) taken st.clock.reading outcome⟩
  · rw [Scheduler.Opens, ← call'.2.1,
      Scheduler.complete_inFlight (keeps.kept opened) taken st.clock.reading outcome]
    rfl
  · cases open_
  · rw [finished]
  · rw [finished]
    simp

theorem chore (keeps : Keeps w latency st s waiting o) (opened : w.Opened settings call)
    (grid : st.millisNow % frameMillis = 0) {st' : State} (chore : State.Chore latency st st') :
    ∃ s' waiting' o', Keeps w latency st' s' waiting' o' ∧ Tells latency st o st' o' := by
  cases chore with
  | report => exact keeps.giveFeedback grid
  | takeUp ticket rest free =>
      exact ⟨s, rest, o, keeps.takeFirst free, rfl, [], (List.append_nil _).symm, .nil o⟩
  | finish busy ready =>
      obtain ⟨s', waiting', keeps', tells⟩ := keeps.finishRebuild opened grid busy ready
      exact ⟨s', waiting', none, keeps', tells⟩

end Keeps

/-! ## Frame after frame -/

/-- From one state to a later one, at one time, nothing happened to any rebuild. -/
structure Quiet (st st' : State) : Prop where
  clock : st'.clock = st.clock
  worker : st'.worker = st.worker
  told : ∃ told, st'.events.toList = st.events.toList ++ told ∧
    ∀ e ∈ told, e.begins = false ∧ e.outcome? = none

theorem Quiet.trans {st st' st'' : State} (first : Quiet st st') (second : Quiet st' st'') :
    Quiet st st'' := by
  obtain ⟨clock, worker, told, more, plain⟩ := first
  obtain ⟨clock', worker', told', more', plain'⟩ := second
  refine ⟨clock'.trans clock, worker'.trans worker, told ++ told', ?_, fun e mem => ?_⟩
  · rw [more', more, List.append_assoc]
  · exact (List.mem_append.1 mem).elim (plain e) (plain' e)

namespace Keeps

variable {settings : Settings} {call : CallId} {w : Session} {latency : Nat} {st : State}
  {s : Scheduler} {waiting : List Ticket} {o : Option Errand}

theorem operate_quiet (keeps : Keeps w latency st s [] o) (opened : w.Opened settings call)
    (operation : Operation) (silent : operation.answers = false)
    (hands : operation.handsOver = false) :
    ∃ s', Keeps w latency (st.operate operation).2 s' [] o ∧ Quiet st (st.operate operation).2 := by
  have live := keeps.operated operation silent
  have slot : (s.step st.clock.reading operation).scheduler.inFlight.toList =
      s.inFlight.toList ++ (s.step st.clock.reading operation).scheduler.pending :=
    Scheduler.step_inFlight silent keeps.handed
  have none_ : (s.step st.clock.reading operation).scheduler.pending = [] :=
    (Scheduler.step_rests hands).pending keeps.handed
  have called : (s.step st.clock.reading operation).scheduler.call = s.call :=
    Session.run_call ⟨st.clock, s⟩ [.ask operation]
  have worker : (st.operate operation).2.worker = st.worker := by
    rw [keeps.operate_eq]
  rw [none_, List.append_nil] at slot live
  have taken : (s.step st.clock.reading operation).scheduler.inFlight = s.inFlight := by
    have heads := congrArg List.head? slot
    rwa [Option.head?_toList, Option.head?_toList] at heads
  refine ⟨_, ⟨live, ?_, fun r open_ => (keeps.inHand r open_).congr (st.operate_clock _) worker⟩,
    st.operate_clock _, worker, _, ?_,
    Scheduler.step_plain (keeps.kept opened) keeps.handed st.clock.reading silent hands⟩
  · have same : o.map (·.ticket s.call) = s.inFlight := keeps.opens
    rw [← taken, ← called] at same
    exact same
  · rw [keeps.operate_eq]
    simp

theorem carry (keeps : Keeps w latency st s waiting o) (c : Nat) :
    Keeps w latency (st.carry c) s waiting o :=
  ⟨keeps.toLive.carry c, keeps.opens, fun r open_ => (keeps.inHand r open_).congr rfl rfl⟩

theorem sendFrame (keeps : Keeps w latency st s [] o) (opened : w.Opened settings call) :
    ∃ s', Keeps w latency st.sendFrame s' [] o ∧ Quiet st st.sendFrame := by
  obtain ⟨s₁, keeps₁, quiet₁⟩ := keeps.operate_quiet opened .pick rfl rfl
  have picked : st.operate .pick = (.circuit (s.pick st.clock.reading).1, (st.operate .pick).2) := by
    rw [keeps.operate_eq]
    rfl
  rw [State.sendFrame_eq picked]
  generalize (s.pick st.clock.reading).1 = c at picked ⊢
  generalize (st.operate .pick).2 = st₁ at keeps₁ quiet₁ ⊢
  generalize sent : (if (st₁.network.transmit c).1 = .sendFailed then Operation.sendFailed c
    else .sent c) = operation
  have plain : operation.answers = false ∧ operation.handsOver = false := by
    rw [← sent]
    split
    · exact ⟨rfl, rfl⟩
    · exact ⟨rfl, rfl⟩
  obtain ⟨s₂, keeps₂, quiet₂⟩ := (keeps₁.carry c).operate_quiet opened operation plain.1 plain.2
  have carried : Quiet st₁ ((st₁.carry c).operate operation).2 :=
    ⟨quiet₂.clock, quiet₂.worker, quiet₂.told⟩
  exact ⟨s₂, keeps₂, quiet₁.trans carried⟩

/-- Where the worker has to wait, the open errand is not yet due. -/
theorem waits {r : Errand} (keeps : Keeps w latency st s [] (some r)) (rested : st.Rested) :
    st.millisNow < r.due latency := by
  cases busy : st.worker.busy with
  | none => cases keeps.idle_iff.2 ⟨busy, rfl⟩
  | some work =>
      obtain ⟨ticket, time⟩ := work
      obtain rfl := (keeps.inHand r rfl).due ticket time busy
      exact rested ticket _ busy

/-- The clock moves on by a frame, past a worker that has to wait. -/
theorem tick (keeps : Keeps w latency st s [] o) (rested : st.Rested)
    (room : st.clock.reading + millis frameMillis < Clock.span) :
    Keeps w latency { st with clock := st.clock.advanceMillis frameMillis } s [] o := by
  have reads := Clock.reading_advanceMillis_of_lt room
  refine ⟨keeps.toLive.tick frameMillis, keeps.opens, fun r open_ => ?_⟩
  have now : State.millisNow { st with clock := st.clock.advanceMillis frameMillis } =
      st.millisNow + frameMillis := by
    unfold State.millisNow
    rw [reads, millis]
    omega
  subst open_
  have waits := keeps.waits rested
  obtain ⟨grid, past, soon, -, due⟩ := keeps.inHand r rfl
  refine ⟨grid, now ▸ Nat.le_add_right_of_le past, ?_, fun some_ => (some_ rfl).elim, due⟩
  rw [now]
  omega

/-- The chores of a frame, until the worker has to wait. -/
theorem chores (keeps : Keeps w latency st s [] o) (opened : w.Opened settings call)
    (grid : st.millisNow % frameMillis = 0) (feedback : Bool) :
    let after := (if feedback then st.giveFeedback else st).work latency
    ∃ s' o', Keeps w latency after s' [] o' ∧ after.Rested ∧ Tells latency st o after o' := by
  intro after
  have reported : ∃ s' waiting' o',
      Keeps w latency (if feedback then st.giveFeedback else st) s' waiting' o' ∧
        Tells latency st o (if feedback then st.giveFeedback else st) o' := by
    cases feedback with
    | false => exact ⟨s, [], o, keeps, .refl st o⟩
    | true => exact keeps.giveFeedback grid
  have listens : ∃ waiting,
      (if feedback then st.giveFeedback else st).call.transport = .listening waiting := by
    obtain ⟨s', waiting', o', keeps', -⟩ := reported
    exact ⟨waiting', congrArg SharedCall.transport keeps'.call⟩
  obtain ⟨waiting, listens⟩ := listens
  obtain ⟨rested, emptied⟩ := State.work_rested latency listens
  have worked : ∃ s' waiting' o', Keeps w latency after s' waiting' o' ∧ Tells latency st o after o' := by
    refine State.work_keeps (I := fun st' => ∃ s' waiting' o',
      Keeps w latency st' s' waiting' o' ∧ Tells latency st o st' o') ?_ reported
    rintro st₁ st₂ chore ⟨s₁, waiting₁, o₁, keeps₁, tells₁⟩
    obtain ⟨s₂, waiting₂, o₂, keeps₂, tells₂⟩ := keeps₁.chore opened (tells₁.now.symm ▸ grid) chore
    exact ⟨s₂, waiting₂, o₂, keeps₂, tells₁.trans tells₂⟩
  obtain ⟨s', waiting', o', keeps', tells⟩ := worked
  have none_ : waiting' = [] := by
    cases busy : after.worker.busy with
    | none =>
        exact Transport.listening.inj
          ((congrArg SharedCall.transport keeps'.call).symm.trans (emptied busy))
    | some work => exact (keeps'.taken busy).2
  subst none_
  exact ⟨s', o', keeps', rested, tells⟩

end Keeps

/-! ## The order of the marks -/

/-- No mark is made before an earlier one, and no rebuild begins or ends until the frame that a circuit
was chosen for is over. -/
def Precedes (x y : Nat × Mark) : Prop :=
  x.1 ≤ y.1 ∧ (x.2 = .chosen → y.2.turnsOver = true → x.1 < y.1)

/-- A stretch of a chronicle, between two times. -/
structure Recorded (latency : Nat) (o : Option Errand) (l : Chronicle) (o' : Option Errand)
    (start till : Nat) : Prop where
  punctual : Punctual latency o l o'
  ordered : l.Pairwise Precedes
  bounds : ∀ x ∈ l, start ≤ x.1 ∧ x.1 ≤ till
  chosen : ∀ x ∈ l, x.2 = .chosen → x.1 < till

theorem mem_stamp {time : Nat} {events : List Event} {x : Nat × Mark} :
    x ∈ stamp time events ↔ ∃ e ∈ events, x = (time, .told e) := by
  simp [stamp, eq_comm]

theorem stamp_ordered (time : Nat) (events : List Event) :
    (stamp time events).Pairwise Precedes := by
  rw [stamp, List.pairwise_map]
  exact List.pairwise_of_forall fun e e' => ⟨Nat.le_refl time, fun chosen => by cases chosen⟩

namespace Recorded

variable {latency : Nat} {o o' o'' : Option Errand} {l l' : Chronicle} {start middle till : Nat}

theorem nil (o : Option Errand) (time : Nat) : Recorded latency o [] o time time :=
  ⟨.nil o, .nil, nofun, nofun⟩

theorem append (first : Recorded latency o l o' start middle)
    (second : Recorded latency o' l' o'' middle till) (le : start ≤ middle) (le' : middle ≤ till) :
    Recorded latency o (l ++ l') o'' start till := by
  refine ⟨first.punctual.append second.punctual, ?_, fun x mem => ?_, fun x mem chosen => ?_⟩
  · refine List.pairwise_append.2 ⟨first.ordered, second.ordered, fun x mem y mem' => ?_⟩
    have before := (first.bounds x mem).2
    have after := (second.bounds y mem').1
    refine ⟨Nat.le_trans before after, fun chosen _ => ?_⟩
    exact Nat.lt_of_lt_of_le (first.chosen x mem chosen) after
  · rcases List.mem_append.1 mem with mem | mem
    · have bounds := first.bounds x mem
      omega
    · have bounds := second.bounds x mem
      omega
  · rcases List.mem_append.1 mem with mem | mem
    · exact Nat.lt_of_lt_of_le (first.chosen x mem chosen) le'
    · exact second.chosen x mem chosen

/-- One frame: the choice, what is told of the frame, and what is told of the chores at its end. -/
theorem frame {early late : List Event} (less : start < till)
    (plain : ∀ e ∈ early, e.begins = false ∧ e.outcome? = none)
    (punctual : Punctual latency o (stamp till late) o') :
    Recorded latency o ((start, .chosen) :: stamp start early ++ stamp till late) o' start till := by
  have quiet : ∀ x ∈ (start, Mark.chosen) :: stamp start early, x.2.turnsOver = false := by
    intro x mem
    rcases List.mem_cons.1 mem with rfl | mem
    · rfl
    · obtain ⟨e, mem', rfl⟩ := mem_stamp.1 mem
      simp [Mark.turnsOver, plain e mem']
  have times : ∀ x ∈ (start, Mark.chosen) :: stamp start early, x.1 = start := by
    intro x mem
    rcases List.mem_cons.1 mem with rfl | mem
    · rfl
    · obtain ⟨e, -, rfl⟩ := mem_stamp.1 mem
      rfl
  refine ⟨(Punctual.of_plain quiet).append punctual, ?_, fun x mem => ?_, fun x mem chosen => ?_⟩
  · refine List.pairwise_append.2 ⟨List.pairwise_cons.2 ⟨fun x mem => ?_, stamp_ordered ..⟩,
      stamp_ordered .., fun x mem y mem' => ?_⟩
    · have later := List.mem_cons_of_mem (start, Mark.chosen) mem
      refine ⟨Nat.le_of_eq (times x later).symm, fun _ turns => ?_⟩
      rw [quiet x later] at turns
      cases turns
    · obtain ⟨e, -, rfl⟩ := mem_stamp.1 mem'
      rw [Precedes, times x mem]
      exact ⟨Nat.le_of_lt less, fun _ _ => less⟩
  · rcases List.mem_append.1 mem with mem | mem
    · rw [times x mem]
      exact ⟨Nat.le_refl start, Nat.le_of_lt less⟩
    · obtain ⟨e, -, rfl⟩ := mem_stamp.1 mem
      exact ⟨Nat.le_of_lt less, Nat.le_refl till⟩
  · rcases List.mem_append.1 mem with mem | mem
    · rw [times x mem]
      exact less
    · obtain ⟨e, -, rfl⟩ := mem_stamp.1 mem
      cases chosen

end Recorded

namespace Keeps

variable {settings : Settings} {call : CallId} {w : Session} {st : State} {s : Scheduler}
  {o : Option Errand} {scenario : Scenario} {n : Nat}

theorem frame (keeps : Keeps w scenario.rebuildLatency st s [] o) (opened : w.Opened settings call)
    (rested : st.Rested) (reads : st.clock = ⟨n * millis frameMillis⟩)
    (room : (n + 1) * millis frameMillis < Clock.span) (frame : Nat) :
    ∃ s' o', Keeps w scenario.rebuildLatency (st.frame scenario frame) s' [] o' ∧
      (st.frame scenario frame).Rested ∧
      Recorded scenario.rebuildLatency o (st.entries scenario frame) o' (n * frameMillis)
        ((n + 1) * frameMillis) ∧
      (st.frame scenario frame).events.toList =
        st.events.toList ++ (st.entries scenario frame).events := by
  obtain ⟨s₁, keeps₁, quiet⟩ := keeps.sendFrame opened
  obtain ⟨early, more, plain⟩ := quiet.told
  have rested₁ : st.sendFrame.Rested := by
    unfold State.Rested State.millisNow
    rw [quiet.worker, quiet.clock]
    exact rested
  have room₁ : st.sendFrame.clock.reading + millis frameMillis < Clock.span := by
    rw [quiet.clock, reads, ← Nat.succ_mul]
    exact room
  have ticked := keeps₁.tick rested₁ room₁
  have next : State.millisNow
      { st.sendFrame with clock := st.sendFrame.clock.advanceMillis frameMillis } =
        (n + 1) * frameMillis := by
    unfold State.millisNow
    rw [Clock.reading_advanceMillis_of_lt room₁, quiet.clock, reads, ← Nat.succ_mul, millis,
      ← Nat.mul_assoc]
    exact Nat.mul_div_cancel _ (by decide)
  obtain ⟨s', o', keeps', rested', tells⟩ := ticked.chores opened (next ▸ Nat.mul_mod_left ..)
    (decide (frame % scenario.framesPerFeedback = 0))
  have whole : st.frame scenario frame =
      (if decide (frame % scenario.framesPerFeedback = 0) = true then
        State.giveFeedback { st.sendFrame with clock := st.sendFrame.clock.advanceMillis frameMillis }
      else { st.sendFrame with clock := st.sendFrame.clock.advanceMillis frameMillis }).work
        scenario.rebuildLatency := by
    simp only [State.frame, decide_eq_true_eq]
  rw [← whole] at keeps' rested' tells
  obtain ⟨late, more', punctual⟩ := tells.told
  have later : (st.frame scenario frame).events.toList = st.sendFrame.events.toList ++ late := more'
  have now : st.millisNow = n * frameMillis := by
    unfold State.millisNow
    rw [reads, millis, ← Nat.mul_assoc]
    exact Nat.mul_div_cancel _ (by decide)
  have entries : st.entries scenario frame =
      (n * frameMillis, .chosen) :: stamp (n * frameMillis) early ++
        stamp ((n + 1) * frameMillis) late := by
    rw [State.entries, State.toldSince_eq more, State.toldSince_eq later, tells.now, next, now]
  refine ⟨s', o', keeps', rested', ?_, ?_⟩
  · rw [entries]
    exact .frame (Nat.mul_lt_mul_of_pos_right (Nat.lt_succ_self n) (by decide)) plain (next ▸ punctual)
  · have told : (st.entries scenario frame).events = early ++ late := by
      rw [entries, Chronicle.events, List.filterMap_append]
      exact congrArg₂ (· ++ ·) (events_stamp ..) (events_stamp ..)
    rw [told, ← List.append_assoc, ← more]
    exact later

theorem frames (keeps : Keeps w scenario.rebuildLatency st s [] o) (opened : w.Opened settings call)
    (rested : st.Rested) (reads : st.clock = ⟨n * millis frameMillis⟩) (first k : Nat)
    (room : (n + k) * millis frameMillis < Clock.span) :
    ∃ s' o', Keeps w scenario.rebuildLatency (st.frames scenario first k) s' [] o' ∧
      (st.frames scenario first k).Rested ∧
      Recorded scenario.rebuildLatency o (st.chronicle scenario first k) o' (n * frameMillis)
        ((n + k) * frameMillis) ∧
      (st.frames scenario first k).events.toList =
        st.events.toList ++ (st.chronicle scenario first k).events := by
  induction k generalizing st s o n first with
  | zero => exact ⟨s, o, keeps, rested, .nil o _, (List.append_nil _).symm⟩
  | succ k ih =>
      have sum : n + 1 + k = n + (k + 1) := by omega
      have room₁ : (n + 1) * millis frameMillis < Clock.span :=
        Nat.lt_of_le_of_lt (Nat.mul_le_mul_right _ (by omega)) room
      obtain ⟨s₁, o₁, keeps₁, rested₁, recorded₁, more₁⟩ := keeps.frame opened rested reads room₁ first
      have reads₁ : (st.frame scenario first).clock = ⟨(n + 1) * millis frameMillis⟩ := by
        rw [Nat.succ_mul] at room₁ ⊢
        rw [State.frame_clock, reads]
        exact congrArg Clock.mk (Clock.reading_advanceMillis_of_lt room₁)
      rw [← sum] at room ⊢
      obtain ⟨s₂, o₂, keeps₂, rested₂, recorded₂, more₂⟩ := ih keeps₁ rested₁ reads₁ (first + 1) room
      refine ⟨s₂, o₂, keeps₂, rested₂, recorded₁.append recorded₂ ?_ ?_, ?_⟩
      · exact Nat.mul_le_mul_right _ (Nat.le_succ n)
      · exact Nat.mul_le_mul_right _ (Nat.le_add_right ..)
      · rw [State.frames, more₂, more₁, List.append_assoc]
        exact congrArg (st.events.toList ++ ·) (List.filterMap_append ..).symm

end Keeps

theorem opening_keeps (settings : Settings) (scenario : Scenario) (call : CallId)
    (entropy : UInt64) (latency : Nat) :
    Keeps (session settings call entropy) latency (opening settings scenario call entropy)
      (.fresh settings call entropy 0) [] none where
  toLive := opening_live settings scenario call entropy
  opens := rfl
  inHand := nofun

theorem opening_rested (settings : Settings) (scenario : Scenario) (call : CallId)
    (entropy : UInt64) : (opening settings scenario call entropy).Rested := by
  intro ticket due busy
  cases busy

/-! ## The answers -/

/-- The errand is answered at this time, by one mark alone and ahead of the frame that is chosen for at
this time. -/
structure Errand.MetBy (r : Errand) (time : Nat) (before between : Chronicle) (mark : Mark)
    (rest : Chronicle) : Prop where
  answers : mark.Answers r
  first : ∀ x ∈ between, x.2.turnsOver = false
  /-- What ends a rebuild later on ends one that was asked for later on. -/
  only : ∀ past time' e later, rest = past ++ (time', .told e) :: later → e.outcome?.isSome = true →
    ∃ x ∈ past, ∃ e', x.2 = .told e' ∧ e'.begins = true
  ahead : ∀ x ∈ before ++ between, x.2 = .chosen → x.1 < time
  behind : ∀ x ∈ rest, x.2 = .chosen → time ≤ x.1

def Errand.Met (r : Errand) (time : Nat) (before after : Chronicle) : Prop :=
  ∃ between mark rest, after = between ++ (time, mark) :: rest ∧
    r.MetBy time before between mark rest

/-- The errand is open at the end of the call: it is never answered, and its answer is discarded. -/
structure Errand.Dropped (r : Errand) (after : Chronicle) (report : Report) : Prop where
  unanswered : ∀ x ∈ after, x.2.turnsOver = false
  discarded : report.discarded = 1
  rebuilding : ∃ c ∈ report.circuits, c.view.circuit = r.circuit ∧
    c.view.health.rebuilding = true ∧ c.view.health.epoch = r.epoch

namespace Recorded

variable {latency : Nat} {o o' : Option Errand} {r : Errand} {before after : Chronicle}
  {start till : Nat}

/-- An errand of a chronicle is answered at its time, or open at the end. -/
theorem fate (recorded : Recorded latency o
      (before ++ (r.time, .told (.rebuildRequested r.circuit r.epoch)) :: after) o' start till) :
    (r.answerTime latency ≤ till ∧ r.Met (r.answerTime latency) before after) ∨
      (o' = some r ∧ ∀ x ∈ after, x.2.turnsOver = false) := by
  obtain ⟨open₁, open₂, -, asked, followed⟩ := recorded.punctual.cut
  obtain rfl := asked.opens
  rcases followed.fate with ⟨quiet, still⟩ | ⟨between, mark, rest, rfl, quiet, answers, later⟩
  · exact .inr ⟨still, quiet⟩
  · have turns : mark.turnsOver = true := by
      cases answers <;> rfl
    -- The marks ahead of the answer, and those behind it.
    have all : before ++ (r.time, .told (.rebuildRequested r.circuit r.epoch)) ::
        (between ++ (r.answerTime latency, mark) :: rest) =
      (before ++ (r.time, .told (.rebuildRequested r.circuit r.epoch)) :: between) ++
        (r.answerTime latency, mark) :: rest := by simp
    obtain ⟨-, behind, ahead⟩ := List.pairwise_append.1 (all ▸ recorded.ordered)
    have answered : (r.answerTime latency, mark) ∈ (r.answerTime latency, mark) :: rest :=
      List.mem_cons_self
    have inside := recorded.bounds (r.answerTime latency, mark)
      (all ▸ List.mem_append_right _ answered)
    refine .inl ⟨inside.2, between, mark, rest, rfl, answers, quiet, ?_, ?_, ?_⟩
    · rintro past time' e later' rfl resolved
      exact later.asked_before resolved
    · intro x mem chosen
      have among : x ∈ before ++ (r.time, .told (.rebuildRequested r.circuit r.epoch)) :: between :=
        (List.mem_append.1 mem).elim (List.mem_append_left _)
          fun mem' => List.mem_append_right _ (List.mem_cons_of_mem _ mem')
      exact (ahead x among _ answered).2 chosen turns
    · intro x mem chosen
      exact ((List.pairwise_cons.1 behind).1 x mem).1

end Recorded

theorem view_of_found {s : Scheduler} {c : Nat} {h : Health} (found : s.circuits[c]? = some h)
    (now : Instant) : h.view c now s.minFrames ∈ s.views now :=
  List.mem_map.2 ⟨(h, c), List.mem_zipIdx_iff_getElem?.2 found, rfl⟩

/-- The errand that is open at the end of the call is dropped. -/
theorem Keeps.dropped {settings : Settings} {call : CallId} {w : Session} {latency : Nat} {st : State}
    {s : Scheduler} {waiting : List Ticket} {r : Errand} {after : Chronicle} {report : Report}
    (keeps : Keeps w latency st s waiting (some r)) (opened : w.Opened settings call)
    (closes : report.Closes st s) (prompt : st.worker.discarded = 0)
    (quiet : ∀ x ∈ after, x.2.turnsOver = false) : r.Dropped after report := by
  have taken : s.inFlight = some (r.ticket s.call) := keeps.opens.symm
  obtain ⟨h, found, rebuilding, epoch, -⟩ :=
    Scheduler.complete_of_taken (keeps.kept opened) taken st.clock.reading .failed
  refine ⟨quiet, ?_, ?_⟩
  · rw [closes.discarded, prompt, Scheduler.load, taken]
    rfl
  · have shown := view_of_found found st.clock.reading
    rw [← closes.views] at shown
    obtain ⟨c, mem, view⟩ := List.mem_map.1 shown
    rw [Health.view] at view
    refine ⟨c, mem, ?_⟩
    rw [view]
    exact ⟨rfl, rebuilding, epoch⟩

/-- Every rebuild that a chronicle asks for is answered at the end of the first frame at which its latency
is over, ahead of the next frame, or is dropped when the call ends before. -/
def Report.OnTime (report : Report) (scenario : Scenario) (chronicle : Chronicle) : Prop :=
  ∀ (before : Chronicle) (r : Errand) (after : Chronicle),
    chronicle = before ++ (r.time, .told (.rebuildRequested r.circuit r.epoch)) :: after →
    r.time + scenario.rebuildLatency < UInt64.size →
    (r.time + scenario.rebuildLatency ≤ 1000 * scenario.seconds →
      r.Met (r.time + 20 * ((scenario.rebuildLatency + 19) / 20)) before after) ∧
    (1000 * scenario.seconds < r.time + scenario.rebuildLatency → r.Dropped after report)

/-- The rebuilds of a simulated call are on time, in the chronicle that tells all of its events. -/
theorem rebuilds_on_time {settings : Settings} (accepted : settings.check = .ok ())
    (scenario : Scenario) (call : CallId) (entropy : UInt64)
    (room : scenario.seconds * 1000000 < UInt64.size) :
    ∃ first report, start settings scenario call entropy = .ok first ∧
      run settings scenario call entropy = .ok report ∧
      (first.chronicle scenario 1 scenario.frames).events = report.events ∧
      report.OnTime scenario (first.chronicle scenario 1 scenario.frames) := by
  have opened := session_opened accepted call entropy
  have frames := Scenario.frames_eq room
  have length : (0 + scenario.frames) * frameMillis = 1000 * scenario.seconds := by
    rw [frames]
    unfold frameMillis
    omega
  have micros : (0 + scenario.frames) * millis frameMillis = scenario.seconds * 1000000 := by
    rw [millis, ← Nat.mul_assoc, length]
    omega
  have span : (0 + scenario.frames) * millis frameMillis < Clock.span := by
    rw [micros]
    exact room
  have begins : (opening settings scenario call entropy).clock = ⟨0 * millis frameMillis⟩ := by
    rw [Nat.zero_mul]
    rfl
  obtain ⟨s, o, keeps, rested, recorded, more⟩ :=
    (opening_keeps settings scenario call entropy _).frames opened
      (opening_rested settings scenario call entropy) begins 1 scenario.frames span
  have now : ((opening settings scenario call entropy).frames scenario 1 scenario.frames).millisNow =
      1000 * scenario.seconds := by
    rw [Nat.add_mul] at micros span
    rw [State.millisNow, State.frames_clock begins scenario 1 scenario.frames span, micros]
    change scenario.seconds * 1000000 / 1000 = 1000 * scenario.seconds
    omega
  have settled : Lives (session settings call entropy) Books.Settled
      (opening settings scenario call entropy) :=
    ⟨_, _, opening_live settings scenario call entropy, opening_settled ..⟩
  obtain ⟨s', waiting', -, books⟩ := frames_live (B := fun _ => Books.Settled) opened
    (fun entry _ => entry.settled) settled scenario 1 scenario.frames (Nat.le_of_eq (Nat.zero_add _))
  have prompt := books.discarded
  obtain ⟨report, ran, -, closes⟩ := run_closes accepted scenario call entropy keeps.toLive
  refine ⟨_, report, start_eq accepted scenario call entropy, ran, ?_, ?_⟩
  · rw [closes.events, more]
    rfl
  · intro before r after split fits
    rw [split, length] at recorded
    have due := Errand.due_eq fits
    rcases recorded.fate with ⟨within_, met⟩ | ⟨rfl, quiet⟩
    · rw [Errand.answerTime_eq fits] at within_ met
      refine ⟨fun _ => met, fun late => ?_⟩
      unfold frameMillis at within_
      omega
    · have waits := keeps.waits rested
      rw [now, due] at waits
      exact ⟨fun within_ => absurd within_ (Nat.not_le_of_lt waits),
        fun _ => keeps.dropped opened closes prompt quiet⟩

theorem rebuilds_on_time_brisk :
    Settings.brisk.check = .ok () ∧ lossy.seconds * 1000000 < UInt64.size ∧
      ∃ first report, start .brisk lossy ⟨"A"⟩ 0 = .ok first ∧ run .brisk lossy ⟨"A"⟩ 0 = .ok report ∧
        (first.chronicle lossy 1 50).events = report.events ∧
        report.OnTime lossy (first.chronicle lossy 1 50) := by
  have accepted : Settings.brisk.check = .ok () := rfl
  have room : lossy.seconds * 1000000 < UInt64.size := by decide
  exact ⟨accepted, room, rebuilds_on_time accepted lossy ⟨"A"⟩ 0 room⟩

end Simulation

end Multipath
