import Multipath.Proofs.Balance
import Multipath.Proofs.Choice
import Multipath.Proofs.Mileage
import Multipath.Proofs.Sharing
import Multipath.Simulation.Run

/-! # Simulated calls, step by step

A frame of a simulated call is sent, the clock is moved on, and chores follow: the peer reports, the
worker takes up a ticket, the worker finishes a rebuild. `frame_keeps` says that there is nothing else.

All the time the call is at the end of a run of the scheduler it began with, and the worker has the
ticket in flight, in its hands or before it: `Live` holds at first and after every step. What a step
enters in the books of the simulation is one `Entry`; a law of the books is proved entry by entry.
-/

namespace Multipath

/-- A shared call that is listened to hands over what an operation begins. -/
theorem SharedCall.step_listening {s : Scheduler} (handed : s.pending = []) (waiting : List Ticket)
    (now : Instant) (operation : Operation) :
    let step := s.step now operation
    (SharedCall.start s (.listening waiting)).step now operation =
      some (step.answer,
        .start { step.scheduler with pending := [] }
          (.listening (waiting ++ step.scheduler.pending)), step.notices) := by
  intro step
  have call : step.scheduler.call = s.call := Session.run_call ⟨⟨now⟩, s⟩ [.ask operation]
  cases hands : operation.handsOver with
  | true =>
      simp [start, SharedCall.step, hands, handOver, Session.offerAll_listening, step, call]
  | false =>
      have none_ : step.scheduler.pending = [] := (Scheduler.step_rests hands).pending handed
      have same : { step.scheduler with pending := [] } = step.scheduler := by rw [← none_]
      have plain : (start s (.listening waiting)).step now operation =
          some (step.answer, ⟨s.call, some step.scheduler, .listening waiting⟩, step.notices) := by
        simp [start, SharedCall.step, hands, step]
      rw [plain, none_, List.append_nil, same, ← call]
      rfl

theorem SharedCall.complete_start (s : Scheduler) (transport : Transport) (now : Instant)
    (ticket : Ticket) (outcome : Outcome) :
    let done := s.complete now ticket outcome
    (SharedCall.start s transport).complete now ticket outcome =
      (done.result, .start done.scheduler transport, done.notices) := by
  intro done
  have call : done.scheduler.call = s.call :=
    Session.run_call ⟨⟨now⟩, s⟩ [.ask (.complete ticket outcome)]
  simp [start, complete, done, call]

namespace Simulation

/-- The worker after an answer that was accepted. -/
def Worker.settle (worker : Worker) : Outcome → Worker
  | .rebuilt => { worker with busy := none, rebuilt := worker.rebuilt + 1 }
  | .failed => { worker with busy := none, failed := worker.failed + 1 }

namespace State

/-- The state with these tickets before the worker. -/
def withWaiting (s : State) (waiting : List Ticket) : State :=
  { s with call := { s.call with transport := .listening waiting } }

/-- The worker begins with a ticket. -/
def takeFirst (latency : Nat) (s : State) (ticket : Ticket) : State :=
  { s with
    worker := { s.worker with busy := some (ticket, (s.millisNow + latency) % UInt64.size) } }

/-- What is done between two frames. -/
inductive Chore (latency : Nat) : State → State → Prop
  | report (s : State) : Chore latency s s.giveFeedback
  | takeUp {s : State} (ticket : Ticket) (rest : List Ticket) (free : s.worker.busy = none) :
      Chore latency (s.withWaiting (ticket :: rest)) ((s.takeFirst latency ticket).withWaiting rest)
  | finish {s : State} {ticket : Ticket} {due : Nat} (busy : s.worker.busy = some (ticket, due))
      (ready : due ≤ s.millisNow) : Chore latency s (s.finishRebuild ticket)

/-! ## A frame is made of chores -/

/-- A rebuild that ends does not touch the tickets that wait. -/
theorem finishRebuild_withWaiting (s : State) (ticket : Ticket) (waiting : List Ticket) :
    (s.withWaiting waiting).finishRebuild ticket = (s.finishRebuild ticket).withWaiting waiting := by
  obtain ⟨clock, ⟨call, scheduler, transport⟩, network, worker, tallies, events⟩ := s
  cases scheduler with
  | none => rfl
  | some s => rfl

theorem workOn_withWaiting (s : State) (waiting : List Ticket) :
    (s.withWaiting waiting).workOn = s.workOn.withWaiting waiting := by
  have same : (s.withWaiting waiting).millisNow = s.millisNow := rfl
  have busy : (s.withWaiting waiting).worker.busy = s.worker.busy := rfl
  unfold workOn
  rw [same, busy]
  split
  · split
    · exact s.finishRebuild_withWaiting _ waiting
    · rfl
  · rfl

section Keeps

variable {latency : Nat} {I : State → Prop} {s : State}

theorem workOn_keeps (keep : ∀ {s s'}, Chore latency s s' → I s → I s') (start : I s) :
    I s.workOn := by
  unfold workOn
  split
  · rename_i ticket due busy
    split
    · rename_i ready
      exact keep (.finish busy ready) start
    · exact start
  · exact start

/-- The worker takes tickets from what it has received; that is as if they went on waiting. -/
theorem takeUp_keeps (keep : ∀ {s s'}, Chore latency s s' → I s → I s') {tickets : List Ticket}
    (start : I (s.withWaiting tickets)) : I ((s.withWaiting []).takeUp latency tickets) := by
  induction tickets generalizing s with
  | nil => exact start
  | cons ticket rest ih =>
      unfold takeUp
      split
      · exact start
      · rename_i free
        have taken : I ((s.takeFirst latency ticket).workOn.withWaiting rest) := by
          rw [← workOn_withWaiting]
          exact workOn_keeps keep (keep (.takeUp ticket rest free) start)
        have begun := ih taken
        rw [← workOn_withWaiting] at begun
        exact begun

theorem work_keeps (keep : ∀ {s s'}, Chore latency s s' → I s → I s') (start : I s) :
    I (s.work latency) := by
  have worked : I s.workOn := workOn_keeps keep start
  unfold work
  generalize s.workOn = u at worked ⊢
  obtain ⟨clock, ⟨call, scheduler, transport⟩, network, worker, tallies, events⟩ := u
  cases transport with
  | listening waiting =>
      exact takeUp_keeps (s := ⟨clock, ⟨call, scheduler, _⟩, _, _, _, _⟩) keep worked
  | absent => exact worked
  | gone => exact worked

/-- What the chores keep, a frame keeps from when it was sent and the clock moved on. -/
theorem frame_keeps {scenario : Scenario} {frame : Nat}
    (keep : ∀ {s s'}, Chore scenario.rebuildLatency s s' → I s → I s')
    (start : I { s.sendFrame with clock := s.sendFrame.clock.advanceMillis frameMillis }) :
    I (s.frame scenario frame) := by
  simp only [State.frame]
  refine work_keeps keep ?_
  split
  · exact keep (.report _) start
  · exact start

end Keeps

/-- A frame on its circuit. -/
def carry (s : State) (circuit : Nat) : State :=
  { s with
    network := (s.network.transmit circuit).2
    tallies := s.tallies.modify circuit (·.count (s.network.transmit circuit).1) }

theorem sendFrame_eq {s s' : State} {circuit : Nat}
    (picked : s.operate .pick = (.circuit circuit, s')) :
    s.sendFrame = ((s'.carry circuit).operate
      (if (s'.network.transmit circuit).1 = .sendFailed then .sendFailed circuit
        else .sent circuit)).2 := by
  simp only [sendFrame, picked]
  rfl

/-- Playout blames a share of the late frames on itself. -/
def blameLate (s : State) (reports : List (Nat × PeerReport)) : State :=
  reports.foldl (fun s (circuit, report) =>
    (s.operate (.lateToBuffer circuit (report.late * 0.1))).2) s

theorem giveFeedback_eq (s : State) :
    s.giveFeedback =
      let reports := s.network.feedback.1.zipIdx.map fun (report, circuit) => (circuit, report)
      ((State.blameLate { s with network := s.network.feedback.2 } reports).operate
        (.feedback reports)).2 :=
  rfl

theorem operate_clock (s : State) (operation : Operation) :
    (s.operate operation).2.clock = s.clock := by
  unfold operate
  split <;> rfl

end State

/-! ## The books -/

/-- What the parts of a simulation count, each for itself. -/
structure Books where
  mileages : List Mileage
  circuits : List VirtualCircuit
  tallies : List Tally
  rebuilt : Nat
  failed : Nat
  discarded : Nat
  events : List Event

def State.books (st : State) (s : Scheduler) : Books where
  mileages := s.mileages
  circuits := st.network.circuits
  tallies := st.tallies
  rebuilt := st.worker.rebuilt
  failed := st.worker.failed
  discarded := st.worker.discarded
  events := st.events.toList

theorem State.books_tick (st : State) (clock : Clock) (s : Scheduler) :
    State.books { st with clock } s = st.books s :=
  rfl

theorem State.carry_books (st : State) (s : Scheduler) (c : Nat) :
    (st.carry c).books s =
      let fate := (st.network.transmit c).1
      { st.books s with
        circuits := (st.books s).circuits.modify c (·.meet fate)
        tallies := (st.books s).tallies.modify c (·.count fate) } := by
  simp only [State.books, State.carry, Network.transmit_circuits]

/-- The scheduler counts the frames that went out. -/
def Fate.drive : Fate → Mileage → Mileage
  | .sendFailed, m => m
  | .lost, m | .delivered, m => m.drive

/-- What a step enters in the books, and whether it is a frame. -/
inductive Entry (b : Books) : Nat → Books → Prop
  | idle : Entry b 0 b
  | frame {c : Nat} {fate : Fate} {told : List Event} (inside : c < b.tallies.length)
      (unresolved : ∀ e ∈ told, e.outcome? = none) :
      Entry b 1 { b with
        mileages := b.mileages.modify c fate.drive
        circuits := b.circuits.modify c (·.meet fate)
        tallies := b.tallies.modify c (·.count fate)
        events := b.events ++ told }
  | report {mileages : List Mileage} {told : List Event}
      (heard : ∀ (j : Nat) (m' : Mileage), mileages[j]? = some m' → ∃ m : Mileage,
        b.mileages[j]? = some m ∧
          (m' = m ∨ ∃ v : VirtualCircuit, b.circuits[j]? = some v ∧ m' = m.hear v.received))
      (unresolved : ∀ e ∈ told, e.outcome? = none) :
      Entry b 0 { b with
        mileages
        circuits := b.circuits.map VirtualCircuit.closeWindow
        events := b.events ++ told }
  | rebuilt {c : Nat} (loss : Float) {e : Event} (inside : c < b.circuits.length)
      (resolved : e.outcome? = some .rebuilt) :
      Entry b 0 { b with
        mileages := b.mileages.modify c Mileage.renew
        circuits := b.circuits.modify c (·.reconnect loss)
        rebuilt := b.rebuilt + 1
        events := b.events ++ [e] }
  | failed {e : Event} (resolved : e.outcome? = some .failed) :
      Entry b 0 { b with failed := b.failed + 1, events := b.events ++ [e] }

/-! ## The call while it goes on -/

/-- The call is at the end of a run from `w`, with the scheduler `s` and tickets that wait. -/
structure Live (w : Session) (st : State) (s : Scheduler) (waiting : List Ticket) : Prop where
  call : st.call = .start s (.listening waiting)
  reached : ∃ moves, (w.run moves).final = ⟨st.clock, s⟩ ∧ (w.run moves).events = st.events.toList
  handed : s.pending = []
  /-- The worker has the ticket in flight, in its hands or before it. -/
  tickets : (st.worker.busy.map Prod.fst).toList ++ waiting = s.inFlight.toList
  circuits : st.network.circuits.length = s.size
  tallies : st.tallies.length = s.size

namespace Live

variable {settings : Settings} {call : CallId} {w : Session} {st : State} {s : Scheduler}
  {waiting : List Ticket}

theorem kept (live : Live w st s waiting) (opened : w.Opened settings call) : s.SlotKept := by
  obtain ⟨moves, final, -⟩ := live.reached
  have kept : (w.run moves).final.scheduler.SlotKept := opened.slotKept moves
  rw [final] at kept
  exact kept

theorem inRange (live : Live w st s waiting) (opened : w.Opened settings call) : s.InRange := by
  obtain ⟨moves, final, -⟩ := live.reached
  have range : (w.run moves).final.scheduler.InRange := opened.inRange moves
  rw [final] at range
  exact range

theorem settings_eq (live : Live w st s waiting) (opened : w.Opened settings call) :
    s.settings = settings := by
  obtain ⟨moves, final, -⟩ := live.reached
  have same : (w.run moves).final.scheduler.settings = settings := opened.settings_eq moves
  rw [final] at same
  exact same

theorem size_eq (live : Live w st s waiting) (opened : w.Opened settings call) :
    s.size = settings.circuits.toNat := by
  rw [(live.inRange opened).size, live.settings_eq opened]

/-- More of the run. -/
theorem reached_after (live : Live w st s waiting) (moves : List Move) :
    ∃ moves', (w.run moves').final = ((⟨st.clock, s⟩ : Session).run moves).final ∧
      (w.run moves').events = st.events.toList ++ ((⟨st.clock, s⟩ : Session).run moves).events := by
  obtain ⟨past, final, events⟩ := live.reached
  exact ⟨past ++ moves, by rw [Session.run_append_final, final],
    by rw [Session.run_append_events, final, events]⟩

theorem tick (live : Live w st s waiting) (milliseconds : Nat) :
    Live w { st with clock := st.clock.advanceMillis milliseconds } s waiting := by
  obtain ⟨moves, final, events⟩ := live.reached_after [.advance (milliseconds * 1000)]
  exact { live with reached := ⟨moves, final, events.trans (List.append_nil _)⟩ }

/-! ### Operations -/

theorem operate_eq (live : Live w st s waiting) (operation : Operation) :
    let step := s.step st.clock.reading operation
    st.operate operation =
      (step.answer,
        { st with
          call := .start { step.scheduler with pending := [] }
            (.listening (waiting ++ step.scheduler.pending))
          events := st.events ++ (Notice.events step.notices).toArray }) := by
  simp only [State.operate, live.call, SharedCall.step_listening live.handed]
  rfl

/-- An operation that answers no rebuild. -/
theorem operate (live : Live w st s waiting) (operation : Operation)
    (silent : operation.answers = false) :
    ∃ s' waiting' told, Live w (st.operate operation).2 s' waiting' ∧
      (∀ e ∈ told, e.outcome? = none) ∧
      (st.operate operation).2.books s' =
        { st.books s with
          mileages := (s.step st.clock.reading operation).scheduler.mileages
          events := (st.books s).events ++ told } := by
  rw [live.operate_eq]
  generalize taken : s.step st.clock.reading operation = step
  have unresolved : ∀ e ∈ Notice.events step.notices, e.outcome? = none := by
    rw [← taken]
    exact Scheduler.step_unresolved silent
  have slot : step.scheduler.inFlight.toList = s.inFlight.toList ++ step.scheduler.pending := by
    rw [← taken]
    exact Scheduler.step_inFlight silent live.handed
  have size : step.scheduler.size = s.size := by
    rw [← taken]
    exact (s.step_strides st.clock.reading operation).size_eq
  refine ⟨{ step.scheduler with pending := [] }, waiting ++ step.scheduler.pending, _, ?_,
    unresolved, ?_⟩
  · obtain ⟨moves, final, events⟩ := live.reached_after (Move.ask operation).taking
    obtain ⟨final', events', -⟩ := Session.run_taking (w := ⟨st.clock, s⟩) live.handed operation
    refine ⟨rfl, ⟨moves, ?_, ?_⟩, rfl, ?_, ?_, ?_⟩
    · rw [final, final', ← taken]
      rfl
    · rw [events, events', ← taken]
      simp [Session.now]
    · rw [← List.append_assoc, live.tickets]
      exact slot.symm
    · exact live.circuits.trans size.symm
    · exact live.tallies.trans size.symm
  · simp [State.books, Scheduler.mileages]

/-- The call after an operation that answers no rebuild. -/
theorem operated (live : Live w st s waiting) (operation : Operation)
    (silent : operation.answers = false) :
    Live w (st.operate operation).2
      { (s.step st.clock.reading operation).scheduler with pending := [] }
      (waiting ++ (s.step st.clock.reading operation).scheduler.pending) := by
  obtain ⟨s', waiting', -, live', -⟩ := live.operate operation silent
  have call' := live'.call
  rw [live.operate_eq] at call'
  simp only [SharedCall.start, SharedCall.mk.injEq, Option.some.injEq,
    Transport.listening.injEq] at call'
  obtain ⟨-, rfl, rfl⟩ := call'
  exact live'

/-! ### Steps -/

theorem told_mileages (s : Scheduler) (now : Instant) (c : Nat) (fate : Fate) :
    (s.step now (if fate = .sendFailed then .sendFailed c else .sent c)).scheduler.mileages =
      s.mileages.modify c fate.drive := by
  cases fate with
  | sendFailed =>
      exact Scheduler.act_mileages (f := Fate.drive .sendFailed) fun scene h =>
        scene.sendFailed_mileage h
  | lost => exact Scheduler.act_mileages (f := Fate.drive .lost) fun _ _ => rfl
  | delivered => exact Scheduler.act_mileages (f := Fate.drive .delivered) fun _ _ => rfl

theorem carry (live : Live w st s waiting) (c : Nat) : Live w (st.carry c) s waiting :=
  { live with
    circuits := by rw [State.carry, Network.transmit_circuits, List.length_modify, live.circuits]
    tallies := by rw [State.carry, List.length_modify, live.tallies] }

theorem sendFrame (live : Live w st s waiting) (opened : w.Opened settings call) :
    ∃ s' waiting', Live w st.sendFrame s' waiting' ∧
      Entry (st.books s) 1 (st.sendFrame.books s') := by
  obtain ⟨s₁, waiting₁, told₁, live₁, quiet₁, books₁⟩ := live.operate .pick rfl
  have answer : (st.operate .pick).1 = .circuit (s.pick st.clock.reading).1 := by
    rw [live.operate_eq]
    rfl
  have inside : (s.pick st.clock.reading).1 < st.tallies.length := by
    rw [live.tallies]
    exact Scheduler.pick_lt (live.inRange opened)
  generalize (s.pick st.clock.reading).1 = c at answer inside
  have picked : st.operate .pick = (.circuit c, (st.operate .pick).2) := Prod.ext answer rfl
  rw [State.sendFrame_eq picked]
  generalize (st.operate .pick).2 = st₁ at live₁ books₁ ⊢
  generalize sent : (if (st₁.network.transmit c).1 = .sendFailed then Operation.sendFailed c
    else .sent c) = operation
  have silent : operation.answers = false := by
    rw [← sent]
    split <;> rfl
  obtain ⟨s₂, waiting₂, told₂, live₂, quiet₂, books₂⟩ := (live₁.carry c).operate operation silent
  refine ⟨s₂, waiting₂, live₂, ?_⟩
  have mileages : s₁.mileages = s.mileages :=
    (congrArg Books.mileages books₁).trans (s.pick_mileages _)
  rw [books₂, ← sent, told_mileages, State.carry_books, books₁, mileages, List.append_assoc]
  refine .frame inside fun e mem => ?_
  exact (List.mem_append.1 mem).elim (quiet₁ e) (quiet₂ e)

theorem blameLate (live : Live w st s waiting) (reports : List (Nat × PeerReport)) :
    ∃ s' waiting' told, Live w (st.blameLate reports) s' waiting' ∧
      (∀ e ∈ told, e.outcome? = none) ∧
      (st.blameLate reports).books s' =
        { st.books s with events := (st.books s).events ++ told } := by
  induction reports generalizing st s waiting with
  | nil => exact ⟨s, waiting, [], live, nofun, by simp [State.blameLate]⟩
  | cons item rest ih =>
      obtain ⟨c, report⟩ := item
      obtain ⟨s₁, waiting₁, told₁, live₁, quiet₁, books₁⟩ :=
        live.operate (.lateToBuffer c (report.late * 0.1)) rfl
      obtain ⟨s₂, waiting₂, told₂, live₂, quiet₂, books₂⟩ := ih live₁
      have same : (s.step st.clock.reading (.lateToBuffer c (report.late * 0.1))).scheduler.mileages =
          s.mileages := Scheduler.act_mileages_eq fun _ _ => rfl
      refine ⟨s₂, waiting₂, told₁ ++ told₂, live₂, fun e mem => ?_, ?_⟩
      · exact (List.mem_append.1 mem).elim (quiet₁ e) (quiet₂ e)
      · rw [books₁, same, List.append_assoc] at books₂
        exact books₂

theorem giveFeedback (live : Live w st s waiting) :
    ∃ s' waiting', Live w st.giveFeedback s' waiting' ∧
      Entry (st.books s) 0 (st.giveFeedback.books s') := by
  rw [State.giveFeedback_eq]
  generalize told : st.network.feedback.1.zipIdx.map (fun (report, circuit) => (circuit, report)) =
    reports
  have live₀ : Live w { st with network := st.network.feedback.2 } s waiting :=
    { live with circuits := (List.length_map _).trans live.circuits }
  obtain ⟨s₁, waiting₁, told₁, live₁, quiet₁, books₁⟩ := live₀.blameLate reports
  obtain ⟨s₂, waiting₂, told₂, live₂, quiet₂, books₂⟩ :=
    live₁.operate (.feedback reports) rfl
  refine ⟨s₂, waiting₂, live₂, ?_⟩
  have mileages : s₁.mileages = s.mileages := congrArg Books.mileages books₁
  rw [books₂, books₁, List.append_assoc]
  refine .report (fun j m' found => ?_) fun e mem => ?_
  · obtain ⟨m, before, heard⟩ := Scheduler.takeReports_mileage found
    rw [mileages] at before
    refine ⟨m, before, heard.imp_right ?_⟩
    rintro ⟨report, mem, rfl⟩
    rw [← told] at mem
    obtain ⟨v, found, received⟩ := Network.received_of_mem mem
    exact ⟨v, found, by rw [received]⟩
  · exact (List.mem_append.1 mem).elim (quiet₁ e) (quiet₂ e)

theorem takeFirst {ticket : Ticket} {rest : List Ticket}
    (live : Live w (st.withWaiting (ticket :: rest)) s waiting) (latency : Nat)
    (free : st.worker.busy = none) :
    Live w ((st.takeFirst latency ticket).withWaiting rest) s rest := by
  obtain ⟨call, reached, handed, tickets, circuits, tallies⟩ := live
  have waits : ticket :: rest = waiting :=
    Transport.listening.inj (congrArg SharedCall.transport call)
  subst waits
  refine ⟨?_, reached, handed, ?_, circuits, tallies⟩
  · exact congrArg (fun c : SharedCall => { c with transport := .listening rest }) call
  · rw [← tickets]
    simp [State.withWaiting, State.takeFirst, free]

/-- The ticket in the worker's hands is the one in flight, and no other waits. -/
theorem taken (live : Live w st s waiting) {ticket : Ticket} {due : Nat}
    (busy : st.worker.busy = some (ticket, due)) : s.inFlight = some ticket ∧ waiting = [] := by
  have tickets := live.tickets
  rw [busy] at tickets
  cases slot : s.inFlight with
  | none => simp [slot] at tickets
  | some t => simpa [slot, eq_comm] using tickets

theorem finishRebuild_eq (live : Live w st s waiting) (opened : w.Opened settings call)
    {ticket : Ticket} {due : Nat} (busy : st.worker.busy = some (ticket, due)) :
    let drawn := st.network.reconnect ticket.circuit
    let outcome : Outcome := if drawn.1 then .rebuilt else .failed
    let done := s.complete st.clock.reading ticket outcome
    st.finishRebuild ticket =
      { st with
        network := drawn.2
        call := .start done.scheduler (.listening waiting)
        worker := st.worker.settle outcome
        events := st.events ++ (Notice.events done.notices).toArray } := by
  have accepted (outcome : Outcome) : (s.complete st.clock.reading ticket outcome).result = .ok () :=
    (Scheduler.complete_ended (live.kept opened) (live.taken busy).1 _ outcome).1
  rcases drawn : st.network.reconnect ticket.circuit with ⟨succeeded, network⟩
  simp only [State.finishRebuild, drawn, live.call, SharedCall.complete_start, accepted]
  cases succeeded with
  | true => rfl
  | false => rfl

/-- The worker ends its rebuild, and the answer is accepted. -/
theorem finishRebuild (live : Live w st s waiting) (opened : w.Opened settings call)
    {ticket : Ticket} {due : Nat} (busy : st.worker.busy = some (ticket, due)) :
    ∃ s' waiting', Live w (st.finishRebuild ticket) s' waiting' ∧
      Entry (st.books s) 0 ((st.finishRebuild ticket).books s') := by
  have kept := live.kept opened
  obtain ⟨taken, rfl⟩ := live.taken busy
  rw [live.finishRebuild_eq opened busy]
  have network := st.network.reconnect_circuits ticket.circuit
  generalize st.network.reconnect ticket.circuit = drawn at network ⊢
  generalize answer : (if drawn.1 then Outcome.rebuilt else .failed) = outcome
  obtain ⟨e, told, -, resolved⟩ :=
    Scheduler.complete_events kept taken st.clock.reading outcome
  have mileages := Scheduler.complete_mileages kept taken st.clock.reading outcome
  have freed := Scheduler.complete_inFlight kept taken st.clock.reading outcome
  have size := (s.complete_strides st.clock.reading ticket outcome).size_eq
  have handed := (s.complete_rests st.clock.reading ticket outcome).pending live.handed
  obtain ⟨moves, final, events⟩ := live.reached_after [.ask (.complete ticket outcome)]
  have circuits : drawn.2.circuits.length = s.size := by
    rcases network with ⟨-, same⟩ | ⟨loss, -, -, renewed⟩
    · rw [same, live.circuits]
    · rw [renewed, List.length_modify, live.circuits]
  refine ⟨(s.complete st.clock.reading ticket outcome).scheduler, [],
    ⟨rfl, ⟨moves, final, ?_⟩, handed, ?_, circuits.trans size.symm, live.tallies.trans size.symm⟩, ?_⟩
  · rw [events]
    simp [Session.run, Session.make, Run.events, Transition.events, Scheduler.step,
      Scheduler.step.answered, Session.now]
  · rw [freed]
    cases outcome <;> rfl
  · rcases network with ⟨lost, same⟩ | ⟨loss, won, inside, renewed⟩
    · obtain rfl : outcome = .failed := by
        rw [← answer, lost]
        rfl
      have entered : Entry (st.books s) 0 _ := .failed resolved
      simpa [State.books, Worker.settle, same, told, mileages] using entered
    · obtain rfl : outcome = .rebuilt := by
        rw [← answer, won]
        rfl
      have entered : Entry (st.books s) 0 _ := .rebuilt loss inside resolved
      simpa [State.books, Worker.settle, renewed, told, mileages] using entered

theorem chore (live : Live w st s waiting) (opened : w.Opened settings call) {latency : Nat}
    {st' : State} (chore : State.Chore latency st st') :
    ∃ s' waiting', Live w st' s' waiting' ∧ Entry (st.books s) 0 (st'.books s') := by
  cases chore with
  | report => exact live.giveFeedback
  | takeUp ticket rest free => exact ⟨s, rest, live.takeFirst latency free, .idle⟩
  | finish busy ready => exact live.finishRebuild opened busy

end Live

/-! ## Frame after frame -/

/-- The call goes on, and this is true of its books. -/
def Lives (w : Session) (B : Books → Prop) (st : State) : Prop :=
  ∃ s waiting, Live w st s waiting ∧ B (st.books s)

section Laws

variable {settings : Settings} {call : CallId} {w : Session} {st : State}
  {B : Nat → Books → Prop} {limit : Nat}

/-- A law of the books that every entry keeps, up to a number of frames, holds after a frame. -/
theorem frame_lives (opened : w.Opened settings call)
    (keep : ∀ {k n b b'}, Entry b n b' → k + n ≤ limit → B k b → B (k + n) b')
    {k : Nat} (few : k + 1 ≤ limit) (lives : Lives w (B k) st) (scenario : Scenario) (frame : Nat) :
    Lives w (B (k + 1)) (st.frame scenario frame) := by
  refine State.frame_keeps ?_ ?_
  · rintro st st' chore ⟨s, waiting, live, books⟩
    obtain ⟨s', waiting', live', entry⟩ := live.chore opened chore
    exact ⟨s', waiting', live', keep (k := k + 1) (n := 0) entry few books⟩
  · obtain ⟨s, waiting, live, books⟩ := lives
    obtain ⟨s', waiting', live', entry⟩ := live.sendFrame opened
    refine ⟨s', waiting', live'.tick frameMillis, ?_⟩
    rw [State.books_tick]
    exact keep (k := k) (n := 1) entry few books

theorem frames_live (opened : w.Opened settings call)
    (keep : ∀ {k n b b'}, Entry b n b' → k + n ≤ limit → B k b → B (k + n) b')
    {k : Nat} (lives : Lives w (B k) st) (scenario : Scenario) (first n : Nat)
    (few : k + n ≤ limit) :
    Lives w (B (k + n)) (st.frames scenario first n) := by
  induction n generalizing st k first with
  | zero => exact lives
  | succ n ih =>
      have sent := frame_lives opened keep (by omega) lives scenario first
      have later := ih sent (first + 1) (by omega)
      rw [Nat.add_assoc, Nat.add_comm 1 n] at later
      exact later

end Laws

/-! ## The first state -/

/-- The scheduler of a simulated call starts at the first reading of the clock. -/
def session (settings : Settings) (call : CallId) (entropy : UInt64) : Session :=
  ⟨{}, .fresh settings call entropy 0⟩

theorem session_opened {settings : Settings} (accepted : settings.check = .ok ()) (call : CallId)
    (entropy : UInt64) : (session settings call entropy).Opened settings call :=
  Session.opened_of_check accepted call entropy {}

def opening (settings : Settings) (scenario : Scenario) (call : CallId) (entropy : UInt64) : State where
  clock := {}
  call := .start (.fresh settings call entropy 0) (.listening [])
  network := .make scenario.loss scenario.sendFailure settings.circuits.toNat scenario.rebuildSuccess
    (scenario.seed.getD entropy)
  tallies := List.replicate settings.circuits.toNat {}

theorem start_eq {settings : Settings} (accepted : settings.check = .ok ()) (scenario : Scenario)
    (call : CallId) (entropy : UInt64) :
    start settings scenario call entropy = .ok (opening settings scenario call entropy) := by
  have built : Scheduler.build settings call entropy 0 = .ok (.fresh settings call entropy 0,
      if 0 < settings.spareRankWeights then
        [.spareWeights settings.spareRankWeights settings.circuits.toNat] else []) :=
    Scheduler.build_eq_ok.2 ⟨accepted, rfl, rfl⟩
  simp only [start, built]
  split
  · rfl
  · rfl

theorem opening_live (settings : Settings) (scenario : Scenario) (call : CallId) (entropy : UInt64) :
    Live (session settings call entropy) (opening settings scenario call entropy)
      (.fresh settings call entropy 0) [] where
  call := rfl
  reached := ⟨[], rfl, rfl⟩
  handed := rfl
  tickets := rfl
  circuits := by simp [opening, Network.make, Scheduler.fresh, Scheduler.size]
  tallies := by simp [opening, Scheduler.fresh, Scheduler.size]

end Simulation

end Multipath
