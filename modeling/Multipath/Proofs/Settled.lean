import Mathlib.Algebra.Ring.Nat
import Multipath.Proofs.Simulated
import Multipath.Simulation.Summary

/-! # Every rebuild of a simulated call is settled

While the call goes on the worker's counts are those of the events, and the network has built as many
paths anew as rebuilds succeeded: `Books.Settled` is kept by every entry. When the call ends, the
rebuild in flight, if there is one, is carried out for nobody: its answer is discarded, and a path may
have been built anew that no event tells of.
-/

namespace Multipath.Simulation

/-! ## Books while the call goes on -/

section Modify

variable {α : Type} {l : List α} {f : α → α} {g : α → Nat} {i : Nat}

theorem map_modify_same (same : ∀ x, g (f x) = g x) : (l.modify i f).map g = l.map g := by
  refine List.ext_getElem? fun j => ?_
  rw [List.getElem?_map, List.getElem?_map, List.getElem?_modify]
  cases l[j]? with
  | none => rfl
  | some x =>
      by_cases here : i = j
      · simp [here, same]
      · simp [here]

theorem sum_map_modify (inside : i < l.length) (more : ∀ x, g (f x) = g x + 1) :
    ((l.modify i f).map g).sum = (l.map g).sum + 1 := by
  induction l generalizing i with
  | nil => exact absurd inside (Nat.not_lt_zero i)
  | cons x rest ih =>
      cases i with
      | zero =>
          simp only [List.modify_zero_cons, List.map_cons, List.sum_cons, more]
          omega
      | succ i =>
          have later := ih (Nat.lt_of_succ_lt_succ inside)
          simp only [List.modify_succ_cons, List.map_cons, List.sum_cons, later]
          omega

end Modify

/-- How often paths were built anew. -/
def renewals (circuits : List VirtualCircuit) : Nat :=
  (circuits.map VirtualCircuit.reconnects).sum

theorem VirtualCircuit.meet_reconnects (c : VirtualCircuit) (fate : Fate) :
    (c.meet fate).reconnects = c.reconnects := by
  cases fate <;> rfl

theorem renewals_meet (circuits : List VirtualCircuit) (c : Nat) (fate : Fate) :
    renewals (circuits.modify c (·.meet fate)) = renewals circuits :=
  congrArg List.sum (map_modify_same fun v => v.meet_reconnects fate)

theorem renewals_closeWindow (circuits : List VirtualCircuit) :
    renewals (circuits.map VirtualCircuit.closeWindow) = renewals circuits := by
  rw [renewals, List.map_map]
  rfl

theorem renewals_reconnect {circuits : List VirtualCircuit} {c : Nat} (inside : c < circuits.length)
    (loss : Float) : renewals (circuits.modify c (·.reconnect loss)) = renewals circuits + 1 :=
  sum_map_modify inside fun _ => rfl

structure Books.Settled (b : Books) : Prop where
  rebuilt : b.rebuilt = outcomes .rebuilt b.events
  failed : b.failed = outcomes .failed b.events
  discarded : b.discarded = 0
  renewals : renewals b.circuits = b.rebuilt

/-- Events that end no rebuild change nothing. -/
theorem Books.Settled.tell {b : Books} (settled : b.Settled) {told : List Event}
    (unresolved : ∀ e ∈ told, e.outcome? = none) :
    Books.Settled { b with events := b.events ++ told } := by
  obtain ⟨rebuilt, failed, discarded, renewals⟩ := settled
  refine ⟨?_, ?_, discarded, renewals⟩
  · rw [outcomes_append, outcomes_of_unresolved unresolved]
    exact rebuilt
  · rw [outcomes_append, outcomes_of_unresolved unresolved]
    exact failed

theorem outcomes_told (outcome : Outcome) (events : List Event) {e : Event} {outcome' : Outcome}
    (resolved : e.outcome? = some outcome') :
    outcomes outcome (events ++ [e]) =
      outcomes outcome events + if outcome' = outcome then 1 else 0 := by
  rw [outcomes_append]
  simp [outcomes, List.countP_cons, resolved]

theorem Entry.settled {b b' : Books} {n : Nat} (entry : Entry b n b') (settled : b.Settled) :
    b'.Settled := by
  cases entry with
  | idle => exact settled
  | frame inside unresolved =>
      have told := settled.tell unresolved
      exact { told with renewals := (renewals_meet ..).trans told.renewals }
  | report heard unresolved =>
      have told := settled.tell unresolved
      exact { told with renewals := (renewals_closeWindow _).trans told.renewals }
  | rebuilt loss inside resolved =>
      obtain ⟨rebuilt, failed, discarded, renewed⟩ := settled
      refine ⟨?_, ?_, discarded, ?_⟩
      · simp [outcomes_told _ _ resolved, rebuilt]
      · simp [outcomes_told _ _ resolved, failed]
      · simp only [renewals_reconnect inside, renewed]
  | failed resolved =>
      obtain ⟨rebuilt, failed, discarded, renewed⟩ := settled
      refine ⟨?_, ?_, discarded, renewed⟩
      · simp [outcomes_told _ _ resolved, rebuilt]
      · simp [outcomes_told _ _ resolved, failed]

theorem opening_settled (settings : Settings) (scenario : Scenario) (call : CallId)
    (entropy : UInt64) (s : Scheduler) :
    ((opening settings scenario call entropy).books s).Settled where
  rebuilt := rfl
  failed := rfl
  discarded := rfl
  renewals := by
    have zero : ∀ n ∈ (opening settings scenario call entropy).network.circuits.map
        VirtualCircuit.reconnects, n = 0 := by
      simp [opening, Network.make]
    change ((opening settings scenario call entropy).network.circuits.map
      VirtualCircuit.reconnects).sum = 0
    rw [List.eq_replicate_of_mem zero, List.sum_replicate_nat, Nat.mul_zero]

/-! ## After the end -/

/-- From `st` to `st'` the call was over, and this many tickets were worked off. -/
structure Late (st : State) (tickets : Nat) (st' : State) : Prop where
  ended : st'.call.scheduler = none
  rebuilt : st'.worker.rebuilt = st.worker.rebuilt
  failed : st'.worker.failed = st.worker.failed
  discarded : st'.worker.discarded = st.worker.discarded + tickets
  events : st'.events = st.events
  tallies : st'.tallies = st.tallies
  circuits : st'.network.circuits.length = st.network.circuits.length
  renewals : renewals st.network.circuits ≤ renewals st'.network.circuits ∧
    renewals st'.network.circuits ≤ renewals st.network.circuits + tickets

namespace Late

variable {st st' st'' : State} {m n : Nat}

theorem trans (first : Late st m st') (second : Late st' n st'') : Late st (m + n) st'' where
  ended := second.ended
  rebuilt := second.rebuilt.trans first.rebuilt
  failed := second.failed.trans first.failed
  discarded := by rw [second.discarded, first.discarded, Nat.add_assoc]
  events := second.events.trans first.events
  tallies := second.tallies.trans first.tallies
  circuits := second.circuits.trans first.circuits
  renewals := by
    have least := first.renewals
    have more := second.renewals
    omega

/-- Another transport, and a worker that is done. -/
theorem still {call : SharedCall} (ended : call.scheduler = none) : Late st 0 { st with call } :=
  ⟨ended, rfl, rfl, rfl, rfl, rfl, rfl, Nat.le_refl _, Nat.le_refl _⟩

/-- The circuit of a ticket that came too late may be built anew, but nobody is told. -/
theorem finishRebuild (ended : st.call.scheduler = none) (ticket : Ticket) :
    Late st 1 (st.finishRebuild ticket) ∧ (st.finishRebuild ticket).call = st.call := by
  have network := st.network.reconnect_circuits ticket.circuit
  rcases drawn : st.network.reconnect ticket.circuit with ⟨succeeded, network'⟩
  simp only [drawn] at network
  have finished : st.finishRebuild ticket =
      { st with
        network := network'
        worker := { st.worker with busy := none, discarded := st.worker.discarded + 1 } } := by
    simp only [State.finishRebuild, drawn, SharedCall.complete, ended]
    simp [State.record, Notice.events, Notice.event?]
  rw [finished]
  refine ⟨⟨ended, rfl, rfl, rfl, rfl, rfl, ?_, ?_⟩, rfl⟩
  · rcases network with ⟨-, same⟩ | ⟨loss, -, -, renewed⟩
    · exact congrArg List.length same
    · simp only [renewed, List.length_modify]
  · rcases network with ⟨-, same⟩ | ⟨loss, -, inside, renewed⟩
    · simp [same]
    · simp [renewed, renewals_reconnect inside]

theorem finishAll (ended : st.call.scheduler = none) (tickets : List Ticket) :
    Late st tickets.length (tickets.foldl State.finishRebuild st) := by
  induction tickets generalizing st with
  | nil => exact still ended
  | cons ticket rest ih =>
      have first := (finishRebuild ended ticket).1
      rw [List.length_cons, Nat.add_comm]
      exact first.trans (ih first.ended)

end Late

/-- The worker ends the rebuild that it is at. -/
def State.letGo (s : State) : State :=
  match s.worker.busy with
  | some (ticket, _) => s.finishRebuild ticket
  | none => s

theorem State.windUp_eq (s : State) :
    s.windUp =
      let s := State.letGo { s with call := s.call.endCall }
      let (waiting, transport) := s.call.transport.receive
      waiting.foldl finishRebuild { s with call := { s.call with transport } } :=
  rfl

theorem Late.letGo {st : State} (ended : st.call.scheduler = none) :
    Late st (st.worker.busy.map Prod.fst).toList.length st.letGo ∧ st.letGo.call = st.call := by
  unfold State.letGo
  cases st.worker.busy with
  | none => exact ⟨.still ended, rfl⟩
  | some busy => exact Late.finishRebuild ended busy.1

/-- What is in flight when the call ends is worked off for nobody. -/
theorem Live.windUp {w : Session} {st : State} {s : Scheduler} {waiting : List Ticket}
    (live : Live w st s waiting) : Late st s.load st.windUp := by
  have transport : st.call.endCall.transport = .listening waiting :=
    congrArg SharedCall.transport live.call
  have hungUp : Late st 0 { st with call := st.call.endCall } := .still rfl
  obtain ⟨late, same⟩ := Late.letGo hungUp.ended
  have load : s.load = (st.worker.busy.map Prod.fst).toList.length + waiting.length := by
    rw [Scheduler.load, ← live.tickets, List.length_append]
  rw [State.windUp_eq, load]
  generalize State.letGo { st with call := st.call.endCall } = st' at late same ⊢
  simp only [same, transport, Transport.receive]
  have idle : Late st' 0
      { st' with call := { st.call.endCall with transport := .listening [] } } := .still rfl
  have worked := ((hungUp.trans late).trans idle).trans (.finishAll idle.ended waiting)
  rw [Nat.zero_add, Nat.add_zero] at worked
  exact worked

/-! ## The report -/

theorem zip_parts {α β γ : Type} {a : List α} {b : List β} {c : List γ}
    (second : b.length = a.length) (third : c.length = a.length) :
    let all := a.zip (b.zip c)
    all.map (·.1) = a ∧ all.map (·.2.1) = b ∧ all.map (·.2.2) = c := by
  intro all
  have pairs : (b.zip c).length = a.length := by rw [List.length_zip, second, third, Nat.min_self]
  have inner : all.map Prod.snd = b.zip c := List.map_snd_zip (Nat.le_of_eq pairs)
  refine ⟨List.map_fst_zip (Nat.le_of_eq pairs.symm), ?_, ?_⟩
  · calc all.map (·.2.1)
        = (all.map Prod.snd).map Prod.fst := List.map_map.symm
      _ = b := by rw [inner, List.map_fst_zip (Nat.le_of_eq (second.trans third.symm))]
  · calc all.map (·.2.2)
        = (all.map Prod.snd).map Prod.snd := List.map_map.symm
      _ = c := by rw [inner, List.map_snd_zip (Nat.le_of_eq (third.trans second.symm))]

/-- What the report says of the state in which the call ended. -/
structure Report.Closes (report : Report) (st : State) (s : Scheduler) : Prop where
  finalPhase : report.finalPhase = s.phase st.clock.reading
  views : report.circuits.map CircuitSummary.view = s.views st.clock.reading
  tallies : report.circuits.map CircuitSummary.tally = st.tallies
  reconnects : renewals st.network.circuits ≤ (report.circuits.map CircuitSummary.reconnects).sum ∧
    (report.circuits.map CircuitSummary.reconnects).sum ≤ renewals st.network.circuits + s.load
  events : report.events = st.events.toList
  rebuilt : report.rebuilt = st.worker.rebuilt
  failed : report.failed = st.worker.failed
  discarded : report.discarded = st.worker.discarded + s.load

theorem run_closes {settings : Settings} (accepted : settings.check = .ok ()) (scenario : Scenario)
    (call : CallId) (entropy : UInt64) {w : Session} {s : Scheduler} {waiting : List Ticket}
    (live : Live w ((opening settings scenario call entropy).frames scenario 1 scenario.frames)
      s waiting) :
    ∃ report, run settings scenario call entropy = .ok report ∧
      report.frames = scenario.frames ∧
      report.Closes ((opening settings scenario call entropy).frames scenario 1 scenario.frames) s := by
  have started := start_eq accepted scenario call entropy
  simp only [run, started, bind, Except.bind]
  generalize (opening settings scenario call entropy).frames scenario 1 scenario.frames = last
    at live ⊢
  have late := live.windUp
  have going : last.call.scheduler = some s := congrArg SharedCall.scheduler live.call
  generalize last.windUp = rest at late ⊢
  simp only [going]
  have tallies : rest.tallies.length = s.size := late.tallies ▸ live.tallies
  have circuits : rest.network.circuits.length = s.size := late.circuits.trans live.circuits
  have views : (s.views last.clock.reading).length = s.size := by
    simp [Scheduler.views, Scheduler.size]
  obtain ⟨first, second, third⟩ := zip_parts (tallies.trans views.symm) (circuits.trans views.symm)
  refine ⟨_, rfl, rfl, rfl, ?_, ?_, ?_, congrArg Array.toList late.events, late.rebuilt, late.failed,
    late.discarded⟩
  · rw [List.map_map]
    exact first
  · rw [List.map_map]
    exact second.trans late.tallies
  · have summed : ∀ all : List (CircuitView × Tally × VirtualCircuit),
        renewals (all.map (·.2.2)) = (all.map fun item => item.2.2.reconnects).sum :=
      fun _ => congrArg List.sum List.map_map
    have bounds := late.renewals
    rw [← third, summed] at bounds
    rw [List.map_map]
    exact bounds

theorem views_circuit (s : Scheduler) (now : Instant) :
    (s.views now).map CircuitView.circuit = List.range s.size := by
  rw [Scheduler.views, List.map_map]
  exact (List.zipIdx_map_snd 0 s.circuits).trans List.range_eq_range'.symm

theorem views_health (s : Scheduler) (now : Instant) :
    (s.views now).map CircuitView.health = s.circuits := by
  rw [Scheduler.views, List.map_map]
  exact List.zipIdx_map_fst 0 s.circuits

/-- The report is on all circuits, in order. -/
theorem Report.Closes.circuits {report : Report} {st : State} {s : Scheduler}
    (closes : report.Closes st s) :
    report.circuits.map (·.view.circuit) = List.range s.size := by
  have circuits : report.circuits.map (·.view.circuit) =
      (report.circuits.map CircuitSummary.view).map CircuitView.circuit := List.map_map.symm
  rw [circuits, closes.views, views_circuit]

/-- A second of a call whose first circuit loses most of its frames. A rebuild takes nearly as long. -/
def lossy : Scenario where
  seconds := 1
  loss := [0.9]
  feedbackInterval := 20
  rebuildSuccess := 0.5
  rebuildLatency := 900

end Multipath.Simulation
