import Multipath.Proofs.Slot

/-! # Answers to tickets

An answer may come late, twice, out of order, or from another call. It is judged by the record of its
circuit, yet that comes to one comparison with the slot: accepted while that very ticket is in flight,
and otherwise refused without a trace. Epochs only move on with a request, so over a run a ticket
that has left the slot comes back to it only when its circuit has asked for all other epochs before.
-/

namespace Multipath

/-- The event asks for a rebuild of this circuit. -/
def Event.asksFor (c : Nat) : Event → Bool
  | rebuildRequested circuit _ => circuit = c
  | _ => false

/-- How many rebuilds of a circuit were begun. -/
def requests (c : Nat) (events : List Event) : Nat := events.countP (Event.asksFor c)

theorem requests_append (c : Nat) (es es' : List Event) :
    requests c (es ++ es') = requests c es + requests c es' :=
  List.countP_append

/-- A shift moves the epoch on by its requests, and only a request begins a rebuild. -/
theorem Scene.Shift.counted {scene : Scene} {a a' : Hold} {e : Option Event}
    (h : scene.Shift a e a') :
    a'.epoch % UInt32.size = (a.epoch + requests scene.circuit e.toList) % UInt32.size ∧
      (requests scene.circuit e.toList = 0 → a'.rebuilding = true → a.rebuilding = true) := by
  cases h with
  | begin held free =>
      have one : requests scene.circuit
          [.rebuildRequested scene.circuit (Counter.nextEpoch a.epoch)] = 1 := by
        simp [requests, Event.asksFor]
      rw [Option.toList_some, one]
      exact ⟨Nat.mod_mod _ _, nofun⟩
  | silent => exact ⟨rfl, fun _ => id⟩
  | coolDown cause => exact ⟨rfl, fun _ => id⟩
  | rescue => exact ⟨rfl, fun _ => id⟩
  | quarantine unheld free time => exact ⟨rfl, fun _ => id⟩
  | release held => exact ⟨rfl, fun _ => id⟩
  | defer held taken => exact ⟨rfl, fun _ => id⟩
  | complete awaited => exact ⟨rfl, fun _ _ => awaited⟩
  | fail awaited time => exact ⟨rfl, fun _ _ => awaited⟩

namespace Scheduler

variable {s s' s'' : Scheduler} {now : Instant}

/-! ## Epochs along a run -/

/-- What the requests among the events say of the hold of a circuit. -/
def Counted (c : Nat) (s : Scheduler) (es : List Event) (s' : Scheduler) : Prop :=
  ∀ a, s.hold? c = some a → ∃ a', s'.hold? c = some a' ∧
    a'.epoch % UInt32.size = (a.epoch + requests c es) % UInt32.size ∧
    (requests c es = 0 → a'.rebuilding = true → a.rebuilding = true)

theorem Counted.refl (c : Nat) (s : Scheduler) : Counted c s [] s :=
  fun a found => ⟨a, found, rfl, fun _ => id⟩

theorem Counted.trans {c : Nat} {es es' : List Event} (h : Counted c s es s')
    (h' : Counted c s' es' s'') : Counted c s (es ++ es') s'' := by
  intro a found
  obtain ⟨b, foundb, epochb, begunb⟩ := h a found
  obtain ⟨d, foundd, epochd, begund⟩ := h' b foundb
  rw [requests_append]
  refine ⟨d, foundd, ?_, ?_⟩
  · calc d.epoch % UInt32.size
        = (b.epoch % UInt32.size + requests c es') % UInt32.size := by rw [epochd, Nat.mod_add_mod]
      _ = (a.epoch + requests c es + requests c es') % UInt32.size := by rw [epochb, Nat.mod_add_mod]
      _ = (a.epoch + (requests c es + requests c es')) % UInt32.size := by rw [Nat.add_assoc]
  intro none_ rebuilding
  exact begunb (by omega) (begund (by omega) rebuilding)

theorem Stride.counted {e : Option Event} (h : Stride now s e s') (c : Nat) :
    Counted c s e.toList s' := by
  intro a found
  rcases h.hold_cases with ⟨rfl, holds, -⟩ | ⟨c', b, b', found', shift, holds, -⟩
  · exact ⟨a, (holds c).trans found, rfl, fun _ => id⟩
  · by_cases same : c = c'
    · subst c'
      rw [found] at found'
      cases found'
      exact ⟨b', by rw [holds, if_pos rfl], shift.counted⟩
    · have other : requests c e.toList = 0 := by
        cases shift <;> simp [requests, Event.asksFor, scene, Ne.symm same]
      refine ⟨a, by rw [holds, if_neg same, found], by rw [other]; rfl, fun _ => id⟩

/-! ## One answer -/

/-- Why the answer to a ticket is refused. -/
inductive Refuses (s : Scheduler) (t : Ticket) : Refusal → Prop
  | foreign (call : t.call ≠ s.call) : Refuses s t (.foreignCall t.call.text s.call.text)
  | stray (call : t.call = s.call) (outside : s.size ≤ t.circuit) :
      Refuses s t (.noSuchCircuit t.circuit s.size)
  | stale {h : Health} (call : t.call = s.call) (found : s.circuits[t.circuit]? = some h)
      (ended : ¬ (h.rebuilding = true ∧ h.epoch = t.epoch)) :
      Refuses s t (.staleRebuild t.circuit t.epoch h.epoch)

theorem SlotKept.awaiting_iff (kept : SlotKept s) {t : Ticket} :
    s.inFlight = some t ↔ t.call = s.call ∧ ∃ h, s.awaiting t.circuit t.epoch = .ok h := by
  rw [kept.slot]
  constructor
  · rintro ⟨call, a, held, rebuilding, epoch⟩
    obtain ⟨h, found, rfl⟩ := hold?_eq_some.1 held
    exact ⟨call, h, awaiting_eq_ok.2 ⟨found, rebuilding, epoch⟩⟩
  · rintro ⟨call, h, awaited⟩
    obtain ⟨found, rebuilding, epoch⟩ := awaiting_eq_ok.1 awaited
    exact ⟨call, h.hold, hold?_of_found found, rebuilding, epoch⟩

theorem refuses_of_awaiting {t : Ticket} {refusal : Refusal} (call : t.call = s.call)
    (refused : s.awaiting t.circuit t.epoch = .error refusal) : s.Refuses t refusal := by
  have unheld : ∀ h, s.circuits[t.circuit]? = some h →
      ¬ (h.rebuilding = true ∧ h.epoch = t.epoch) := by
    intro h found awaited
    rw [awaiting_eq_ok.2 ⟨found, awaited⟩] at refused
    cases refused
  unfold awaiting lookUp at refused
  cases found : s.circuits[t.circuit]? with
  | none =>
      simp only [found, bind, Except.bind, Except.error.injEq] at refused
      rw [← refused]
      exact .stray call (List.getElem?_eq_none_iff.1 found)
  | some h =>
      simp only [found, bind, Except.bind, Bool.and_eq_true, decide_eq_true_eq, unheld h found,
        if_false, Except.error.injEq] at refused
      rw [← refused]
      exact .stale call found (unheld h found)

end Scheduler

/-- A circuit's turn when its rebuild is answered. -/
def Scene.answered (scene : Scene) (epoch : Nat) (h : Health) : Outcome → Turn
  | .rebuilt => scene.rebuilt epoch h
  | .failed => scene.rebuildFailed h

theorem Scene.answered_slot (scene : Scene) (epoch : Nat) {h : Health}
    (rebuilding : h.rebuilding = true) (outcome : Outcome) :
    (scene.answered epoch h outcome).slot = .free := by
  cases outcome with
  | rebuilt => rfl
  | failed => simp only [answered, rebuildFailed, rebuilding, if_true]

namespace Scheduler

variable {s : Scheduler} {now : Instant}

/-- The answer to the ticket in flight is a turn of its circuit. -/
theorem complete_of_taken (kept : SlotKept s) {t : Ticket} (taken : s.inFlight = some t)
    (now : Instant) (outcome : Outcome) :
    ∃ h, s.circuits[t.circuit]? = some h ∧ h.rebuilding = true ∧ h.epoch = t.epoch ∧
      s.complete now t outcome =
        let turn := (s.scene now t.circuit).answered t.epoch h outcome
        ⟨.ok (), s.apply t.circuit turn, turn.notices⟩ := by
  obtain ⟨call, h, awaited⟩ := kept.awaiting_iff.1 taken
  obtain ⟨found, rebuilding, epoch⟩ := awaiting_eq_ok.1 awaited
  refine ⟨h, found, rebuilding, epoch, ?_⟩
  cases outcome with
  | rebuilt => simp [complete, call, rebuilt, awaited, Scene.answered]
  | failed => simp [complete, call, awaited, rebuildFailed, act_of_found found, Scene.answered]

/-- Any answer to the ticket in flight frees the slot. -/
theorem complete_inFlight (kept : SlotKept s) {t : Ticket} (taken : s.inFlight = some t)
    (now : Instant) (outcome : Outcome) : (s.complete now t outcome).scheduler.inFlight = none := by
  obtain ⟨h, found, rebuilding, -, he⟩ := complete_of_taken kept taken now outcome
  rw [he, apply_inFlight, Scene.answered_slot _ _ rebuilding]
  exact kept.freed (hold?_of_found found) rebuilding

/-- The rebuild under a ticket is over, and no other of its circuit has begun. -/
def Ended (s : Scheduler) (t : Ticket) : Prop :=
  ∃ a, s.hold? t.circuit = some a ∧ a.epoch = t.epoch ∧ a.rebuilding = false

theorem rebuilt_ended (kept : SlotKept s) {t : Ticket} (taken : s.inFlight = some t) :
    (s.rebuilt now t.circuit t.epoch).result = .ok () ∧
      (s.rebuilt now t.circuit t.epoch).scheduler.Ended t := by
  obtain ⟨-, h, awaited⟩ := kept.awaiting_iff.1 taken
  obtain ⟨found, -, epoch⟩ := awaiting_eq_ok.1 awaited
  simp only [rebuilt, awaited, true_and]
  exact ⟨_, by rw [apply_hold? found, if_pos rfl], epoch, rfl⟩

theorem rebuildFailed_ended (kept : SlotKept s) {t : Ticket} (taken : s.inFlight = some t) :
    (s.rebuildFailed now t.circuit).1.Ended t := by
  obtain ⟨-, h, awaited⟩ := kept.awaiting_iff.1 taken
  obtain ⟨found, rebuilding, epoch⟩ := awaiting_eq_ok.1 awaited
  simp only [rebuildFailed, act, found, Scene.rebuildFailed, rebuilding, if_true]
  exact ⟨_, by rw [apply_hold? found, if_pos rfl], epoch, rfl⟩

theorem complete_ended (kept : SlotKept s) {t : Ticket} (taken : s.inFlight = some t)
    (now : Instant) (outcome : Outcome) :
    (s.complete now t outcome).result = .ok () ∧ (s.complete now t outcome).scheduler.Ended t := by
  obtain ⟨call, h, awaited⟩ := kept.awaiting_iff.1 taken
  cases outcome with
  | rebuilt => simpa [complete, call] using rebuilt_ended kept taken
  | failed => simpa [complete, call, awaited] using rebuildFailed_ended kept taken

theorem complete_refused (kept : SlotKept s) {t : Ticket} (other : s.inFlight ≠ some t)
    (now : Instant) (outcome : Outcome) :
    ∃ refusal, s.Refuses t refusal ∧ (s.complete now t outcome).result = .error refusal ∧
      (s.complete now t outcome).scheduler = s ∧
      Notice.events (s.complete now t outcome).notices = [] := by
  -- Both outcomes ask `awaiting`, each in its own way, so the refusal is found before the outcome.
  by_cases call : t.call = s.call
  · cases awaited : s.awaiting t.circuit t.epoch with
    | ok h => exact (other (kept.awaiting_iff.2 ⟨call, h, awaited⟩)).elim
    | error refusal =>
        refine ⟨refusal, refuses_of_awaiting call awaited, ?_⟩
        cases outcome with
        | rebuilt =>
            simp only [complete, call, rebuilt, awaited]
            cases refusal <;> simp [Notice.events, Notice.event?]
        | failed => simp [complete, call, awaited]
  · exact ⟨_, .foreign call, by simp [complete, call]⟩

/-- The answer to a ticket is accepted while that ticket is in flight. Otherwise it is refused, and
nothing else happens. -/
structure Answers (s : Scheduler) (now : Instant) (t : Ticket) (outcome : Outcome) : Prop where
  ok_iff : (s.complete now t outcome).result = .ok () ↔ s.inFlight = some t
  refused : ∀ refusal, (s.complete now t outcome).result = .error refusal →
    s.Refuses t refusal ∧ (s.complete now t outcome).scheduler = s ∧
      Notice.events (s.complete now t outcome).notices = []

theorem SlotKept.answers (kept : SlotKept s) (now : Instant) (t : Ticket) (outcome : Outcome) :
    s.Answers now t outcome := by
  by_cases taken : s.inFlight = some t
  · obtain ⟨ok, -⟩ := complete_ended kept taken now outcome
    refine ⟨iff_of_true ok taken, fun refusal refused => ?_⟩
    rw [ok] at refused
    cases refused
  · obtain ⟨refusal, why, refused, same, quiet⟩ := complete_refused kept taken now outcome
    refine ⟨iff_of_false (by simp [refused]) taken, fun refusal' refused' => ?_⟩
    rw [refused] at refused'
    cases refused'
    exact ⟨why, same, quiet⟩

end Scheduler

/-! ## Answers along a run -/

namespace Transition

/-- The answer to this ticket was accepted. -/
def Accepts (a : Transition) (t : Ticket) : Prop :=
  (∃ outcome, a.move = .ask (.complete t outcome)) ∧ a.answer = .result (.ok ())

/-- The rebuild under this ticket came to its end: by its ticket, or without it. -/
inductive Ends (a : Transition) (t : Ticket) : Prop
  | accepted (accepts : a.Accepts t)
  | rebuilt (taken : a.before.scheduler.inFlight = some t)
      (move : a.move = .ask (.rebuilt t.circuit t.epoch))
  | failed (taken : a.before.scheduler.inFlight = some t)
      (move : a.move = .ask (.rebuildFailed t.circuit))

end Transition

namespace Session

variable {settings : Settings} {call : CallId} {w : Session} {t : Ticket}

theorem run_counted (w : Session) (moves : List Move) (c : Nat) :
    Scheduler.Counted c w.scheduler (w.run moves).events (w.run moves).final.scheduler :=
  run_induction (.refl c) (fun first rest => (first.counted c).trans rest) w moves

/-- An accepted ticket was in flight. -/
theorem taken_of_accepts (kept : w.scheduler.SlotKept) {move : Move}
    (accepts : (w.make move).Accepts t) : w.scheduler.inFlight = some t := by
  obtain ⟨⟨outcome, asked⟩, ok⟩ := accepts
  rw [make_move] at asked
  subst asked
  have accepted : (w.scheduler.complete w.now t outcome).result = .ok () := by
    simpa [make, Scheduler.step, Scheduler.step.answered] using ok
  exact (kept.answers w.now t outcome).ok_iff.1 accepted

theorem ended_of_ends (kept : w.scheduler.SlotKept) {move : Move}
    (ends : (w.make move).Ends t) : (w.make move).after.scheduler.Ended t := by
  cases ends with
  | accepted accepts =>
      have taken := taken_of_accepts kept accepts
      obtain ⟨⟨outcome, asked⟩, -⟩ := accepts
      rw [make_move] at asked
      subst asked
      exact (Scheduler.complete_ended kept taken w.now outcome).2
  | rebuilt taken asked =>
      rw [make_move] at asked
      subst asked
      exact (Scheduler.rebuilt_ended kept taken).2
  | failed taken asked =>
      rw [make_move] at asked
      subst asked
      exact Scheduler.rebuildFailed_ended kept taken

theorem requests_take_le (w : Session) (moves : List Move) (k c : Nat) :
    requests c (w.run (moves.take k)).events ≤ requests c (w.run moves).events := by
  have split : (w.run moves).events =
      (w.run (moves.take k)).events ++ ((w.run (moves.take k)).final.run (moves.drop k)).events := by
    rw [← run_append_events, List.take_append_drop]
  rw [split, requests_append]
  exact Nat.le_add_right _ _

/-- To be in flight again the ticket would need its epoch again, and the epochs have not come round. -/
theorem not_accepts_of_ended (kept : w.scheduler.SlotKept) (ended : w.scheduler.Ended t)
    (moves : List Move) (few : requests t.circuit (w.run moves).events < UInt32.size) :
    ∀ b ∈ (w.run moves).transitions, ¬ b.Accepts t := by
  intro b mem accepts
  obtain ⟨k, place⟩ := List.mem_iff_getElem?.1 mem
  obtain ⟨move, -, rfl⟩ := run_transition_at place
  have kept' := run_slotKept kept (moves.take k)
  have taken := taken_of_accepts kept' accepts
  obtain ⟨-, b, foundb, rebuilding, epochb⟩ := (kept'.slot t).1 taken
  obtain ⟨a, found, epoch, idle⟩ := ended
  obtain ⟨a', found', moved, begun⟩ := w.run_counted (moves.take k) t.circuit a found
  rw [foundb] at found'
  cases found'
  have early := w.requests_take_le moves k t.circuit
  -- The epoch is the same again, and with so few requests that means that there was none.
  have none_ : requests t.circuit (w.run (moves.take k)).events = 0 := by
    rw [epoch, epochb] at moved
    simp only [UInt32.size] at moved few
    omega
  rw [begun none_ rebuilding] at idle
  cases idle

theorem run_ends_once (kept : w.scheduler.SlotKept) (moves : List Move)
    (few : requests t.circuit (w.run moves).events < UInt32.size) :
    (w.run moves).transitions.Pairwise fun a b => a.Ends t → ¬ b.Accepts t := by
  induction moves generalizing w with
  | nil => exact .nil
  | cons move moves ih =>
      rw [run_cons_events, requests_append] at few
      have kept' : (w.make move).after.scheduler.SlotKept := run_slotKept kept [move]
      refine .cons ?_ (ih kept' (by omega))
      intro b mem ends
      exact not_accepts_of_ended kept' (ended_of_ends kept ends) moves (by omega) b mem

/-- After any run an answer is accepted exactly while its ticket is in flight; along the run, once the
rebuild under a ticket has ended, no answer to the ticket is accepted any more. -/
theorem answered_once (opened : w.Opened settings call) (moves : List Move) :
    (∀ t outcome,
      (w.run moves).final.scheduler.Answers (w.run moves).final.now t outcome) ∧
    ∀ t : Ticket, requests t.circuit (w.run moves).events < UInt32.size →
      (w.run moves).transitions.Pairwise fun a b => a.Ends t → ¬ b.Accepts t :=
  ⟨(opened.slotKept moves).answers _, fun _ => run_ends_once (opened.slotKept []) moves⟩

/-- The rebuild of circuit 0 is answered twice, is begun again, and gets the first answer once more. -/
def answeredAgain : List Move :=
  let late : Move := .ask (.complete ⟨⟨"A"⟩, 0, 1⟩ .failed)
  toRebuild ++ [late, late, .advance 2000, badWindow 0, late]

theorem answered_once_brisk :
    brisk.Opened .brisk ⟨"A"⟩ ∧
      requests 0 (brisk.run answeredAgain).events = 2 ∧
      (brisk.run answeredAgain).final.scheduler.Answers (brisk.run answeredAgain).final.now
        ⟨⟨"A"⟩, 0, 2⟩ .rebuilt ∧
      (brisk.run answeredAgain).transitions.Pairwise fun a b =>
        a.Ends ⟨⟨"A"⟩, 0, 1⟩ → ¬ b.Accepts ⟨⟨"A"⟩, 0, 1⟩ :=
  ⟨brisk_opened, rfl, (answered_once brisk_opened answeredAgain).1 _ _,
    (answered_once brisk_opened answeredAgain).2 _ (by decide)⟩

end Session

end Multipath
