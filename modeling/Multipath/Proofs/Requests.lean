import Mathlib.Data.List.Nodup
import Multipath.Proofs.Independence
import Multipath.Proofs.Sharing

/-! # Every request is handed over once

A rebuild begins with an event, and its ticket waits for the transport, which may ask for the tickets at
any time: before the rebuild has ended, or long after. No operation but that one touches a ticket that
waits, and a new one goes behind the others (`Queues`). So what was handed out and what still waits are
the requests among the events, in their order.

The requests of one circuit are numbered from one on, modulo the number of epochs (`Numbered`); with
fewer requests than that no ticket is asked for twice.
-/

namespace Multipath

/-- The ticket of the rebuild that begins with an event. -/
def Event.ticket? (call : CallId) : Event → Option Ticket
  | rebuildRequested circuit epoch => some ⟨call, circuit, epoch⟩
  | _ => none

/-- The tickets that the events ask for. -/
def asked (call : CallId) (events : List Event) : List Ticket :=
  events.filterMap (Event.ticket? call)

theorem asked_append (call : CallId) (es es' : List Event) :
    asked call (es ++ es') = asked call es ++ asked call es' :=
  List.filterMap_append

/-- The ticket that goes with a use of the slot. -/
def SlotUse.ticket? (call : CallId) (c : Nat) : SlotUse → Option Ticket
  | take epoch => some ⟨call, c, epoch⟩
  | keep | free => none

theorem Event.ticket?_eq (call : CallId) (e : Event) :
    e.ticket? call = e.slotUse.ticket? call e.circuit := by
  cases e <;> rfl

/-- A turn asks for a ticket when it takes the slot. -/
theorem Scene.Course.asked_eq {scene : Scene} {h : Health} {t : Turn} (course : scene.Course h t)
    (call : CallId) : asked call t.events = (t.slot.ticket? call scene.circuit).toList := by
  induction course with
  | idle same quiet keep =>
      rw [quiet, keep]
      rfl
  | @deed h t e deed told use =>
      rw [told, use]
      cases e with
      | none => rfl
      | some e =>
          have own : e.circuit = scene.circuit := deed.circuit_eq
          rw [slotUse, ← own, ← e.ticket?_eq call]
          cases ticket : e.ticket? call <;> simp [asked, ticket]
  | andThen first keep rest ihfirst ihrest =>
      rw [Turn.events_andThen, asked_append, ihfirst, ihrest, andThen_slot keep, keep]
      rfl

namespace Scheduler

variable {s s' s'' : Scheduler} {now : Instant} {es es' : List Event} {c : Nat}

/-! ## What waits for the transport -/

/-- The tickets that were asked for wait behind those that waited before. -/
structure Queues (s : Scheduler) (es : List Event) (s' : Scheduler) : Prop where
  call : s'.call = s.call
  pending : s'.pending = s.pending ++ asked s.call es

theorem Queues.same (call : s'.call = s.call) (pending : s'.pending = s.pending)
    (quiet : asked s.call es = []) : Queues s es s' :=
  ⟨call, by rw [pending, quiet, List.append_nil]⟩

theorem Queues.refl (s : Scheduler) : Queues s [] s := .same rfl rfl rfl

theorem Queues.trans (first : Queues s es s') (second : Queues s' es' s'') :
    Queues s (es ++ es') s'' := by
  refine ⟨second.call.trans first.call, ?_⟩
  rw [second.pending, first.pending, first.call, asked_append, List.append_assoc]

theorem apply_pending (s : Scheduler) (c : Nat) (t : Turn) :
    (s.apply c t).pending = s.pending ++ (t.slot.ticket? s.call c).toList := by
  unfold apply
  cases t.slot with
  | keep => exact (List.append_nil _).symm
  | take epoch => rfl
  | free =>
      simp only
      split
      · exact (List.append_nil _).symm
      · exact (List.append_nil _).symm

theorem apply_queues {h : Health} {t : Turn} (course : (s.scene now c).Course h t) :
    Queues s t.events (s.apply c t) :=
  ⟨apply_call .., by rw [apply_pending, course.asked_eq s.call]; rfl⟩

theorem takeReports_queues (s : Scheduler) (now : Instant) (reports : List (Nat × PeerReport)) :
    Queues s (Notice.events (s.takeReports now reports).2) (s.takeReports now reports).1 := by
  induction reports generalizing s with
  | nil => exact .refl s
  | cons item rest ih =>
      obtain ⟨c, report⟩ := item
      simp only [takeReports, Notice.events_append]
      refine Queues.trans ?_ (ih _)
      unfold act
      cases s.circuits[c]? with
      | none => exact .refl s
      | some h => exact apply_queues (Scene.feedback_course _ report h)

theorem feedback_queues (s : Scheduler) (now : Instant) (reports : List (Nat × PeerReport)) :
    Queues s (Notice.events (s.feedback now reports).2) (s.feedback now reports).1 := by
  rw [feedback_events]
  exact s.takeReports_queues now reports

theorem pick_queues (s : Scheduler) (now : Instant) :
    Queues s (Notice.events (s.pick now).2.2) (s.pick now).2.1 := by
  have chosen : Queues s (Notice.events (s.choose now).2.2) (s.choose now).2.1 := by
    rcases s.choose_cases now with ⟨c, generator, he⟩ | ⟨h, -, -, he⟩
    · rw [he]
      exact .same rfl rfl rfl
    · rw [he]
      exact .same rfl rfl rfl
  rcases s.pick_cases now with ⟨-, he⟩ | ⟨-, -, -, he⟩ | ⟨-, -, he⟩
  · rw [he]
    exact .same rfl rfl rfl
  · rw [he]
    exact .same rfl rfl rfl
  · rw [he]
    exact ⟨chosen.call, chosen.pending⟩

theorem on_queues {a : Operation} (on : a.On c) :
    Queues s (s.step now a).events (s.step now a).scheduler := by
  cases found : s.circuits[c]? with
  | none =>
      obtain ⟨same, quiet⟩ := step_of_stray on found now
      rw [same, quiet]
      exact .refl s
  | some h =>
      obtain ⟨turn, told⟩ := step_of_found on found now
      rw [turn, told]
      exact apply_queues (on.turn_course _ h)

theorem complete_queues (s : Scheduler) (now : Instant) (ticket : Ticket) (outcome : Outcome) :
    Queues s (Notice.events (s.complete now ticket outcome).notices)
      (s.complete now ticket outcome).scheduler := by
  unfold complete
  split
  · exact .refl s
  · cases outcome with
    | rebuilt => exact on_queues (.rebuilt ticket.epoch)
    | failed =>
        cases s.awaiting ticket.circuit ticket.epoch with
        | error refusal => exact .refl s
        | ok h => exact on_queues .rebuildFailed

theorem step_queues (s : Scheduler) (now : Instant) {operation : Operation}
    (other : operation ≠ .takeRequests) :
    Queues s (s.step now operation).events (s.step now operation).scheduler := by
  cases operation with
  | pick => exact s.pick_queues now
  | sent c => exact on_queues .sent
  | sendFailed c => exact on_queues .sendFailed
  | lateToBuffer c percent => exact on_queues (.lateToBuffer percent)
  | feedback reports => exact s.feedback_queues now reports
  | lateness percents => exact s.feedback_queues now _
  | countWindow c late => exact on_queues (.countWindow late)
  | checkQuarantine c => exact on_queues .checkQuarantine
  | rebuilt c epoch => exact on_queues (.rebuilt epoch)
  | rebuildFailed c => exact on_queues .rebuildFailed
  | complete ticket outcome => exact s.complete_queues now ticket outcome
  | takeRequests => exact (other rfl).elim

end Scheduler

/-! ## Numbers of requests -/

/-- The epochs among the tickets of a circuit. -/
def epochs (c : Nat) (tickets : List Ticket) : List Nat :=
  (tickets.filter (·.circuit = c)).map Ticket.epoch

theorem epochs_append (c : Nat) (first second : List Ticket) :
    epochs c (first ++ second) = epochs c first ++ epochs c second := by
  simp [epochs]

/-- The epochs of `n` requests after this one. -/
def epochsAfter (epoch n : Nat) : List Nat :=
  (List.range' (epoch + 1) n).map (· % UInt32.size)

theorem epochsAfter_append (epoch m n : Nat) :
    epochsAfter epoch m ++ epochsAfter (epoch + m) n = epochsAfter epoch (m + n) := by
  have next : epoch + m + 1 = epoch + 1 + m := by omega
  rw [epochsAfter, epochsAfter, epochsAfter, ← List.map_append, next, List.range'_append_1]

/-- Only the epoch modulo the number of epochs counts. -/
theorem epochsAfter_congr {a b : Nat} (same : a % UInt32.size = b % UInt32.size) (n : Nat) :
    epochsAfter a n = epochsAfter b n := by
  refine List.ext_getElem (by simp [epochsAfter]) fun i _ _ => ?_
  simp only [epochsAfter, List.getElem_map, List.getElem_range', UInt32.size] at same ⊢
  omega

theorem epochsAfter_nodup {n : Nat} (few : n < UInt32.size) : (epochsAfter 0 n).Nodup := by
  refine (List.nodup_range' (s := 0 + 1)).map_on fun i memi j memj same => ?_
  simp only [List.mem_range'_1] at memi memj
  simp only [UInt32.size] at few same
  omega

/-- A ticket that is there twice has its epoch twice among those of its circuit. -/
theorem nodup_of_epochs {tickets : List Ticket} (apart : ∀ c, (epochs c tickets).Nodup) :
    tickets.Nodup := by
  refine List.nodup_iff_sublist.2 fun t twice => ?_
  have own : [t, t].filter (·.circuit = t.circuit) = [t, t] := by simp
  have again : ([t, t].map Ticket.epoch).Sublist (epochs t.circuit tickets) := by
    have kept := (twice.filter (·.circuit = t.circuit)).map Ticket.epoch
    rwa [own] at kept
  exact List.nodup_iff_sublist.1 (apart t.circuit) t.epoch again

namespace Scheduler

variable {s s' s'' : Scheduler} {now : Instant} {es es' : List Event} {c : Nat}

/-- The epoch of a circuit, if it exists. -/
def epochOf (s : Scheduler) (c : Nat) : Nat := (s.hold? c).elim 0 Hold.epoch

theorem epochOf_fresh (settings : Settings) (call : CallId) (entropy : UInt64) (now : Instant)
    (c : Nat) : (fresh settings call entropy now).epochOf c = 0 := by
  unfold epochOf
  cases held : (fresh settings call entropy now).hold? c with
  | none => rfl
  | some a =>
      obtain ⟨h, found, rfl⟩ := hold?_eq_some.1 held
      rw [List.eq_of_mem_replicate (List.mem_of_getElem? found)]
      rfl

/-- The requests of a circuit are numbered from its epoch on. -/
structure Numbered (c : Nat) (call : CallId) (s : Scheduler) (es : List Event) (s' : Scheduler) :
    Prop where
  epoch : s'.epochOf c % UInt32.size = (s.epochOf c + requests c es) % UInt32.size
  epochs : epochs c (asked call es) = epochsAfter (s.epochOf c) (requests c es)

theorem Numbered.refl (c : Nat) (call : CallId) (s : Scheduler) : Numbered c call s [] s :=
  ⟨rfl, rfl⟩

theorem Numbered.trans {call : CallId} (first : Numbered c call s es s')
    (second : Numbered c call s' es' s'') : Numbered c call s (es ++ es') s'' := by
  constructor
  · rw [requests_append, second.epoch, Nat.add_mod, first.epoch, ← Nat.add_mod, Nat.add_assoc]
  · rw [asked_append, epochs_append, requests_append, first.epochs, second.epochs,
      epochsAfter_congr first.epoch, epochsAfter_append]

theorem Stride.numbered {e : Option Event} (h : Stride now s e s') (c : Nat) (call : CallId) :
    Numbered c call s e.toList s' := by
  rcases h.hold_cases with ⟨rfl, holds, -⟩ | ⟨i, a, a', found, shift, holds, -⟩
  · exact ⟨by rw [epochOf, holds]; rfl, rfl⟩
  · by_cases same : c = i
    · subst same
      have before : s.epochOf c = a.epoch := by rw [epochOf, found]; rfl
      have after : s'.epochOf c = a'.epoch := by rw [epochOf, holds, if_pos rfl]; rfl
      refine ⟨?_, ?_⟩
      · rw [before, after]
        exact shift.counted.1
      · rw [before]
        cases shift with
        | begin held free =>
            simp [epochs, asked, Event.ticket?, epochsAfter, requests, Event.asksFor, scene,
              Counter.nextEpoch]
        | _ => rfl
    · have other : requests c e.toList = 0 ∧ epochs c (asked call e.toList) = [] := by
        cases shift <;>
          simp [requests, Event.asksFor, epochs, asked, Event.ticket?, scene, Ne.symm same]
      refine ⟨?_, ?_⟩
      · rw [other.1, epochOf, holds, if_neg same]
        rfl
      · rw [other.1, other.2]
        rfl

end Scheduler

namespace Session

variable {settings : Settings} {call : CallId} {w : Session}

theorem run_numbered (w : Session) (moves : List Move) (c : Nat) (call : CallId) :
    Scheduler.Numbered c call w.scheduler (w.run moves).events (w.run moves).final.scheduler :=
  run_induction (.refl c call) (fun first rest => (first.numbered c call).trans rest) w moves

/-! ## Runs -/

/-- What a move hands out and what waits after it are what waited before and what it asks for. -/
theorem make_queues (w : Session) (move : Move) :
    let t := w.make move
    t.after.scheduler.call = w.scheduler.call ∧
      t.tickets ++ t.after.scheduler.pending =
        w.scheduler.pending ++ asked w.scheduler.call t.events := by
  cases move with
  | advance us => exact ⟨rfl, (List.append_nil _).symm⟩
  | ask operation =>
      have queues (other : operation ≠ .takeRequests) := w.scheduler.step_queues w.now other
      cases operation with
      | takeRequests => exact ⟨rfl, rfl⟩
      | _ => exact ⟨(queues nofun).call, (queues nofun).pending⟩

theorem run_queues (w : Session) (moves : List Move) :
    (w.run moves).tickets ++ (w.run moves).final.scheduler.pending =
      w.scheduler.pending ++ asked w.scheduler.call (w.run moves).events := by
  induction moves generalizing w with
  | nil => exact (List.append_nil _).symm
  | cons move moves ih =>
      obtain ⟨call, first⟩ := w.make_queues move
      have rest := ih (w.make move).after
      have handed : (w.run (move :: moves)).tickets =
          (w.make move).tickets ++ ((w.make move).after.run moves).tickets := List.flatMap_cons
      rw [call] at rest
      rw [handed, run_cons_events, asked_append, ← List.append_assoc, ← first, List.append_assoc,
        List.append_assoc, ← rest]
      rfl

/-- What was handed out and what still waits are the rebuilds that the events ask for, each of them once
and in their order. No two of them are the same, as long as the epochs have not come round. -/
theorem requests_handed_over (opened : w.Opened settings call) (moves : List Move) :
    let r := w.run moves
    r.tickets ++ r.final.scheduler.pending = asked call r.events ∧
      ((∀ c, requests c r.events < UInt32.size) → (asked call r.events).Nodup) := by
  intro r
  obtain ⟨entropy, start⟩ := opened.scheduler_eq
  refine ⟨?_, fun few => nodup_of_epochs fun c => ?_⟩
  · have queues := w.run_queues moves
    rw [start] at queues
    exact queues
  · rw [(w.run_numbered moves c call).epochs, start, Scheduler.epochOf_fresh]
    exact epochsAfter_nodup (few c)

/-- The first rebuild of circuit 0 has failed before the transport asks, and the second one has begun. The
ticket of circuit 1 is never taken. -/
def askedLate : List Move :=
  toRebuild ++ [.ask (.rebuildFailed 0), .advance 2000, badWindow 0, .ask .takeRequests,
    .ask .takeRequests, .ask (.complete ⟨⟨"A"⟩, 0, 2⟩ .rebuilt), badWindow 1, .advance 1000, badWindow 1]

theorem requests_handed_over_brisk :
    let r := brisk.run askedLate
    brisk.Opened .brisk ⟨"A"⟩ ∧
      r.tickets = [⟨⟨"A"⟩, 0, 1⟩, ⟨⟨"A"⟩, 0, 2⟩] ∧
      r.final.scheduler.pending = [⟨⟨"A"⟩, 1, 1⟩] ∧
      r.tickets ++ r.final.scheduler.pending = asked ⟨"A"⟩ r.events ∧
      (asked ⟨"A"⟩ r.events).Nodup := by
  intro r
  obtain ⟨handed, apart⟩ := requests_handed_over brisk_opened askedLate
  have few : r.events.length < UInt32.size := by decide
  exact ⟨brisk_opened, rfl, rfl, handed,
    apart fun c => Nat.lt_of_le_of_lt List.countP_le_length few⟩

end Session

end Multipath
