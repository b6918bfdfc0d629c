import Multipath.Proofs.Begins
import Multipath.Proofs.Completion

/-! # Calls that are shared

A shared call hands its rebuilds over by itself. `shared_as_plain` says what that comes to: it does what
the plain scheduler does when it is asked for its tickets after every operation and, where nobody takes
them, is told of each that it failed.

No ticket is left behind, since an operation that does not hand over has begun nothing. One that does
has begun one rebuild at most, and that one holds the slot; so the failure that follows finds its ticket
in flight, and is accepted.
-/

namespace Multipath

/-! ## Shared sessions -/

/-- A shared call beside the clock. -/
structure SharedSession where
  clock : Clock
  shared : SharedCall

structure SharedRun where
  final : SharedSession
  events : List Event

namespace SharedSession

def make (u : SharedSession) : Move → SharedRun
  | .advance us => ⟨{ u with clock := u.clock.advance us }, []⟩
  | .ask operation =>
      match u.shared.step u.clock.reading operation with
      | none => ⟨u, []⟩
      | some (_, shared, notices) => ⟨{ u with shared }, Notice.events notices⟩

def run (u : SharedSession) : List Move → SharedRun
  | [] => ⟨u, []⟩
  | move :: moves =>
      let first := u.make move
      let rest := first.final.run moves
      ⟨rest.final, first.events ++ rest.events⟩

end SharedSession

/-- The tickets that were handed out. -/
def Transition.tickets (a : Transition) : List Ticket :=
  match a.answer with
  | .tickets tickets => tickets
  | _ => []

def Run.tickets (r : Run) : List Ticket := r.transitions.flatMap Transition.tickets

/-- The operation, and then a request for the tickets. -/
def Move.taking : Move → List Move
  | .advance us => [.advance us]
  | .ask operation => [.ask operation, .ask .takeRequests]

/-- Every ticket is answered: it failed. -/
def failures (tickets : List Ticket) : List Move :=
  tickets.map fun t => .ask (.complete t .failed)

namespace Transport

def listens : Transport → Bool
  | listening _ => true
  | absent | gone => false

def deliver : Transport → List Ticket → Transport
  | listening waiting, tickets => listening (waiting ++ tickets)
  | transport, _ => transport

theorem deliver_nil (transport : Transport) : transport.deliver [] = transport := by
  cases transport with
  | listening waiting => exact congrArg listening (List.append_nil waiting)
  | absent => rfl
  | gone => rfl

theorem deliver_deaf {transport : Transport} (deaf : transport.listens = false)
    (tickets : List Ticket) : transport.deliver tickets = transport := by
  cases transport with
  | listening waiting => cases deaf
  | absent => rfl
  | gone => rfl

theorem deliver_append (transport : Transport) (first second : List Ticket) :
    (transport.deliver first).deliver second = transport.deliver (first ++ second) := by
  cases transport with
  | listening waiting => exact congrArg listening (List.append_assoc waiting first second)
  | absent => rfl
  | gone => rfl

theorem deliver_listens (transport : Transport) (tickets : List Ticket) :
    (transport.deliver tickets).listens = transport.listens := by
  cases transport <;> rfl

/-- What the plain scheduler is asked where the shared one is asked `move`. -/
def follow (transport : Transport) (w : Session) (move : Move) : List Move :=
  if transport.listens then move.taking
  else move.taking ++ failures (w.run move.taking).tickets

end Transport

namespace Session

def share (w : Session) (transport : Transport) : SharedSession :=
  ⟨w.clock, .start w.scheduler transport⟩

/-- What the plain scheduler is asked where the shared one is asked `moves`. -/
def expand (follow : Session → Move → List Move) (w : Session) : List Move → List Move
  | [] => []
  | move :: moves =>
      let asked := follow w move
      asked ++ (w.run asked).final.expand follow moves

variable {w : Session} {transport : Transport}

/-! ## One move -/

theorem run_append_tickets (w : Session) (first second : List Move) :
    (w.run (first ++ second)).tickets =
      (w.run first).tickets ++ ((w.run first).final.run second).tickets := by
  rw [run_append]
  exact List.flatMap_append

/-- Only a request for tickets hands any out. -/
theorem make_tickets (handed : w.scheduler.pending = []) (operation : Operation) :
    (w.make (.ask operation)).tickets = [] := by
  cases operation with
  | takeRequests => exact handed
  | _ => rfl

/-- An operation and the request behind it, together. -/
theorem run_taking (handed : w.scheduler.pending = []) (operation : Operation) :
    let step := w.scheduler.step w.now operation
    let asked := w.run (Move.ask operation).taking
    asked.final = { w with scheduler := { step.scheduler with pending := [] } } ∧
      asked.events = Notice.events step.notices ∧ asked.tickets = step.scheduler.pending := by
  refine ⟨rfl, List.append_nil _, ?_⟩
  have taken : (w.run (Move.ask operation).taking).tickets =
      (w.make (.ask operation)).tickets ++
        ((w.scheduler.step w.now operation).scheduler.pending ++ []) := rfl
  rw [taken, make_tickets handed, List.nil_append, List.append_nil]

theorem offerAll_listening (s : Scheduler) (waiting : List Ticket) (now : Instant)
    (tickets : List Ticket) :
    SharedCall.offerAll s (.listening waiting) now tickets =
      (s, .listening (waiting ++ tickets), []) := by
  induction tickets generalizing waiting with
  | nil => simp [SharedCall.offerAll]
  | cons t rest ih => simp [SharedCall.offerAll, SharedCall.offer, ih]

theorem refuse_eq (w : Session) (transport : Transport) (t : Ticket) {remark : Notice}
    (mute : remark.event? = none) :
    let answer := w.make (.ask (.complete t .failed))
    ∃ notices, SharedCall.offer.refuse w.scheduler transport w.now t remark =
        (answer.after.scheduler, transport, notices) ∧
      Notice.events notices = answer.events := by
  refine ⟨_, rfl, ?_⟩
  change _ = Notice.events (w.scheduler.complete w.now t .failed).notices
  obtain ⟨result, after, notices⟩ := w.scheduler.complete w.now t .failed
  cases result with
  | ok => simp [Notice.events, mute]
  | error refusal =>
      have discarded : (Notice.failureDiscarded t.circuit refusal).event? = none := rfl
      simp [Notice.events, mute, discarded]

/-- Where nobody listens, the offers of tickets are the answers that they failed. -/
theorem offerAll_refused (deaf : transport.listens = false) (w : Session) (tickets : List Ticket) :
    ∃ notices, SharedCall.offerAll w.scheduler transport w.now tickets =
        ((w.run (failures tickets)).final.scheduler, transport, notices) ∧
      Notice.events notices = (w.run (failures tickets)).events ∧
      (w.run (failures tickets)).final.clock = w.clock := by
  induction tickets generalizing w with
  | nil => exact ⟨[], rfl, rfl, rfl⟩
  | cons t rest ih =>
      have offered : ∃ notices, SharedCall.offer w.scheduler transport w.now t =
          ((w.make (.ask (.complete t .failed))).after.scheduler, transport, notices) ∧
          Notice.events notices = (w.make (.ask (.complete t .failed))).events := by
        cases transport with
        | listening waiting => cases deaf
        | absent => exact w.refuse_eq .absent t rfl
        | gone => exact w.refuse_eq .gone t rfl
      obtain ⟨first, he, told⟩ := offered
      obtain ⟨others, he', told', clock⟩ := ih (w.make (.ask (.complete t .failed))).after
      refine ⟨first ++ others, ?_, ?_, clock⟩
      · simp only [SharedCall.offerAll, he]
        rw [show w.now = (w.make (.ask (.complete t .failed))).after.now from rfl, he']
        rfl
      · rw [Notice.events_append, told, told']
        exact (run_cons_events ..).symm

theorem run_call (w : Session) (moves : List Move) :
    (w.run moves).final.scheduler.call = w.scheduler.call :=
  run_invariant (fun stride same => stride.call_eq.trans same) rfl moves

/-- Every operation is followed by a handover, though there may be nothing to hand over. -/
theorem make_share_ask (handed : w.scheduler.pending = []) (transport : Transport)
    (operation : Operation) :
    let taken := w.run (Move.ask operation).taking
    let offer := SharedCall.offerAll taken.final.scheduler transport taken.final.now taken.tickets
    (w.share transport).make (.ask operation) =
      ⟨⟨taken.final.clock, taken.final.scheduler.call, some offer.1, offer.2.1⟩,
        taken.events ++ Notice.events offer.2.2⟩ := by
  intro taken offer
  obtain ⟨final, events, tickets⟩ := run_taking handed operation
  have call : taken.final.scheduler.call = w.scheduler.call := w.run_call _
  rw [call]
  cases hands : operation.handsOver with
  | true =>
      simp [share, SharedSession.make, SharedCall.step, SharedCall.start, hands,
        SharedCall.handOver, offer, taken, final, events, tickets, now]
  | false =>
      have none_ : (w.scheduler.step w.now operation).scheduler.pending = [] :=
        (Scheduler.step_rests hands).pending handed
      have same : taken.final.scheduler = (w.scheduler.step w.now operation).scheduler := by
        simp only [taken, final]
        rw [← none_]
      have idle : offer = (taken.final.scheduler, transport, []) := by
        simp only [offer, taken, tickets, none_, SharedCall.offerAll]
      rw [idle, same]
      simp [share, SharedSession.make, SharedCall.step, SharedCall.start, hands, taken, final,
        events, now]

/-- A shared move is the plain move with what follows it. -/
theorem make_share (handed : w.scheduler.pending = []) (transport : Transport) (move : Move) :
    (w.share transport).make move =
      ⟨(w.run (transport.follow w move)).final.share
          (transport.deliver (w.run (transport.follow w move)).tickets),
        (w.run (transport.follow w move)).events⟩ := by
  cases move with
  | advance us =>
      have asked : w.run (transport.follow w (.advance us)) = w.run [.advance us] := by
        cases transport <;> rfl
      have none_ : (w.run [.advance us]).tickets = [] := rfl
      rw [asked, none_, Transport.deliver_nil]
      rfl
  | ask operation =>
      rw [make_share_ask handed]
      cases hears : transport.listens with
      | true =>
          cases transport with
          | listening waiting =>
              rw [offerAll_listening]
              exact congrArg (SharedRun.mk _) (List.append_nil _)
          | absent => cases hears
          | gone => cases hears
      | false =>
          have asked : transport.follow w (.ask operation) = (Move.ask operation).taking ++
              failures (w.run (Move.ask operation).taking).tickets := by
            simp only [Transport.follow, hears, Bool.false_eq_true, if_false]
          rw [asked, run_append_final, run_append_events, Transport.deliver_deaf hears]
          generalize w.run (Move.ask operation).taking = taken
          obtain ⟨notices, offered, told, clock⟩ :=
            offerAll_refused hears taken.final taken.tickets
          rw [offered, ← told, ← clock, ← run_call taken.final (failures taken.tickets)]
          rfl

/-! ## Whole runs -/

theorem failures_rests (w : Session) (tickets : List Ticket) :
    w.scheduler.Rests (w.run (failures tickets)).final.scheduler := by
  induction tickets generalizing w with
  | nil => exact .refl w.scheduler
  | cons t rest ih =>
      exact (w.scheduler.complete_rests w.now t .failed).trans
        (ih (w.make (.ask (.complete t .failed))).after)

theorem handed_follow (handed : w.scheduler.pending = []) (transport : Transport) (move : Move) :
    (w.run (transport.follow w move)).final.scheduler.pending = [] := by
  have taken : (w.run move.taking).final.scheduler.pending = [] := by
    cases move with
    | advance us => exact handed
    | ask operation => rfl
  unfold Transport.follow
  split
  · exact taken
  · rw [run_append_final]
    exact (failures_rests _ _).pending taken

/-- What holds at first and after every move with what follows it, holds at the end. -/
theorem expand_invariant {I : Session → Prop} {follow : Session → Move → List Move}
    (keep : ∀ {w}, I w → ∀ move, I (w.run (follow w move)).final) (start : I w)
    (moves : List Move) : I (w.run (w.expand follow moves)).final := by
  induction moves generalizing w with
  | nil => exact start
  | cons move moves ih =>
      rw [expand, run_append_final]
      exact ih (keep start move)

theorem handed_expand (handed : w.scheduler.pending = []) (transport : Transport)
    (moves : List Move) : (w.run (w.expand transport.follow moves)).final.scheduler.pending = [] :=
  expand_invariant (I := fun w => w.scheduler.pending = [])
    (fun handed move => handed_follow handed transport move) handed moves

theorem run_share (handed : w.scheduler.pending = []) (transport : Transport) (moves : List Move) :
    (w.share transport).run moves =
      ⟨(w.run (w.expand transport.follow moves)).final.share
          (transport.deliver (w.run (w.expand transport.follow moves)).tickets),
        (w.run (w.expand transport.follow moves)).events⟩ := by
  induction moves generalizing w transport with
  | nil => exact congrArg (fun t => SharedRun.mk (w.share t) []) transport.deliver_nil.symm
  | cons move moves ih =>
      have same : (transport.deliver (w.run (transport.follow w move)).tickets).follow =
          transport.follow := by
        funext u m
        simp only [Transport.follow, Transport.deliver_listens]
      simp only [SharedSession.run, make_share handed, ih (handed_follow handed transport move), same,
        Transport.deliver_append, expand, run_append_final, run_append_events, run_append_tickets]

/-! ## Where nobody listens -/

/-- An operation hands one ticket out at most, and that one is in flight. -/
theorem taking_tickets (handed : w.scheduler.pending = []) (operation : Operation) :
    let taken := w.run (Move.ask operation).taking
    (taken.tickets = [] ∧
      (w.scheduler.inFlight = none → taken.final.scheduler.inFlight = none)) ∨
    ∃ t, taken.tickets = [t] ∧ taken.final.scheduler.inFlight = some t := by
  obtain ⟨final, -, tickets⟩ := run_taking handed operation
  simp only [final, tickets]
  cases hands : operation.handsOver with
  | false =>
      have rests : w.scheduler.Rests (w.scheduler.step w.now operation).scheduler :=
        Scheduler.step_rests hands
      exact .inl ⟨rests.pending handed, rests.slot⟩
  | true =>
      have begins : w.scheduler.Begins (w.scheduler.step w.now operation).scheduler :=
        Scheduler.step_begins hands
      cases begins with
      | none slot pending => exact .inl ⟨pending.trans handed, slot.trans⟩
      | one t free slot pending =>
          rw [handed, List.nil_append] at pending
          exact .inr ⟨t, pending, slot⟩

/-- The failures that follow an operation are all accepted. -/
def FailuresAccepted (w : Session) : Prop :=
  ∀ operation, let taken := w.run (Move.ask operation).taking
    ∀ a ∈ (taken.final.run (failures taken.tickets)).transitions, a.answer = .result (.ok ())

theorem failuresAccepted (kept : w.scheduler.SlotKept) (handed : w.scheduler.pending = []) :
    w.FailuresAccepted := by
  intro operation taken a mem
  rcases taking_tickets handed operation with ⟨none_, -⟩ | ⟨t, one, slot⟩
  · simp only [taken, none_] at mem
    cases mem
  · have kept' : taken.final.scheduler.SlotKept := run_slotKept kept _
    simp only [taken, one] at mem
    obtain rfl := List.mem_singleton.1 mem
    exact congrArg Answer.result (Scheduler.complete_ended kept' slot _ .failed).1

/-- Between two operations of a call that nobody listens to. -/
structure Idle (w : Session) : Prop where
  kept : w.scheduler.SlotKept
  handed : w.scheduler.pending = []
  free : w.scheduler.inFlight = none

theorem Idle.follow (deaf : transport.listens = false) (idle : w.Idle) (move : Move) :
    (w.run (transport.follow w move)).final.Idle := by
  refine ⟨run_slotKept idle.kept _, handed_follow idle.handed transport move, ?_⟩
  simp only [Transport.follow, deaf, Bool.false_eq_true, if_false, run_append_final]
  cases move with
  | advance us => exact idle.free
  | ask operation =>
      rcases taking_tickets idle.handed operation with ⟨none_, free⟩ | ⟨t, one, slot⟩
      · rw [none_]
        exact free idle.free
      · rw [one]
        exact Scheduler.complete_inFlight (run_slotKept idle.kept _) slot _ .failed

theorem Idle.not_rebuilding (idle : w.Idle) {c : Nat} {h : Health}
    (found : w.scheduler.circuits[c]? = some h) : h.rebuilding = false := by
  cases rebuilding : h.rebuilding with
  | false => rfl
  | true =>
      have taken := idle.kept.inFlight_of_rebuilding (Scheduler.hold?_of_found found) rebuilding
      rw [idle.free] at taken
      cases taken

variable {settings : Settings} {call : CallId}

theorem Opened.idle (opened : w.Opened settings call) : w.Idle := by
  obtain ⟨entropy, start⟩ := opened.scheduler_eq
  exact ⟨opened.slotKept [], by rw [start]; rfl, by rw [start]; rfl⟩

/-- A shared call does what the plain scheduler does when it is asked for its tickets after every
operation. They are delivered where somebody listens. Where nobody does, or no longer, they are
answered as failed, and every such answer is accepted. -/
theorem shared_as_plain (opened : w.Opened settings call) (transport : Transport)
    (moves : List Move) :
    let plain := w.run (w.expand transport.follow moves)
    (w.share transport).run moves =
        ⟨plain.final.share (transport.deliver plain.tickets), plain.events⟩ ∧
      plain.final.scheduler.pending = [] ∧
      (transport.listens = false → plain.final.FailuresAccepted ∧
        ∀ (c : Nat) (h : Health), plain.final.scheduler.circuits[c]? = some h →
          h.rebuilding = false) ∧
      ∀ later,
        let rest := plain.final.run (plain.final.expand Transport.gone.follow later)
        (plain.final.share .gone).run later = ⟨rest.final.share .gone, rest.events⟩ ∧
          rest.final.scheduler.pending = [] ∧ rest.final.FailuresAccepted := by
  intro plain
  have handed : plain.final.scheduler.pending = [] :=
    handed_expand opened.idle.handed transport moves
  have kept : plain.final.scheduler.SlotKept := opened.slotKept _
  refine ⟨run_share opened.idle.handed transport moves, handed, fun deaf => ?_, fun later => ?_⟩
  · have idle : plain.final.Idle :=
      expand_invariant (fun idle move => idle.follow deaf move) opened.idle moves
    exact ⟨failuresAccepted kept handed, fun c h found => idle.not_rebuilding found⟩
  · intro rest
    have handed' : rest.final.scheduler.pending = [] := handed_expand handed .gone later
    exact ⟨run_share handed .gone later, handed', failuresAccepted (run_slotKept kept _) handed'⟩

theorem shared_as_plain_brisk :
    let plain := brisk.run (brisk.expand Transport.absent.follow toRebuild)
    brisk.Opened .brisk ⟨"A"⟩ ∧
      plain.events = [.cooldownTriggered 0 .highConcealed, .quarantined 0 1,
        .rebuildRequested 0 1, .rebuildFailed 0 1 2] ∧
      (brisk.share .absent).run toRebuild = ⟨plain.final.share .absent, plain.events⟩ :=
  ⟨brisk_opened, rfl, (shared_as_plain brisk_opened .absent toRebuild).1⟩

end Session

end Multipath
