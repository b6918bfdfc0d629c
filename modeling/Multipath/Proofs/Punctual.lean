import Multipath.Proofs.Balance
import Multipath.Simulation.Run

/-! # Errands and their answers

A chronicle of a simulated call is what an observer sees, with the milliseconds at which it is seen: a
circuit is chosen for a frame, an event is told. It is `Punctual` when there is never more than one
request for a rebuild open, each is answered once and under its own circuit and epoch, and the answer
comes at the end of the first frame at which the worker is done (`Errand.answerTime`). What becomes of
one request in a punctual chronicle is `Punctual.fate`.
-/

namespace Multipath

namespace Simulation

/-- A rebuild that was asked for. -/
structure Errand where
  /-- Milliseconds since the call began. -/
  time : Nat
  circuit : Nat
  epoch : Nat
  deriving DecidableEq, Repr

namespace Errand

variable {latency : Nat} {r : Errand}

def ticket (r : Errand) (call : CallId) : Ticket := ⟨call, r.circuit, r.epoch⟩

/-- When the worker is done, which takes its latency from when it was asked, on a clock of 64 bits. -/
def due (r : Errand) (latency : Nat) : Nat := (r.time + latency) % UInt64.size

/-- The end of the first frame, the one of the request included, at which the worker is done. -/
def answerTime (r : Errand) (latency : Nat) : Nat :=
  r.time + frameMillis * ((r.due latency - r.time + (frameMillis - 1)) / frameMillis)

theorem due_eq (room : r.time + latency < UInt64.size) : r.due latency = r.time + latency :=
  Nat.mod_eq_of_lt room

theorem answerTime_eq (room : r.time + latency < UInt64.size) :
    r.answerTime latency = r.time + frameMillis * ((latency + (frameMillis - 1)) / frameMillis) := by
  rw [answerTime, due_eq room, Nat.add_sub_cancel_left]

/-- There is one end of a frame within a frame of the time at which both are over. -/
theorem answerTime_unique {time : Nat} (asked : r.time ≤ time) (ready : r.due latency ≤ time)
    (soon : time < max r.time (r.due latency) + frameMillis) (begun : r.time % frameMillis = 0)
    (now : time % frameMillis = 0) : time = r.answerTime latency := by
  unfold answerTime frameMillis at *
  omega

end Errand

inductive Mark where
  /-- A circuit is chosen for a frame. -/
  | chosen
  | told (e : Event)
  deriving DecidableEq, Repr

/-- Marks with the milliseconds at which they were made, oldest first. -/
abbrev Chronicle := List (Nat × Mark)

def stamp (time : Nat) (events : List Event) : Chronicle := events.map fun e => (time, .told e)

namespace Mark

def event? : Mark → Option Event
  | chosen => none
  | told e => some e

/-- The mark answers the errand. -/
inductive Answers (r : Errand) : Mark → Prop
  | rebuilt : Answers r (.told (.rebuildSucceeded r.circuit r.epoch))
  | failed (failures backoff : Nat) : Answers r (.told (.rebuildFailed r.circuit failures backoff))

/-- The mark begins a rebuild or ends one. -/
def turnsOver : Mark → Bool
  | told e => e.begins || e.outcome?.isSome
  | chosen => false

end Mark

def Chronicle.events (l : Chronicle) : List Event := l.filterMap (·.2.event?)

theorem events_stamp (time : Nat) (events : List Event) :
    Chronicle.events (stamp time events) = events := by
  simp [Chronicle.events, stamp, List.filterMap_map, Function.comp_def, Mark.event?]

/-- The errand that is open before a mark and after it. -/
inductive Follows (latency : Nat) : Option Errand → Nat × Mark → Option Errand → Prop
  | plain {o : Option Errand} {x : Nat × Mark} (plain : x.2.turnsOver = false) : Follows latency o x o
  | ask (r : Errand) :
      Follows latency none (r.time, .told (.rebuildRequested r.circuit r.epoch)) (some r)
  | answer {r : Errand} {mark : Mark} (answers : mark.Answers r) :
      Follows latency (some r) (r.answerTime latency, mark) none

theorem Follows.opens {latency : Nat} {o o' : Option Errand} {r : Errand}
    (follows : Follows latency o (r.time, .told (.rebuildRequested r.circuit r.epoch)) o') :
    o' = some r := by
  generalize same : (r.time, Mark.told (.rebuildRequested r.circuit r.epoch)) = x at follows
  cases follows with
  | plain plain =>
      rw [← same] at plain
      cases plain
  | ask r' =>
      obtain ⟨time, circuit, epoch⟩ := r
      cases same
      rfl
  | answer answers =>
      obtain ⟨-, rfl⟩ := Prod.mk.inj same
      cases answers

inductive Punctual (latency : Nat) : Option Errand → Chronicle → Option Errand → Prop
  | nil (o : Option Errand) : Punctual latency o [] o
  | cons {o o' o'' : Option Errand} {x : Nat × Mark} {rest : Chronicle}
      (first : Follows latency o x o') (others : Punctual latency o' rest o'') :
      Punctual latency o (x :: rest) o''

namespace Punctual

variable {latency : Nat} {o o' o'' : Option Errand} {l l' : Chronicle} {r : Errand}

theorem append (first : Punctual latency o l o') (second : Punctual latency o' l' o'') :
    Punctual latency o (l ++ l') o'' := by
  induction first with
  | nil o => exact second
  | cons first others ih => exact .cons first (ih second)

theorem cut {before after : Chronicle} {x : Nat × Mark}
    (all : Punctual latency o (before ++ x :: after) o'') :
    ∃ open₁ open₂, Punctual latency o before open₁ ∧ Follows latency open₁ x open₂ ∧
      Punctual latency open₂ after o'' := by
  induction before generalizing o with
  | nil =>
      cases all with
      | cons first others => exact ⟨_, _, .nil o, first, others⟩
  | cons y before ih =>
      cases all with
      | cons first others =>
          obtain ⟨open₁, open₂, led, told, followed⟩ := ih others
          exact ⟨open₁, open₂, .cons first led, told, followed⟩

theorem of_plain {l : Chronicle} (plain : ∀ x ∈ l, x.2.turnsOver = false) : Punctual latency o l o := by
  induction l with
  | nil => exact .nil o
  | cons x rest ih =>
      exact .cons (.plain (plain x List.mem_cons_self))
        (ih fun y mem => plain y (List.mem_cons_of_mem _ mem))

/-- An open request is answered at its time, or nothing begins or ends until the end. -/
theorem fate (all : Punctual latency (some r) l o) :
    ((∀ x ∈ l, x.2.turnsOver = false) ∧ o = some r) ∨
    ∃ between mark rest, l = between ++ (r.answerTime latency, mark) :: rest ∧
      (∀ x ∈ between, x.2.turnsOver = false) ∧ mark.Answers r ∧ Punctual latency none rest o := by
  obtain ⟨opened, asked⟩ : ∃ opened, opened = some r := ⟨_, rfl⟩
  rw [← asked] at all
  induction all with
  | nil o => exact .inl ⟨nofun, asked⟩
  | @cons o o' o'' x rest first others ih =>
      cases first with
      | plain plain =>
          rcases ih asked with ⟨quiet, still⟩ | ⟨between, mark, rest, rfl, quiet, answers, later⟩
          · refine .inl ⟨fun y mem => ?_, still⟩
            rcases List.mem_cons.1 mem with rfl | mem'
            · exact plain
            · exact quiet y mem'
          · refine .inr ⟨x :: between, mark, rest, rfl, fun y mem => ?_, answers, later⟩
            rcases List.mem_cons.1 mem with rfl | mem'
            · exact plain
            · exact quiet y mem'
      | ask r' => cases asked
      | answer answers =>
          cases asked
          exact .inr ⟨[], _, rest, rfl, nofun, answers, others⟩

theorem still_none (all : Punctual latency none l o)
    (unasked : ∀ x ∈ l, ∀ e, x.2 = .told e → e.begins = false) : o = none := by
  obtain ⟨opened, closed⟩ : ∃ opened : Option Errand, opened = none := ⟨_, rfl⟩
  rw [← closed] at all
  induction all with
  | nil o => exact closed
  | cons first others ih =>
      have later := ih fun x mem => unasked x (List.mem_cons_of_mem _ mem)
      cases first with
      | plain plain => exact later closed
      | ask r =>
          have begins : (Event.rebuildRequested r.circuit r.epoch).begins = false :=
            unasked _ List.mem_cons_self _ rfl
          cases begins
      | answer answers => cases closed

/-- Where no request is open, one comes before the next answer. -/
theorem asked_before {past later : Chronicle} {time : Nat} {e : Event}
    (all : Punctual latency none (past ++ (time, .told e) :: later) o)
    (resolved : e.outcome?.isSome = true) :
    ∃ x ∈ past, ∃ e', x.2 = .told e' ∧ e'.begins = true := by
  obtain ⟨open₁, open₂, led, told, -⟩ := all.cut
  refine Classical.byContradiction fun unasked => ?_
  have none_ : open₁ = none := by
    refine led.still_none fun x mem e' told' => ?_
    cases begins : e'.begins with
    | false => rfl
    | true => exact (unasked ⟨x, mem, e', told', begins⟩).elim
  subst none_
  cases told with
  | plain plain => simp [Mark.turnsOver, resolved] at plain
  | ask r => cases resolved

end Punctual

end Simulation

namespace Scheduler

open Simulation (Errand Mark Punctual stamp)

variable {s s' : Scheduler} {now : Instant} {es : List Event} {latency : Nat} {o : Option Errand}

/-- The request that is open is the rebuild in flight. -/
def Opens (s : Scheduler) (o : Option Errand) : Prop := o.map (·.ticket s.call) = s.inFlight

theorem Opens.errand {t : Ticket} (opens : s.Opens o) (taken : s.inFlight = some t) :
    ∃ r, o = some r ∧ r.ticket s.call = t :=
  Option.map_eq_some_iff.1 (Eq.trans opens taken)

theorem Opens.none_iff (opens : s.Opens o) : o = none ↔ s.inFlight = none := by
  rw [← opens, Option.map_eq_none_iff]

/-- After some strides the open request is the one that was open, or was made at this time. -/
structure Reopens (time latency : Nat) (o : Option Errand) (es : List Event) (s' : Scheduler)
    (o' : Option Errand) : Prop where
  opens : s'.Opens o'
  punctual : Punctual latency o (stamp time es) o'
  kept : ∀ r, o = some r → o' = some r
  asked : ∀ r, o' = some r → o = some r ∨ r.time = time

theorem Stride.reopens {e : Option Event} (stride : Stride now s e s') (opens : s.Opens o)
    (unresolved : ∀ x ∈ e.toList, x.outcome? = none) (time latency : Nat) :
    ∃ o', Reopens time latency o e.toList s' o' := by
  have call := stride.call_eq
  have same : (∀ x ∈ e.toList, x.begins = false) → s'.inFlight = s.inFlight →
      Reopens time latency o e.toList s' o := by
    intro still slot
    refine ⟨?_, .of_plain fun x mem => ?_, fun r open_ => open_, fun r open_ => .inl open_⟩
    · rw [Opens, call, slot]
      exact opens
    · obtain ⟨y, mem', rfl⟩ := List.mem_map.1 mem
      simp [Mark.turnsOver, still y mem', unresolved y mem']
  rcases stride.hold_cases with ⟨rfl, -, slot⟩ | ⟨c, a, a', found, shift, -, slot⟩
  · exact ⟨o, same nofun slot⟩
  · cases shift with
    | silent => exact ⟨o, same nofun slot⟩
    | begin held free =>
        have empty : s.inFlight = none := Option.map_eq_none_iff.1 free
        obtain rfl := opens.none_iff.2 empty
        refine ⟨some ⟨time, c, Counter.nextEpoch a.epoch⟩, ?_, ?_, nofun, ?_⟩
        · rw [Opens, call, slot]
          rfl
        · exact .cons (.ask ⟨time, c, Counter.nextEpoch a.epoch⟩) (.nil _)
        · rintro r ⟨⟩
          exact .inr rfl
    | complete awaited => cases unresolved _ (List.mem_singleton_self _)
    | fail awaited time => cases unresolved _ (List.mem_singleton_self _)
    | _ =>
        refine ⟨o, same (fun x mem => ?_) slot⟩
        rw [List.mem_singleton.1 mem]
        rfl

theorem Strides.reopens (strides : Strides now s es s') (opens : s.Opens o)
    (unresolved : ∀ x ∈ es, x.outcome? = none) (time latency : Nat) :
    ∃ o', Reopens time latency o es s' o' := by
  induction strides generalizing o with
  | refl s => exact ⟨o, opens, .nil o, fun r open_ => open_, fun r open_ => .inl open_⟩
  | step first rest ih =>
      obtain ⟨o₁, opens₁, punctual₁, kept₁, asked₁⟩ := first.reopens opens
        (fun x mem => unresolved x (List.mem_append_left _ mem)) time latency
      obtain ⟨o₂, opens₂, punctual₂, kept₂, asked₂⟩ := ih opens₁
        fun x mem => unresolved x (List.mem_append_right _ mem)
      refine ⟨o₂, opens₂, ?_, fun r open_ => kept₂ r (kept₁ r open_), fun r open_ => ?_⟩
      · rw [stamp, List.map_append]
        exact punctual₁.append punctual₂
      · exact (asked₂ r open_).elim (asked₁ r) .inr

/-- The answer to the request that is open, when it comes at its time. -/
theorem complete_punctual (kept : SlotKept s) {r : Errand}
    (taken : s.inFlight = some (r.ticket s.call)) (now : Instant) (outcome : Outcome) :
    Punctual latency (some r) (stamp (r.answerTime latency)
      (Notice.events (s.complete now (r.ticket s.call) outcome).notices)) none := by
  obtain ⟨h, -, rebuilding, -, he⟩ := complete_of_taken kept taken now outcome
  rw [he]
  cases outcome with
  | rebuilt => exact .cons (.answer .rebuilt) (.nil none)
  | failed =>
      simp only [Scene.answered, Scene.rebuildFailed, rebuilding, if_true]
      exact .cons (.answer (.failed _ _)) (.nil none)

end Scheduler

end Multipath
