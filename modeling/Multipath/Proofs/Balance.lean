import Multipath.Proofs.Begins
import Multipath.Proofs.Completion

/-! # Rebuilds begun and rebuilds ended

Every rebuild that was begun has ended or is the one in flight: `Balanced` says so of the events between
two schedulers, and composes. What ends a rebuild is an answer to it, by its ticket or without. An
operation that is no answer leaves the slot as it is, or gives it the one ticket that it begins.
-/

namespace Multipath

namespace Event

/-- How the rebuild came out that ends with this event. -/
def outcome? : Event → Option Outcome
  | rebuildSucceeded .. => some .rebuilt
  | rebuildFailed .. => some .failed
  | _ => none

def begins : Event → Bool
  | rebuildRequested .. => true
  | _ => false

theorem outcome?_of_slotUse {e : Event} (unfreed : e.slotUse ≠ .free) : e.outcome? = none := by
  cases e with
  | rebuildSucceeded circuit epoch => exact (unfreed rfl).elim
  | rebuildFailed circuit failures backoff => exact (unfreed rfl).elim
  | _ => rfl

end Event

/-- How many rebuilds were begun. -/
def begun (events : List Event) : Nat := events.countP Event.begins

/-- How many rebuilds ended in this way. -/
def outcomes (outcome : Outcome) (events : List Event) : Nat :=
  events.countP fun e => e.outcome? = some outcome

/-! Observers tell events apart by the names of their kinds. -/

theorem begun_append (es es' : List Event) : begun (es ++ es') = begun es + begun es' :=
  List.countP_append

theorem outcomes_append (outcome : Outcome) (es es' : List Event) :
    outcomes outcome (es ++ es') = outcomes outcome es + outcomes outcome es' :=
  List.countP_append

theorem outcomes_of_unresolved {events : List Event}
    (unresolved : ∀ e ∈ events, e.outcome? = none) (outcome : Outcome) :
    outcomes outcome events = 0 := by
  refine List.countP_eq_zero.2 fun e mem => ?_
  rw [unresolved e mem]
  simp

namespace Scheduler

variable {s s' s'' : Scheduler} {now : Instant} {es es' : List Event}

/-! ## The balance of a row of strides -/

/-- How many rebuilds are in flight. -/
def load (s : Scheduler) : Nat := s.inFlight.toList.length

theorem load_le_one (s : Scheduler) : s.load ≤ 1 := by
  unfold load
  cases s.inFlight with
  | none => exact Nat.zero_le 1
  | some t => exact Nat.le_refl 1

/-- What was in flight, and what was begun since, has ended or is in flight. -/
def Balanced (s : Scheduler) (es : List Event) (s' : Scheduler) : Prop :=
  s.SlotKept → s'.SlotKept ∧
    s.load + begun es = outcomes .rebuilt es + outcomes .failed es + s'.load

theorem Balanced.refl (s : Scheduler) : Balanced s [] s :=
  fun kept => ⟨kept, by simp [begun, outcomes]⟩

theorem Balanced.trans (first : Balanced s es s') (second : Balanced s' es' s'') :
    Balanced s (es ++ es') s'' := by
  intro kept
  obtain ⟨kept', sum⟩ := first kept
  obtain ⟨kept'', sum'⟩ := second kept'
  refine ⟨kept'', ?_⟩
  simp only [begun_append, outcomes_append]
  omega

theorem Stride.balanced {e : Option Event} (stride : Stride now s e s') :
    Balanced s e.toList s' := by
  refine fun kept => ⟨kept.stride stride, ?_⟩
  unfold load
  rcases stride.hold_cases with ⟨rfl, -, slot⟩ | ⟨c, a, a', found, shift, -, slot⟩
  · rw [slot]
    simp [begun, outcomes]
  · cases shift with
    | begin held free =>
        have empty : s.inFlight = none := Option.map_eq_none_iff.1 free
        rw [slot, empty]
        rfl
    | complete awaited =>
        rw [slot, slotUse, Event.slotUse, kept.freed found awaited,
          kept.inFlight_of_rebuilding found awaited]
        rfl
    | fail awaited time =>
        rw [slot, slotUse, Event.slotUse, kept.freed found awaited,
          kept.inFlight_of_rebuilding found awaited]
        rfl
    | _ =>
        rw [slot]
        simp [begun, outcomes, Event.begins, Event.outcome?, slotAfter, slotUse, Event.slotUse]

/-- A rebuild is in flight until it ends. -/
theorem Stride.taken {e : Option Event} (stride : Stride now s e s')
    (unresolved : ∀ x ∈ e.toList, x.outcome? = none) {t : Ticket} (taken : s.inFlight = some t) :
    s'.inFlight = some t := by
  rcases stride.hold_cases with ⟨-, -, slot⟩ | ⟨c, a, a', found, shift, -, slot⟩
  · exact slot.trans taken
  · cases shift with
    | begin held free =>
        have empty : s.inFlight = none := Option.map_eq_none_iff.1 free
        rw [empty] at taken
        cases taken
    | complete awaited => cases unresolved _ (List.mem_singleton_self _)
    | fail awaited time => cases unresolved _ (List.mem_singleton_self _)
    | _ => exact slot.trans taken

theorem Strides.taken (strides : Strides now s es s')
    (unresolved : ∀ x ∈ es, x.outcome? = none) {t : Ticket} (taken : s.inFlight = some t) :
    s'.inFlight = some t := by
  induction strides with
  | refl s => exact taken
  | step first rest ih =>
      refine ih (fun x mem => unresolved x (List.mem_append_right _ mem)) ?_
      exact first.taken (fun x mem => unresolved x (List.mem_append_left _ mem)) taken

end Scheduler

/-- After any run, every rebuild that was begun has ended or is in flight. -/
theorem Session.run_balanced (w : Session) (moves : List Move) :
    Scheduler.Balanced w.scheduler (w.run moves).events (w.run moves).final.scheduler :=
  run_induction .refl (fun first rest => first.balanced.trans rest) w moves

/-! ## Operations that are no answer -/

/-- Does an operation answer a rebuild? -/
def Operation.answers : Operation → Bool
  | rebuilt .. | rebuildFailed _ | complete .. => true
  | _ => false

theorem Scene.Course.unresolved {scene : Scene} {h : Health} {t : Turn} (course : scene.Course h t)
    (unfreed : t.slot ≠ .free) : ∀ e ∈ t.events, e.outcome? = none := by
  induction course with
  | idle same quiet keep =>
      rw [quiet]
      nofun
  | deed deed told use =>
      intro e mem
      rw [told, Option.mem_toList] at mem
      cases mem
      rw [use] at unfreed
      exact Event.outcome?_of_slotUse unfreed
  | andThen first keep rest ihfirst ihrest =>
      rw [andThen_slot keep] at unfreed
      intro e mem
      rw [Turn.events_andThen] at mem
      refine (List.mem_append.1 mem).elim (ihfirst ?_ e) (ihrest unfreed e)
      rw [keep]
      nofun

theorem Scene.TakesFree.unfreed {scene : Scene} {t : Turn} (careful : scene.TakesFree t) :
    t.slot ≠ .free := by
  rcases careful with keep | ⟨epoch, take, -⟩
  · rw [keep]
    nofun
  · rw [take]
    nofun

namespace Scheduler

variable {s : Scheduler} {now : Instant} {c : Nat} {operation : String}
  {turn : Scene → Health → Turn}

theorem act_unresolved (course : ∀ (scene : Scene) h, scene.Course h (turn scene h))
    (careful : ∀ (scene : Scene) h, scene.TakesFree (turn scene h)) :
    ∀ e ∈ Notice.events (s.act now c operation turn).2, e.outcome? = none := by
  unfold act
  cases s.circuits[c]? with
  | none => nofun
  | some h => exact (course _ h).unresolved (careful _ h).unfreed

theorem takeReports_unresolved (s : Scheduler) (now : Instant) (reports : List (Nat × PeerReport)) :
    ∀ e ∈ Notice.events (s.takeReports now reports).2, e.outcome? = none := by
  induction reports generalizing s with
  | nil => nofun
  | cons item rest ih =>
      obtain ⟨c, report⟩ := item
      intro e mem
      rw [takeReports, Notice.events_append] at mem
      refine (List.mem_append.1 mem).elim (act_unresolved ?_ ?_ e) (ih _ e)
      · exact fun scene h => scene.feedback_course report h
      · exact fun scene h => scene.feedback_takesFree report h

theorem feedback_unresolved (s : Scheduler) (now : Instant) (reports : List (Nat × PeerReport)) :
    ∀ e ∈ Notice.events (s.feedback now reports).2, e.outcome? = none := by
  rw [feedback_events]
  exact s.takeReports_unresolved now reports

theorem choose_unresolved (s : Scheduler) (now : Instant) :
    ∀ e ∈ Notice.events (s.choose now).2.2, e.outcome? = none := by
  rcases s.choose_cases now with ⟨c, generator, he⟩ | ⟨h, -, -, he⟩
  · rw [he]
    nofun
  · rw [he]
    intro e mem
    cases List.mem_singleton.1 mem
    rfl

theorem pick_unresolved (s : Scheduler) (now : Instant) :
    ∀ e ∈ Notice.events (s.pick now).2.2, e.outcome? = none := by
  rcases s.pick_cases now with ⟨-, he⟩ | ⟨-, -, -, he⟩ | ⟨-, -, he⟩
  · rw [he]
    nofun
  · rw [he]
    nofun
  · rw [he]
    exact s.choose_unresolved now

theorem step_unresolved {operation : Operation} (silent : operation.answers = false) :
    ∀ e ∈ Notice.events (s.step now operation).notices, e.outcome? = none := by
  cases operation with
  | pick => exact s.pick_unresolved now
  | sent c => exact act_unresolved (fun _ _ => .deed .sent rfl rfl) fun _ _ => .inl rfl
  | sendFailed c =>
      exact act_unresolved (fun scene h => scene.sendFailed_course h)
        fun scene h => .inl (scene.sendFailed_slot h)
  | lateToBuffer c percent =>
      exact act_unresolved (fun _ _ => .deed (.lateToBuffer percent) rfl rfl) fun _ _ => .inl rfl
  | feedback reports => exact s.feedback_unresolved now reports
  | lateness percents => exact s.feedback_unresolved now _
  | countWindow c lateToBuffer =>
      exact act_unresolved (fun scene h => scene.countWindow_course lateToBuffer h)
        fun scene h => .inl (scene.countWindow_slot lateToBuffer h)
  | checkQuarantine c =>
      exact act_unresolved (fun scene h => scene.checkQuarantine_course h)
        fun scene h => scene.checkQuarantine_takesFree h
  | takeRequests => nofun
  | _ => cases silent

/-- An operation that is no answer leaves the slot alone, or gives it the ticket that it begins. -/
theorem step_inFlight {operation : Operation} (silent : operation.answers = false)
    (handed : s.pending = []) :
    (s.step now operation).scheduler.inFlight.toList =
      s.inFlight.toList ++ (s.step now operation).scheduler.pending := by
  cases hands : operation.handsOver with
  | true =>
      have begins : s.Begins (s.step now operation).scheduler := step_begins hands
      cases begins with
      | none slot pending => rw [slot, pending, handed, List.append_nil]
      | one t free slot pending => simp [slot, pending, handed, free]
  | false =>
      have rests : s.Rests (s.step now operation).scheduler := step_rests hands
      rw [rests.pending handed, List.append_nil]
      cases slot : s.inFlight with
      | none => rw [rests.slot slot]
      | some t => rw [(s.step_strides now operation).taken (step_unresolved silent) slot]

/-- The answer to the ticket in flight ends its rebuild, as it says. -/
theorem complete_events (kept : SlotKept s) {t : Ticket} (taken : s.inFlight = some t)
    (now : Instant) (outcome : Outcome) :
    ∃ e : Event, Notice.events (s.complete now t outcome).notices = [e] ∧
      e.begins = false ∧ e.outcome? = some outcome := by
  obtain ⟨h, -, rebuilding, -, he⟩ := complete_of_taken kept taken now outcome
  rw [he]
  cases outcome with
  | rebuilt => exact ⟨_, rfl, rfl, rfl⟩
  | failed =>
      simp only [Scene.answered, Scene.rebuildFailed, rebuilding, if_true]
      exact ⟨_, rfl, rfl, rfl⟩

end Scheduler

end Multipath
