import Multipath.Proofs.Pick
import Multipath.Scheduler.Operation

/-! # Operations as rows of strides

A stride is the smallest change of a whole scheduler: one deed of one circuit, a new burst with the
generator behind it, or the pending rebuilds handed out. `step_strides` says that every operation is
a row of strides with exactly its events, so a law of the scheduler is proved stride by stride.
-/

namespace Multipath.Scheduler

inductive Stride (now : Instant) (s : Scheduler) : Option Event → Scheduler → Prop
  | deed {c : Nat} {h h' : Health} {e : Option Event} (found : s.circuits[c]? = some h)
      (deed : (s.scene now c).Deed h e h') :
      Stride now s e (s.apply c { health := h', slot := slotUse e })
  | turnTo (burst : Burst) (generator : Random.Generator)
      (inRange : s.burst.circuit < s.size → burst.circuit < s.size) :
      Stride now s none { s with burst, generator }
  | handOut : Stride now s none { s with pending := [] }

/-- Strides in a row, at one time, with their events in order. -/
inductive Strides (now : Instant) : Scheduler → List Event → Scheduler → Prop
  | refl (s : Scheduler) : Strides now s [] s
  | step {s s' s'' : Scheduler} {e : Option Event} {es : List Event}
      (first : Stride now s e s') (rest : Strides now s' es s'') :
      Strides now s (e.toList ++ es) s''

theorem Strides.single {now : Instant} {s s' : Scheduler} {e : Option Event}
    (h : Stride now s e s') : Strides now s e.toList s' := by
  simpa using Strides.step h (.refl s')

theorem Strides.trans {now : Instant} {s s' s'' : Scheduler} {es es' : List Event}
    (h : Strides now s es s') (h' : Strides now s' es' s'') :
    Strides now s (es ++ es') s'' := by
  induction h with
  | refl s => exact h'
  | step first rest ih =>
      rw [List.append_assoc]
      exact .step first (ih h')

/-- A law that one stride can be put before, any row of strides can be put before. -/
theorem Strides.before {R : Scheduler → List Event → Scheduler → Prop}
    {now : Instant} {s s' s'' : Scheduler} {es es' : List Event} (h : Strides now s es s')
    (stride : ∀ {now s s' s'' e es}, Stride now s e s' → R s' es s'' → R s (e.toList ++ es) s'')
    (rest : R s' es' s'') : R s (es ++ es') s'' := by
  induction h with
  | refl s => exact rest
  | step first others ih =>
      rw [List.append_assoc]
      exact stride first (ih rest)

/-- The state in which an event was told, and what came after it. -/
theorem Strides.cut {now : Instant} {s s'' : Scheduler} {past since : List Event} {x : Event}
    (strides : Strides now s (past ++ x :: since) s'') :
    ∃ before after, Strides now s past before ∧ Stride now before (some x) after ∧
      Strides now after since s'' := by
  generalize split : past ++ x :: since = es at strides
  induction strides generalizing past with
  | refl s => simp at split
  | @step s s' s'' e es first rest ih =>
      cases e with
      | none =>
          obtain ⟨before, after, led, told, followed⟩ := ih split
          exact ⟨before, after, .step first led, told, followed⟩
      | some y =>
          cases past with
          | nil =>
              simp only [Option.toList_some, List.nil_append, List.cons_append,
                List.cons.injEq] at split
              obtain ⟨rfl, rfl⟩ := split
              exact ⟨s, s', .refl s, first, rest⟩
          | cons z past =>
              simp only [Option.toList_some, List.nil_append, List.cons_append,
                List.cons.injEq] at split
              obtain ⟨rfl, split⟩ := split
              obtain ⟨before, after, led, told, followed⟩ := ih split
              exact ⟨before, after, .step first led, told, followed⟩

/-! ## What a turn leaves alone -/

theorem apply_keep {s : Scheduler} {c : Nat} {t : Turn} (keep : t.slot = .keep) :
    s.apply c t = { s with circuits := s.circuits.set c t.health } := by
  simp only [apply, keep]

theorem apply_idle {s : Scheduler} {c : Nat} {t : Turn} (found : s.circuits[c]? = some t.health)
    (keep : t.slot = .keep) : s.apply c t = s := by
  obtain ⟨hc, hget⟩ := List.getElem?_eq_some_iff.1 found
  rw [apply_keep keep, ← hget, List.set_getElem_self]

theorem apply_andThen {s : Scheduler} {c : Nat} {t : Turn} {next : Health → Turn}
    (keep : t.slot = .keep) :
    (s.apply c t).apply c (next t.health) = s.apply c (t.andThen next) := by
  rw [apply_keep keep]
  cases hu : (next t.health).slot <;> simp [apply, Turn.andThen, hu, keep]

/-- A turn of a circuit touches its record, the slot and the pending rebuilds. -/
theorem apply_eq (s : Scheduler) (c : Nat) (t : Turn) :
    s.apply c t =
      { s with
        circuits := s.circuits.set c t.health
        inFlight := (s.apply c t).inFlight
        pending := (s.apply c t).pending } := by
  simp only [apply]
  split
  · rfl
  · rfl
  · split <;> rfl

@[simp] theorem apply_call (s : Scheduler) (c : Nat) (t : Turn) : (s.apply c t).call = s.call := by
  rw [apply_eq]

@[simp] theorem apply_settings (s : Scheduler) (c : Nat) (t : Turn) :
    (s.apply c t).settings = s.settings := by
  rw [apply_eq]

@[simp] theorem apply_burst (s : Scheduler) (c : Nat) (t : Turn) :
    (s.apply c t).burst = s.burst := by
  rw [apply_eq]

@[simp] theorem apply_circuits (s : Scheduler) (c : Nat) (t : Turn) :
    (s.apply c t).circuits = s.circuits.set c t.health := by
  rw [apply_eq]

theorem scene_apply_keep {s : Scheduler} {c : Nat} {t : Turn} (keep : t.slot = .keep)
    (now : Instant) : (s.apply c t).scene now c = s.scene now c := by
  rw [apply_keep keep]
  rfl

/-! ## What strides never change -/

theorem Stride.call_eq {now : Instant} {s s' : Scheduler} {e : Option Event}
    (h : Stride now s e s') : s'.call = s.call := by
  cases h with
  | deed found deed => exact apply_call ..
  | turnTo burst generator inRange => rfl
  | handOut => rfl

theorem Stride.settings_eq {now : Instant} {s s' : Scheduler} {e : Option Event}
    (h : Stride now s e s') : s'.settings = s.settings := by
  cases h with
  | deed found deed => exact apply_settings ..
  | turnTo burst generator inRange => rfl
  | handOut => rfl

theorem Stride.start_eq {now : Instant} {s s' : Scheduler} {e : Option Event}
    (h : Stride now s e s') : s'.start = s.start := by
  cases h with
  | deed found deed => rw [apply_eq]
  | turnTo burst generator inRange => rfl
  | handOut => rfl

theorem Stride.size_eq {now : Instant} {s s' : Scheduler} {e : Option Event}
    (h : Stride now s e s') : s'.size = s.size := by
  cases h with
  | deed found deed => simp [size]
  | turnTo burst generator inRange => rfl
  | handOut => rfl

theorem Strides.size_eq {now : Instant} {s s' : Scheduler} {es : List Event}
    (h : Strides now s es s') : s'.size = s.size := by
  induction h with
  | refl s => rfl
  | step first rest ih => exact ih.trans first.size_eq

theorem Strides.settings_eq {now : Instant} {s s' : Scheduler} {es : List Event}
    (h : Strides now s es s') : s'.settings = s.settings := by
  induction h with
  | refl s => rfl
  | step first rest ih => exact ih.trans first.settings_eq

/-! ## Holds and the slot -/

def hold? (s : Scheduler) (c : Nat) : Option Hold := s.circuits[c]?.map Health.hold

theorem hold?_eq_some {s : Scheduler} {c : Nat} {a : Hold} :
    s.hold? c = some a ↔ ∃ h, s.circuits[c]? = some h ∧ h.hold = a := by
  simp [hold?]

theorem hold?_of_found {s : Scheduler} {c : Nat} {h : Health} (found : s.circuits[c]? = some h) :
    s.hold? c = some h.hold :=
  hold?_eq_some.2 ⟨h, found, rfl⟩

/-- The slot after a circuit has used it. -/
def slotAfter (s : Scheduler) (c : Nat) : SlotUse → Option Ticket
  | .keep => s.inFlight
  | .take epoch => some ⟨s.call, c, epoch⟩
  | .free => if s.inFlight.any (·.circuit = c) then none else s.inFlight

theorem apply_inFlight (s : Scheduler) (c : Nat) (t : Turn) :
    (s.apply c t).inFlight = s.slotAfter c t.slot := by
  unfold apply slotAfter
  cases t.slot with
  | keep => rfl
  | take epoch => rfl
  | free =>
      simp only
      split
      · rfl
      · rfl

theorem apply_circuit? {s : Scheduler} {c : Nat} {h : Health} (found : s.circuits[c]? = some h)
    (t : Turn) (j : Nat) :
    (s.apply c t).circuits[j]? = if j = c then some t.health else s.circuits[j]? := by
  have hc := (List.getElem?_eq_some_iff.1 found).1
  by_cases hj : j = c
  · subst j
    simp [hc]
  · have hne : c ≠ j := fun h => hj h.symm
    simp [hj, hne]

theorem apply_hold? {s : Scheduler} {c : Nat} {h : Health} (found : s.circuits[c]? = some h)
    (t : Turn) (j : Nat) :
    (s.apply c t).hold? j = if j = c then some t.health.hold else s.hold? j := by
  rw [hold?, apply_circuit? found]
  split
  · rfl
  · rfl

/-- A record after a stride is the record before it, or what a deed made of that. -/
theorem Stride.record {now : Instant} {s s' : Scheduler} {e : Option Event} {c : Nat} {h' : Health}
    (stride : Stride now s e s') (found' : s'.circuits[c]? = some h') :
    ∃ h, s.circuits[c]? = some h ∧ (h' = h ∨ (s.scene now c).Deed h e h') := by
  cases stride with
  | @deed c' g g' e found deed =>
      rw [apply_circuit? found] at found'
      split at found'
      · rename_i same
        subst c'
        cases found'
        exact ⟨g, found, .inr deed⟩
      · exact ⟨h', found', .inl rfl⟩
  | turnTo burst generator inRange => exact ⟨h', found', .inl rfl⟩
  | handOut => exact ⟨h', found', .inl rfl⟩

/-- An event is told by a deed of its circuit. -/
theorem Stride.told {now : Instant} {s s' : Scheduler} {e : Event} (stride : Stride now s (some e) s') :
    ∃ h h', s.circuits[e.circuit]? = some h ∧ s'.circuits[e.circuit]? = some h' ∧
      (s.scene now e.circuit).Deed h (some e) h' := by
  cases stride with
  | @deed c h h' _ found deed =>
      obtain rfl : e.circuit = c := deed.circuit_eq
      exact ⟨h, h', found, by rw [apply_circuit? found, if_pos rfl], deed⟩

/-- What a stride does to the holds and to the slot: nothing, or a shift of one hold. -/
theorem Stride.hold_cases {now : Instant} {s s' : Scheduler} {e : Option Event}
    (h : Stride now s e s') :
    (e = none ∧ (∀ j, s'.hold? j = s.hold? j) ∧ s'.inFlight = s.inFlight) ∨
    ∃ c a a', s.hold? c = some a ∧ (s.scene now c).Shift a e a' ∧
      (∀ j, s'.hold? j = if j = c then some a' else s.hold? j) ∧
      s'.inFlight = s.slotAfter c (slotUse e) := by
  cases h with
  | @deed c h h' e found deed =>
      exact .inr ⟨c, h.hold, h'.hold, hold?_of_found found, deed.shift,
        apply_hold? found _, apply_inFlight ..⟩
  | turnTo burst generator inRange => exact .inl ⟨rfl, fun _ => rfl, rfl⟩
  | handOut => exact .inl ⟨rfl, fun _ => rfl, rfl⟩

/-! ## Turns and operations -/

theorem course_strides {s : Scheduler} {now : Instant} {c : Nat} {h : Health} {t : Turn}
    (found : s.circuits[c]? = some h) (course : (s.scene now c).Course h t) :
    Strides now s t.events (s.apply c t) := by
  generalize hscene : s.scene now c = scene at course
  induction course generalizing s with
  | idle same quiet keep =>
      rw [quiet, apply_idle (same ▸ found) keep]
      exact .refl s
  | @deed h t e deed told use =>
      rw [told]
      have stride : Stride now s e (s.apply c { health := t.health, slot := slotUse e }) :=
        .deed found (hscene ▸ deed)
      rw [← use] at stride
      exact .single stride
  | @andThen h t next first keep rest ihfirst ihrest =>
      have found' : (s.apply c t).circuits[c]? = some t.health := by
        rw [apply_circuits, List.getElem?_set_self (List.getElem?_eq_some_iff.1 found).1]
      have strides := (ihfirst found hscene).trans
        (ihrest found' ((scene_apply_keep keep now).trans hscene))
      rw [apply_andThen keep] at strides
      simpa [Turn.events, Turn.andThen] using strides

theorem act_of_found {s : Scheduler} {now : Instant} {c : Nat} {operation : String}
    {turn : Scene → Health → Turn} {h : Health} (found : s.circuits[c]? = some h) :
    s.act now c operation turn =
      (s.apply c (turn (s.scene now c) h), (turn (s.scene now c) h).notices) := by
  simp only [act, found]

theorem act_of_stray {s : Scheduler} {now : Instant} {c : Nat} {operation : String}
    {turn : Scene → Health → Turn} (stray : s.circuits[c]? = none) :
    s.act now c operation turn = (s, [.strayCircuit c s.size operation]) := by
  simp only [act, stray]

theorem act_strides {s : Scheduler} {now : Instant} {c : Nat} {operation : String}
    {turn : Scene → Health → Turn}
    (course : ∀ h, s.circuits[c]? = some h → (s.scene now c).Course h (turn (s.scene now c) h)) :
    Strides now s (Notice.events (s.act now c operation turn).2)
      (s.act now c operation turn).1 := by
  unfold act
  cases found : s.circuits[c]? with
  | none => exact .refl s
  | some h => exact course_strides found (course h found)

theorem takeReports_strides (s : Scheduler) (now : Instant) (reports : List (Nat × PeerReport)) :
    Strides now s (Notice.events (s.takeReports now reports).2) (s.takeReports now reports).1 := by
  induction reports generalizing s with
  | nil => exact .refl s
  | cons item rest ih =>
      obtain ⟨c, report⟩ := item
      simp only [takeReports, Notice.events_append]
      exact (act_strides fun h _ => Scene.feedback_course _ report h).trans (ih _)

/-- The state of all circuits at the end of a message is no event. -/
theorem feedback_events (s : Scheduler) (now : Instant) (reports : List (Nat × PeerReport)) :
    Notice.events (s.feedback now reports).2 = Notice.events (s.takeReports now reports).2 := by
  have told : Notice.events [.health ((s.takeReports now reports).1.healthReport now)] = [] := rfl
  simp only [feedback, Notice.events_append, told, List.append_nil]

theorem feedback_strides (s : Scheduler) (now : Instant) (reports : List (Nat × PeerReport)) :
    Strides now s (Notice.events (s.feedback now reports).2) (s.feedback now reports).1 := by
  rw [feedback_events]
  exact s.takeReports_strides now reports

/-- An awaited rebuild is in flight under the epoch that was asked for. -/
theorem awaiting_eq_ok {s : Scheduler} {c epoch : Nat} {h : Health} :
    s.awaiting c epoch = .ok h ↔
      s.circuits[c]? = some h ∧ h.rebuilding = true ∧ h.epoch = epoch := by
  unfold awaiting lookUp
  cases found : s.circuits[c]? with
  | none => simp [bind, Except.bind]
  | some g =>
      by_cases hg : g.rebuilding = true ∧ g.epoch = epoch
      · simp only [bind, Except.bind, hg, decide_true, Bool.and_self, if_true, Except.ok.injEq,
          Option.some.injEq]
        constructor
        · rintro rfl
          exact ⟨rfl, hg⟩
        · exact fun hh => hh.1
      · simp only [bind, Except.bind, Bool.and_eq_true, decide_eq_true_eq, hg, if_false, reduceCtorEq,
          false_iff, Option.some.injEq]
        rintro ⟨rfl, hh⟩
        exact hg hh

theorem rebuilt_strides (s : Scheduler) (now : Instant) (c epoch : Nat) :
    Strides now s (Notice.events (s.rebuilt now c epoch).notices)
      (s.rebuilt now c epoch).scheduler := by
  unfold rebuilt
  cases awaited : s.awaiting c epoch with
  | error refusal => cases refusal <;> exact .refl s
  | ok h =>
      obtain ⟨found, rebuilding, rfl⟩ := awaiting_eq_ok.1 awaited
      exact course_strides found (Scene.rebuilt_course _ h rebuilding)

theorem rebuildFailed_strides (s : Scheduler) (now : Instant) (c : Nat) :
    Strides now s (Notice.events (s.rebuildFailed now c).2) (s.rebuildFailed now c).1 :=
  act_strides fun h _ => Scene.rebuildFailed_course _ h

theorem complete_strides (s : Scheduler) (now : Instant) (ticket : Ticket) (outcome : Outcome) :
    Strides now s (Notice.events (s.complete now ticket outcome).notices)
      (s.complete now ticket outcome).scheduler := by
  unfold complete
  split
  · exact .refl s
  · cases outcome with
    | rebuilt => exact s.rebuilt_strides now ticket.circuit ticket.epoch
    | failed =>
        cases s.awaiting ticket.circuit ticket.epoch with
        | error refusal => exact .refl s
        | ok h => exact s.rebuildFailed_strides now ticket.circuit

theorem choose_strides (s : Scheduler) (now : Instant) :
    Strides now s (Notice.events (s.choose now).2.2) (s.choose now).2.1 := by
  rcases s.choose_cases now with ⟨c, generator, choice⟩ | ⟨h, found, out, choice⟩
  · rw [choice]
    exact .single (.turnTo s.burst generator id)
  · have rescued : (s.scene now s.leastBad).Deed h (some (.rescued s.leastBad))
        (h.rescued s.settings.selection.minWeight) := .rescue out
    rw [choice]
    exact .single (.deed found rescued)

theorem pick_strides (s : Scheduler) (now : Instant) :
    Strides now s (Notice.events (s.pick now).2.2) (s.pick now).2.1 := by
  rcases s.pick_cases now with ⟨-, he⟩ | ⟨-, -, -, he⟩ | ⟨-, -, he⟩
  · rw [he]
    exact .single (.turnTo _ s.generator fun inRange => Nat.mod_lt _ (Nat.zero_lt_of_lt inRange))
  · rw [he]
    exact .single (.turnTo ⟨s.burst.circuit, s.burst.frames + 1⟩ s.generator id)
  · rw [he]
    have chosen := s.choose_strides now
    have turned : Stride now (s.choose now).2.1 none
        { (s.choose now).2.1 with burst := .start (s.choose now).1 } := by
      refine .turnTo _ _ fun inRange => ?_
      have nonempty : s.circuits ≠ [] := by
        intro empty
        rw [chosen.size_eq, size, empty] at inRange
        exact Nat.not_lt_zero _ inRange
      rw [chosen.size_eq]
      exact choose_lt now nonempty
    simpa using chosen.trans (.single turned)

/-- Every operation is a row of strides with exactly its events. -/
theorem step_strides (s : Scheduler) (now : Instant) (operation : Operation) :
    Strides now s (Notice.events (s.step now operation).notices)
      (s.step now operation).scheduler := by
  cases operation with
  | pick => exact s.pick_strides now
  | sent c => exact act_strides fun h _ => .deed .sent rfl rfl
  | sendFailed c => exact act_strides fun h _ => Scene.sendFailed_course _ h
  | lateToBuffer c percent => exact act_strides fun h _ => .deed (.lateToBuffer percent) rfl rfl
  | feedback reports => exact s.feedback_strides now reports
  | lateness percents => exact s.feedback_strides now _
  | countWindow c lateToBuffer =>
      exact act_strides fun h _ => Scene.countWindow_course _ lateToBuffer h
  | checkQuarantine c => exact act_strides fun h _ => Scene.checkQuarantine_course _ h
  | rebuilt c epoch => exact s.rebuilt_strides now c epoch
  | rebuildFailed c => exact s.rebuildFailed_strides now c
  | complete ticket outcome => exact s.complete_strides now ticket outcome
  | takeRequests => exact .single .handOut

end Multipath.Scheduler
