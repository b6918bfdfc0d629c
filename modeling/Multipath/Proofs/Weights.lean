import Multipath.Proofs.Climb
import Multipath.Proofs.Growth
import Multipath.Proofs.Intake

/-! # Who changes a weight

A circuit gets a new weight with almost every event: when it is cooled down, rescued, held, released and
rebuilt. Without one it can only be ramped, by a window that is judged while no cooldown runs, and then
it does not lose weight. `Health.Eases` says so of a record before and after; it composes, so that a
turn, a batch of reports and an operation have it from the rules (`step_eases`).
-/

namespace Multipath

/-- The circuit gets a new weight with the event. One that waits for its rebuild keeps the one it has. -/
def Event.setsWeight : Event → Bool
  | cooldownTriggered .. | rescued .. | quarantined .. | quarantineReleased .. | rebuildRequested ..
  | rebuildSucceeded .. | rebuildFailed .. => true
  | rebuildDeferred .. => false

/-- The cooldown is as it was. The weight is too, or the ramp was run on it, which has taken nothing
away. -/
structure Health.Eases (now : Instant) (judged : Prop) (h h' : Health) : Prop where
  cooldown : h'.coolingUntil = h.coolingUntil
  weight : h'.weight = h.weight ∨
    judged ∧ h.cooling now = false ∧ 0.0 < h.weight ∧ h.weight < 1.0 ∧ h.weight ≤ h'.weight

namespace Health.Eases

variable {now : Instant} {judged judged' : Prop} {h h' h'' : Health}

theorem of_footing (same : h'.footing = h.footing) : Eases now judged h h' :=
  ⟨congrArg Footing.coolingUntil same, .inl (congrArg Footing.weight same)⟩

theorem mono (eases : Eases now judged h h') (implies : judged → judged') : Eases now judged' h h' :=
  ⟨eases.cooldown, eases.weight.imp_right fun ramped => ⟨implies ramped.1, ramped.2⟩⟩

theorem cooling_eq (eases : Eases now judged h h') : h'.cooling now = h.cooling now := by
  simp only [Health.cooling, eases.cooldown]

theorem trans (first : Eases now judged h h') (rest : Eases now judged h' h'') :
    Eases now judged h h'' := by
  refine ⟨rest.cooldown.trans first.cooldown, ?_⟩
  rcases rest.weight with same | ⟨asked, running, above, below, grown⟩
  · rw [same]
    exact first.weight
  · rcases first.weight with same | ⟨-, running', above', below', grown'⟩
    · rw [same] at above below grown
      exact .inr ⟨asked, first.cooling_eq ▸ running, above, below, grown⟩
    · exact .inr ⟨asked, running', above', below', Doubles.le_trans_of_above above' grown' grown⟩

end Health.Eases

/-! ## Turns -/

/-- Unless the turn tells of a new weight, the record eases. -/
def Turn.Eases (t : Turn) (now : Instant) (judged : Prop) (h : Health) : Prop :=
  (∀ e ∈ t.events, e.setsWeight = false) → h.Eases now judged t.health

namespace Turn.Eases

variable {t : Turn} {next : Health → Turn} {now : Instant} {judged judged' : Prop} {h : Health}

theorem andThen (first : t.Eases now judged h) (rest : (next t.health).Eases now judged t.health) :
    (t.andThen next).Eases now judged h := by
  intro silent
  rw [Turn.events_andThen] at silent
  exact (first fun e mem => silent e (List.mem_append_left _ mem)).trans
    (rest fun e mem => silent e (List.mem_append_right _ mem))

theorem mono (eases : t.Eases now judged h) (implies : judged → judged') :
    t.Eases now judged' h :=
  fun silent => (eases silent).mono implies

theorem of_told {e : Event} (told : e ∈ t.events) (sets : e.setsWeight = true) :
    t.Eases now judged h :=
  fun silent => nomatch (silent e told).symm.trans sets

theorem of_footing (same : t.health.footing = h.footing) : t.Eases now judged h :=
  fun _ => .of_footing same

end Turn.Eases

namespace Scene

variable (scene : Scene) (h : Health) {judged : Prop}

theorem sendFailed_eases : (scene.sendFailed h).Eases scene.now judged h := by
  obtain ⟨failures, turn | turn⟩ := scene.sendFailed_outcome h
  · rw [turn]
    exact .of_told List.mem_cons_self rfl
  · rw [turn]
    exact .of_footing rfl

theorem countWindow_eases (lateToBuffer : Float) :
    (scene.countWindow lateToBuffer h).Eases scene.now judged h := by
  simp only [countWindow]
  split
  · exact .of_footing rfl
  · split
    · exact .andThen (.of_footing rfl) (.of_told List.mem_cons_self rfl)
    · exact .of_footing rfl

theorem checkQuarantine_eases : (scene.checkQuarantine h).Eases scene.now judged h := by
  unfold checkQuarantine requestRebuild
  split
  · exact .of_footing rfl
  · exact .of_told List.mem_cons_self rfl
  · split
    · exact .of_footing rfl
    · exact .of_told List.mem_cons_self rfl

theorem rebuildFailed_eases : (scene.rebuildFailed h).Eases scene.now judged h := by
  unfold rebuildFailed
  split
  · exact .of_told List.mem_cons_self rfl
  · exact .of_footing rfl

section Windows

variable (grows : ¬ scene.settings.cooldown.rampFactor ≤ 1.0)
  (finite : scene.settings.cooldown.rampFactor.isFinite = true)

include grows finite

theorem ramp_eases : (scene.ramp h).Eases scene.now True h := by
  obtain ⟨cleanStreak, weight, ramped, outcome⟩ := scene.ramp_outcome h
  intro _
  rw [ramped]
  refine ⟨rfl, outcome.imp_right ?_⟩
  rintro ⟨⟨running, above, below⟩, rfl⟩
  exact ⟨trivial, running, above, below,
    Health.le_lesser_one below (Doubles.le_mul above below finite grows)⟩

theorem judge_ramp_eases : ((scene.judge h).andThen scene.ramp).Eases scene.now True h := by
  obtain ⟨lowDeliveries, same⟩ := h.judge_health scene.settings.cooldown scene.phase
  obtain ⟨cause, -, -, told, -⟩ | ⟨-, -, health⟩ := scene.judge_outcome h
  · refine .of_told (e := .cooldownTriggered scene.circuit cause) ?_ rfl
    rw [Turn.events_andThen, told]
    exact List.mem_cons_self
  · refine .andThen (.of_footing ?_) (scene.ramp_eases _ grows finite)
    rw [health, same]
    rfl

theorem judgeWindow_eases : (scene.judgeWindow h).Eases scene.now True h :=
  scene.judgeWindow_turn (P := fun t => t.Eases scene.now True h) h
    (scene.judge_ramp_eases h grows finite)
    (fun _ eases => eases.andThen (scene.countWindow_eases _ _))
    (fun _ eases => eases.andThen (scene.checkQuarantine_eases _))

theorem feedback_eases (report : PeerReport) :
    (scene.feedback report h).Eases scene.now
      (scene.phase.settled = true ∧ scene.minFrames ≤ report.received) h := by
  simp only [feedback]
  split
  · rename_i asked
    simp only [Bool.and_eq_true, decide_eq_true_eq] at asked
    rw [← silent_andThen (h.takeReport report) scene.judgeWindow]
    exact .andThen (.of_footing rfl)
      ((scene.judgeWindow_eases _ grows finite).mono fun _ => asked)
  · exact .of_footing rfl

end Windows

end Scene

/-! ## Operations -/

/-- One of the reports is judged. -/
def Scheduler.Judges (s : Scheduler) (now : Instant) (own : List PeerReport) : Prop :=
  (s.phase now).settled = true ∧ ∃ report ∈ own, s.minFrames ≤ report.received

theorem Operation.On.turn_eases {a : Operation} {c : Nat} (on : a.On c) (s : Scheduler)
    (now : Instant) (h : Health) (grows : ¬ s.settings.cooldown.rampFactor ≤ 1.0)
    (finite : s.settings.cooldown.rampFactor.isFinite = true) :
    (a.turn (s.scene now c) h).Eases now (s.Judges now (about c a.reports)) h := by
  cases on with
  | sent => exact .of_footing rfl
  | sendFailed => exact (s.scene now c).sendFailed_eases h
  | lateToBuffer percent => exact .of_footing rfl
  | feedback report =>
      refine ((s.scene now c).feedback_eases h grows finite report).mono fun asked => ?_
      exact ⟨asked.1, report, mem_about.2 List.mem_cons_self, asked.2⟩
  | countWindow late => exact (s.scene now c).countWindow_eases h late
  | checkQuarantine => exact (s.scene now c).checkQuarantine_eases h
  | rebuilt epoch =>
      by_cases awaited : h.rebuilding = true ∧ h.epoch = epoch
      · simp only [Operation.turn, awaited, and_self, if_true]
        exact .of_told List.mem_cons_self rfl
      · simp only [Operation.turn, awaited, if_false]
        exact .of_footing rfl
  | rebuildFailed => exact (s.scene now c).rebuildFailed_eases h

namespace Scheduler

/-- Unless a new weight of the circuit is told, its record eases. -/
def Eases (c : Nat) (now : Instant) (judged : Prop) (s : Scheduler) (events : List Event)
    (s' : Scheduler) : Prop :=
  ∀ h, s.circuits[c]? = some h → (∀ e ∈ events, e.circuit = c → e.setsWeight = false) →
    ∃ h', s'.circuits[c]? = some h' ∧ h.Eases now judged h'

variable {s s' : Scheduler} {now : Instant} {c i : Nat} {judged : Prop} {events : List Event}
  {h : Health} {t : Turn}

theorem Eases.of_eq (same : s'.circuits[c]? = s.circuits[c]?) : Eases c now judged s events s' :=
  fun h found _ => ⟨h, same.trans found, .of_footing rfl⟩

/-- A turn of the circuit, or of another one. -/
theorem apply_eases (found : s.circuits[i]? = some h) (own : ∀ e ∈ t.events, e.circuit = i)
    (mine : i = c → t.Eases now judged h) : Eases c now judged s t.events (s.apply i t) := by
  by_cases same : i = c
  · subst same
    intro g found' silent
    obtain rfl : h = g := Option.some.inj (found.symm.trans found')
    exact ⟨t.health, by rw [apply_circuit? found, if_pos rfl],
      mine rfl fun e mem => silent e mem (own e mem)⟩
  · exact .of_eq (by rw [apply_circuit? found, if_neg (Ne.symm same)])

section Steps

variable (grows : ¬ s.settings.cooldown.rampFactor ≤ 1.0)
  (finite : s.settings.cooldown.rampFactor.isFinite = true)

include grows finite

theorem on_eases {a : Operation} (on : a.On i) :
    Eases c now (s.Judges now (about c a.reports)) s (s.step now a).events
      (s.step now a).scheduler := by
  cases found : s.circuits[i]? with
  | none => exact .of_eq (by rw [(step_of_stray on found now).1])
  | some h =>
      obtain ⟨turn, told⟩ := step_of_found on found now
      rw [turn, told]
      refine apply_eases found (on.turn_course _ h).circuit_eq ?_
      rintro rfl
      exact on.turn_eases s now h grows finite

theorem takeReports_eases (reports : List (Nat × PeerReport)) :
    Eases c now (s.Judges now (about c reports)) s (Notice.events (s.takeReports now reports).2)
      (s.takeReports now reports).1 := by
  intro h found silent
  obtain ⟨h', found', eases⟩ : ∃ h', (s.takeReports now reports).1.circuits[c]? = some h' ∧
      ((∀ e ∈ (Notice.events (s.takeReports now reports).2).filter (·.circuit = c),
        e.setsWeight = false) → h.Eases now (s.Judges now (about c reports)) h') := by
    refine takeReports_record (R := fun own h events h' =>
      (∀ e ∈ events, e.setsWeight = false) → h.Eases now (s.Judges now own) h')
      (fun _ _ => .of_footing rfl) ?_ reports found
    intro holder report rest h events h' t later silent
    have first := Scene.feedback_eases { s.scene now c with holder } h grows finite report
      fun e mem => silent e (List.mem_append_left _ mem)
    have others := later fun e mem => silent e (List.mem_append_right _ mem)
    refine (first.mono fun asked => ?_).trans (others.mono fun asked => ?_)
    · exact ⟨asked.1, report, List.mem_cons_self, asked.2⟩
    · obtain ⟨settled, report', mem, enough⟩ := asked
      exact ⟨settled, report', List.mem_cons_of_mem _ mem, enough⟩
  refine ⟨h', found', eases fun e mem => ?_⟩
  obtain ⟨told, own⟩ := List.mem_filter.1 mem
  exact silent e told (of_decide_eq_true own)

theorem complete_eases (ticket : Ticket) (outcome : Outcome) :
    Eases c now (s.Judges now []) s (Notice.events (s.complete now ticket outcome).notices)
      (s.complete now ticket outcome).scheduler := by
  unfold complete
  split
  · exact .of_eq rfl
  · cases outcome with
    | rebuilt => exact on_eases grows finite (.rebuilt ticket.epoch)
    | failed =>
        cases s.awaiting ticket.circuit ticket.epoch with
        | error refusal => exact .of_eq rfl
        | ok h => exact on_eases grows finite .rebuildFailed

end Steps

theorem pick_eases (s : Scheduler) (now : Instant) (c : Nat) :
    Eases c now judged s (Notice.events (s.pick now).2.2) (s.pick now).2.1 := by
  have chosen : Eases c now judged s (Notice.events (s.choose now).2.2) (s.choose now).2.1 := by
    rcases s.choose_cases now with ⟨i, generator, choice⟩ | ⟨h, found, -, choice⟩
    · rw [choice]
      exact .of_eq rfl
    · rw [choice]
      exact apply_eases (t := { health := h.rescued _, notices := [_, .event (.rescued _)] }) found
        (fun e mem => by cases List.mem_singleton.1 mem; rfl) fun _ => .of_told List.mem_cons_self rfl
  rcases s.pick_cases now with ⟨-, he⟩ | ⟨-, -, -, he⟩ | ⟨-, -, he⟩
  · rw [he]
    exact .of_eq rfl
  · rw [he]
    exact .of_eq rfl
  · rw [he]
    exact chosen

theorem step_eases (s : Scheduler) (now : Instant) (c : Nat) (operation : Operation)
    (grows : ¬ s.settings.cooldown.rampFactor ≤ 1.0)
    (finite : s.settings.cooldown.rampFactor.isFinite = true) :
    Eases c now (s.Judges now (about c operation.reports)) s (s.step now operation).events
      (s.step now operation).scheduler := by
  have batch (reports : List (Nat × PeerReport)) :
      Eases c now (s.Judges now (about c reports)) s (s.step now (.feedback reports)).events
        (s.step now (.feedback reports)).scheduler := by
    rw [(s.step_feedback now reports).2]
    exact takeReports_eases grows finite reports
  cases operation with
  | pick => exact s.pick_eases now c
  | sent i => exact on_eases grows finite .sent
  | sendFailed i => exact on_eases grows finite .sendFailed
  | lateToBuffer i percent => exact on_eases grows finite (.lateToBuffer percent)
  | feedback reports => exact batch reports
  | lateness percents => exact batch _
  | countWindow i late => exact on_eases grows finite (.countWindow late)
  | checkQuarantine i => exact on_eases grows finite .checkQuarantine
  | rebuilt i epoch => exact on_eases grows finite (.rebuilt epoch)
  | rebuildFailed i => exact on_eases grows finite .rebuildFailed
  | complete ticket outcome => exact complete_eases grows finite ticket outcome
  | takeRequests => exact .of_eq rfl

end Scheduler

namespace Session

variable {settings : Settings} {call : CallId} {w : Session}

/-- A weight that changes in an operation of a run is told of by an event, or it has grown: the
operation brought a report on the circuit that was judged, and the ramp was run on it below its full
weight and out of cooldown. -/
theorem weight_changes (opened : w.Opened settings call) (moves : List Move) (operation : Operation)
    {c : Nat} {h h' : Health} :
    let u := (w.run moves).final
    let t := u.make (.ask operation)
    u.scheduler.circuits[c]? = some h → t.after.scheduler.circuits[c]? = some h' →
    h'.weight ≠ h.weight →
    (∃ e ∈ t.events, e.circuit = c ∧ e.setsWeight = true) ∨
    ((u.scheduler.phase u.now).settled = true ∧
      (∃ report, (c, report) ∈ operation.reports ∧ u.scheduler.minFrames ≤ report.received) ∧
      h.cooling u.now = false ∧ 0.0 < h.weight ∧ h.weight < 1.0 ∧ h.weight ≤ h'.weight) := by
  intro u t found found' changed
  obtain ⟨grows, finite⟩ := Settings.rampFactor_bounds opened.accepted
  have same : u.scheduler.settings = settings := opened.settings_eq moves
  rw [← same] at grows finite
  by_cases told : ∃ e ∈ t.events, e.circuit = c ∧ e.setsWeight = true
  · exact .inl told
  · have silent : ∀ e ∈ t.events, e.circuit = c → e.setsWeight = false :=
      fun e mem own => Bool.eq_false_iff.2 fun sets => told ⟨e, mem, own, sets⟩
    obtain ⟨g, found'', eases⟩ :=
      u.scheduler.step_eases u.now c operation grows finite h found silent
    obtain rfl : g = h' := Option.some.inj (found''.symm.trans found')
    obtain ⟨⟨settled, report, mem, enough⟩, ramped⟩ := eases.weight.resolve_left changed
    exact .inr ⟨settled, ⟨report, mem_about.1 mem, enough⟩, ramped⟩

/-- Three clean windows of circuit 0 in one message, and one of a circuit that does not exist. -/
def cleanBatch : List (Nat × PeerReport) :=
  [(0, { received := 40 }), (3, { missing := 100.0, received := 40 }), (0, { received := 40 }),
    (0, { received := 40 })]

/-- After a cooldown the message raises the weight twice and tells nothing. -/
theorem weight_changes_single :
    let u := (single.run [.advance 50000000, window 50.0, .advance 8000000]).final
    let t := u.make (.ask (.feedback cleanBatch))
    single.Opened .single ⟨"A"⟩ ∧ t.events = [] ∧
      ∃ h h' : Health, u.scheduler.circuits[0]? = some h ∧ t.after.scheduler.circuits[0]? = some h' ∧
        h.lastCause = some .highConcealed ∧ h'.cleanStreak = 3 ∧ h'.weight ≠ h.weight ∧
        (u.scheduler.phase u.now).settled = true ∧ h.cooling u.now = false ∧
        0.0 < h.weight ∧ h.weight < 1.0 ∧ h.weight ≤ h'.weight := by
  intro u t
  have seen : t.events = [] ∧
      t.after.scheduler.circuits[0]?.map (·.weight) ≠ u.scheduler.circuits[0]?.map (·.weight) ∧
      u.scheduler.circuits[0]?.map (·.lastCause) = some (some .highConcealed) ∧
      t.after.scheduler.circuits[0]?.map (·.cleanStreak) = some 3 := by decide +kernel
  obtain ⟨quiet, grown, cooled, clean⟩ := seen
  obtain ⟨h, found, cause⟩ := Option.map_eq_some_iff.1 cooled
  obtain ⟨h', found', streak⟩ := Option.map_eq_some_iff.1 clean
  have changed : h'.weight ≠ h.weight := by
    rw [found, found'] at grown
    exact fun same => grown (congrArg some same)
  -- The run is the same as it stands; it is not to be evaluated.
  have changes := weight_changes single_opened [.advance 50000000, window 50.0, .advance 8000000]
    (.feedback cleanBatch) found (by with_reducible exact found') changed
  obtain ⟨e, mem, -⟩ | ⟨settled, -, ramped⟩ := changes
  · rw [quiet] at mem
    cases mem
  · exact ⟨single_opened, quiet, h, h', found, found', cause, streak, changed, settled, ramped⟩

end Session

end Multipath
