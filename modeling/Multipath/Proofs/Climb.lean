import Mathlib.Logic.Function.Iterate
import Multipath.Proofs.Counting
import Multipath.Proofs.Streak

/-! # The climb back

A circuit comes out of a cooldown at the least weight, and from then on its weight is a number of the
windows alone. `Footing` is what the ramp reads and writes of a record, `Footing.climb` what one window
makes of it. A turn that tells nothing climbs by the windows in it (`Turn.Ends`), and so does a run in
which the circuit has no event (`Session.run_climbs`).

How often the weight has grown is then counted: once for each window that ends enough clean ones in a
row (`Climbed`). The windows that were judged while the cooldown ran are left out of the count.
-/

namespace Multipath

/-- A judged window. -/
structure Sample where
  time : Instant
  clean : Bool
  deriving DecidableEq, Repr

/-- The windows that were judged once the cooldown was over. -/
def Sample.since (expiry : Instant) (samples : List Sample) : List Bool :=
  (samples.filter (expiry ≤ ·.time)).map Sample.clean

/-- Clean windows in a row, up to the last one. -/
def cleanRun (windows : List Bool) : Nat := (windows.reverse.takeWhile id).length

/-- How many windows are the last of `n` clean ones in a row, or of more. -/
def dueWindows (n : Nat) (windows : List Bool) : Nat :=
  (List.range windows.length).countP fun i => max 1 n ≤ cleanRun (windows.take (i + 1))

/-- One step of the ramp. -/
def CooldownRules.grow (rules : CooldownRules) (weight : Float) : Float :=
  if weight < 1.0 then Health.lesser (weight * rules.rampFactor) 1.0 else weight

def PeerReport.clean (report : PeerReport) (rules : CooldownRules) : Bool :=
  decide (report.missing < rules.cleanMissing) && decide (report.concealed < rules.cleanConcealed) &&
    decide (report.late < rules.cleanLate)

/-- The reports of a peer, if an operation takes any. -/
def Operation.reports : Operation → List (Nat × PeerReport)
  | feedback reports => reports
  | lateness percents => percents.map fun (circuit, late) => (circuit, .lateOnly late)
  | _ => []

/-- The windows of a circuit that are judged in a feedback message. -/
def Scheduler.samples (s : Scheduler) (now : Instant) (c : Nat) (reports : List (Nat × PeerReport)) :
    List Sample :=
  (reports.filter fun (circuit, report) =>
    circuit = c && ((s.phase now).settled && decide (s.minFrames ≤ report.received))).map
      fun (_, report) => ⟨now, report.clean s.settings.cooldown⟩

def Transition.samples (c : Nat) (t : Transition) : List Sample :=
  match t.move with
  | .advance _ => []
  | .ask operation => t.before.scheduler.samples t.before.now c operation.reports

def Run.samples (r : Run) (c : Nat) : List Sample := r.transitions.flatMap (Transition.samples c)

/-! ## One window -/

structure Footing where
  coolingUntil : Option Instant
  weight : Float
  streak : Nat
  deriving DecidableEq

def Health.footing (h : Health) : Footing := ⟨h.coolingUntil, h.weight, h.cleanStreak⟩

namespace Footing

def cooling (a : Footing) (now : Instant) : Bool := a.coolingUntil.any (now < ·)

/-- One more window. The ramp is not run in a cooldown, nor at zero or full weight. -/
def climb (rules : CooldownRules) (a : Footing) (window : Sample) : Footing :=
  if a.cooling window.time = false ∧ 0.0 < a.weight ∧ a.weight < 1.0 then
    if window.clean then
      let streak := Counter.bump a.streak
      { a with
        streak
        weight := if streak < rules.cleanStreak.toNat then a.weight else rules.grow a.weight }
    else { a with streak := 0 }
  else a

end Footing

theorem Health.cooling_eq (h : Health) (now : Instant) : h.cooling now = h.footing.cooling now := by
  unfold cooling Footing.cooling footing
  cases h.coolingUntil <;> rfl

theorem Scene.ramp_footing (scene : Scene) (h : Health) :
    (scene.ramp h).health.footing =
      h.footing.climb scene.settings.cooldown ⟨scene.now, h.clean scene.settings.cooldown⟩ := by
  by_cases ramps : scene.Ramps h
  · have runs : h.footing.cooling scene.now = false ∧ 0.0 < h.footing.weight ∧
        h.footing.weight < 1.0 := h.cooling_eq scene.now ▸ ramps
    have below := Doubles.not_one_le_of_lt ramps.2.1 ramps.2.2
    have grow : scene.settings.cooldown.grow h.weight =
      Health.lesser (h.weight * scene.settings.cooldown.rampFactor) 1.0 := if_pos ramps.2.2
    have turned : (scene.ramp h).health = (h.ramp scene.settings.cooldown).1 :=
      (scene.ramp_of_ramps h ramps Prod.mk.eta.symm).1
    rw [turned, Footing.climb, if_pos runs]
    unfold Health.ramp
    cases clean : h.clean scene.settings.cooldown with
    | false => simp [below, Health.footing]
    | true =>
        by_cases short : Counter.bump h.cleanStreak < scene.settings.cooldown.cleanStreak.toNat
        · simp [below, short, Health.footing]
        · simp [below, short, Health.footing, grow]
  · have idle : ¬ (h.footing.cooling scene.now = false ∧ 0.0 < h.footing.weight ∧
        h.footing.weight < 1.0) := h.cooling_eq scene.now ▸ ramps
    rw [scene.ramp_of_not_ramps h ramps, Footing.climb, if_neg idle]

/-! ## Turns -/

/-- A turn that tells nothing leaves the circuit on this footing. -/
def Turn.Ends (t : Turn) (a : Footing) : Prop := t.events = [] → t.health.footing = a

theorem Turn.Ends.andThen {t : Turn} {next : Health → Turn} {a : Footing} (first : t.Ends a)
    (rest : (next t.health).Ends t.health.footing) : (t.andThen next).Ends a := by
  intro quiet
  rw [Turn.events_andThen, List.append_eq_nil_iff] at quiet
  exact (rest quiet.2).trans (first quiet.1)

theorem Turn.Ends.of_told {t : Turn} {a : Footing} (told : t.events ≠ []) : t.Ends a :=
  fun quiet => (told quiet).elim

namespace Scene

variable (scene : Scene) (h : Health)

theorem sendFailed_ends : (scene.sendFailed h).Ends h.footing := by
  obtain ⟨failures, turn | turn⟩ := scene.sendFailed_outcome h
  · rw [turn]
    exact .of_told (List.cons_ne_nil _ _)
  · rw [turn]
    exact fun _ => rfl

theorem countWindow_ends (lateToBuffer : Float) :
    (scene.countWindow lateToBuffer h).Ends h.footing := by
  simp only [countWindow]
  split
  · exact fun _ => rfl
  · split
    · exact .andThen (fun _ => rfl) (.of_told (List.cons_ne_nil _ _))
    · exact fun _ => rfl

theorem checkQuarantine_ends : (scene.checkQuarantine h).Ends h.footing := by
  unfold checkQuarantine requestRebuild
  split
  · exact fun _ => rfl
  · exact .of_told (List.cons_ne_nil _ _)
  · split
    · exact .of_told (List.cons_ne_nil _ _)
    · exact .of_told (List.cons_ne_nil _ _)

theorem rebuildFailed_ends : (scene.rebuildFailed h).Ends h.footing := by
  unfold rebuildFailed
  split
  · exact .of_told (List.cons_ne_nil _ _)
  · exact fun _ => rfl

theorem judge_ramp_ends :
    ((scene.judge h).andThen scene.ramp).Ends
      (h.footing.climb scene.settings.cooldown
        ⟨scene.now, h.clean scene.settings.cooldown⟩) := by
  obtain ⟨lowDeliveries, same⟩ := h.judge_health scene.settings.cooldown scene.phase
  obtain ⟨cause, -, -, told, -⟩ | ⟨-, -, health⟩ := scene.judge_outcome h
  · refine .of_told ?_
    rw [Turn.events_andThen, told]
    nofun
  · intro _
    change (scene.ramp (scene.judge h).health).health.footing = _
    rw [health, same, ramp_footing]
    rfl

theorem judgeWindow_ends :
    (scene.judgeWindow h).Ends
      (h.footing.climb scene.settings.cooldown
        ⟨scene.now, h.clean scene.settings.cooldown⟩) := by
  refine scene.judgeWindow_turn (P := (Turn.Ends · _)) h (scene.judge_ramp_ends h) ?_ ?_
  · exact fun t ends => ends.andThen (scene.countWindow_ends _ _)
  · exact fun t ends => ends.andThen (scene.checkQuarantine_ends _)

theorem feedback_ends (report : PeerReport) :
    (scene.feedback report h).Ends
      (if scene.phase.settled && decide (scene.minFrames ≤ report.received) then
        h.footing.climb scene.settings.cooldown ⟨scene.now, report.clean scene.settings.cooldown⟩
      else h.footing) := by
  simp only [feedback]
  split
  · exact scene.judgeWindow_ends (h.takeReport report)
  · exact fun _ => rfl

end Scene

/-! ## Operations -/

namespace Scheduler

/-- The circuit climbs by these windows, unless it has an event. -/
structure Climbs (c : Nat) (s : Scheduler) (events : List Event) (samples : List Sample)
    (s' : Scheduler) : Prop where
  settings : s'.settings = s.settings
  footing : (∀ e ∈ events, e.circuit ≠ c) → ∀ h, s.circuits[c]? = some h →
    ∃ h', s'.circuits[c]? = some h' ∧
      h'.footing = samples.foldl (Footing.climb s.settings.cooldown) h.footing

variable {s s' s'' : Scheduler} {now : Instant} {c i : Nat} {events events' : List Event}
  {samples samples' : List Sample} {h : Health} {t : Turn}

theorem Climbs.idle (settings : s'.settings = s.settings)
    (same : s'.circuits[c]? = s.circuits[c]?) : Climbs c s events [] s' :=
  ⟨settings, fun _ h found => ⟨h, same.trans found, rfl⟩⟩

theorem Climbs.trans (climbs : Climbs c s events samples s')
    (climbs' : Climbs c s' events' samples' s'') :
    Climbs c s (events ++ events') (samples ++ samples') s'' := by
  refine ⟨climbs'.settings.trans climbs.settings, fun others h found => ?_⟩
  obtain ⟨h', found', footing⟩ :=
    climbs.footing (fun e mem => others e (List.mem_append_left _ mem)) h found
  obtain ⟨h'', found'', footing'⟩ :=
    climbs'.footing (fun e mem => others e (List.mem_append_right _ mem)) h' found'
  rw [climbs.settings, footing, ← List.foldl_append] at footing'
  exact ⟨h'', found'', footing'⟩

/-- A turn of the circuit, or of another one. -/
theorem apply_climbs (found : s.circuits[i]? = some h) (own : ∀ e ∈ t.events, e.circuit = i)
    (mine : i = c → t.Ends (samples.foldl (Footing.climb s.settings.cooldown) h.footing))
    (other : i ≠ c → samples = []) : Climbs c s t.events samples (s.apply i t) := by
  by_cases same : i = c
  · subst i
    refine ⟨apply_settings .., fun others g found' => ?_⟩
    rw [found, Option.some.injEq] at found'
    subst g
    have quiet : t.events = [] :=
      List.eq_nil_iff_forall_not_mem.2 fun e mem => others e mem (own e mem)
    exact ⟨t.health, by rw [apply_circuit? found, if_pos rfl], mine rfl quiet⟩
  · rw [other same]
    exact .idle (apply_settings ..) (by rw [apply_circuit? found, if_neg (Ne.symm same)])

theorem act_climbs {operation : String} {turn : Scene → Health → Turn}
    (course : ∀ (scene : Scene) h, scene.Course h (turn scene h))
    (mine : ∀ h, i = c → (turn (s.scene now i) h).Ends
      (samples.foldl (Footing.climb s.settings.cooldown) h.footing))
    (other : i ≠ c → samples = []) :
    let r := s.act now i operation turn
    Climbs c s (Notice.events r.2) samples r.1 := by
  intro r
  cases found : s.circuits[i]? with
  | none =>
      have ignored : r = _ := act_of_stray found
      rw [ignored]
      refine ⟨rfl, fun _ h found' => ?_⟩
      have differs : i ≠ c := by
        rintro rfl
        rw [found] at found'
        cases found'
      rw [other differs]
      exact ⟨h, found', rfl⟩
  | some h =>
      have acted : r = _ := act_of_found found
      rw [acted]
      exact apply_climbs found (course _ h).circuit_eq (mine h) other

theorem samples_append (s : Scheduler) (now : Instant) (c : Nat)
    (first others : List (Nat × PeerReport)) :
    s.samples now c (first ++ others) = s.samples now c first ++ s.samples now c others := by
  simp only [samples, List.filter_append, List.map_append]

theorem samples_single (s : Scheduler) (now : Instant) (c i : Nat) (report : PeerReport) :
    s.samples now c [(i, report)] =
      if i = c then
        if (s.phase now).settled && decide (s.minFrames ≤ report.received) then
          [⟨now, report.clean s.settings.cooldown⟩]
        else []
      else [] := by
  by_cases same : i = c
  · simp only [samples, List.filter_cons, same, decide_true, Bool.true_and, if_true]
    split <;> rfl
  · simp [samples, same]

theorem report_climbs (s : Scheduler) (now : Instant) (c i : Nat) (report : PeerReport)
    (operation : String) :
    let r := s.act now i operation (·.feedback report)
    Climbs c s (Notice.events r.2) (s.samples now c [(i, report)]) r.1 := by
  refine act_climbs (fun scene h => scene.feedback_course report h) (fun h same => ?_)
    fun differs => ?_
  · have ends := (s.scene now i).feedback_ends h report
    rw [samples_single, if_pos same,
      apply_ite (List.foldl (Footing.climb s.settings.cooldown) h.footing)]
    exact ends
  · rw [samples_single, if_neg differs]

theorem act_samples (s : Scheduler) (now : Instant) (i : Nat) (operation : String)
    (turn : Scene → Health → Turn) (c : Nat) (reports : List (Nat × PeerReport)) :
    (s.act now i operation turn).1.samples now c reports = s.samples now c reports := by
  unfold act
  cases s.circuits[i]? with
  | none => rfl
  | some h =>
      change (s.apply i _).samples now c reports = _
      rw [apply_eq]
      rfl

theorem takeReports_climbs (s : Scheduler) (now : Instant) (c : Nat)
    (reports : List (Nat × PeerReport)) :
    Climbs c s (Notice.events (s.takeReports now reports).2) (s.samples now c reports)
      (s.takeReports now reports).1 := by
  induction reports generalizing s with
  | nil => exact .idle rfl rfl
  | cons item rest ih =>
      obtain ⟨i, report⟩ := item
      have first := s.report_climbs now c i report "update_from_receiver_feedback"
      have others := ih (s.act now i "update_from_receiver_feedback" (·.feedback report)).1
      rw [act_samples] at others
      simp only [takeReports, Notice.events_append]
      rw [← List.singleton_append, samples_append]
      exact first.trans others

theorem feedback_climbs (s : Scheduler) (now : Instant) (c : Nat)
    (reports : List (Nat × PeerReport)) :
    Climbs c s (Notice.events (s.feedback now reports).2) (s.samples now c reports)
      (s.feedback now reports).1 := by
  rw [feedback_events]
  exact s.takeReports_climbs now c reports

theorem rebuilt_climbs (s : Scheduler) (now : Instant) (c i epoch : Nat) :
    let r := s.rebuilt now i epoch
    Climbs c s (Notice.events r.notices) [] r.scheduler := by
  unfold rebuilt
  cases awaited : s.awaiting i epoch with
  | error refusal => exact .idle rfl rfl
  | ok h =>
      obtain ⟨found, rebuilding, rfl⟩ := awaiting_eq_ok.1 awaited
      exact apply_climbs found (Scene.rebuilt_course _ h rebuilding).circuit_eq
        (fun _ => .of_told nofun) fun _ => rfl

theorem rebuildFailed_climbs (s : Scheduler) (now : Instant) (c i : Nat) :
    let r := s.rebuildFailed now i
    Climbs c s (Notice.events r.2) [] r.1 :=
  act_climbs Scene.rebuildFailed_course (fun h _ => Scene.rebuildFailed_ends _ h) fun _ => rfl

theorem complete_climbs (s : Scheduler) (now : Instant) (c : Nat) (ticket : Ticket)
    (outcome : Outcome) :
    let r := s.complete now ticket outcome
    Climbs c s (Notice.events r.notices) [] r.scheduler := by
  unfold complete
  split
  · exact .idle rfl rfl
  · cases outcome with
    | rebuilt => exact s.rebuilt_climbs now c ticket.circuit ticket.epoch
    | failed =>
        cases s.awaiting ticket.circuit ticket.epoch with
        | error refusal => exact .idle rfl rfl
        | ok h => exact s.rebuildFailed_climbs now c ticket.circuit

theorem choose_climbs (s : Scheduler) (now : Instant) (c : Nat) :
    let r := s.choose now
    Climbs c s (Notice.events r.2.2) [] r.2.1 := by
  rcases s.choose_cases now with ⟨i, generator, choice⟩ | ⟨h, -, -, choice⟩
  · rw [choice]
    exact .idle rfl rfl
  · rw [choice]
    refine ⟨rfl, fun others g found => ?_⟩
    have differs : s.leastBad ≠ c := others (.rescued s.leastBad) List.mem_cons_self
    exact ⟨g, (List.getElem?_set_ne differs).trans found, rfl⟩

theorem pick_climbs (s : Scheduler) (now : Instant) (c : Nat) :
    let r := s.pick now
    Climbs c s (Notice.events r.2.2) [] r.2.1 := by
  intro r
  rcases s.pick_cases now with ⟨-, he⟩ | ⟨-, -, -, he⟩ | ⟨-, -, he⟩
  · have probe : r = _ := he
    rw [probe]
    exact .idle rfl rfl
  · have next : r = _ := he
    rw [next]
    exact .idle rfl rfl
  · have chosen : r = _ := he
    have climbs := s.choose_climbs now c
    rw [chosen]
    exact ⟨climbs.settings, climbs.footing⟩

theorem step_climbs (s : Scheduler) (now : Instant) (c : Nat) (operation : Operation) :
    Climbs c s (Notice.events (s.step now operation).notices) (s.samples now c operation.reports)
      (s.step now operation).scheduler := by
  cases operation with
  | pick => exact s.pick_climbs now c
  | sent i => exact act_climbs (fun _ _ => .deed .sent rfl rfl) (fun _ _ _ => rfl) fun _ => rfl
  | sendFailed i =>
      exact act_climbs Scene.sendFailed_course (fun h _ => Scene.sendFailed_ends _ h) fun _ => rfl
  | lateToBuffer i percent =>
      exact act_climbs (fun _ _ => .deed (.lateToBuffer percent) rfl rfl) (fun _ _ _ => rfl)
        fun _ => rfl
  | feedback reports => exact s.feedback_climbs now c reports
  | lateness percents => exact s.feedback_climbs now c _
  | countWindow i lateToBuffer =>
      exact act_climbs (fun scene h => scene.countWindow_course lateToBuffer h)
        (fun h _ => Scene.countWindow_ends _ h lateToBuffer) fun _ => rfl
  | checkQuarantine i =>
      exact act_climbs Scene.checkQuarantine_course (fun h _ => Scene.checkQuarantine_ends _ h)
        fun _ => rfl
  | rebuilt i epoch => exact s.rebuilt_climbs now c i epoch
  | rebuildFailed i => exact s.rebuildFailed_climbs now c i
  | complete ticket outcome => exact s.complete_climbs now c ticket outcome
  | takeRequests => exact .idle rfl rfl

end Scheduler

/-! ## Runs -/

namespace Session

open Scheduler

variable {settings : Settings} {call : CallId} {w : Session} {c : Nat}

theorem make_climbs (w : Session) (move : Move) (c : Nat) :
    let t := w.make move
    Climbs c w.scheduler t.events (t.samples c) t.after.scheduler := by
  cases move with
  | advance us => exact .idle rfl rfl
  | ask operation => exact w.scheduler.step_climbs w.now c operation

theorem run_climbs (w : Session) (moves : List Move) (c : Nat) :
    let r := w.run moves
    Climbs c w.scheduler r.events (r.samples c) r.final.scheduler := by
  induction moves generalizing w with
  | nil => exact .idle rfl rfl
  | cons move moves ih =>
      intro r
      have samples : r.samples c =
          (w.make move).samples c ++ ((w.make move).after.run moves).samples c := List.flatMap_cons
      simp only [r] at samples ⊢
      rw [run_cons_events, samples]
      exact (w.make_climbs move c).trans (ih (w.make move).after)

end Session

/-! ## Right after a cooldown began -/

/-- Nothing that is told of another circuit, or not at all, touches the footing in a cooldown. -/
theorem Scene.Deed.footing_of_cooling {scene : Scene} {h h' : Health}
    (deed : scene.Deed h none h') (running : h.cooling scene.now = true) :
    h'.footing = h.footing ∧ h'.held = h.held := by
  cases deed with
  | failure =>
      obtain ⟨failures, he⟩ := h.countFailure_fst scene.settings.cooldown
      rw [he]
      exact ⟨rfl, rfl⟩
  | judged =>
      obtain ⟨lowDeliveries, he⟩ := h.judge_health scene.settings.cooldown scene.phase
      rw [he]
      exact ⟨rfl, rfl⟩
  | ramp idle above below =>
      rw [idle] at running
      cases running
  | _ => exact ⟨rfl, rfl⟩

namespace Scheduler

variable {s s' : Scheduler} {now : Instant} {c : Nat} {h' : Health}

theorem Stride.footing_of_cooling {e : Option Event} (stride : Stride now s e s')
    (others : ∀ x ∈ e.toList, x.circuit ≠ c) (found' : s'.circuits[c]? = some h') :
    ∃ h, s.circuits[c]? = some h ∧
      (h.cooling now = true → h'.footing = h.footing ∧ h'.held = h.held) := by
  obtain ⟨h, found, rfl | deed⟩ := stride.record found'
  · exact ⟨h', found, fun _ => ⟨rfl, rfl⟩⟩
  · cases e with
    | none => exact ⟨h, found, deed.footing_of_cooling⟩
    | some x => exact (others x (List.mem_singleton_self x) deed.circuit_eq).elim

theorem Strides.footing_of_cooling {es : List Event} (strides : Strides now s es s')
    (others : ∀ x ∈ es, x.circuit ≠ c) (found' : s'.circuits[c]? = some h') :
    ∃ h, s.circuits[c]? = some h ∧
      (h.cooling now = true → h'.footing = h.footing ∧ h'.held = h.held) := by
  induction strides with
  | refl s => exact ⟨h', found', fun _ => ⟨rfl, rfl⟩⟩
  | step first rest ih =>
      obtain ⟨h₁, found₁, kept₁⟩ := ih (fun x mem => others x (List.mem_append_right _ mem)) found'
      obtain ⟨h, found, kept⟩ :=
        first.footing_of_cooling (fun x mem => others x (List.mem_append_left _ mem)) found₁
      refine ⟨h, found, fun running => ?_⟩
      obtain ⟨footing, held⟩ := kept running
      have still : h₁.cooling now = true := by rw [Health.cooling_eq, footing, ← Health.cooling_eq, running]
      exact ⟨(kept₁ still).1.trans footing, (kept₁ still).2.trans held⟩

/-- A cooldown that began in a row of strides, for a circuit that is not held after them. -/
theorem Strides.footing_of_cooldown {past since : List Event} {cause : CooldownCause}
    (strides : Strides now s (past ++ .cooldownTriggered c cause :: since) s')
    (lasts : 0 < s.settings.cooldown.duration.toNat) (others : ∀ x ∈ since, x.circuit ≠ c)
    (found' : s'.circuits[c]? = some h') (unheld : h'.held = false) :
    h'.footing =
      ⟨some (now + millis s.settings.cooldown.duration.toNat), s.settings.selection.minWeight, 0⟩ := by
  obtain ⟨before, after, led, stride, followed⟩ := strides.cut
  obtain ⟨g, g', -, foundg, deed⟩ := stride.told
  obtain ⟨h, found, kept⟩ := followed.footing_of_cooling others found'
  have same : g' = h := Option.some.inj (foundg.symm.trans found)
  subst same
  cases deed with
  | coolDown cause =>
      rw [← led.settings_eq] at lasts ⊢
      obtain ⟨footing, held⟩ := kept ((before.scene now c).coolDown_cooling g lasts cause)
      have free : g.held = false := held.symm.trans unheld
      rw [footing]
      simp [Health.footing, Health.coolDown, free, scene, Scene.minWeight]

end Scheduler

/-! ## Counting the steps -/

theorem cleanRun_concat (windows : List Bool) (clean : Bool) :
    cleanRun (windows ++ [clean]) = if clean then cleanRun windows + 1 else 0 := by
  rw [cleanRun, List.reverse_append, List.reverse_singleton, List.singleton_append,
    List.takeWhile_cons]
  cases clean <;> rfl

theorem dueWindows_concat (n : Nat) (windows : List Bool) (clean : Bool) :
    dueWindows n (windows ++ [clean]) =
      dueWindows n windows + if max 1 n ≤ cleanRun (windows ++ [clean]) then 1 else 0 := by
  have earlier : (List.range windows.length).countP
        (fun i => max 1 n ≤ cleanRun ((windows ++ [clean]).take (i + 1))) =
      dueWindows n windows := by
    refine List.countP_congr fun i mem => ?_
    rw [List.take_append_of_le_length (List.mem_range.1 mem)]
  have whole : (windows ++ [clean]).take (windows.length + 1) = windows ++ [clean] :=
    List.take_of_length_le (by simp)
  rw [dueWindows, List.length_append, List.length_singleton, List.range_succ, List.countP_append,
    earlier, List.countP_singleton, whole]
  simp only [decide_eq_true_eq]

namespace Footing

/-- The weight after these windows, and the streak as long as it matters. -/
structure Climbed (rules : CooldownRules) (least : Float) (windows : List Bool) (a : Footing) :
    Prop where
  weight : a.weight = rules.grow^[dueWindows rules.cleanStreak.toNat windows] least
  streak : a.weight < 1.0 → a.streak = min (cleanRun windows) Counter.limit
  above : 0.0 < a.weight

variable {rules : CooldownRules} {least : Float} {windows : List Bool} {a : Footing}

/-- At the full weight the steps come to nothing. -/
theorem Climbed.idle (climbed : Climbed rules least windows a) (full : ¬ a.weight < 1.0)
    (clean : Bool) : Climbed rules least (windows ++ [clean]) a := by
  refine ⟨?_, fun below => (full below).elim, climbed.above⟩
  rw [dueWindows_concat]
  split
  · rw [Function.iterate_succ_apply', ← climbed.weight, CooldownRules.grow, if_neg full]
  · exact climbed.weight

theorem Climbed.dirty (climbed : Climbed rules least windows a) :
    Climbed rules least (windows ++ [false]) { a with streak := 0 } := by
  refine ⟨?_, fun _ => ?_, climbed.above⟩
  · rw [dueWindows_concat, cleanRun_concat, if_neg (by simp)]
    exact climbed.weight
  · rw [cleanRun_concat]
    exact (Nat.zero_min _).symm

theorem Climbed.clean (grows : ¬ rules.rampFactor ≤ 1.0) (finite : rules.rampFactor.isFinite = true)
    (climbed : Climbed rules least windows a) (below : a.weight < 1.0) :
    let streak := Counter.bump a.streak
    Climbed rules least (windows ++ [true])
      { a with
        streak
        weight := if streak < rules.cleanStreak.toNat then a.weight else rules.grow a.weight } := by
  intro streak
  have longer : streak = min (cleanRun (windows ++ [true])) Counter.limit := by
    rw [cleanRun_concat, if_pos rfl]
    simp only [streak, climbed.streak below, Counter.bump, Counter.limit]
    omega
  have enough : rules.cleanStreak.toNat ≤ streak ↔
      max 1 rules.cleanStreak.toNat ≤ cleanRun (windows ++ [true]) := by
    rw [longer, Counter.le_min_limit, cleanRun_concat, if_pos rfl]
    omega
  by_cases short : streak < rules.cleanStreak.toNat
  · rw [if_pos short]
    refine ⟨?_, fun _ => longer, climbed.above⟩
    rw [dueWindows_concat, if_neg (mt enough.2 (Nat.not_le.2 short))]
    exact climbed.weight
  · rw [if_neg short]
    refine ⟨?_, fun _ => longer, ?_⟩
    · rw [dueWindows_concat, if_pos (enough.1 (Nat.not_lt.1 short)),
        Function.iterate_succ_apply', ← climbed.weight]
    · have grown : 0.0 < a.weight * rules.rampFactor :=
        Doubles.zero_lt_mul climbed.above below finite grows
      change 0.0 < rules.grow a.weight
      rw [CooldownRules.grow, if_pos below]
      exact Health.zero_lt_lesser_one grown

theorem Climbed.window (grows : ¬ rules.rampFactor ≤ 1.0) (finite : rules.rampFactor.isFinite = true)
    (climbed : Climbed rules least windows a) {window : Sample}
    (ended : a.cooling window.time = false) :
    Climbed rules least (windows ++ [window.clean]) (a.climb rules window) := by
  unfold climb
  by_cases below : a.weight < 1.0
  · rw [if_pos ⟨ended, climbed.above, below⟩]
    cases window.clean with
    | true => exact climbed.clean grows finite below
    | false => exact climbed.dirty
  · rw [if_neg fun ramps => below ramps.2.2]
    exact climbed.idle below window.clean

theorem climb_of_cooling {window : Sample} (running : a.cooling window.time = true) :
    a.climb rules window = a :=
  if_neg fun ramps => by rw [ramps.1] at running; cases running

theorem climb_coolingUntil (a : Footing) (rules : CooldownRules) (window : Sample) :
    (a.climb rules window).coolingUntil = a.coolingUntil := by
  unfold climb
  split
  · split <;> rfl
  · rfl

theorem Climbed.samples (grows : ¬ rules.rampFactor ≤ 1.0)
    (finite : rules.rampFactor.isFinite = true) {expiry : Instant}
    (expires : a.coolingUntil = some expiry) (climbed : Climbed rules least windows a)
    (samples : List Sample) :
    Climbed rules least (windows ++ Sample.since expiry samples) (samples.foldl (climb rules) a) := by
  induction samples generalizing a windows with
  | nil =>
      rw [Sample.since, List.filter_nil, List.map_nil, List.append_nil]
      exact climbed
  | cons window samples ih =>
      have cooling : a.cooling window.time = decide (window.time < expiry) := by
        rw [Footing.cooling, expires, Option.any_some]
      by_cases late : expiry ≤ window.time
      · have since : Sample.since expiry (window :: samples) =
            window.clean :: Sample.since expiry samples := by
          simp [Sample.since, late]
        have ended : a.cooling window.time = false := by
          rw [cooling, decide_eq_false (Nat.not_lt.2 late)]
        rw [since, List.append_cons, List.foldl_cons]
        exact ih (by rw [climb_coolingUntil, expires]) (climbed.window grows finite ended)
      · have since : Sample.since expiry (window :: samples) = Sample.since expiry samples := by
          simp [Sample.since, late]
        have running : a.cooling window.time = true := by
          rw [cooling, decide_eq_true (Nat.not_le.1 late)]
        rw [since, List.foldl_cons, climb_of_cooling running]
        exact ih expires climbed

end Footing

namespace Session

open Scheduler

variable {settings : Settings} {call : CallId} {w : Session} {c : Nat}

/-- After a cooldown that nothing follows but windows, the weight has grown from the least one by a
step for each window that ends enough clean ones in a row, of those since the cooldown was over. -/
theorem weight_climbs (opened : w.Opened settings call) (moves later : List Move)
    (operation : Operation) {cause : CooldownCause} {past since : List Event} {h : Health} :
    let t := (w.run moves).final.make (.ask operation)
    let r := t.after.run later
    let rules := settings.cooldown
    let windows := Sample.since (t.after.now + millis rules.duration.toNat) (r.samples c)
    t.events = past ++ .cooldownTriggered c cause :: since →
    t.after.scheduler.circuits[c]? = some h → h.held = false →
    (∀ e ∈ since ++ r.events, e.circuit ≠ c) →
    ∃ h', r.final.scheduler.circuits[c]? = some h' ∧
      h'.weight =
        rules.grow^[dueWindows rules.cleanStreak.toNat windows] settings.selection.minWeight := by
  intro t r rules windows split found unheld others
  have same : (w.run moves).final.scheduler.settings = settings := opened.settings_eq moves
  have same' : t.after.scheduler.settings = settings :=
    (run_settings_eq _ [.ask operation]).trans same
  obtain ⟨grows, finite⟩ := Settings.rampFactor_bounds opened.accepted
  have start := (split ▸ (w.run moves).final.make_strides (.ask operation)).footing_of_cooldown
    (same.symm ▸ Settings.duration_pos opened.accepted)
    (fun e mem => others e (List.mem_append_left _ mem)) found unheld
  rw [same] at start
  obtain ⟨h', found', footing⟩ := (t.after.run_climbs later c).footing
    (fun e mem => others e (List.mem_append_right _ mem)) h found
  have least : Footing.Climbed rules settings.selection.minWeight [] h.footing := by
    rw [start]
    exact ⟨rfl, fun _ => rfl, Settings.minWeight_pos opened.accepted⟩
  have climbed := least.samples grows finite (by rw [start]) (r.samples c)
  rw [same'] at footing
  refine ⟨h', found', ?_⟩
  rw [← footing] at climbed
  exact climbed.weight

/-- Two clean windows while the cooldown runs, and then a clean one, one that is not, and three more
that are. -/
def backInService : List Move :=
  [window 0.0, window 0.0, .advance 8000000, window 0.0, window 4.0, window 0.0, window 0.0,
    window 0.0]

theorem weight_climbs_brisk :
    let t := (brisk.run (List.replicate 2 (.ask (.sendFailed 0)))).final.make (.ask (.sendFailed 0))
    let rules := Settings.brisk.cooldown
    brisk.Opened .brisk ⟨"A"⟩ ∧ t.events = [.cooldownTriggered 0 .sendFailure] ∧
      ∃ h, (t.after.run backInService).final.scheduler.circuits[0]? = some h ∧
        h.weight = rules.grow^[2] Settings.brisk.selection.minWeight := by
  intro t rules
  have split : t.events = [] ++ .cooldownTriggered 0 .sendFailure :: [] := by decide +kernel
  have quiet : ∀ e ∈ [] ++ (t.after.run backInService).events, e.circuit ≠ 0 := by decide +kernel
  have due : dueWindows rules.cleanStreak.toNat
      (Sample.since (t.after.now + millis rules.duration.toNat)
        ((t.after.run backInService).samples 0)) = 2 := by decide +kernel
  obtain ⟨h, found, weight⟩ := weight_climbs brisk_opened (List.replicate 2 (.ask (.sendFailed 0)))
    backInService (.sendFailed 0) split rfl rfl quiet
  rw [due] at weight
  refine ⟨brisk_opened, split.trans (List.nil_append _), h, ?_, weight⟩
  -- The two runs are the same as they stand; neither is to be evaluated.
  with_reducible exact found

end Session

end Multipath
