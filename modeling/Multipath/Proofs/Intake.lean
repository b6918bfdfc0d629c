import Multipath.Proofs.Independence

/-! # Taking reports in

A message of the peer may name a circuit more than once, and circuits that do not exist. What it does
to one record is done by the items that name the circuit, in their order (`takeReports_record`).

Every report is stored, whatever the rules make of it, and none of them writes what they judge by
(`feedback_reading`). Before the call has settled, and for too few frames, they are not asked at all: the
last word on each circuit stands, and nothing else has changed (`reports_stored`). A peer that only
measures lateness never says how many frames it received, so that its messages are stored and not
judged, as long as the settings ask for any frames (`lateness_stored`).
-/

namespace Multipath

section Words

variable {α β : Type}

/-- What is said of a circuit, in its order. -/
def about (c : Nat) (items : List (Nat × α)) : List α :=
  items.filterMap fun (circuit, x) => if circuit = c then some x else none

/-- The last word on a circuit. -/
def lastAbout (c : Nat) (items : List (Nat × α)) : Option α := (about c items).getLast?

variable (c : Nat) (x : α) (items : List (Nat × α))

theorem about_cons_self : about c ((c, x) :: items) = x :: about c items := by
  simp [about]

theorem about_cons_of_ne {i : Nat} (other : i ≠ c) : about c ((i, x) :: items) = about c items := by
  simp [about, other]

theorem mem_about {c : Nat} {x : α} {items : List (Nat × α)} :
    x ∈ about c items ↔ (c, x) ∈ items := by
  simp [about]

theorem mem_of_lastAbout {c : Nat} {x : α} {items : List (Nat × α)}
    (last : lastAbout c items = some x) : (c, x) ∈ items :=
  mem_about.1 (List.mem_of_getLast? last)

theorem lastAbout_cons (i : Nat) :
    lastAbout c ((i, x) :: items) =
      if i = c then some ((lastAbout c items).getD x) else lastAbout c items := by
  by_cases same : i = c
  · rw [if_pos same, same, lastAbout, about_cons_self, List.getLast?_cons, lastAbout]
  · rw [if_neg same, lastAbout, about_cons_of_ne c x items same, lastAbout]

theorem lastAbout_map (f : α → β) :
    lastAbout c (items.map fun item => (item.1, f item.2)) = (lastAbout c items).map f := by
  have each : about c (items.map fun item => (item.1, f item.2)) = (about c items).map f := by
    induction items with
    | nil => rfl
    | cons item rest ih =>
        obtain ⟨i, y⟩ := item
        by_cases same : i = c
        · subst same
          simp only [List.map_cons, about_cons_self, ih]
        · simp only [List.map_cons, about_cons_of_ne c _ _ same, ih]
  rw [lastAbout, each, List.getLast?_map, lastAbout]

end Words

/-! ## What a window is judged by -/

/-- The numbers of a record that the rules judge by, and never write. -/
structure Reading where
  late : Float
  missing : Float
  concealed : Float
  received : Nat
  sent : Nat
  baseline : Nat
  lateToBuffer : Float

/-- What a report writes of them. -/
def Reading.hear (r : Reading) (report : PeerReport) : Reading :=
  { r with
    late := report.late
    missing := report.missing
    concealed := report.concealed
    received := report.received }

def Health.reading (h : Health) : Reading :=
  ⟨h.late, h.missing, h.concealed, h.received, h.sent, h.baseline, h.lateToBuffer⟩

namespace Scene

variable (scene : Scene) (h : Health)

theorem judge_reading : (scene.judge h).health.reading = h.reading := by
  obtain ⟨lowDeliveries, judged⟩ := h.judge_health scene.settings.cooldown scene.phase
  simp only [judge]
  rw [judged]
  split
  · rfl
  · split
    · rfl
    · rfl

theorem ramp_reading : (scene.ramp h).health.reading = h.reading := by
  obtain ⟨cleanStreak, weight, ramped, -⟩ := scene.ramp_outcome h
  rw [ramped]
  rfl

theorem countWindow_reading (lateToBuffer : Float) :
    (scene.countWindow lateToBuffer h).health.reading = h.reading := by
  simp only [countWindow]
  split
  · rfl
  · split
    · rfl
    · rfl

theorem checkQuarantine_reading : (scene.checkQuarantine h).health.reading = h.reading := by
  unfold checkQuarantine requestRebuild
  split
  · rfl
  · rfl
  · split
    · rfl
    · rfl

theorem judgeWindow_reading : (scene.judgeWindow h).health.reading = h.reading :=
  scene.judgeWindow_health h (scene.judge_reading h)
    (fun g => (scene.ramp_reading g).trans)
    (fun g late => (scene.countWindow_reading g late).trans)
    (fun g => (scene.checkQuarantine_reading g).trans)

theorem feedback_reading (report : PeerReport) :
    (scene.feedback report h).health.reading = h.reading.hear report := by
  simp only [feedback]
  split
  · exact scene.judgeWindow_reading (h.takeReport report)
  · rfl

/-- A report that is not judged. -/
theorem feedback_of_shut {report : PeerReport}
    (shut : scene.phase.settled = false ∨ report.received < scene.minFrames) :
    scene.feedback report h = { health := h.takeReport report } := by
  refine if_neg ?_
  rcases shut with early | few
  · simp [early]
  · simp [few]

end Scene

/-! ## Batches -/

namespace Scheduler

variable {s : Scheduler} {now : Instant} {c : Nat} {h : Health}

/-- A turn of any circuit leaves the rest of the scene as it was. -/
theorem act_scene (s : Scheduler) (now : Instant) (i : Nat) (operation : String)
    (turn : Scene → Health → Turn) (c : Nat) (holder : Option Nat) :
    { (s.act now i operation turn).1.scene now c with holder } = { s.scene now c with holder } := by
  unfold act
  cases s.circuits[i]? with
  | none => rfl
  | some h =>
      change { (s.apply i _).scene now c with holder } = _
      rw [apply_eq]
      rfl

/-- A report of one circuit is not seen in the record of another, nor in its events. -/
theorem report_unseen (s : Scheduler) (now : Instant) {i : Nat} (other : i ≠ c)
    (operation : String) (report : PeerReport) :
    let r := s.act now i operation (·.feedback report)
    r.1.circuits[c]? = s.circuits[c]? ∧ (Notice.events r.2).filter (·.circuit = c) = [] := by
  intro r
  cases found : s.circuits[i]? with
  | none =>
      have ignored : r = _ := act_of_stray found
      rw [ignored]
      exact ⟨rfl, rfl⟩
  | some h =>
      have taken : r = _ := act_of_found found
      rw [taken]
      refine ⟨by rw [apply_circuit? found, if_neg (Ne.symm other)], Event.filter_of_ne fun e mem => ?_⟩
      have own : e.circuit = i := (Scene.feedback_course _ report h).circuit_eq e mem
      exact own ▸ other

/-- A batch does to a record what the reports of the circuit do to it one by one. Only the holder of
the rebuild slot may change between them. -/
theorem takeReports_record {R : List PeerReport → Health → List Event → Health → Prop}
    (nil : ∀ h, R [] h [] h)
    (cons : ∀ holder report rest h events h',
      let t := { s.scene now c with holder }.feedback report h
      R rest t.health events h' → R (report :: rest) h (t.events ++ events) h')
    (reports : List (Nat × PeerReport)) (found : s.circuits[c]? = some h) :
    let r := s.takeReports now reports
    ∃ h', r.1.circuits[c]? = some h' ∧
      R (about c reports) h ((Notice.events r.2).filter (·.circuit = c)) h' := by
  induction reports generalizing s h with
  | nil => exact ⟨h, found, nil h⟩
  | cons item rest ih =>
      obtain ⟨i, report⟩ := item
      have later {g : Health} := ih (h := g)
        (s := (s.act now i "update_from_receiver_feedback" (·.feedback report)).1) fun holder => by
          rw [act_scene]
          exact cons holder
      simp only [takeReports, Notice.events_append, List.filter_append]
      by_cases same : i = c
      · subst same
        have own : (Notice.events ((s.scene now i).feedback report h).notices).filter (·.circuit = i) =
            ((s.scene now i).feedback report h).events :=
          Event.filter_of_eq (Scene.feedback_course _ report h).circuit_eq
        rw [act_of_found found] at later ⊢
        obtain ⟨h', found', rest'⟩ := later (by rw [apply_circuit? found, if_pos rfl])
        refine ⟨h', found', ?_⟩
        rw [about_cons_self, own]
        exact cons (s.scene now i).holder report _ h _ h' rest'
      · obtain ⟨record, quiet⟩ :=
          s.report_unseen now same "update_from_receiver_feedback" report
        obtain ⟨h', found', rest'⟩ := later (record.trans found)
        refine ⟨h', found', ?_⟩
        rw [about_cons_of_ne c _ _ same, quiet, List.nil_append]
        exact rest'

/-- Whatever is made of a batch, a record shows the last report on its circuit. -/
theorem takeReports_reading (now : Instant) (reports : List (Nat × PeerReport))
    (found : s.circuits[c]? = some h) :
    ∃ h', (s.takeReports now reports).1.circuits[c]? = some h' ∧
      (lastAbout c reports).elim (h' = h) fun report => h'.reading = h.reading.hear report := by
  refine takeReports_record (R := fun own h _ h' =>
    own.getLast?.elim (h' = h) fun report => h'.reading = h.reading.hear report)
    (fun _ => rfl) ?_ reports found
  intro holder report rest h events h' t later
  have first : t.health.reading = h.reading.hear report := Scene.feedback_reading _ h report
  rw [List.getLast?_cons]
  cases last : rest.getLast? with
  | none =>
      rw [last] at later
      exact later ▸ first
  | some report' =>
      rw [last] at later
      -- A later report overwrites all that an earlier one has written.
      exact later.trans (congrArg (·.hear report') first)

/-! ## Messages that are stored and not judged -/

theorem act_report_of_shut (report : PeerReport)
    (shut : (s.phase now).settled = false ∨ report.received < s.minFrames) (i : Nat)
    (operation : String) :
    let r := s.act now i operation (·.feedback report)
    r.1 = { s with circuits := s.circuits.modify i (·.takeReport report) } ∧
      Notice.events r.2 = [] := by
  intro r
  cases found : s.circuits[i]? with
  | none =>
      have ignored : r = _ := act_of_stray found
      rw [ignored, List.modify_eq_self (List.getElem?_eq_none_iff.1 found)]
      exact ⟨rfl, rfl⟩
  | some h =>
      have taken : r = _ := act_of_found found
      have stored : s.circuits.set i (h.takeReport report) =
          s.circuits.modify i (·.takeReport report) := by
        refine List.ext_getElem? fun j => ?_
        rw [List.getElem?_modify]
        by_cases same : i = j
        · subst same
          rw [List.getElem?_set_self (List.getElem?_eq_some_iff.1 found).1, found]
          simp
        · simp [same]
      rw [taken, (s.scene now i).feedback_of_shut h shut, apply_keep rfl, ← stored]
      exact ⟨rfl, rfl⟩

theorem takeReports_of_shut {reports : List (Nat × PeerReport)}
    (shut : (s.phase now).settled = false ∨ ∀ item ∈ reports, item.2.received < s.minFrames) :
    let r := s.takeReports now reports
    r.1 = { s with
      circuits := s.circuits.mapIdx fun c h => (lastAbout c reports).elim h h.takeReport } ∧
      Notice.events r.2 = [] := by
  induction reports generalizing s with
  | nil =>
      have same : s.circuits.mapIdx (fun c h => (lastAbout c []).elim h h.takeReport) = s.circuits :=
        List.ext_getElem? fun c => by simp [lastAbout, about]
      exact ⟨congrArg (fun circuits => { s with circuits }) same.symm, rfl⟩
  | cons item rest ih =>
      obtain ⟨i, report⟩ := item
      obtain ⟨stored, quiet⟩ := act_report_of_shut report
        (shut.imp_right fun few => few _ List.mem_cons_self) i "update_from_receiver_feedback"
      obtain ⟨stored', quiet'⟩ := ih (s := { s with circuits := s.circuits.modify i (·.takeReport report) })
        (shut.imp_right fun few item mem => few item (List.mem_cons_of_mem _ mem))
      simp only [takeReports, Notice.events_append]
      rw [stored, stored', quiet, quiet']
      refine ⟨?_, rfl⟩
      congr 1
      refine List.ext_getElem? fun c => ?_
      simp only [List.getElem?_mapIdx, List.getElem?_modify, lastAbout_cons]
      cases s.circuits[c]? with
      | none => rfl
      | some h =>
        by_cases same : i = c
        · cases lastAbout c rest <;> simp [same, Health.takeReport]
        · simp [same]

theorem step_feedback (s : Scheduler) (now : Instant) (reports : List (Nat × PeerReport)) :
    let step := s.step now (.feedback reports)
    step.scheduler = (s.takeReports now reports).1 ∧
      step.events = Notice.events (s.takeReports now reports).2 := by
  exact ⟨rfl, s.feedback_events now reports⟩

/-- Before the call has settled, and for too few frames, a message is stored: in each circuit that it
names the last report on it. Nothing else changes, and nothing is told. -/
theorem reports_stored (s : Scheduler) (now : Instant) (reports : List (Nat × PeerReport))
    (shut : (s.phase now).settled = false ∨ ∀ item ∈ reports, item.2.received < s.minFrames) :
    let step := s.step now (.feedback reports)
    step.events = [] ∧
      step.scheduler = { s with
        circuits := s.circuits.mapIdx fun c h => (lastAbout c reports).elim h fun report =>
          { h with
            late := report.late
            missing := report.missing
            concealed := report.concealed
            received := report.received } } := by
  obtain ⟨taken, told⟩ := s.step_feedback now reports
  obtain ⟨stored, quiet⟩ := takeReports_of_shut shut
  exact ⟨told.trans quiet, taken.trans stored⟩

/-- Too few frames to be judged, a circuit that does not exist, and two reports on one circuit. -/
def scant : List (Nat × PeerReport) :=
  [(0, { late := 4.0, received := 29 }), (7, { received := 12 }),
    (0, { missing := 100.0, concealed := 50.0, received := 3 })]

/-- A circuit that has cooled down and been ramped up once is not punished for them. -/
theorem reports_stored_single :
    let u := (Session.single.run [.advance 50000000, Session.window 50.0, .advance 8000000,
      Session.window 0.0, Session.window 0.0]).final
    let step := u.scheduler.step u.now (.feedback scant)
    Session.single.Opened .single ⟨"A"⟩ ∧ (u.scheduler.phase u.now).settled = true ∧
      (∀ item ∈ scant, item.2.received < u.scheduler.minFrames) ∧ step.events = [] ∧
      ∃ h, u.scheduler.circuits = [h] ∧ h.cleanStreak = 2 ∧
        step.scheduler = { u.scheduler with
          circuits := [{ h with late := 0.0, missing := 100.0, concealed := 50.0, received := 3 }] } := by
  intro u step
  have few : ∀ item ∈ scant, item.2.received < u.scheduler.minFrames := by decide +kernel
  obtain ⟨quiet, stored⟩ := reports_stored u.scheduler u.now scant (.inr few)
  exact ⟨Session.single_opened, by decide +kernel, few, quiet, _, rfl, by decide +kernel, stored⟩

/-- A message of a peer that only measures lateness is stored as one of no frames, whatever the
settings. It is not judged if the call has not settled or the settings ask for any frames; then nothing
else changes, and nothing is told. -/
theorem lateness_stored (s : Scheduler) (now : Instant) (percents : List (Nat × Float)) :
    let step := s.step now (.lateness percents)
    (∀ c h, s.circuits[c]? = some h →
      ∃ h', step.scheduler.circuits[c]? = some h' ∧
        (lastAbout c percents).elim (h' = h) fun late =>
          h'.late = late ∧ h'.missing = 0.0 ∧ h'.concealed = 0.0 ∧ h'.received = 0) ∧
    ((s.phase now).settled = false ∨ 0 < s.minFrames →
      step.events = [] ∧
        step.scheduler = { s with
          circuits := s.circuits.mapIdx fun c h => (lastAbout c percents).elim h fun late =>
            { h with late, missing := 0.0, concealed := 0.0, received := 0 } }) := by
  intro step
  let reports : List (Nat × PeerReport) :=
    percents.map fun item => (item.1, .lateOnly item.2)
  have last : ∀ c, lastAbout c reports = (lastAbout c percents).map PeerReport.lateOnly :=
    fun c => lastAbout_map c percents PeerReport.lateOnly
  obtain ⟨taken, told⟩ := s.step_feedback now reports
  refine ⟨fun c h found => ?_, fun shut => ?_⟩
  · obtain ⟨h', found', shown⟩ := takeReports_reading now reports found
    refine ⟨h', found', ?_⟩
    rw [last] at shown
    cases said : lastAbout c percents with
    | none =>
        rw [said] at shown
        exact shown
    | some late =>
        rw [said] at shown
        exact ⟨congrArg Reading.late shown, congrArg Reading.missing shown,
          congrArg Reading.concealed shown, congrArg Reading.received shown⟩
  · have few : (s.phase now).settled = false ∨ ∀ item ∈ reports, item.2.received < s.minFrames := by
      refine shut.imp_right fun some_ item mem => ?_
      obtain ⟨_, -, rfl⟩ := List.mem_map.1 mem
      exact some_
    obtain ⟨stored, quiet⟩ := takeReports_of_shut few
    refine ⟨told.trans quiet, (taken.trans stored).trans ?_⟩
    congr 2
    funext c h
    rw [last]
    cases lastAbout c percents <;> rfl

end Scheduler

/-- One circuit, and no frames that a report must be of to be judged. -/
def Settings.unsampled : Settings := { circuits := 1, cooldown := { minFrames := 0 } }

namespace Session

def unsampled : Session := ⟨{}, .fresh .unsampled ⟨"A"⟩ 0 0⟩

theorem unsampled_opened : unsampled.Opened .unsampled ⟨"A"⟩ := opened_of_check rfl ⟨"A"⟩ 0 {}

def lateness : Move := .ask (.lateness [(0, 0.0)])

/-- Where the settings ask for no frames, a circuit that has sent one cools down when the peer says for
the second time that nothing came late: no frame of it is said to have been received. -/
theorem lateness_judged :
    let t := (unsampled.run [.ask (.sent 0), .advance 50000000, lateness]).final.make lateness
    unsampled.Opened .unsampled ⟨"A"⟩ ∧ t.events = [.cooldownTriggered 0 .deliveryRate] ∧
      ∃ h h' : Health, t.before.scheduler.circuits[0]? = some h ∧
        t.after.scheduler.circuits[0]? = some h' ∧
        h.coolingUntil = none ∧ h'.coolingUntil = some 58000000 ∧
        h.weight = 1.0 ∧ h'.weight = Settings.unsampled.selection.minWeight :=
  ⟨unsampled_opened, by decide +kernel, _, _, rfl, rfl, by decide +kernel⟩

/-- By default the same messages are stored, and that is all. -/
theorem lateness_stored_single :
    let u := (single.run [.ask (.sent 0), .advance 50000000, lateness]).final
    let step := u.scheduler.step u.now (.lateness [(0, 60.0), (4, 1.0), (0, 20.0)])
    single.Opened .single ⟨"A"⟩ ∧ 0 < u.scheduler.minFrames ∧ step.events = [] ∧
      ∃ h, u.scheduler.circuits = [h] ∧
        step.scheduler = { u.scheduler with
          circuits := [{ h with late := 20.0, missing := 0.0, concealed := 0.0, received := 0 }] } := by
  intro u step
  have some_ : 0 < u.scheduler.minFrames := by decide +kernel
  obtain ⟨-, unjudged⟩ := u.scheduler.lateness_stored u.now [(0, 60.0), (4, 1.0), (0, 20.0)]
  obtain ⟨quiet, stored⟩ := unjudged (.inr some_)
  exact ⟨single_opened, some_, quiet, _, rfl, stored⟩

end Session

end Multipath
