import Multipath.Scheduler.Operation

/-! # Operations of a call that begins later

A scheduler reads the clock in every operation, but it only compares what it reads with times that it
noted itself. So a call that begins later does the same, later: `delayed` puts every noted time on, and
what is done with a delayed record or scheduler at the delayed time is the delay of what is done with
it at the time itself. `Scheduler.step_delayed` says so of every operation.
-/

namespace Multipath

/-! ## Records -/

namespace Health

/-- The record with its times put on. -/
def delayed (h : Health) (d : Nat) : Health :=
  { h with coolingUntil := h.coolingUntil.map (· + d), heldUntil := h.heldUntil.map (· + d) }

variable (h : Health) (d : Nat) (now : Instant)

theorem cooling_delayed : (h.delayed d).cooling (now + d) = h.cooling now := by
  unfold cooling delayed
  cases h.coolingUntil with
  | none => rfl
  | some time => simp

theorem selectable_delayed : (h.delayed d).selectable (now + d) = h.selectable now := by
  rw [selectable, cooling_delayed]
  rfl

theorem coolDown_delayed (rules : CooldownRules) (minWeight : Float) (cause : CooldownCause) :
    (h.delayed d).coolDown rules minWeight cause (now + d) =
      (h.coolDown rules minWeight cause now).delayed d := by
  simp only [coolDown, delayed, Option.map_some, Nat.add_right_comm]
  rfl

theorem countFailure_delayed (rules : CooldownRules) :
    (h.delayed d).countFailure rules =
      ((h.countFailure rules).1.delayed d, (h.countFailure rules).2) := by
  simp only [countFailure]
  change (if rules.failureThreshold.toNat ≤ Counter.bump h.failures then _ else _) = _
  split
  · rfl
  · rfl

end Health

def Health.Verdict.delayed (v : Health.Verdict) (d : Nat) : Health.Verdict :=
  { v with health := v.health.delayed d }

namespace Health

variable (h : Health) (d : Nat) (now : Instant)

theorem judgeDelivery_delayed (rules : CooldownRules) (phase : Phase) :
    (h.delayed d).judgeDelivery rules phase = (h.judgeDelivery rules phase).delayed d := by
  have rate : (h.delayed d).deliveryRate rules.minFrames.toNat =
      h.deliveryRate rules.minFrames.toNat := rfl
  simp only [judgeDelivery, rate]
  split
  · split
    · rfl
    · rfl
  · rfl

theorem judge_delayed (rules : CooldownRules) (phase : Phase) :
    (h.delayed d).judge rules phase = (h.judge rules phase).delayed d := by
  unfold judge
  split
  · rfl
  · rename_i missing concealed limits
    rw [judgeDelivery_delayed]
    change (if missing < h.missing then _ else if concealed < h.concealed then _ else _) = _
    split
    · rfl
    · split
      · rfl
      · rfl

theorem ramp_delayed (rules : CooldownRules) :
    (h.delayed d).ramp rules = ((h.ramp rules).1.delayed d, (h.ramp rules).2) := by
  have same : (h.delayed d).clean rules = h.clean rules := rfl
  simp only [ramp, same]
  change (if 1.0 ≤ h.weight then _ else _) = _
  split
  · rfl
  · split
    · rfl
    · change (if Counter.bump h.cleanStreak < rules.cleanStreak.toNat then _ else _) = _
      split
      · rfl
      · rfl

theorem quarantine_delayed :
    (h.delayed d).quarantine (now + d) = (h.quarantine now).delayed d := by
  simp only [quarantine, delayed, Option.map_some, Nat.add_right_comm]

theorem holdVerdict_delayed (rules : RebuildRules) :
    (h.delayed d).holdVerdict rules (now + d) = h.holdVerdict rules now := by
  have ends : (h.delayed d).heldUntil.any (now + d < ·) = h.heldUntil.any (now < ·) := by
    unfold delayed
    cases h.heldUntil with
    | none => rfl
    | some time => simp
  rw [holdVerdict, ends, holdVerdict, delayed]

theorem failRebuild_delayed (rules : RebuildRules) :
    (h.delayed d).failRebuild rules (now + d) = (h.failRebuild rules now).delayed d := by
  simp only [failRebuild, quarantine, delayed, Option.map_some, Nat.add_right_comm]

end Health

/-! ## Turns -/

/-- Remarks hold no times, but for the state of all circuits. -/
def Notice.delayed (d : Nat) : Notice → Notice
  | .health report =>
      .health { report with
        views := report.views.map fun view => { view with health := view.health.delayed d } }
  | notice => notice

theorem Notice.events_delayed (notices : List Notice) (d : Nat) :
    events (notices.map (Notice.delayed d)) = events notices := by
  induction notices with
  | nil => rfl
  | cons notice rest ih =>
      have same : (notice.delayed d).event? = notice.event? := by cases notice <;> rfl
      simp only [events, List.map_cons, List.filterMap_cons, same]
      cases notice.event? with
      | none => exact ih
      | some e => exact congrArg (e :: ·) ih

def Turn.delayed (t : Turn) (d : Nat) : Turn :=
  { t with health := t.health.delayed d, notices := t.notices.map (Notice.delayed d) }

def Scene.delayed (scene : Scene) (d : Nat) : Scene := { scene with now := scene.now + d }

theorem Turn.andThen_delayed {t : Turn} {next next' : Health → Turn} {d : Nat}
    (rest : ∀ h, next' (h.delayed d) = (next h).delayed d) :
    (t.delayed d).andThen next' = (t.andThen next).delayed d := by
  have second : next' (t.delayed d).health = (next t.health).delayed d := rest t.health
  simp only [andThen, second]
  simp only [delayed, List.map_append]

namespace Scene

variable (scene : Scene) (h : Health) (d : Nat)

theorem coolDown_delayed (cause : CooldownCause) :
    (scene.delayed d).coolDown cause (h.delayed d) = (scene.coolDown cause h).delayed d := by
  have cooled := h.coolDown_delayed d scene.now scene.settings.cooldown scene.minWeight cause
  exact congrArg (fun h' : Health => ({ scene.coolDown cause h with health := h' } : Turn)) cooled

theorem sendFailed_delayed :
    (scene.delayed d).sendFailed (h.delayed d) = (scene.sendFailed h).delayed d := by
  have counted := h.countFailure_delayed d scene.settings.cooldown
  have same : (scene.delayed d).settings = scene.settings := rfl
  simp only [sendFailed, same, counted]
  rcases h.countFailure scene.settings.cooldown with ⟨h', due⟩
  cases due with
  | true =>
      exact Turn.andThen_delayed
        (t := ⟨h', [.thresholdReached scene.circuit scene.settings.cooldown.failureThreshold.toNat],
          .keep⟩) fun h => scene.coolDown_delayed h d .sendFailure
  | false => rfl

theorem judge_delayed : (scene.delayed d).judge (h.delayed d) = (scene.judge h).delayed d := by
  have judged := h.judge_delayed d scene.settings.cooldown scene.phase
  have same : (scene.delayed d).settings = scene.settings := rfl
  have phase : (scene.delayed d).phase = scene.phase := rfl
  simp only [judge, same, phase, judged]
  rcases h.judge scene.settings.cooldown scene.phase with ⟨h', cause, low⟩
  have remarks : (low.toList.map fun low : Health.LowDelivery =>
      Notice.lowDelivery low.rate low.floor low.windows low.persistent low.audible).map
        (Notice.delayed d) = low.toList.map fun low =>
      Notice.lowDelivery low.rate low.floor low.windows low.persistent low.audible := by
    cases low <;> rfl
  have cools := h'.cooling_delayed d scene.now
  have now : (scene.delayed d).now = scene.now + d := rfl
  simp only [Health.Verdict.delayed]
  cases cause with
  | none => simp only [Turn.delayed, remarks]
  | some cause =>
      simp only [cools, now]
      split
      · simp only [Turn.delayed, List.map_append, remarks]
        rfl
      · rw [← Turn.andThen_delayed fun h => scene.coolDown_delayed h d cause]
        simp only [Turn.delayed, List.map_append, remarks]
        rfl

theorem ramp_delayed : (scene.delayed d).ramp (h.delayed d) = (scene.ramp h).delayed d := by
  have ramped := h.ramp_delayed d scene.settings.cooldown
  have same : (scene.delayed d).settings = scene.settings := rfl
  have cools : (h.delayed d).cooling (scene.delayed d).now = h.cooling scene.now :=
    h.cooling_delayed d scene.now
  have weight : (h.delayed d).weight = h.weight := rfl
  simp only [ramp, same, cools, weight, ramped]
  split
  · rcases h.ramp scene.settings.cooldown with ⟨h', grew⟩
    cases grew with
    | true => rfl
    | false =>
        have streak : (h'.delayed d).cleanStreak = h'.cleanStreak := rfl
        simp only [Turn.delayed, streak]
        split
        · rfl
        · rfl
  · rfl

theorem quarantine_delayed :
    (scene.delayed d).quarantine (h.delayed d) = (scene.quarantine h).delayed d := by
  have held := h.quarantine_delayed d scene.now
  exact congrArg (fun h' : Health => ({ scene.quarantine h with health := h' } : Turn)) held

theorem countWindow_delayed (lateToBuffer : Float) :
    (scene.delayed d).countWindow lateToBuffer (h.delayed d) =
      (scene.countWindow lateToBuffer h).delayed d := by
  have quiet : (!(scene.delayed d).phase.settled ||
      decide ((h.delayed d).sentOnPath < (scene.delayed d).minFrames)) =
        (!scene.phase.settled || decide (h.sentOnPath < scene.minFrames)) := rfl
  have judged : (h.delayed d).badWindow (scene.delayed d).settings.rebuild lateToBuffer =
      h.badWindow scene.settings.rebuild lateToBuffer := rfl
  have counted (bad : Bool) : (h.delayed d).countWindow (scene.delayed d).settings.rebuild bad =
      ((h.countWindow scene.settings.rebuild bad).1.delayed d,
        (h.countWindow scene.settings.rebuild bad).2) := rfl
  have holder : (scene.delayed d).holder = scene.holder := rfl
  simp only [countWindow, quiet, judged, counted, holder]
  generalize h.badWindow scene.settings.rebuild lateToBuffer = bad
  rcases h.countWindow scene.settings.rebuild bad with ⟨h', due⟩
  have remarks : List.map (Notice.delayed d)
      (if bad then [.badWindow scene.circuit h'.badStreak h'.concealed h'.missing]
        else if 0 < h.badStreak then [.streakReset scene.circuit h.badStreak] else []) =
      if bad then [.badWindow scene.circuit h'.badStreak h'.concealed h'.missing]
        else if 0 < h.badStreak then [.streakReset scene.circuit h.badStreak] else [] := by
    split
    · rfl
    · split
      · rfl
      · rfl
  have held : (h'.delayed d).held = h'.held := rfl
  simp only [held]
  split
  · rfl
  · split
    · rw [← Turn.andThen_delayed fun h => scene.quarantine_delayed h d]
      simp only [Turn.delayed, remarks]
      rfl
    · simp only [Turn.delayed, remarks]
      rfl

theorem requestRebuild_delayed :
    (scene.delayed d).requestRebuild (h.delayed d) = (scene.requestRebuild h).delayed d := by
  have holder : (scene.delayed d).holder = scene.holder := rfl
  simp only [requestRebuild, holder]
  split
  · rfl
  · rfl

theorem checkQuarantine_delayed :
    (scene.delayed d).checkQuarantine (h.delayed d) = (scene.checkQuarantine h).delayed d := by
  have verdict : (h.delayed d).holdVerdict (scene.delayed d).settings.rebuild (scene.delayed d).now =
      h.holdVerdict scene.settings.rebuild scene.now :=
    h.holdVerdict_delayed d scene.now scene.settings.rebuild
  simp only [checkQuarantine, verdict]
  split
  · rfl
  · rfl
  · exact scene.requestRebuild_delayed h d

theorem judgeWindow_delayed :
    (scene.delayed d).judgeWindow (h.delayed d) = (scene.judgeWindow h).delayed d := by
  have ramped : ((scene.delayed d).judge (h.delayed d)).andThen (scene.delayed d).ramp =
      ((scene.judge h).andThen scene.ramp).delayed d := by
    rw [judge_delayed]
    exact Turn.andThen_delayed fun h => scene.ramp_delayed h d
  have same : (scene.delayed d).settings = scene.settings := rfl
  simp only [judgeWindow, ramped, same]
  generalize (scene.judge h).andThen scene.ramp = t
  have counted : (if scene.settings.rebuild.onFeedback then
      (t.delayed d).andThen fun h => (scene.delayed d).countWindow h.lateToBuffer h
        else t.delayed d) =
      (if scene.settings.rebuild.onFeedback then
        t.andThen fun h => scene.countWindow h.lateToBuffer h else t).delayed d := by
    split
    · exact Turn.andThen_delayed fun h => scene.countWindow_delayed h d h.lateToBuffer
    · rfl
  rw [counted]
  generalize (if scene.settings.rebuild.onFeedback then
    t.andThen fun h => scene.countWindow h.lateToBuffer h else t) = t
  have quarantined : (t.delayed d).health.quarantined = t.health.quarantined := rfl
  rw [quarantined]
  split
  · exact Turn.andThen_delayed fun h => scene.checkQuarantine_delayed h d
  · rfl

theorem feedback_delayed (report : PeerReport) :
    (scene.delayed d).feedback report (h.delayed d) = (scene.feedback report h).delayed d := by
  have judged := scene.judgeWindow_delayed (h.takeReport report) d
  have quiet : ((scene.delayed d).phase.settled && decide ((scene.delayed d).minFrames ≤ report.received)) =
      (scene.phase.settled && decide (scene.minFrames ≤ report.received)) := rfl
  simp only [feedback, quiet]
  split
  · exact judged
  · rfl

theorem rebuildFailed_delayed :
    (scene.delayed d).rebuildFailed (h.delayed d) = (scene.rebuildFailed h).delayed d := by
  have failed : (h.delayed d).failRebuild (scene.delayed d).settings.rebuild (scene.delayed d).now =
      (h.failRebuild scene.settings.rebuild scene.now).delayed d :=
    h.failRebuild_delayed d scene.now scene.settings.rebuild
  have rebuilding : (h.delayed d).rebuilding = h.rebuilding := rfl
  simp only [rebuildFailed, rebuilding, failed]
  split
  · rfl
  · rfl

end Scene

/-! ## Operations -/

namespace Scheduler

/-- The scheduler of a call that begins later. -/
def delayed (s : Scheduler) (d : Nat) : Scheduler :=
  { s with start := s.start + d, circuits := s.circuits.map (·.delayed d) }

variable (s : Scheduler) (d : Nat) (now : Instant)

theorem circuit_delayed (c : Nat) : (s.delayed d).circuits[c]? = s.circuits[c]?.map (·.delayed d) :=
  List.getElem?_map

theorem size_delayed : (s.delayed d).size = s.size := List.length_map _

theorem elapsed_delayed : (s.delayed d).elapsed (now + d) = s.elapsed now := Nat.add_sub_add_right ..

theorem phase_delayed : (s.delayed d).phase (now + d) = s.phase now := by
  rw [phase, elapsed_delayed]
  rfl

theorem scene_delayed (c : Nat) : (s.delayed d).scene (now + d) c = (s.scene now c).delayed d := by
  simp only [scene, phase_delayed]
  rfl

theorem apply_delayed (c : Nat) (t : Turn) :
    (s.delayed d).apply c (t.delayed d) = (s.apply c t).delayed d := by
  have circuits : (s.delayed d).circuits.set c (t.delayed d).health =
      (s.circuits.set c t.health).map (·.delayed d) := (List.map_set ..).symm
  have slot : (t.delayed d).slot = t.slot := rfl
  simp only [apply, circuits, slot]
  cases t.slot with
  | keep => rfl
  | take epoch => rfl
  | free =>
      change (if s.inFlight.any (·.circuit = c) then _ else _) = _
      split
      · rfl
      · rfl

theorem act_delayed (c : Nat) (operation : String) {turn turn' : Scene → Health → Turn}
    (turns : ∀ (scene : Scene) h, turn' (scene.delayed d) (h.delayed d) = (turn scene h).delayed d) :
    (s.delayed d).act (now + d) c operation turn' =
      ((s.act now c operation turn).1.delayed d,
        (s.act now c operation turn).2.map (Notice.delayed d)) := by
  unfold act
  rw [circuit_delayed, size_delayed]
  cases s.circuits[c]? with
  | none => rfl
  | some h =>
      simp only [Option.map_some, scene_delayed, turns, apply_delayed]
      rfl

theorem takeReports_delayed (reports : List (Nat × PeerReport)) :
    (s.delayed d).takeReports (now + d) reports =
      ((s.takeReports now reports).1.delayed d,
        (s.takeReports now reports).2.map (Notice.delayed d)) := by
  induction reports generalizing s with
  | nil => rfl
  | cons item rest ih =>
      obtain ⟨c, report⟩ := item
      have first : (s.delayed d).act (now + d) c "update_from_receiver_feedback" (·.feedback report) =
          ((s.act now c "update_from_receiver_feedback" (·.feedback report)).1.delayed d,
            (s.act now c "update_from_receiver_feedback" (·.feedback report)).2.map
              (Notice.delayed d)) :=
        s.act_delayed d now c _ fun scene h => scene.feedback_delayed h d report
      simp only [takeReports, first, ih, List.map_append]

theorem views_delayed :
    (s.delayed d).views (now + d) =
      (s.views now).map fun view => { view with health := view.health.delayed d } := by
  unfold views delayed
  rw [List.zipIdx_map, List.map_map, List.map_map]
  refine List.map_congr_left fun item mem => ?_
  obtain ⟨h, c⟩ := item
  have cools := h.cooling_delayed d now
  exact congrArg (fun cooling => (⟨c, h.delayed d, cooling, h.deliveryRate s.minFrames⟩ : CircuitView))
    cools

theorem feedback_delayed (reports : List (Nat × PeerReport)) :
    (s.delayed d).feedback (now + d) reports =
      ((s.feedback now reports).1.delayed d,
        (s.feedback now reports).2.map (Notice.delayed d)) := by
  simp only [feedback, takeReports_delayed, List.map_append]
  generalize (s.takeReports now reports).1 = s'
  have report : (s'.delayed d).healthReport (now + d) =
      { s'.healthReport now with
        views := (s'.views now).map fun view => { view with health := view.health.delayed d } } := by
    simp only [healthReport, phase_delayed, elapsed_delayed, views_delayed]
  rw [report]
  rfl

/-! ### Picks -/

/-- A place in the ranks holds a record with its number. -/
def Ranked.delayed (a : Ranked) (d : Nat) : Ranked := (a.1.delayed d, a.2)

theorem zipIdx_delayed :
    (s.delayed d).circuits.zipIdx = s.circuits.zipIdx.map (Ranked.delayed · d) := by
  unfold delayed
  rw [List.zipIdx_map]
  rfl

theorem ranked_delayed :
    (s.delayed d).ranked (now + d) = (s.ranked now).map (Ranked.delayed · d) := by
  have may : (fun a : Ranked => a.1.selectable (now + d)) ∘ (Ranked.delayed · d) =
      fun a => a.1.selectable now := funext fun a => a.1.selectable_delayed d now
  unfold ranked
  rw [zipIdx_delayed, List.filter_map, may]
  exact (List.map_mergeSort (r := better) (s := better) (f := (Ranked.delayed · d))
    fun _ _ _ _ => rfl).symm

theorem best?_delayed (l : List Ranked) :
    best? (l.map (Ranked.delayed · d)) = (best? l).map (Ranked.delayed · d) := by
  cases l with
  | nil => rfl
  | cons a rest =>
      simp only [List.map_cons, best?, Option.map_some, Option.some.injEq]
      induction rest generalizing a with
      | nil => rfl
      | cons b rest ih =>
          have order : better (a.delayed d) (b.delayed d) = better a b := rfl
          simp only [List.map_cons, List.foldl_cons, order]
          split
          · exact ih a
          · exact ih b

theorem leastBad_delayed : (s.delayed d).leastBad = s.leastBad := by
  have idle : (fun a : Ranked => !a.1.rebuilding) ∘ (Ranked.delayed · d) =
      fun a => !a.1.rebuilding := rfl
  simp only [leastBad, zipIdx_delayed, List.filter_map, idle, best?_delayed]
  generalize best? (s.circuits.zipIdx.filter fun a => !a.1.rebuilding) = first
  generalize best? s.circuits.zipIdx = second
  cases first with
  | some a => rfl
  | none => cases second <;> rfl

theorem rescue_delayed :
    (s.delayed d).rescue =
      (s.rescue.1, s.rescue.2.1.delayed d, s.rescue.2.2.map (Notice.delayed d)) := by
  simp only [rescue, leastBad_delayed, circuit_delayed]
  cases s.circuits[s.leastBad]? with
  | none => rfl
  | some h =>
      simp only [Option.map_some, delayed, List.map_set]
      rfl

theorem choose_delayed :
    (s.delayed d).choose (now + d) =
      ((s.choose now).1, (s.choose now).2.1.delayed d,
        (s.choose now).2.2.map (Notice.delayed d)) := by
  unfold choose
  rw [ranked_delayed]
  match s.ranked now with
  | [] => exact s.rescue_delayed d
  | [a] => rfl
  | a :: b :: rest =>
      have weights : ((a :: b :: rest).map (Ranked.delayed · d)).map (·.1.weight) =
          (a :: b :: rest).map (·.1.weight) := List.map_map
      have place (k : Nat) : (((a :: b :: rest).map (Ranked.delayed · d))[k]?).elim 0 (·.2) =
          ((a :: b :: rest)[k]?).elim 0 (·.2) := by
        rw [List.getElem?_map]
        cases (a :: b :: rest)[k]? <;> rfl
      refine Prod.ext ?_ rfl
      refine Eq.trans ?_ (place _)
      exact congrArg (fun weights => (((a :: b :: rest).map (Ranked.delayed · d))[pickWeighted
        (normalizedWeights s.settings.selection.rankWeights weights) s.generator.unit.1]?).elim 0 (·.2))
        weights

theorem pick_delayed :
    (s.delayed d).pick (now + d) =
      ((s.pick now).1, (s.pick now).2.1.delayed d, (s.pick now).2.2.map (Notice.delayed d)) := by
  have burst : (s.delayed d).burst = s.burst := rfl
  have settings : (s.delayed d).settings = s.settings := rfl
  have holds : (s.delayed d).burstHolds (now + d) = s.burstHolds now := by
    rw [burstHolds, circuit_delayed, burst, burstHolds]
    cases s.circuits[s.burst.circuit]? with
    | none => rfl
    | some h => exact h.selectable_delayed d now
  simp only [pick, phase_delayed, holds, size_delayed, choose_delayed, burst, settings]
  split
  · rfl
  · generalize (if s.burstHolds now then s.burst else s.burst.spent).next?
      s.settings.selection.burstSize.toNat = next
    cases next with
    | none => rfl
    | some burst => rfl

/-! ### Answers -/

theorem awaiting_delayed (c epoch : Nat) :
    (s.delayed d).awaiting c epoch = (s.awaiting c epoch).map (·.delayed d) := by
  simp only [awaiting, lookUp, circuit_delayed, size_delayed]
  cases s.circuits[c]? with
  | none => rfl
  | some h =>
      change (if (h.rebuilding && h.epoch = epoch) then _ else _) =
        Except.map _ (if (h.rebuilding && h.epoch = epoch) then _ else _)
      split
      · rfl
      · rfl

end Scheduler

def Completion.delayed (c : Completion) (d : Nat) : Completion :=
  { c with scheduler := c.scheduler.delayed d, notices := c.notices.map (Notice.delayed d) }

def Step.delayed (step : Step) (d : Nat) : Step :=
  { step with
    scheduler := step.scheduler.delayed d
    notices := step.notices.map (Notice.delayed d) }

namespace Scheduler

variable (s : Scheduler) (d : Nat) (now : Instant)

theorem rebuilt_delayed (c epoch : Nat) :
    (s.delayed d).rebuilt (now + d) c epoch = (s.rebuilt now c epoch).delayed d := by
  unfold rebuilt
  rw [awaiting_delayed]
  cases s.awaiting c epoch with
  | error refusal =>
      cases refusal <;> rfl
  | ok h =>
      have turn : ((s.delayed d).scene (now + d) c).rebuilt epoch (h.delayed d) =
          ((s.scene now c).rebuilt epoch h).delayed d := by
        rw [scene_delayed]
        rfl
      simp only [Except.map, turn, apply_delayed]
      rfl

theorem rebuildFailed_delayed (c : Nat) :
    (s.delayed d).rebuildFailed (now + d) c =
      ((s.rebuildFailed now c).1.delayed d, (s.rebuildFailed now c).2.map (Notice.delayed d)) :=
  s.act_delayed d now c _ fun scene h => scene.rebuildFailed_delayed h d

theorem complete_delayed (ticket : Ticket) (outcome : Outcome) :
    (s.delayed d).complete (now + d) ticket outcome =
      (s.complete now ticket outcome).delayed d := by
  have call : (s.delayed d).call = s.call := rfl
  simp only [complete, call]
  split
  · rfl
  · cases outcome with
    | rebuilt => exact s.rebuilt_delayed d now ticket.circuit ticket.epoch
    | failed =>
        simp only [awaiting_delayed, rebuildFailed_delayed]
        cases s.awaiting ticket.circuit ticket.epoch with
        | error refusal => rfl
        | ok h => rfl

/-- An operation of a call that begins later gives the same answer, later. -/
theorem step_delayed (operation : Operation) :
    (s.delayed d).step (now + d) operation = (s.step now operation).delayed d := by
  have quietly {r r' : Scheduler × List Notice}
      (same : r' = (r.1.delayed d, r.2.map (Notice.delayed d))) :
      step.quiet r' = (step.quiet r).delayed d := by
    rw [same]
    rfl
  cases operation with
  | pick =>
      simp only [step, pick_delayed]
      rfl
  | sent c => exact quietly (s.act_delayed d now c _ fun _ _ => rfl)
  | sendFailed c => exact quietly (s.act_delayed d now c _ fun scene h => scene.sendFailed_delayed h d)
  | lateToBuffer c percent => exact quietly (s.act_delayed d now c _ fun _ _ => rfl)
  | feedback reports => exact quietly (s.feedback_delayed d now reports)
  | lateness percents => exact quietly (s.feedback_delayed d now _)
  | countWindow c lateToBuffer =>
      exact quietly (s.act_delayed d now c _ fun scene h => scene.countWindow_delayed h d lateToBuffer)
  | checkQuarantine c =>
      exact quietly (s.act_delayed d now c _ fun scene h => scene.checkQuarantine_delayed h d)
  | rebuilt c epoch =>
      simp only [step, rebuilt_delayed]
      rfl
  | rebuildFailed c => exact quietly (s.rebuildFailed_delayed d now c)
  | complete ticket outcome =>
      simp only [step, complete_delayed]
      rfl
  | takeRequests => rfl

end Scheduler

end Multipath
