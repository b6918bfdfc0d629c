import Multipath.Proofs.Counting
import Multipath.Proofs.Intake

/-! # What a window calls for

Whether a window starts a cooldown goes by what the rules see in it and by how many windows of low
delivery came before it (`cooldowns_called`). A cooldown that runs is safe from all windows to come, be
they of the same batch of reports: the ramp and the rebuild rules do not touch it (`feedback_cooldown`),
and the verdict that would is not passed.
-/

namespace Multipath

/-- A count that reaches the threshold has reached it on the counter. -/
theorem Sight.cause?_min (sight : Sight) (rules : CooldownRules) (n : Nat) :
    sight.cause? rules (Counter.bump (min n Counter.limit)) = sight.cause? rules (n + 1) := by
  have reached : rules.lowDeliveryWindows.toNat ≤ Counter.bump (min n Counter.limit) ↔
      rules.lowDeliveryWindows.toNat ≤ n + 1 := by
    have bumped : Counter.bump (min n Counter.limit) = min (n + 1) Counter.limit := by
      unfold Counter.bump
      omega
    rw [bumped, Counter.le_min_limit]
  simp only [cause?, reached]

/-- When the last cooldown ends, and what it is for. -/
def Health.cooldown (h : Health) : Option Instant × Option CooldownCause :=
  (h.coolingUntil, h.lastCause)

theorem Health.cooling_congr {h h' : Health} (same : h'.cooldown = h.cooldown) (now : Instant) :
    h'.cooling now = h.cooling now := by
  have until_ : h'.coolingUntil = h.coolingUntil := congrArg Prod.fst same
  simp only [cooling, until_]

namespace Scene

variable {scene : Scene} {h h' : Health} {page : Page}

/-! ## Verdicts -/

/-- A window tells of a cooldown as the rules see it, unless one is running. -/
theorem Episode.told_verdict (episode : scene.Episode h (some page) h') {sight : Sight}
    (judged : page.occasion = .judged sight) (accepted : scene.settings.check = .ok ())
    (few : h.sent < UInt64.size) (cause : CooldownCause) :
    page.told = some (.cooldownTriggered scene.circuit cause) ↔
      sight.cooling = false ∧
        sight.cause? scene.settings.cooldown (Counter.bump h.lowDeliveries) = some cause := by
  rw [episode.told_judged judged accepted few]
  cases sight.cooling <;> simp

/-- A cooldown for anything but failed frames was told by a window. -/
theorem Episode.judged_of_told (episode : scene.Episode h (some page) h') {cause : CooldownCause}
    (told : page.told = some (.cooldownTriggered scene.circuit cause)) (other : cause ≠ .sendFailure) :
    ∃ sight, page.occasion = .judged sight := by
  obtain failed | judged | ⟨bad, held, busy, counted⟩ := episode.occasion_of_called told rfl
  · rw [episode.told_failed failed] at told
    split at told
    · cases told
      exact (other rfl).elim
    · cases told
  · exact judged
  · rw [episode.told_counted counted] at told
    split at told <;> cases told

/-! ## Cooldowns that run -/

variable (scene h)

theorem judge_cooldown (running : h.cooling scene.now = true) :
    (scene.judge h).health.cooldown = h.cooldown := by
  obtain ⟨lowDeliveries, same⟩ := h.judge_health scene.settings.cooldown scene.phase
  obtain ⟨cause, -, still, -, -⟩ | ⟨-, -, after⟩ := scene.judge_outcome h
  · rw [same] at still
    exact nomatch running.symm.trans still
  · rw [after, same]
    rfl

theorem ramp_cooldown : (scene.ramp h).health.cooldown = h.cooldown := by
  obtain ⟨cleanStreak, weight, ramped, -⟩ := scene.ramp_outcome h
  rw [ramped]
  rfl

theorem countWindow_cooldown (lateToBuffer : Float) :
    (scene.countWindow lateToBuffer h).health.cooldown = h.cooldown := by
  simp only [countWindow]
  split
  · rfl
  · split
    · rfl
    · rfl

theorem checkQuarantine_cooldown : (scene.checkQuarantine h).health.cooldown = h.cooldown := by
  unfold checkQuarantine requestRebuild
  cases h.holdVerdict scene.settings.rebuild scene.now with
  | pending => rfl
  | release => rfl
  | rebuild => cases scene.holder <;> rfl

theorem judgeWindow_cooldown (running : h.cooling scene.now = true) :
    (scene.judgeWindow h).health.cooldown = h.cooldown :=
  scene.judgeWindow_health h (scene.judge_cooldown h running)
    (fun g => (scene.ramp_cooldown g).trans)
    (fun g late => (scene.countWindow_cooldown g late).trans)
    (fun g => (scene.checkQuarantine_cooldown g).trans)

/-- A report neither extends a cooldown that is running nor gives it another cause. -/
theorem feedback_cooldown (report : PeerReport) (running : h.cooling scene.now = true) :
    (scene.feedback report h).health.cooldown = h.cooldown := by
  simp only [feedback]
  split
  · exact scene.judgeWindow_cooldown (h.takeReport report) running
  · rfl

end Scene

namespace Scheduler

variable {now : Instant} {c : Nat} {h : Health}

theorem takeReports_append (s : Scheduler) (first rest : List (Nat × PeerReport)) :
    (s.takeReports now (first ++ rest)).1 =
      ((s.takeReports now first).1.takeReports now rest).1 := by
  induction first generalizing s with
  | nil => rfl
  | cons item first ih => exact ih _

/-- Neither does a batch of reports, whichever circuits it names and however often. -/
theorem takeReports_cooldown {s : Scheduler} (reports : List (Nat × PeerReport))
    (found : s.circuits[c]? = some h) (running : h.cooling now = true) :
    ∃ h', (s.takeReports now reports).1.circuits[c]? = some h' ∧ h'.cooldown = h.cooldown := by
  have safe : ∃ h', (s.takeReports now reports).1.circuits[c]? = some h' ∧
      (h.cooling now = true → h'.cooldown = h.cooldown) := by
    refine takeReports_record (R := fun _ h _ h' => h.cooling now = true → h'.cooldown = h.cooldown)
      (fun _ _ => rfl) ?_ reports found
    intro holder report rest h events h' t later running
    -- What the first report leaves running runs when the rest come in.
    have first : t.health.cooldown = h.cooldown := Scene.feedback_cooldown _ h report running
    exact (later ((Health.cooling_congr first now).trans running)).trans first
  obtain ⟨h', found', same⟩ := safe
  exact ⟨h', found', same running⟩

end Scheduler

namespace Session

variable {settings : Settings} {call : CallId} {w : Session}

/-- In any run a window started a cooldown exactly when none was running and a rule called for one; low
delivery does so by the windows since the count was last started over. So a batch of reports leaves a
cooldown as it is from the report on that started it. -/
theorem cooldowns_called (opened : w.Opened settings call) (moves : List Move) {c : Nat} {h : Health}
    (found : (w.run moves).final.scheduler.circuits[c]? = some h) :
    let diary := (w.run moves).diary c
    let u := (w.run moves).final
    diary.filterMap Page.told = (w.run moves).events.filter (·.circuit = c) ∧
    (∀ {past since : Diary} {page : Page}, diary = past ++ page :: since →
      (∀ sight, page.occasion = .judged sight → ∀ cause,
        (page.told = some (.cooldownTriggered c cause) ↔
          sight.cooling = false ∧
            sight.cause? settings.cooldown (Streak.lowWindows.length past + 1) = some cause)) ∧
      ∀ cause ≠ .sendFailure, page.told = some (.cooldownTriggered c cause) →
        ∃ sight, page.occasion = .judged sight) ∧
    ∀ {first rest : List (Nat × PeerReport)} {g : Health},
      (u.scheduler.feedback u.now first).1.circuits[c]? = some g → g.cooling u.now = true →
      ∃ g', (u.scheduler.feedback u.now (first ++ rest)).1.circuits[c]? = some g' ∧
        g'.cooldown = g.cooldown := by
  intro diary u
  obtain ⟨-, pages⟩ := opened.reckoned moves found
  refine ⟨(w.run_keeps moves c).told, ?_, ?_⟩
  · intro past since page split
    obtain ⟨scene, before, after, rfl, rfl, counted, -, episode⟩ := pages split
    refine ⟨fun sight judged cause => ?_, fun cause other told => episode.judged_of_told told other⟩
    rw [episode.told_verdict judged opened.accepted counted.few, counted.lowDeliveries,
      Sight.cause?_min]
  · intro first rest g known running
    obtain ⟨g', kept, same⟩ := Scheduler.takeReports_cooldown rest known running
    refine ⟨g', ?_, same⟩
    rw [← kept]
    exact congrArg (·.circuits[c]?) (u.scheduler.takeReports_append first rest)

/-- Circuit 0 has sent a frame. -/
def sentOne : Session := (brisk.run [.ask (.sent 0)]).final

/-- Nothing was received of circuit 0, as the peer says twice. -/
def starved : List (Nat × PeerReport) := [(0, {}), (0, {})]

/-- The second one of the windows starts a cooldown, which a third one in the batch leaves as it is. -/
theorem cooldowns_called_brisk :
    let r := brisk.run [.ask (.sent 0), .ask (.feedback starved)]
    brisk.Opened .brisk ⟨"A"⟩ ∧
      (∃ past page since, r.diary 0 = past ++ page :: since ∧ Streak.lowWindows.length past = 1 ∧
        page.told = some (.cooldownTriggered 0 .deliveryRate)) ∧
      ∃ g g', (sentOne.scheduler.feedback sentOne.now starved).1.circuits[0]? = some g ∧
        g.cooling sentOne.now = true ∧
        (sentOne.scheduler.feedback sentOne.now
          (starved ++ [(0, { missing := 100.0 })])).1.circuits[0]? = some g' ∧
        g'.cooldown = g.cooldown := by
  intro r
  obtain ⟨h, found⟩ : ∃ h, r.final.scheduler.circuits[0]? = some h := ⟨_, rfl⟩
  obtain ⟨h', found'⟩ : ∃ h', sentOne.scheduler.circuits[0]? = some h' := ⟨_, rfl⟩
  obtain ⟨g, known⟩ :
      ∃ g, (sentOne.scheduler.feedback sentOne.now starved).1.circuits[0]? = some g := ⟨_, rfl⟩
  have running : g.cooling sentOne.now = true := by
    cases known
    decide
  obtain ⟨-, told, -⟩ := cooldowns_called brisk_opened _ found
  obtain ⟨-, -, kept⟩ := cooldowns_called brisk_opened [.ask (.sent 0)] found'
  obtain ⟨g', known', same⟩ := kept known running
  have split : r.diary 0 =
      (r.diary 0).take 3 ++ ⟨.judged ⟨false, false, some true, false, false⟩,
        some (.cooldownTriggered 0 .deliveryRate)⟩ :: (r.diary 0).drop 4 := rfl
  exact ⟨brisk_opened, ⟨_, _, _, split, rfl, ((told split).1 _ rfl _).2 ⟨rfl, by decide⟩⟩,
    g, g', known, running, known', same⟩

end Session

end Multipath
