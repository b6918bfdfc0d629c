import Multipath.Proofs.Runs

/-! # The diary of a circuit

Events say what became of a circuit, not what led to it: a window that does no harm tells none, nor
does a frame that goes out. The diary of a circuit has a page for every frame that went out or failed
and for every window that a rule looked at, with the event that it gave, and one for each other event.
`Run.diary` reads it off the moves of a run.

A page is written by an `Episode`, which says what becomes of the record meanwhile, and a `Life` is a
row of episodes. Every run is one for each of its circuits (`Session.run_keeps`), and it tells in its
pages exactly the circuit's events. So a law of diaries and records is proved episode by episode, and
`Life.cut` opens a diary at any of its pages.
-/

namespace Multipath

/-- What the cooldown rules see in a window, before anything is made of it. -/
structure Sight where
  /-- More frames are missing than the phase allows. -/
  missing : Bool
  /-- More frames are concealed than the phase allows. -/
  concealed : Bool
  /-- Whether delivery is below the floor of the phase, once enough frames were sent to tell. -/
  low : Option Bool
  /-- The concealment can be heard. -/
  audible : Bool
  /-- A cooldown is running. -/
  cooling : Bool
  deriving DecidableEq, Repr

/-- What a page is about. -/
inductive Occasion where
  | sent
  | failed
  /-- The cooldown rules looked at a window. -/
  | judged (sight : Sight)
  /-- The rebuild rules looked at a window; `busy` is whether any rebuild was in flight. -/
  | counted (bad held busy : Bool)
  | other
  deriving DecidableEq, Repr

structure Page where
  occasion : Occasion
  told : Option Event := none
  deriving DecidableEq, Repr

abbrev Diary := List Page

def Diary.ofEvents (events : List Event) : Diary := events.map fun e => ⟨.other, some e⟩

/-- The page of a turn that tells no more than one event. -/
def Turn.page (t : Turn) (occasion : Occasion) : Page := ⟨occasion, t.events.head?⟩

/-! ## Diaries of moves -/

namespace Scene

def sight (scene : Scene) (h : Health) : Sight :=
  let rules := scene.settings.cooldown
  { missing := (rules.quality scene.phase).any fun limits => decide (limits.1 < h.missing)
    concealed := (rules.quality scene.phase).any fun limits => decide (limits.2 < h.concealed)
    low := (rules.delivery scene.phase).bind fun floor =>
      (h.deliveryRate scene.minFrames).map fun rate => decide (rate < floor)
    audible := decide (rules.audibleConcealed < h.concealed)
    cooling := h.cooling scene.now }

/-- The rebuild rules look at a window once the call has settled and enough frames were sent on the
path. -/
def CountsWindow (scene : Scene) (h : Health) : Prop :=
  scene.phase.settled = true ∧ scene.minFrames ≤ h.sentOnPath

instance (scene : Scene) (h : Health) : Decidable (scene.CountsWindow h) :=
  inferInstanceAs (Decidable (_ ∧ _))

def countedPage (scene : Scene) (lateToBuffer : Float) (h : Health) : Page :=
  (scene.countWindow lateToBuffer h).page
    (.counted (h.badWindow scene.settings.rebuild lateToBuffer) h.held scene.holder.isSome)

def countedDiary (scene : Scene) (lateToBuffer : Float) (h : Health) : Diary :=
  if scene.CountsWindow h then [scene.countedPage lateToBuffer h] else []

/-- A window that is judged: each rule in its turn, on the record that the rules before it left. -/
def windowDiary (scene : Scene) (h : Health) : Diary :=
  let ramped := (scene.judge h).andThen scene.ramp
  let counting := scene.settings.rebuild.onFeedback
  let counted :=
    if counting then ramped.andThen fun h => scene.countWindow h.lateToBuffer h else ramped
  (scene.judge h).page (.judged (scene.sight h)) ::
    ((if counting then scene.countedDiary ramped.health.lateToBuffer ramped.health else []) ++
      if counted.health.quarantined then
        Diary.ofEvents (scene.checkQuarantine counted.health).events
      else [])

def reportDiary (scene : Scene) (report : PeerReport) (h : Health) : Diary :=
  if scene.phase.settled && decide (scene.minFrames ≤ report.received) then
    scene.windowDiary (h.takeReport report)
  else []

end Scene

namespace Scheduler

/-- What a turn of circuit `i` writes into the diary of circuit `c`. -/
def ownDiary (s : Scheduler) (now : Instant) (c i : Nat) (diary : Scene → Health → Diary) : Diary :=
  if i = c then s.circuits[c]?.elim [] (diary (s.scene now c)) else []

def feedbackDiary (s : Scheduler) (now : Instant) (c : Nat) : List (Nat × PeerReport) → Diary
  | [] => []
  | (i, report) :: rest =>
      let own := s.ownDiary now c i (·.reportDiary report)
      let s := (s.act now i "update_from_receiver_feedback" (·.feedback report)).1
      own ++ s.feedbackDiary now c rest

def diary (s : Scheduler) (now : Instant) (c : Nat) : Operation → Diary
  | .sent i => s.ownDiary now c i fun _ _ => [⟨.sent, none⟩]
  | .sendFailed i => s.ownDiary now c i fun scene h => [(scene.sendFailed h).page .failed]
  | .countWindow i lateToBuffer => s.ownDiary now c i (·.countedDiary lateToBuffer)
  | .feedback reports => s.feedbackDiary now c reports
  | .lateness percents =>
      s.feedbackDiary now c (percents.map fun (i, late) => (i, .lateOnly late))
  | operation =>
      Diary.ofEvents
        ((Notice.events (s.step now operation).notices).filter (·.circuit = c))

end Scheduler

def Transition.diary (c : Nat) (t : Transition) : Diary :=
  match t.move with
  | .advance _ => []
  | .ask operation => t.before.scheduler.diary t.before.now c operation

def Run.diary (r : Run) (c : Nat) : Diary := r.transitions.flatMap (Transition.diary c)

/-! ## Episodes -/

/-- What is counted of a circuit, the frames for the ramp apart. -/
structure Counts where
  failures : Nat
  badStreak : Nat
  lowDeliveries : Nat
  sent : Nat
  deriving DecidableEq, Repr

def Health.counts (h : Health) : Counts := ⟨h.failures, h.badStreak, h.lowDeliveries, h.sent⟩

/-- An event that a window or a failed frame calls for. -/
def Event.called : Event → Bool
  | cooldownTriggered .. | quarantined .. => true
  | _ => false

namespace Scene

/-- One page of a diary, or none, and what becomes of the record meanwhile. -/
inductive Episode (scene : Scene) (h : Health) : Option Page → Health → Prop
  | quiet {h' : Health} (same : h'.counts = h.counts) : Episode scene h none h'
  | sent : Episode scene h (some ⟨.sent, none⟩) h.countSent
  | failed : Episode scene h (some ((scene.sendFailed h).page .failed)) (scene.sendFailed h).health
  | judged :
      Episode scene h (some ((scene.judge h).page (.judged (scene.sight h)))) (scene.judge h).health
  | counted (lateToBuffer : Float) (due : scene.CountsWindow h) :
      Episode scene h (some (scene.countedPage lateToBuffer h))
        (scene.countWindow lateToBuffer h).health
  | other {e : Event} {h' : Health} (deed : scene.Deed h (some e) h') (uncalled : e.called = false) :
      Episode scene h (some ⟨.other, some e⟩) h'

end Scene

/-- Episodes of one circuit in a row, with their pages in order. -/
inductive Life (settings : Settings) (c : Nat) : Health → Diary → Health → Prop
  | refl (h : Health) : Life settings c h [] h
  | step {scene : Scene} {h h' h'' : Health} {page : Option Page} {pages : Diary}
      (rules : scene.settings = settings) (own : scene.circuit = c)
      (first : scene.Episode h page h') (rest : Life settings c h' pages h'') :
      Life settings c h (page.toList ++ pages) h''

namespace Life

variable {settings : Settings} {c : Nat} {h h' h'' : Health} {pages pages' : Diary}

theorem single {scene : Scene} {page : Option Page} (episode : scene.Episode h page h') :
    Life scene.settings scene.circuit h page.toList h' := by
  simpa using Life.step rfl rfl episode (.refl h')

theorem trans (life : Life settings c h pages h') (life' : Life settings c h' pages' h'') :
    Life settings c h (pages ++ pages') h'' := by
  induction life with
  | refl h => exact life'
  | step rules own first rest ih =>
      rw [List.append_assoc]
      exact .step rules own first (ih life')

/-- What was written before a page, the episode that wrote it, and what came after. -/
theorem cut {past since : Diary} {page : Page}
    (life : Life settings c h (past ++ page :: since) h'') :
    ∃ (scene : Scene) (before after : Health), scene.settings = settings ∧ scene.circuit = c ∧
      Life settings c h past before ∧ scene.Episode before (some page) after ∧
      Life settings c after since h'' := by
  generalize split : past ++ page :: since = pages at life
  induction life generalizing past with
  -- An episode without a page is passed by; else the page sought is its own or a later one.
  | refl h => simp at split
  | @step scene h h' h'' first pages rules own episode rest ih =>
      cases first with
      | none =>
          obtain ⟨scene', before, after, rules', own', led, written, followed⟩ := ih split
          exact ⟨scene', before, after, rules', own', .step rules own episode led, written, followed⟩
      | some first =>
          cases past with
          | nil =>
              simp only [Option.toList_some, List.nil_append, List.cons_append,
                List.cons.injEq] at split
              obtain ⟨rfl, rfl⟩ := split
              exact ⟨scene, h, h', rules, own, .refl h, episode, rest⟩
          | cons earlier past =>
              simp only [Option.toList_some, List.nil_append, List.cons_append,
                List.cons.injEq] at split
              obtain ⟨rfl, split⟩ := split
              obtain ⟨scene', before, after, rules', own', led, written, followed⟩ := ih split
              exact ⟨scene', before, after, rules', own', .step rules own episode led, written,
                followed⟩

/-- A law of diaries and records that every episode keeps. -/
theorem law {Law : Diary → Health → Prop} (life : Life settings c h pages h') {past : Diary}
    (start : Law past h)
    (keep : ∀ {scene : Scene} {past : Diary} {h h' : Health} {page : Option Page},
      scene.settings = settings → scene.circuit = c → scene.Episode h page h' → Law past h →
      Law (past ++ page.toList) h') : Law (past ++ pages) h' := by
  induction life generalizing past with
  | refl h =>
      rw [List.append_nil]
      exact start
  | step rules own first rest ih =>
      rw [← List.append_assoc]
      exact ih (keep rules own first start)

end Life

/-! ## Turns -/

namespace Scene

/-- The pages of a turn: they tell its events and lead to its record. -/
structure Writes (scene : Scene) (h : Health) (pages : Diary) (t : Turn) : Prop where
  told : pages.filterMap Page.told = t.events
  life : Life scene.settings scene.circuit h pages t.health

variable {scene : Scene} {h : Health} {pages pages' : Diary} {t : Turn} {next : Health → Turn}

theorem Writes.quiet (same : t.health.counts = h.counts) (quiet : t.events = []) :
    scene.Writes h [] t :=
  ⟨quiet.symm, .single (.quiet same)⟩

theorem Writes.page {page : Page} (episode : scene.Episode h (some page) t.health)
    (told : t.events = page.told.toList) : scene.Writes h [page] t := by
  refine ⟨?_, .single episode⟩
  rw [told]
  cases hp : page.told <;> simp [hp]

theorem Writes.andThen (first : scene.Writes h pages t)
    (rest : scene.Writes t.health pages' (next t.health)) :
    scene.Writes h (pages ++ pages') (t.andThen next) := by
  refine ⟨?_, first.life.trans rest.life⟩
  rw [List.filterMap_append, first.told, rest.told, Turn.events_andThen]

theorem Writes.silent_andThen {h' : Health} (same : h'.counts = h.counts)
    (rest : scene.Writes h' pages (next h')) : scene.Writes h pages (next h') := by
  rw [← Scene.silent_andThen h' next]
  exact Writes.andThen (t := { health := h' }) (.quiet same rfl) rest

theorem Writes.other {e : Event} (deed : scene.Deed h (some e) t.health) (uncalled : e.called = false)
    (told : t.events = [e]) : scene.Writes h (Diary.ofEvents t.events) t := by
  rw [told]
  exact .page (.other deed uncalled) told

variable (scene h)

theorem sendFailed_cases :
    let t := scene.sendFailed h
    let threshold := scene.settings.cooldown.failureThreshold.toNat
    (threshold ≤ Counter.bump h.failures ∧
      t.events = [.cooldownTriggered scene.circuit .sendFailure] ∧
      t.health.counts = ⟨0, h.badStreak, 0, h.sent⟩) ∨
    (Counter.bump h.failures < threshold ∧ t.events = [] ∧
      t.health.counts = { h.counts with failures := Counter.bump h.failures }) := by
  simp only [sendFailed, Health.countFailure]
  by_cases reached :
      scene.settings.cooldown.failureThreshold.toNat ≤ Counter.bump h.failures
  · rw [if_pos reached]
    exact .inl ⟨reached, rfl, rfl⟩
  · rw [if_neg reached]
    exact .inr ⟨Nat.lt_of_not_le reached, rfl, rfl⟩

theorem sendFailed_writes :
    scene.Writes h [(scene.sendFailed h).page .failed] (scene.sendFailed h) := by
  refine .page .failed ?_
  simp only [Turn.page]
  obtain ⟨-, told, -⟩ | ⟨-, told, -⟩ := scene.sendFailed_cases h
  · rw [told]
    rfl
  · rw [told]
    rfl

/-- A verdict that calls for a cooldown gets it, unless one is running. -/
theorem judge_outcome :
    let verdict := h.judge scene.settings.cooldown scene.phase
    let t := scene.judge h
    (∃ cause, verdict.cause = some cause ∧ verdict.health.cooling scene.now = false ∧
      t.events = [.cooldownTriggered scene.circuit cause] ∧
      t.health = verdict.health.coolDown scene.settings.cooldown scene.minWeight cause scene.now) ∨
    ((verdict.cause = none ∨ verdict.health.cooling scene.now = true) ∧ t.events = [] ∧
      t.health = verdict.health) := by
  simp only [judge]
  generalize h.judge scene.settings.cooldown scene.phase = verdict
  obtain ⟨h', cause, low⟩ := verdict
  cases cause with
  | none => exact .inr ⟨.inl rfl, by cases low <;> rfl, rfl⟩
  | some cause =>
      dsimp only
      by_cases running : h'.cooling scene.now = true
      · rw [if_pos running]
        exact .inr ⟨.inr running, by cases low <;> rfl, rfl⟩
      · rw [if_neg running]
        exact .inl ⟨cause, rfl, Bool.eq_false_iff.2 running, by cases low <;> rfl, rfl⟩

theorem judge_writes :
    scene.Writes h [(scene.judge h).page (.judged (scene.sight h))] (scene.judge h) := by
  refine .page .judged ?_
  obtain ⟨cause, -, -, told, -⟩ | ⟨-, told, -⟩ := scene.judge_outcome h
  · simp only [Turn.page, told]
    rfl
  · simp only [Turn.page, told]
    rfl

theorem ramp_writes : scene.Writes h [] (scene.ramp h) := by
  obtain ⟨cleanStreak, weight, ramped, -⟩ := scene.ramp_outcome h
  exact .quiet (by rw [ramped]; rfl) (scene.ramp_quiet h)

/-- The streak after a window, and the quarantine that it calls for. -/
theorem countWindow_eq (lateToBuffer : Float) (due : scene.CountsWindow h) :
    let t := scene.countWindow lateToBuffer h
    t.health.counts = { h.counts with
      badStreak :=
        if h.badWindow scene.settings.rebuild lateToBuffer then Counter.bump h.badStreak else 0 } ∧
    t.events =
      if scene.settings.rebuild.badStreak.toNat ≤ t.health.badStreak ∧ h.held = false ∧
          scene.holder = none then
        [.quarantined scene.circuit h.backoff]
      else [] := by
  obtain ⟨settled, enough⟩ := due
  have open_ : (!scene.phase.settled || decide (h.sentOnPath < scene.minFrames)) = false := by
    simp [settled, Nat.not_lt.2 enough]
  intro t
  generalize streaked : (if h.badWindow scene.settings.rebuild lateToBuffer then
    Counter.bump h.badStreak else 0) = streak
  have counted : h.countWindow scene.settings.rebuild
      (h.badWindow scene.settings.rebuild lateToBuffer) =
        ({ h with badStreak := streak }, decide (scene.settings.rebuild.badStreak.toNat ≤ streak)) := by
    rw [← streaked]
    rfl
  have turn : t = scene.countWindow lateToBuffer h := rfl
  simp only [countWindow, open_, Bool.false_eq_true, if_false, counted] at turn
  generalize h.badWindow scene.settings.rebuild lateToBuffer = bad at turn
  -- The remarks on a window are no events.
  have quiet : Notice.events
      (if bad then [.badWindow scene.circuit streak h.concealed h.missing]
        else if 0 < h.badStreak then [.streakReset scene.circuit h.badStreak]
        else []) = [] := by
    split
    · rfl
    · split <;> rfl
  have unheld : Health.held { h with badStreak := streak } = h.held := rfl
  by_cases called : scene.settings.rebuild.badStreak.toNat ≤ streak ∧ h.held = false ∧
      scene.holder = none
  · rw [if_pos (by simpa [unheld, and_assoc] using called)] at turn
    rw [turn, Turn.events_andThen, Turn.events, quiet]
    exact ⟨rfl, (if_pos called).symm⟩
  · rw [if_neg (by simpa [unheld, and_assoc] using called)] at turn
    rw [turn]
    exact ⟨rfl, quiet.trans (if_neg called).symm⟩

theorem countWindow_writes (lateToBuffer : Float) :
    scene.Writes h (scene.countedDiary lateToBuffer h) (scene.countWindow lateToBuffer h) := by
  unfold countedDiary
  split
  · rename_i due
    refine .page (.counted lateToBuffer due) ?_
    simp only [countedPage, Turn.page]
    rw [(scene.countWindow_eq h lateToBuffer due).2, apply_ite List.head?, apply_ite Option.toList]
    rfl
  · rename_i early
    have idle : scene.countWindow lateToBuffer h = { health := h } := by
      refine if_pos ?_
      rw [CountsWindow, Decidable.not_and_iff_or_not] at early
      simpa using early
    rw [idle]
    exact .quiet rfl rfl

theorem checkQuarantine_writes :
    scene.Writes h (Diary.ofEvents (scene.checkQuarantine h).events) (scene.checkQuarantine h) := by
  unfold checkQuarantine
  cases due : h.holdVerdict scene.settings.rebuild scene.now with
  | pending => exact .quiet rfl rfl
  | release => exact .other (.release due) rfl rfl
  | rebuild =>
      simp only [requestRebuild]
      cases holder : scene.holder with
      | some circuit => exact .other (.defer due (by simp [holder])) rfl rfl
      | none => exact .other (.begin due holder) rfl rfl

theorem judgeWindow_writes : scene.Writes h (scene.windowDiary h) (scene.judgeWindow h) := by
  have ramped := (scene.judge_writes h).andThen (scene.ramp_writes (scene.judge h).health)
  simp only [windowDiary, judgeWindow]
  rw [List.append_nil] at ramped
  generalize (scene.judge h).page (.judged (scene.sight h)) = page at ramped ⊢
  generalize (scene.judge h).andThen scene.ramp = t at ramped ⊢
  have counted : scene.Writes h
      (page :: if scene.settings.rebuild.onFeedback then
        scene.countedDiary t.health.lateToBuffer t.health else [])
      (if scene.settings.rebuild.onFeedback then
        t.andThen fun h => scene.countWindow h.lateToBuffer h else t) := by
    split
    · exact ramped.andThen (scene.countWindow_writes t.health t.health.lateToBuffer)
    · exact ramped
  rw [← List.cons_append]
  generalize (page :: if scene.settings.rebuild.onFeedback then
    scene.countedDiary t.health.lateToBuffer t.health else []) = pages at counted ⊢
  generalize (if scene.settings.rebuild.onFeedback then
    t.andThen fun h => scene.countWindow h.lateToBuffer h else t) = t' at counted ⊢
  split
  · exact counted.andThen (scene.checkQuarantine_writes _)
  · rw [List.append_nil]
    exact counted

theorem feedback_writes (report : PeerReport) :
    scene.Writes h (scene.reportDiary report h) (scene.feedback report h) := by
  simp only [reportDiary, feedback]
  split
  · exact .silent_andThen rfl (scene.judgeWindow_writes (h.takeReport report))
  · exact .quiet rfl rfl

theorem rebuilt_writes (awaited : h.rebuilding = true) :
    scene.Writes h (Diary.ofEvents (scene.rebuilt h.epoch h).events) (scene.rebuilt h.epoch h) :=
  .other (.complete awaited) rfl rfl

theorem rebuildFailed_writes :
    scene.Writes h (Diary.ofEvents (scene.rebuildFailed h).events) (scene.rebuildFailed h) := by
  unfold rebuildFailed
  split
  · rename_i awaited
    exact .other (.fail awaited) rfl rfl
  · exact .quiet rfl rfl

end Scene

/-! ## Operations -/

namespace Scheduler

/-- The diary of a circuit over a stretch of the scheduler's life. -/
structure Keeps (c : Nat) (s : Scheduler) (events : List Event) (pages : Diary) (s' : Scheduler) :
    Prop where
  settings : s'.settings = s.settings
  told : pages.filterMap Page.told = events.filter (·.circuit = c)
  life : ∀ h, s.circuits[c]? = some h →
    ∃ h', s'.circuits[c]? = some h' ∧ Life s.settings c h pages h'

variable {s s' s'' : Scheduler} {now : Instant} {c i : Nat} {events events' : List Event}
  {pages pages' : Diary} {h : Health}

namespace Keeps

/-- Nothing is told, and nothing happens to the record. -/
theorem idle (settings : s'.settings = s.settings) (same : s'.circuits[c]? = s.circuits[c]?) :
    Keeps c s [] [] s' :=
  ⟨settings, rfl, fun h found => ⟨h, same.trans found, .refl h⟩⟩

theorem trans (keeps : Keeps c s events pages s') (keeps' : Keeps c s' events' pages' s'') :
    Keeps c s (events ++ events') (pages ++ pages') s'' := by
  refine ⟨keeps'.settings.trans keeps.settings, ?_, fun h found => ?_⟩
  · rw [List.filterMap_append, List.filter_append, keeps.told, keeps'.told]
  · obtain ⟨h', found', life⟩ := keeps.life h found
    obtain ⟨h'', found'', life'⟩ := keeps'.life h' found'
    rw [keeps.settings] at life'
    exact ⟨h'', found'', life.trans life'⟩

/-- Nothing that comes after changes the records. -/
theorem same (keeps : Keeps c s events pages s') (settings : s''.settings = s'.settings)
    (circuits : s''.circuits = s'.circuits) : Keeps c s events pages s'' := by
  simpa using keeps.trans (.idle settings (by rw [circuits]))

end Keeps

theorem ownDiary_of_found (found : s.circuits[i]? = some h) (now : Instant)
    (diary : Scene → Health → Diary) :
    s.ownDiary now c i diary = if i = c then diary (s.scene now i) h else [] := by
  unfold ownDiary
  split
  · rename_i mine
    rw [← mine, found]
    rfl
  · rfl

theorem ownDiary_of_stray (stray : s.circuits[i]? = none) (now : Instant)
    (diary : Scene → Health → Diary) : s.ownDiary now c i diary = [] := by
  unfold ownDiary
  split
  · rename_i mine
    rw [← mine, stray]
    rfl
  · rfl

/-- A turn of one circuit is written in its own diary. -/
theorem apply_keeps {t : Turn} (found : s.circuits[i]? = some h)
    (own : ∀ e ∈ t.events, e.circuit = i) (writes : (s.scene now i).Writes h pages t) :
    Keeps c s t.events (if i = c then pages else []) (s.apply i t) := by
  by_cases mine : i = c
  · subst i
    rw [if_pos rfl]
    refine ⟨apply_settings .., ?_, fun g found' => ?_⟩
    · rw [writes.told, Event.filter_of_eq own]
    · rw [found] at found'
      cases found'
      exact ⟨t.health, by rw [apply_circuit? found, if_pos rfl], writes.life⟩
  · have others : ∀ e ∈ t.events, e.circuit ≠ c := fun e mem => own e mem ▸ mine
    rw [if_neg mine]
    refine ⟨apply_settings .., (Event.filter_of_ne others).symm, fun g found' => ?_⟩
    exact ⟨g, by rw [apply_circuit? found, if_neg (Ne.symm mine), found'], .refl g⟩

theorem act_keeps {operation : String} {turn : Scene → Health → Turn}
    {diary : Scene → Health → Diary}
    (course : ∀ scene h, Scene.Course scene h (turn scene h))
    (writes : ∀ scene h, Scene.Writes scene h (diary scene h) (turn scene h)) :
    let r := s.act now i operation turn
    Keeps c s (Notice.events r.2) (s.ownDiary now c i diary) r.1 := by
  intro r
  cases found : s.circuits[i]? with
  | none =>
      have ignored : r = _ := act_of_stray found
      rw [ignored, ownDiary_of_stray found]
      exact .idle rfl rfl
  | some h =>
      have acted : r = _ := act_of_found found
      rw [acted, ownDiary_of_found found]
      exact apply_keeps found (course _ h).circuit_eq (writes _ h)

/-- The events of one circuit's turn, as pages. -/
theorem apply_keeps_events {t : Turn} (found : s.circuits[i]? = some h)
    (own : ∀ e ∈ t.events, e.circuit = i)
    (writes : (s.scene now i).Writes h (Diary.ofEvents t.events) t) :
    Keeps c s t.events (Diary.ofEvents (t.events.filter (·.circuit = c))) (s.apply i t) := by
  have kept := apply_keeps (c := c) found own writes
  by_cases mine : i = c
  · subst i
    rw [Event.filter_of_eq own]
    rwa [if_pos rfl] at kept
  · have others : ∀ e ∈ t.events, e.circuit ≠ c := fun e mem => own e mem ▸ mine
    rw [Event.filter_of_ne others]
    rwa [if_neg mine] at kept

theorem act_keeps_events {operation : String} {turn : Scene → Health → Turn}
    (course : ∀ scene h, Scene.Course scene h (turn scene h))
    (writes : ∀ scene h, Scene.Writes scene h (Diary.ofEvents (turn scene h).events) (turn scene h)) :
    let r := s.act now i operation turn
    Keeps c s (Notice.events r.2) (Diary.ofEvents ((Notice.events r.2).filter (·.circuit = c))) r.1 := by
  intro r
  cases found : s.circuits[i]? with
  | none =>
      have ignored : r = _ := act_of_stray found
      rw [ignored]
      exact .idle rfl rfl
  | some h =>
      have acted : r = _ := act_of_found found
      rw [acted]
      exact apply_keeps_events found (course _ h).circuit_eq (writes _ h)

theorem takeReports_keeps (s : Scheduler) (reports : List (Nat × PeerReport)) :
    Keeps c s (Notice.events (s.takeReports now reports).2) (s.feedbackDiary now c reports)
      (s.takeReports now reports).1 := by
  induction reports generalizing s with
  | nil => exact .idle rfl rfl
  | cons item rest ih =>
      obtain ⟨i, report⟩ := item
      simp only [takeReports, feedbackDiary, Notice.events_append]
      refine (act_keeps ?_ ?_).trans (ih _)
      · exact fun scene h => scene.feedback_course report h
      · exact fun scene h => scene.feedback_writes h report

theorem feedback_keeps (s : Scheduler) (reports : List (Nat × PeerReport)) :
    Keeps c s (Notice.events (s.feedback now reports).2) (s.feedbackDiary now c reports)
      (s.feedback now reports).1 := by
  rw [feedback_events]
  exact s.takeReports_keeps reports

theorem rebuilt_keeps (s : Scheduler) (i epoch : Nat) :
    let r := s.rebuilt now i epoch
    Keeps c s (Notice.events r.notices)
      (Diary.ofEvents ((Notice.events r.notices).filter (·.circuit = c))) r.scheduler := by
  unfold rebuilt
  cases awaited : s.awaiting i epoch with
  | error refusal => cases refusal <;> exact .idle rfl rfl
  | ok h =>
      obtain ⟨found, rebuilding, rfl⟩ := awaiting_eq_ok.1 awaited
      exact apply_keeps_events found (Scene.rebuilt_course _ h rebuilding).circuit_eq
        (Scene.rebuilt_writes _ h rebuilding)

theorem rebuildFailed_keeps (s : Scheduler) (i : Nat) :
    let r := s.rebuildFailed now i
    Keeps c s (Notice.events r.2) (Diary.ofEvents ((Notice.events r.2).filter (·.circuit = c))) r.1 :=
  act_keeps_events Scene.rebuildFailed_course Scene.rebuildFailed_writes

theorem complete_keeps (s : Scheduler) (ticket : Ticket) (outcome : Outcome) :
    let r := s.complete now ticket outcome
    Keeps c s (Notice.events r.notices)
      (Diary.ofEvents ((Notice.events r.notices).filter (·.circuit = c))) r.scheduler := by
  unfold complete
  split
  · exact .idle rfl rfl
  · cases outcome with
    | rebuilt => exact s.rebuilt_keeps ticket.circuit ticket.epoch
    | failed =>
        cases s.awaiting ticket.circuit ticket.epoch with
        | error refusal => exact .idle rfl rfl
        | ok h => exact s.rebuildFailed_keeps ticket.circuit

theorem choose_keeps (s : Scheduler) (now : Instant) :
    let r := s.choose now
    Keeps c s (Notice.events r.2.2) (Diary.ofEvents ((Notice.events r.2.2).filter (·.circuit = c)))
      r.2.1 := by
  intro r
  rcases s.choose_cases now with ⟨i, generator, choice⟩ | ⟨h, found, out, choice⟩
  · have drawn : r = _ := choice
    rw [drawn]
    exact .idle rfl rfl
  · let t : Turn :=
      { health := h.rescued s.settings.selection.minWeight
        notices := [.rescue s.leastBad (h.rescued s.settings.selection.minWeight).score,
          .event (.rescued s.leastBad)] }
    have rescued : (s.scene now s.leastBad).Deed h (some (.rescued s.leastBad)) t.health :=
      .rescue out
    have least : r = (s.leastBad, s.apply s.leastBad t, t.notices) := choice
    have told : t.events = [.rescued s.leastBad] := rfl
    have own : ∀ e ∈ t.events, e.circuit = s.leastBad := by simp [told, Event.circuit]
    rw [least]
    exact apply_keeps_events found own (.other rescued rfl rfl)

theorem pick_keeps (s : Scheduler) (now : Instant) :
    let r := s.pick now
    Keeps c s (Notice.events r.2.2) (Diary.ofEvents ((Notice.events r.2.2).filter (·.circuit = c)))
      r.2.1 := by
  intro r
  rcases s.pick_cases now with ⟨-, he⟩ | ⟨-, -, -, he⟩ | ⟨-, -, he⟩
  · have probe : r = _ := he
    rw [probe]
    exact .idle rfl rfl
  · have next : r = _ := he
    rw [next]
    exact .idle rfl rfl
  · have chosen : r = _ := he
    rw [chosen]
    exact (s.choose_keeps now).same rfl rfl

theorem step_keeps (s : Scheduler) (now : Instant) (operation : Operation) :
    Keeps c s (Notice.events (s.step now operation).notices) (s.diary now c operation)
      (s.step now operation).scheduler := by
  cases operation with
  | pick => exact s.pick_keeps now
  | sent i => exact act_keeps (fun _ _ => .deed .sent rfl rfl) fun _ _ => .page .sent rfl
  | sendFailed i => exact act_keeps Scene.sendFailed_course Scene.sendFailed_writes
  | lateToBuffer i percent =>
      exact act_keeps_events (fun _ _ => .deed (.lateToBuffer percent) rfl rfl)
        fun _ _ => .quiet rfl rfl
  | feedback reports => exact s.feedback_keeps reports
  | lateness percents => exact s.feedback_keeps _
  | countWindow i lateToBuffer =>
      exact act_keeps (fun scene h => scene.countWindow_course lateToBuffer h)
        fun scene h => scene.countWindow_writes h lateToBuffer
  | checkQuarantine i =>
      exact act_keeps_events Scene.checkQuarantine_course Scene.checkQuarantine_writes
  | rebuilt i epoch => exact s.rebuilt_keeps i epoch
  | rebuildFailed i => exact s.rebuildFailed_keeps i
  | complete ticket outcome => exact s.complete_keeps ticket outcome
  | takeRequests => exact .idle rfl rfl

end Scheduler

/-! ## Runs -/

namespace Session

open Scheduler

variable {w : Session} {c : Nat}

theorem run_cons_diary (w : Session) (move : Move) (moves : List Move) (c : Nat) :
    (w.run (move :: moves)).diary c =
      (w.make move).diary c ++ ((w.make move).after.run moves).diary c :=
  List.flatMap_cons

theorem make_keeps (w : Session) (move : Move) (c : Nat) :
    let t := w.make move
    Keeps c w.scheduler t.events (t.diary c) t.after.scheduler := by
  cases move with
  | advance us => exact .idle rfl rfl
  | ask operation => exact w.scheduler.step_keeps w.now operation

theorem run_keeps (w : Session) (moves : List Move) (c : Nat) :
    let r := w.run moves
    Keeps c w.scheduler r.events (r.diary c) r.final.scheduler := by
  induction moves generalizing w with
  | nil => exact .idle rfl rfl
  | cons move moves ih =>
      intro r
      simp only [r]
      rw [run_cons_events, run_cons_diary]
      exact (w.make_keeps move c).trans (ih (w.make move).after)

end Session

end Multipath
