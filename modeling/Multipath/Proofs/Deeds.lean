import Multipath.Scheduler.Turn

/-! # What a turn is made of

A turn of a circuit is a row of deeds: a record is counted up, judged, cooled down, held, rebuilt. Each
deed gives at most one event, and the event tells what becomes of the rebuild slot. `Scene.Deed` lists
the deeds with the conditions under which they come; the rest of the theory speaks of deeds only, and
`Course` is how every turn of the scheduler is put together from them.

The rebuild rules read and write six fields of a record. They are its hold, and `Scene.Shift` is
all that a deed can do to a hold.
-/

namespace Multipath

@[simp] theorem Notice.events_nil : Notice.events [] = [] := rfl

@[simp] theorem Notice.events_append (first others : List Notice) :
    Notice.events (first ++ others) = Notice.events first ++ Notice.events others :=
  List.filterMap_append

theorem Event.filter_of_eq {events : List Event} {c : Nat} (own : ∀ e ∈ events, e.circuit = c) :
    events.filter (·.circuit = c) = events := by
  rw [List.filter_eq_self]
  simpa using own

theorem Event.filter_of_ne {events : List Event} {c : Nat} (others : ∀ e ∈ events, e.circuit ≠ c) :
    events.filter (·.circuit = c) = [] := by
  rw [List.filter_eq_nil_iff]
  simpa using others

/-- What becomes of the slot with an event. -/
def Event.slotUse : Event → SlotUse
  | rebuildRequested _ epoch => .take epoch
  | rebuildSucceeded .. | rebuildFailed .. => .free
  | _ => .keep

/-- What becomes of the slot with an event, or without one. -/
def slotUse : Option Event → SlotUse
  | none => .keep
  | some e => e.slotUse

def Turn.events (t : Turn) : List Event := Notice.events t.notices

theorem Turn.events_andThen (t : Turn) (next : Health → Turn) :
    (t.andThen next).events = t.events ++ (next t.health).events :=
  Notice.events_append ..

/-- The fields of a record that the rebuild rules go by. -/
structure Hold where
  quarantined : Bool
  rebuilding : Bool
  heldUntil : Option Instant
  epoch : Nat
  failures : Nat
  backoff : Nat
  deriving DecidableEq, Repr

def Health.hold (h : Health) : Hold :=
  ⟨h.quarantined, h.rebuilding, h.heldUntil, h.epoch, h.rebuildFailures, h.backoff⟩

/-- Forced back into service. -/
def Health.rescued (h : Health) (minWeight : Float) : Health :=
  { h with coolingUntil := none, weight := minWeight }

namespace Scene

/-- One deed on a record: its event, if it has one, and the record afterwards. -/
inductive Deed (scene : Scene) (h : Health) : Option Event → Health → Prop
  | sent : Deed scene h none h.countSent
  | failure : Deed scene h none (h.countFailure scene.settings.cooldown).1
  | lateToBuffer (percent : Float) : Deed scene h none { h with lateToBuffer := percent }
  | report (report : PeerReport) : Deed scene h none (h.takeReport report)
  | judged : Deed scene h none (h.judge scene.settings.cooldown scene.phase).health
  | coolDown (cause : CooldownCause) :
      Deed scene h (some (.cooldownTriggered scene.circuit cause))
        (h.coolDown scene.settings.cooldown scene.minWeight cause scene.now)
  | ramp (running : h.cooling scene.now = false) (above : 0.0 < h.weight) (below : h.weight < 1.0) :
      Deed scene h none (h.ramp scene.settings.cooldown).1
  | window (bad : Bool) : Deed scene h none (h.countWindow scene.settings.rebuild bad).1
  | rescue (out : h.selectable scene.now = false) :
      Deed scene h (some (.rescued scene.circuit)) (h.rescued scene.minWeight)
  | quarantine (unheld : h.held = false) (free : scene.holder = none) :
      Deed scene h (some (.quarantined scene.circuit h.backoff)) (h.quarantine scene.now)
  | release (due : h.holdVerdict scene.settings.rebuild scene.now = .release) :
      Deed scene h (some (.quarantineReleased scene.circuit)) (h.release scene.minWeight)
  | begin (due : h.holdVerdict scene.settings.rebuild scene.now = .rebuild)
      (free : scene.holder = none) :
      Deed scene h (some (.rebuildRequested scene.circuit h.beginRebuild.epoch)) h.beginRebuild
  | defer (due : h.holdVerdict scene.settings.rebuild scene.now = .rebuild)
      (taken : scene.holder.isSome) :
      Deed scene h (some (.rebuildDeferred scene.circuit)) h
  | complete (awaited : h.rebuilding = true) :
      Deed scene h (some (.rebuildSucceeded scene.circuit h.epoch))
        (h.completeRebuild scene.settings.rebuild scene.minWeight)
  | fail (awaited : h.rebuilding = true) :
      Deed scene h
        (some (.rebuildFailed scene.circuit (Counter.bump h.rebuildFailures)
          (min (2 * h.backoff) scene.settings.rebuild.maxBackoff.toNat)))
        (h.failRebuild scene.settings.rebuild scene.now)

theorem Deed.circuit_eq {scene : Scene} {h h' : Health} {e : Event}
    (deed : scene.Deed h (some e) h') : e.circuit = scene.circuit := by
  cases deed <;> rfl

/-! ## Holds -/

/-- What one deed does to a hold. -/
inductive Shift (scene : Scene) (a : Hold) : Option Event → Hold → Prop
  | silent : Shift scene a none a
  | coolDown (cause : CooldownCause) :
      Shift scene a (some (.cooldownTriggered scene.circuit cause)) a
  | rescue : Shift scene a (some (.rescued scene.circuit)) a
  | quarantine (unheld : a.quarantined = false ∧ a.rebuilding = false)
      (free : scene.holder = none) (time : Instant) :
      Shift scene a (some (.quarantined scene.circuit a.backoff))
        { a with quarantined := true, heldUntil := some time }
  | release (held : a.quarantined = true) :
      Shift scene a (some (.quarantineReleased scene.circuit))
        { a with quarantined := false, heldUntil := none }
  | begin (held : a.quarantined = true) (free : scene.holder = none) :
      Shift scene a (some (.rebuildRequested scene.circuit (Counter.nextEpoch a.epoch)))
        { a with
          quarantined := false
          rebuilding := true
          heldUntil := none
          epoch := Counter.nextEpoch a.epoch }
  | defer (held : a.quarantined = true) (taken : scene.holder.isSome) :
      Shift scene a (some (.rebuildDeferred scene.circuit)) a
  | complete (awaited : a.rebuilding = true) :
      Shift scene a (some (.rebuildSucceeded scene.circuit a.epoch))
        { a with
          rebuilding := false
          failures := 0
          backoff := scene.settings.rebuild.initialBackoff.toNat }
  | fail (awaited : a.rebuilding = true) (time : Instant) :
      Shift scene a
        (some (.rebuildFailed scene.circuit (Counter.bump a.failures)
          (min (2 * a.backoff) scene.settings.rebuild.maxBackoff.toNat)))
        { a with
          quarantined := true
          rebuilding := false
          heldUntil := some time
          failures := Counter.bump a.failures
          backoff := min (2 * a.backoff) scene.settings.rebuild.maxBackoff.toNat }

theorem Shift.circuit_eq {scene : Scene} {a a' : Hold} {e : Event}
    (h : scene.Shift a (some e) a') : e.circuit = scene.circuit := by
  cases h <;> rfl

/-- A quarantine that is over was one. -/
theorem quarantined_of_holdVerdict {h : Health} {rules : RebuildRules} {now : Instant}
    {verdict : HoldVerdict} (due : h.holdVerdict rules now = verdict)
    (called : verdict ≠ .pending) : h.quarantined = true := by
  cases hq : h.quarantined with
  | true => rfl
  | false =>
      have pending : h.holdVerdict rules now = .pending := by simp [Health.holdVerdict, hq]
      exact (called (due.symm.trans pending)).elim

theorem Deed.shift {scene : Scene} {h h' : Health} {e : Option Event} (deed : scene.Deed h e h') :
    scene.Shift h.hold e h'.hold := by
  cases deed with
  | sent => exact .silent
  | failure =>
      obtain ⟨failures, he⟩ := h.countFailure_fst scene.settings.cooldown
      rw [he]
      exact .silent
  | lateToBuffer percent => exact .silent
  | report report => exact .silent
  | judged =>
      obtain ⟨lowDeliveries, he⟩ := h.judge_health scene.settings.cooldown scene.phase
      rw [he]
      exact .silent
  | coolDown cause => exact .coolDown cause
  | ramp running above below =>
      obtain ⟨cleanStreak, weight, he, -⟩ := h.ramp_fst scene.settings.cooldown
      rw [he]
      exact .silent
  | window bad => exact .silent
  | rescue out => exact .rescue
  | quarantine unheld free =>
      exact .quarantine (by simpa [Health.held, Health.hold] using unheld) free _
  | release due => exact .release (quarantined_of_holdVerdict due nofun)
  | begin due free => exact .begin (quarantined_of_holdVerdict due nofun) free
  | defer due taken => exact .defer (quarantined_of_holdVerdict due nofun) taken
  | complete awaited => exact .complete awaited
  | fail awaited => exact .fail awaited _

/-! ## Turns as rows of deeds -/

/-- A turn that is a row of deeds. Only the last one may use the slot. -/
inductive Course (scene : Scene) : Health → Turn → Prop
  | idle {h : Health} {t : Turn} (same : t.health = h) (quiet : t.events = [])
      (keep : t.slot = .keep) : Course scene h t
  | deed {h : Health} {t : Turn} {e : Option Event} (deed : scene.Deed h e t.health)
      (told : t.events = e.toList) (use : t.slot = slotUse e) : Course scene h t
  | andThen {h : Health} {t : Turn} {next : Health → Turn} (first : Course scene h t)
      (keep : t.slot = .keep) (rest : Course scene t.health (next t.health)) :
      Course scene h (t.andThen next)

theorem Course.circuit_eq {scene : Scene} {h : Health} {t : Turn} (course : scene.Course h t) :
    ∀ e ∈ t.events, e.circuit = scene.circuit := by
  induction course with
  | idle same quiet keep =>
      rw [quiet]
      nofun
  | deed deed told use =>
      intro e mem
      rw [told, Option.mem_toList] at mem
      cases mem
      exact deed.circuit_eq
  | andThen first keep rest ihfirst ihrest =>
      intro e mem
      rw [Turn.events_andThen] at mem
      exact (List.mem_append.1 mem).elim (ihfirst e) (ihrest e)

theorem andThen_slot {t : Turn} {next : Health → Turn} (keep : t.slot = .keep) :
    (t.andThen next).slot = (next t.health).slot := by
  simp only [Turn.andThen]
  cases hu : (next t.health).slot with
  | keep => exact keep
  | take epoch => rfl
  | free => rfl

theorem coolDown_course (scene : Scene) (cause : CooldownCause) (h : Health) :
    scene.Course h (scene.coolDown cause h) :=
  .deed (.coolDown cause) rfl rfl

/-- A failed frame is counted, and it starts a cooldown or it does not. -/
theorem sendFailed_outcome (scene : Scene) (h : Health) :
    let threshold := scene.settings.cooldown.failureThreshold.toNat
    ∃ failures,
      scene.sendFailed h = Turn.andThen
        { health := { h with failures }, notices := [.thresholdReached scene.circuit threshold] }
        (scene.coolDown .sendFailure) ∨
      scene.sendFailed h =
        { health := { h with failures }
          notices := [.failureCounted scene.circuit failures threshold] } := by
  intro threshold
  obtain ⟨failures, counted⟩ := h.countFailure_fst scene.settings.cooldown
  refine ⟨failures, ?_⟩
  simp only [sendFailed]
  generalize h.countFailure scene.settings.cooldown = count at counted ⊢
  obtain ⟨h', started⟩ := count
  obtain rfl : h' = { h with failures } := counted
  cases started with
  | true => exact .inl rfl
  | false => exact .inr rfl

theorem sendFailed_slot (scene : Scene) (h : Health) : (scene.sendFailed h).slot = .keep := by
  simp only [sendFailed]
  split
  · rfl
  · rfl

theorem sendFailed_course (scene : Scene) (h : Health) :
    scene.Course h (scene.sendFailed h) := by
  have counted : scene.Deed h none (h.countFailure scene.settings.cooldown).1 := .failure
  simp only [sendFailed]
  split
  · rename_i h' tripped
    rw [tripped] at counted
    exact .andThen (.deed counted rfl rfl) rfl (scene.coolDown_course .sendFailure h')
  · rename_i h' tripped
    rw [tripped] at counted
    exact .deed counted rfl rfl

theorem judge_course (scene : Scene) (h : Health) : scene.Course h (scene.judge h) := by
  have seen : scene.Deed h none (h.judge scene.settings.cooldown scene.phase).health := .judged
  simp only [judge]
  generalize h.judge scene.settings.cooldown scene.phase = verdict at seen ⊢
  obtain ⟨h', cause, low⟩ := verdict
  cases cause with
  | none => exact .deed seen (by cases low <;> rfl) rfl
  | some cause =>
      have due : Turn.events { health := h', notices := (low.toList.map fun low =>
          Notice.lowDelivery low.rate low.floor low.windows low.persistent low.audible) ++
          [.cooldownDue scene.circuit scene.phase h'.missing h'.concealed cause] } = [] := by
        cases low <;> rfl
      cases running : h'.cooling scene.now with
      | true => simpa [running] using Course.deed seen due rfl
      | false =>
          simpa [running] using
            Course.andThen (.deed seen due rfl) rfl (scene.coolDown_course cause h')

theorem judge_slot (scene : Scene) (h : Health) : (scene.judge h).slot = .keep := by
  simp only [judge]
  split
  · rfl
  · split
    · rfl
    · rfl

theorem ramp_course (scene : Scene) (h : Health) : scene.Course h (scene.ramp h) := by
  unfold ramp
  split
  · rename_i below
    simp only [Bool.and_eq_true, Bool.not_eq_true', decide_eq_true_eq] at below
    have ramped : scene.Deed h none (h.ramp scene.settings.cooldown).1 :=
      .ramp below.1.1 below.1.2 below.2
    split
    · rename_i h' grown
      rw [grown] at ramped
      exact .deed ramped rfl rfl
    · rename_i h' grown
      rw [grown] at ramped
      exact .deed ramped (by simp only [Turn.events]; split <;> rfl) rfl
  · exact .idle rfl rfl rfl

/-- The ramp writes the streak, and the weight only of a circuit in service below its full weight. -/
theorem ramp_outcome (scene : Scene) (h : Health) :
    ∃ cleanStreak weight, (scene.ramp h).health = { h with cleanStreak, weight } ∧
      (weight = h.weight ∨
        (h.cooling scene.now = false ∧ 0.0 < h.weight ∧ h.weight < 1.0) ∧
          weight = Health.lesser (h.weight * scene.settings.cooldown.rampFactor) 1.0) := by
  obtain ⟨cleanStreak, weight, ramped, grown⟩ := h.ramp_fst scene.settings.cooldown
  unfold ramp
  split
  · rename_i runs
    simp only [Bool.and_eq_true, Bool.not_eq_true', decide_eq_true_eq, and_assoc] at runs
    refine ⟨cleanStreak, weight, ?_, grown.imp_right fun grown => ⟨runs, grown⟩⟩
    generalize h.ramp scene.settings.cooldown = turn at ramped ⊢
    obtain ⟨h', grew⟩ := turn
    cases grew with
    | true => exact ramped
    | false => exact ramped
  · exact ⟨h.cleanStreak, h.weight, rfl, .inl rfl⟩

theorem ramp_quiet (scene : Scene) (h : Health) : (scene.ramp h).events = [] := by
  unfold ramp
  split
  · split
    · rfl
    · simp only [Turn.events]
      split <;> rfl
  · rfl

theorem ramp_slot (scene : Scene) (h : Health) : (scene.ramp h).slot = .keep := by
  unfold ramp
  split
  · split
    · rfl
    · rfl
  · rfl

theorem quarantine_course (scene : Scene) (h : Health) (unheld : h.held = false)
    (free : scene.holder = none) : scene.Course h (scene.quarantine h) :=
  .deed (.quarantine unheld free) rfl rfl

theorem countWindow_course (scene : Scene) (lateToBuffer : Float) (h : Health) :
    scene.Course h (scene.countWindow lateToBuffer h) := by
  simp only [countWindow]
  generalize h.badWindow scene.settings.rebuild lateToBuffer = bad
  have counted : scene.Deed h none (h.countWindow scene.settings.rebuild bad).1 := .window bad
  generalize h.countWindow scene.settings.rebuild bad = window at counted ⊢
  obtain ⟨h', due⟩ := window
  have quiet : Notice.events
      (if bad then [.badWindow scene.circuit h'.badStreak h'.concealed h'.missing]
        else if 0 < h.badStreak then [.streakReset scene.circuit h.badStreak]
        else []) = [] := by
    split
    · rfl
    · split <;> rfl
  split
  · exact .idle rfl rfl rfl
  · split
    · rename_i called
      simp only [Bool.and_eq_true, Bool.not_eq_true', Option.isNone_iff_eq_none] at called
      exact .andThen (.deed counted quiet rfl) rfl
        (scene.quarantine_course h' called.1.2 called.2)
    · exact .deed counted quiet rfl

theorem countWindow_slot (scene : Scene) (lateToBuffer : Float) (h : Health) :
    (scene.countWindow lateToBuffer h).slot = .keep := by
  simp only [countWindow]
  split
  · rfl
  · split
    · rfl
    · rfl

theorem requestRebuild_course (scene : Scene) (h : Health)
    (due : h.holdVerdict scene.settings.rebuild scene.now = .rebuild) :
    scene.Course h (scene.requestRebuild h) := by
  unfold requestRebuild
  cases holder : scene.holder with
  | some circuit => exact .deed (.defer due (by simp [holder])) rfl rfl
  | none => exact .deed (.begin due holder) rfl rfl

theorem checkQuarantine_course (scene : Scene) (h : Health) :
    scene.Course h (scene.checkQuarantine h) := by
  unfold checkQuarantine
  cases due : h.holdVerdict scene.settings.rebuild scene.now with
  | pending => exact .idle rfl rfl rfl
  | release => exact .deed (.release due) rfl rfl
  | rebuild => exact scene.requestRebuild_course h due

/-- The first three rules leave the slot alone, so that only the end of a quarantine can take it. -/
theorem judgeWindow_eq (scene : Scene) (h : Health) :
    ∃ t, scene.Course h t ∧ t.slot = .keep ∧
      scene.judgeWindow h =
        if t.health.quarantined then t.andThen scene.checkQuarantine else t := by
  have ramped : scene.Course h ((scene.judge h).andThen scene.ramp) :=
    .andThen (scene.judge_course h) (scene.judge_slot h) (scene.ramp_course _)
  have ramped_slot : ((scene.judge h).andThen scene.ramp).slot = .keep :=
    (andThen_slot (scene.judge_slot h)).trans (scene.ramp_slot _)
  simp only [judgeWindow]
  generalize (scene.judge h).andThen scene.ramp = t at ramped ramped_slot ⊢
  refine ⟨_, ?_, ?_, rfl⟩
  · split
    · exact .andThen ramped ramped_slot (scene.countWindow_course _ _)
    · exact ramped
  · split
    · exact (andThen_slot ramped_slot).trans (scene.countWindow_slot _ _)
    · exact ramped_slot

theorem judgeWindow_course (scene : Scene) (h : Health) :
    scene.Course h (scene.judgeWindow h) := by
  obtain ⟨t, course, keep, he⟩ := scene.judgeWindow_eq h
  rw [he]
  split
  · exact .andThen course keep (scene.checkQuarantine_course _)
  · exact course

/-- What the first two rules make of a window and the others keep, the whole window makes. -/
theorem judgeWindow_turn {P : Turn → Prop} (scene : Scene) (h : Health)
    (ramped : P ((scene.judge h).andThen scene.ramp))
    (count : ∀ t, P t → P (t.andThen fun h => scene.countWindow h.lateToBuffer h))
    (check : ∀ t, P t → P (t.andThen scene.checkQuarantine)) : P (scene.judgeWindow h) := by
  simp only [judgeWindow]
  generalize (scene.judge h).andThen scene.ramp = t at ramped ⊢
  have counted : P (if scene.settings.rebuild.onFeedback then
      t.andThen fun h => scene.countWindow h.lateToBuffer h else t) := by
    split
    · exact count _ ramped
    · exact ramped
  generalize (if scene.settings.rebuild.onFeedback then
    t.andThen fun h => scene.countWindow h.lateToBuffer h else t) = u at counted ⊢
  split
  · exact check _ counted
  · exact counted

/-- What the rules keep one by one, a window keeps. -/
theorem judgeWindow_health {P : Health → Prop} (scene : Scene) (h : Health)
    (judged : P (scene.judge h).health) (ramp : ∀ g, P g → P (scene.ramp g).health)
    (count : ∀ g late, P g → P (scene.countWindow late g).health)
    (check : ∀ g, P g → P (scene.checkQuarantine g).health) : P (scene.judgeWindow h).health :=
  scene.judgeWindow_turn (P := fun t => P t.health) h (ramp _ judged)
    (fun t kept => count t.health t.health.lateToBuffer kept) fun t kept => check t.health kept

/-- A change without notices before a turn is part of the turn. -/
theorem silent_andThen (h : Health) (next : Health → Turn) :
    Turn.andThen { health := h } next = next h := by
  cases hs : (next h).slot <;> simp only [Turn.andThen, List.nil_append, hs] <;> rw [← hs]

theorem feedback_course (scene : Scene) (report : PeerReport) (h : Health) :
    scene.Course h (scene.feedback report h) := by
  have taken : scene.Course h { health := h.takeReport report } := .deed (.report report) rfl rfl
  simp only [feedback]
  split
  · rw [← silent_andThen (h.takeReport report) scene.judgeWindow]
    exact .andThen taken rfl (scene.judgeWindow_course _)
  · exact taken

/-- The slot is left alone, or taken when it is free. -/
def TakesFree (scene : Scene) (t : Turn) : Prop :=
  t.slot = .keep ∨ ∃ epoch, t.slot = .take epoch ∧ scene.holder = none

theorem checkQuarantine_takesFree (scene : Scene) (h : Health) :
    scene.TakesFree (scene.checkQuarantine h) := by
  unfold checkQuarantine
  split
  · exact .inl rfl
  · exact .inl rfl
  · unfold requestRebuild
    cases holder : scene.holder with
    | some circuit => exact .inl rfl
    | none => exact .inr ⟨_, rfl, holder⟩

theorem feedback_takesFree (scene : Scene) (report : PeerReport) (h : Health) :
    scene.TakesFree (scene.feedback report h) := by
  simp only [feedback]
  split
  · obtain ⟨t, -, keep, he⟩ := scene.judgeWindow_eq (h.takeReport report)
    rw [he]
    split
    · unfold TakesFree
      rw [andThen_slot keep]
      exact scene.checkQuarantine_takesFree t.health
    · exact .inl keep
  · exact .inl rfl

theorem rebuilt_course (scene : Scene) (h : Health) (awaited : h.rebuilding = true) :
    scene.Course h (scene.rebuilt h.epoch h) :=
  .deed (.complete awaited) rfl rfl

theorem rebuildFailed_course (scene : Scene) (h : Health) :
    scene.Course h (scene.rebuildFailed h) := by
  unfold rebuildFailed
  split
  · rename_i awaited
    exact .deed (.fail awaited) rfl rfl
  · exact .idle rfl rfl rfl

end Scene

end Multipath
