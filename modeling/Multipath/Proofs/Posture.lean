import Multipath.Proofs.Exclusion

/-! # A cooldown starts from the least weight

A cooldown sets the weight of a circuit to the least one, but leaves that of a held circuit alone, in
the belief that it is zero. A circuit that was rescued while it was held is the exception: it is still
held, its weight is not zero, and the ramp may have raised it. What a circuit's events say of this is
its posture, and `Service.Stands` is what a posture promises of the record.

`cooled_to_least` reads the weight off right after the cooldown began, and follows it for as long as
the cooldown lasts.
-/

namespace Multipath

inductive Posture where
  | free
  | held
  /-- Rescued while it was held. -/
  | forced
  deriving DecidableEq, Repr

namespace Posture

def next (p : Posture) : Event → Posture
  | .quarantined .. | .rebuildRequested .. | .rebuildFailed .. => .held
  | .quarantineReleased _ | .rebuildSucceeded .. => .free
  | .rescued _ => if p = .free then .free else .forced
  | .cooldownTriggered .. | .rebuildDeferred _ => p

/-- The posture of a circuit after events. -/
def after (c : Nat) (p : Posture) (events : List Event) : Posture :=
  (events.filter (·.circuit = c)).foldl next p

theorem after_append (c : Nat) (p : Posture) (es es' : List Event) :
    after c p (es ++ es') = after c (after c p es) es' := by
  simp only [after, List.filter_append, List.foldl_append]

theorem after_of_eq {e : Option Event} {c : Nat} (p : Posture) (own : ∀ x, e = some x → x.circuit = c) :
    after c p e.toList = e.toList.foldl next p := by
  cases e with
  | none => rfl
  | some x => simp [after, own x rfl]

theorem after_of_ne {e : Option Event} {c : Nat} (p : Posture)
    (other : ∀ x, e = some x → x.circuit ≠ c) : after c p e.toList = p := by
  cases e with
  | none => rfl
  | some x => simp [after, other x rfl]

end Posture

/-- What the posture of a circuit says of its record. -/
structure Service.Stands (p : Posture) (a : Service) : Prop where
  held : a.held = true ↔ p ≠ .free
  weight : p = .held → a.weight = 0.0

namespace Scene

variable {scene : Scene} {h h' : Health} {e : Option Event}

/-- Without an event a service stays as it is, but for the weight of a circuit in service. -/
theorem Deed.service_of_silent (deed : scene.Deed h none h') :
    h'.service = h.service ∨
      h.cooling scene.now = false ∧ 0.0 < h.weight ∧
        ∃ weight, h'.service = { h.service with weight } := by
  cases deed with
  | sent => exact .inl rfl
  | failure =>
      obtain ⟨failures, counted⟩ := h.countFailure_fst scene.settings.cooldown
      rw [counted]
      exact .inl rfl
  | lateToBuffer percent => exact .inl rfl
  | report report => exact .inl rfl
  | judged =>
      obtain ⟨lowDeliveries, judged⟩ := h.judge_health scene.settings.cooldown scene.phase
      rw [judged]
      exact .inl rfl
  | ramp running above below =>
      obtain ⟨cleanStreak, weight, ramped, -⟩ := h.ramp_fst scene.settings.cooldown
      rw [ramped]
      exact .inr ⟨running, above, weight, rfl⟩
  | window bad => exact .inl rfl

theorem Deed.stands (deed : scene.Deed h e h') (apart : h.quarantined = true → h.rebuilding = false)
    {p : Posture} (stands : h.service.Stands p) :
    h'.service.Stands (e.toList.foldl Posture.next p) := by
  have zero : p = .held → h.weight = 0.0 := stands.weight
  cases e with
  | none =>
      rcases deed.service_of_silent with same | ⟨-, above, weight, raised⟩
      · rw [same]
        exact stands
      · rw [raised]
        refine ⟨stands.held, fun held => ?_⟩
        rw [zero held] at above
        exact absurd above (by decide)
  | some e =>
      cases deed with
      | coolDown cause =>
          refine ⟨stands.held, fun held => ?_⟩
          have bound : p = .held := held
          have kept : h.held = true := stands.held.2 (by simp [bound])
          simp only [Health.service, Health.coolDown, kept, if_true]
          exact zero bound
      | rescue out =>
          by_cases free : p = .free
          · subst p
            exact ⟨stands.held, nofun⟩
          · have forced : [Event.rescued scene.circuit].foldl Posture.next p = .forced := if_neg free
            change (h.rescued scene.minWeight).service.Stands _
            rw [Option.toList_some, forced]
            exact ⟨⟨nofun, fun _ => stands.held.2 free⟩, nofun⟩
      | quarantine unheld free =>
          refine ⟨?_, fun _ => rfl⟩
          simp [Service.held, Health.service, Health.quarantine, Posture.next]
      | release due =>
          have idle : h.rebuilding = false := apart (quarantined_of_holdVerdict due nofun)
          refine ⟨?_, nofun⟩
          simp [Service.held, Health.service, Health.release, Posture.next, idle]
      | begin due free =>
          refine ⟨?_, fun _ => rfl⟩
          simp [Service.held, Health.service, Health.beginRebuild, Posture.next]
      | defer due taken => exact stands
      | complete awaited =>
          -- Both flags could be up as far as the deed goes; that they never are is the slot's account.
          have idle : h.quarantined = false := by
            cases quarantined : h.quarantined with
            | false => rfl
            | true =>
                rw [apart quarantined] at awaited
                cases awaited
          refine ⟨?_, nofun⟩
          simp [Service.held, Health.service, Health.completeRebuild, Health.startPath,
            Posture.next, idle]
      | fail awaited =>
          refine ⟨?_, fun _ => rfl⟩
          simp [Service.held, Health.service, Health.failRebuild, Health.quarantine, Posture.next]

/-- Right after a cooldown began. -/
theorem Deed.least_of_cooldown {c : Nat} {cause : CooldownCause}
    (deed : scene.Deed h (some (.cooldownTriggered c cause)) h') {p : Posture}
    (stands : h.service.Stands p) (unforced : p ≠ .forced) :
    h'.weight = if h'.held then 0.0 else scene.minWeight := by
  cases deed with
  | coolDown cause =>
      have same : (h.coolDown scene.settings.cooldown scene.minWeight cause scene.now).held = h.held :=
        rfl
      rw [same]
      cases held : h.held with
      | false => simp [Health.coolDown, held]
      | true =>
          have bound : p = .held := by
            have unfree : p ≠ .free := stands.held.1 held
            cases p with
            | free => exact (unfree rfl).elim
            | held => rfl
            | forced => exact (unforced rfl).elim
          have zero : h.weight = 0.0 := stands.weight bound
          simp [Health.coolDown, held, zero]

end Scene

/-! ## While the cooldown lasts -/

/-- Cooling down up to a time, at the least weight or at none. -/
structure Service.Least (least : Float) (time : Instant) (a : Service) : Prop where
  cooling : a.CoolsUntil time
  weight : a.weight = 0.0 ∨ a.weight = least

namespace Scene

variable {scene : Scene} {h h' : Health} {e : Option Event} {time : Instant}

/-- Only the end of the cooldown, or a rescue, lets the weight be another. -/
theorem Deed.least (deed : scene.Deed h e h') (unrescued : e ≠ some (.rescued scene.circuit))
    (least : h.service.Least scene.minWeight time) (early : scene.now < time)
    (late : time ≤ scene.now + millis scene.settings.cooldown.duration.toNat) :
    h'.service.Least scene.minWeight time := by
  obtain ⟨⟨time', until_, le⟩, weight⟩ := least
  cases e with
  | none =>
      -- A silent deed that writes the weight is the ramp, and no ramp runs while the circuit cools down.
      rcases deed.service_of_silent with same | ⟨running, -⟩
      · rw [same]
        exact ⟨⟨time', until_, le⟩, weight⟩
      · have cooling : h.cooling scene.now = true := by
          have until' : h.coolingUntil = some time' := until_
          simp only [Health.cooling, until', decide_eq_true_eq]
          exact Nat.lt_of_lt_of_le early le
        rw [cooling] at running
        cases running
  | some e =>
      have change := deed.change
      generalize h.service = a at *
      generalize h'.service = a' at *
      cases change with
      | coolDown cause =>
          refine ⟨⟨_, rfl, late⟩, ?_⟩
          cases held : a.held with
          | true => simpa using weight
          | false => simp
      | rescue => exact (unrescued rfl).elim
      | quarantine backoff => exact ⟨⟨time', until_, le⟩, .inl rfl⟩
      | release => exact ⟨⟨time', until_, le⟩, .inr rfl⟩
      | begin epoch => exact ⟨⟨time', until_, le⟩, .inl rfl⟩
      | defer => exact ⟨⟨time', until_, le⟩, weight⟩
      | complete epoch => exact ⟨⟨time', until_, le⟩, .inr rfl⟩
      | fail failures backoff => exact ⟨⟨time', until_, le⟩, .inl rfl⟩

end Scene

/-! ## Along a run -/

namespace Scheduler

variable {s s' : Scheduler} {now time : Instant} {c : Nat} {p : Posture} {e : Option Event}
  {es : List Event}

def Stands (c : Nat) (p : Posture) (s : Scheduler) : Prop := s.SlotKept ∧ s.Serves c (Service.Stands p)

theorem Stride.stands (stride : Stride now s e s') (stands : Stands c p s) :
    Stands c (Posture.after c p e.toList) s' := by
  obtain ⟨kept, serves⟩ := stands
  refine ⟨kept.stride stride, fun h' found' => ?_⟩
  cases stride with
  | @deed i h g _ found deed =>
      rw [apply_circuit? found] at found'
      by_cases mine : c = i
      · subst i
        rw [if_pos rfl] at found'
        cases found'
        rw [Posture.after_of_eq p (by rintro x rfl; exact deed.circuit_eq)]
        have apart : h.quarantined = true → h.rebuilding = false :=
          kept.apart c h.hold (hold?_of_found found)
        exact deed.stands apart (serves h found)
      · rw [if_neg mine] at found'
        rw [Posture.after_of_ne p (by rintro x rfl; exact deed.circuit_eq ▸ Ne.symm mine)]
        exact serves h' found'
  | turnTo burst generator inRange => exact serves h' found'
  | handOut => exact serves h' found'

theorem Strides.stands (strides : Strides now s es s') (stands : Stands c p s) :
    Stands c (Posture.after c p es) s' := by
  induction strides generalizing p with
  | refl s => exact stands
  | step first rest ih =>
      rw [Posture.after_append]
      exact ih (first.stands stands)

theorem Stands.fresh (c : Nat) (settings : Settings) (call : CallId) (entropy : UInt64)
    (now : Instant) : Stands c .free (Scheduler.fresh settings call entropy now) := by
  refine ⟨.fresh .., fun h found => ?_⟩
  rw [List.eq_of_mem_replicate (List.mem_of_getElem? found)]
  exact ⟨⟨nofun, fun unfree => (unfree rfl).elim⟩, nofun⟩

/-- The circuit cools down up to a time, and has earned nothing. -/
def Least (c : Nat) (time : Instant) (s : Scheduler) : Prop :=
  s.Serves c (Service.Least s.settings.selection.minWeight time)

theorem Stride.least (stride : Stride now s e s') (unrescued : e ≠ some (.rescued c))
    (least : Least c time s) (early : now < time)
    (late : time ≤ now + millis s.settings.cooldown.duration.toNat) : Least c time s' := by
  intro h' found'
  rw [stride.settings_eq]
  obtain ⟨h, found, rfl | deed⟩ := stride.record found'
  · exact least h' found
  · exact deed.least unrescued (least h found) early late

theorem Strides.least (strides : Strides now s es s') (unrescued : .rescued c ∉ es)
    (least : Least c time s) (early : now < time)
    (late : time ≤ now + millis s.settings.cooldown.duration.toNat) : Least c time s' := by
  induction strides with
  | refl s => exact least
  | @step s s' s'' e es first rest ih =>
      have unrescued' : e ≠ some (.rescued c) := by
        rintro rfl
        simp at unrescued
      refine ih (fun mem => unrescued (List.mem_append_right _ mem))
        (first.least unrescued' least early late) ?_
      rw [first.settings_eq]
      exact late

/-- The circuit of a cooldown as the cooldown leaves it. -/
theorem Stride.cooled {cause : CooldownCause}
    (stride : Stride now s (some (.cooldownTriggered c cause)) s') (stands : Stands c p s)
    (unforced : p ≠ .forced) :
    ∃ h, s'.circuits[c]? = some h ∧
      (h.weight = if h.held then 0.0 else s.settings.selection.minWeight) ∧
      h.service.CoolsUntil (now + millis s.settings.cooldown.duration.toNat) := by
  obtain ⟨h, h', found, found', deed⟩ := stride.told
  have cooling := Service.coolingUntil_of_cooldown deed.change
  exact ⟨h', found', deed.least_of_cooldown (stands.2 h found) unforced, _, cooling, Nat.le_refl _⟩

theorem Stride.least_of_cooldown {cause : CooldownCause}
    (stride : Stride now s (some (.cooldownTriggered c cause)) s') (stands : Stands c p s)
    (unforced : p ≠ .forced) :
    Least c (now + millis s.settings.cooldown.duration.toNat) s' := by
  obtain ⟨h', found', weight, cooling⟩ := stride.cooled stands unforced
  intro h found
  rw [found'] at found
  cases found
  rw [stride.settings_eq]
  refine ⟨cooling, ?_⟩
  change h'.weight = 0.0 ∨ h'.weight = s.settings.selection.minWeight
  rw [weight]
  split
  · exact .inl rfl
  · exact .inr rfl

end Scheduler

namespace Session

open Scheduler

variable {settings : Settings} {call : CallId} {w : Session} {c : Nat} {time : Instant}
  {moves : List Move}

theorem Opened.stands (opened : w.Opened settings call) (moves : List Move) (c : Nat) :
    Stands c (Posture.after c .free (w.run moves).events) (w.run moves).final.scheduler := by
  refine run_induction (R := fun s es s' => ∀ p, Stands c p s → Stands c (Posture.after c p es) s')
    (fun s p stands => stands) ?_ w moves .free ?_
  · intro now s s' s'' e es first rest p stands
    rw [Posture.after_append]
    exact rest _ (first.stands stands)
  · obtain ⟨entropy, start⟩ := opened.scheduler_eq
    rw [start]
    exact .fresh ..

theorem run_least (steady : w.Steady moves) (least : Least c time w.scheduler)
    (unrescued : .rescued c ∉ (w.run moves).events) (early : (w.run moves).final.now < time)
    (late : time ≤ w.now + millis w.scheduler.settings.cooldown.duration.toNat) :
    Least c time (w.run moves).final.scheduler := by
  induction moves generalizing w with
  | nil => exact least
  | cons move moves ih =>
      rw [run_cons_events, List.mem_append, not_or] at unrescued
      have same : (w.make move).after.scheduler.settings = w.scheduler.settings :=
        w.run_settings_eq [move]
      have soon : w.now < time := Nat.lt_of_le_of_lt steady.now_le_final early
      have least' := (w.make_strides move).least unrescued.1 least soon late
      refine ih steady.tail least' unrescued.2 early ?_
      rw [same]
      exact Nat.le_trans late (Nat.add_le_add_right steady.now_le _)

/-- Right after a cooldown began, the circuit has the least weight, or none while it is held, and it
earns no more before the cooldown is over; unless it was rescued while it was held and has not come
back since. -/
theorem cooled_to_least (opened : w.Opened settings call) (moves : List Move) (operation : Operation)
    {cause : CooldownCause} {past since : List Event} :
    let u := (w.run moves).final
    let t := u.make (.ask operation)
    t.events = past ++ .cooldownTriggered c cause :: since →
    Posture.after c .free ((w.run moves).events ++ past) ≠ .forced →
    (∀ before after, Strides u.now u.scheduler past before →
      Stride u.now before (some (.cooldownTriggered c cause)) after →
      ∃ h, after.circuits[c]? = some h ∧
        h.weight = if h.held then 0.0 else settings.selection.minWeight) ∧
    ∀ later, t.after.Steady later → .rescued c ∉ since ++ (t.after.run later).events →
      (t.after.run later).final.now < u.now + millis settings.cooldown.duration.toNat →
      ∃ h, (t.after.run later).final.scheduler.circuits[c]? = some h ∧
        (h.weight = 0.0 ∨ h.weight = settings.selection.minWeight) := by
  intro u t split unforced
  have same : u.scheduler.settings = settings := opened.settings_eq moves
  have stands : ∀ {before}, Strides u.now u.scheduler past before →
      Stands c (Posture.after c .free ((w.run moves).events ++ past)) before := by
    intro before led
    rw [Posture.after_append]
    exact led.stands (opened.stands moves c)
  constructor
  · intro before after led stride
    obtain ⟨h, found, weight, -⟩ := stride.cooled (stands led) unforced
    rw [led.settings_eq, same] at weight
    exact ⟨h, found, weight⟩
  · intro later steady unrescued early
    rw [List.mem_append, not_or] at unrescued
    obtain ⟨before, after, led, stride, followed⟩ := (split ▸ u.make_strides (.ask operation)).cut
    have least : Least c (u.now + millis settings.cooldown.duration.toNat) after := by
      have told := stride.least_of_cooldown (stands led) unforced
      rwa [led.settings_eq, same] at told
    have same' : after.settings = settings :=
      stride.settings_eq.trans (led.settings_eq.trans same)
    have same'' : t.after.scheduler.settings = settings := followed.settings_eq.trans same'
    have soon : t.after.now < u.now + millis settings.cooldown.duration.toNat :=
      Nat.lt_of_le_of_lt steady.now_le_final early
    have ended : Least c (u.now + millis settings.cooldown.duration.toNat) t.after.scheduler :=
      followed.least unrescued.1 least soon (by rw [same'])
    have kept := run_least steady ended unrescued.2 early (by rw [same'']; exact Nat.le_refl _)
    have last : (t.after.run later).final.scheduler.settings = settings :=
      (t.after.run_settings_eq later).trans same''
    obtain ⟨-, h', -, found', -⟩ := stride.told
    have bound : c < (t.after.run later).final.scheduler.size := by
      rw [(t.after.run_passage later).size_eq, followed.size_eq]
      exact (List.getElem?_eq_some_iff.1 found').1
    have found := List.getElem?_eq_getElem bound
    have weight := (kept _ found).weight
    rw [last] at weight
    exact ⟨_, found, weight⟩

/-- The only circuit is held, rescued, and raised by two clean windows. -/
def raisedWhileHeld : List Move :=
  List.replicate 40 (Move.ask (.sent 0)) ++
    [Move.advance 50000000, window 50.0, .advance 5000000, window 50.0, .advance 5000000, window 50.0,
      .ask .pick, .advance 4000000, window 0.0, .advance 1000000, window 0.0] ++
    List.replicate 2 (Move.ask (.sendFailed 0))

/-- Its next cooldown leaves it more than the least weight. -/
theorem cooled_above_least :
    let u := (single.run raisedWhileHeld).final
    let t := u.make (.ask (.sendFailed 0))
    single.Opened .single ⟨"A"⟩ ∧ t.events = [.cooldownTriggered 0 .sendFailure] ∧
      ∃ h, t.after.scheduler.circuits[0]? = some h ∧ h.held = true ∧
        Settings.single.selection.minWeight < h.weight := by
  intro u t
  have told : t.events = [.cooldownTriggered 0 .sendFailure] := by decide +kernel
  have above : (t.after.scheduler.circuits[0]?.any fun h =>
      h.held && decide (Settings.single.selection.minWeight < h.weight)) = true := by decide +kernel
  refine ⟨single_opened, told, ?_⟩
  cases found : t.after.scheduler.circuits[0]? with
  | none =>
      rw [found] at above
      cases above
  | some h =>
      rw [found] at above
      exact ⟨h, rfl, by simpa using above⟩

/-- Both circuits are held and circuit 0 is rescued. Then it is released from its quarantine, and its
sends fail. -/
def forcedAndBack : List Move :=
  [badWindow 0, badWindow 1, .ask .pick, .advance 1000, .ask (.feedback [(0, {})]),
    .ask (.sendFailed 0), .ask (.sendFailed 0)]

theorem cooled_to_least_brisk :
    let u := (brisk.run forcedAndBack).final
    let t := u.make (.ask (.sendFailed 0))
    brisk.Opened .brisk ⟨"A"⟩ ∧ .rescued 0 ∈ (brisk.run forcedAndBack).events ∧
      (∀ before after, Strides u.now u.scheduler [] before →
        Stride u.now before (some (.cooldownTriggered 0 .sendFailure)) after →
        ∃ h, after.circuits[0]? = some h ∧
          h.weight = if h.held then 0.0 else Settings.brisk.selection.minWeight) ∧
      ∃ h, (t.after.run [.advance 7000000]).final.scheduler.circuits[0]? = some h ∧
        (h.weight = 0.0 ∨ h.weight = Settings.brisk.selection.minWeight) := by
  intro u t
  have split : t.events = [] ++ .cooldownTriggered 0 .sendFailure :: [] := by decide +kernel
  obtain ⟨least, kept⟩ := cooled_to_least brisk_opened forcedAndBack (.sendFailed 0) split
    (by decide +kernel)
  refine ⟨brisk_opened, by decide +kernel, least, kept [.advance 7000000] ?_ ?_ ?_⟩
  · exact steady_of_duration (by decide +kernel)
  · decide +kernel
  · decide +kernel

end Session

end Multipath
