import Multipath.Proofs.Choice
import Multipath.Proofs.Service

/-! # Circuits out of the choice

A circuit is out of the choice while it cools down, and while it is held. Both are stated from the event
that put it out, for whatever the run does after it: only time ends a cooldown, and only one of three
events ends a hold. The rescue of a circuit is the exception to both, and it is told.
-/

namespace Multipath

/-- The circuit is held from this event on. -/
def Event.holds : Event → Bool
  | quarantined .. | rebuildRequested .. | rebuildFailed .. => true
  | _ => false

/-- The circuit is back in service with this event. -/
def Event.returns : Event → Bool
  | quarantineReleased _ | rebuildSucceeded .. | rescued _ => true
  | _ => false

namespace Health

variable {h : Health} {now : Instant}

theorem not_selectable_of_cooling {time : Instant} (cooling : h.coolingUntil = some time)
    (early : now < time) : h.selectable now = false := by
  simp [selectable, Health.cooling, cooling, early]

theorem not_selectable_of_weightless (weight : h.weight = 0.0) : h.selectable now = false := by
  have idle : ¬ (0.0 : Float) < 0.0 := by decide
  simp [selectable, weight, idle]

theorem selectable_of_cooled (cooled : ∀ time, h.coolingUntil = some time → time ≤ now)
    (above : 0.0 < h.weight) : h.selectable now = true := by
  unfold selectable cooling
  cases cooling : h.coolingUntil with
  | none => simp [above]
  | some time => simp [above, Nat.not_lt.2 (cooled time cooling)]

end Health

namespace Service

variable {settings : Settings} {scene : Scene} {a a' : Service} {c : Nat} {time : Instant}

/-! ## Cooldowns -/

def CoolsUntil (time : Instant) (a : Service) : Prop :=
  ∃ time', a.coolingUntil = some time' ∧ time ≤ time'

def CooledBy (time : Instant) (a : Service) : Prop :=
  ∀ time', a.coolingUntil = some time' → time' ≤ time

theorem coolingUntil_of_cooldown {cause : CooldownCause}
    (change : scene.Change a (some (.cooldownTriggered c cause)) a') :
    a'.coolingUntil = some (scene.now + millis scene.settings.cooldown.duration.toNat) := by
  cases change
  rfl

/-- A cooldown is only ever put off, as long as the circuit is not rescued. -/
theorem CoolsUntil.stays (settings : Settings) (c : Nat) (time : Instant) :
    Stays settings c (fun x => time ≤ x.1 ∧ x.2 ≠ .rescued c)
      (CoolsUntil (time + millis settings.cooldown.duration.toNat)) := by
  refine ⟨?_⟩
  rintro scene a a' e rfl rfl told change cooling
  cases change with
  | coolDown cause => exact ⟨_, rfl, Nat.add_le_add_right (told _ rfl).1 _⟩
  | rescue => exact ((told _ rfl).2 rfl).elim
  | _ => exact cooling

/-- Only another cooldown puts it off. -/
theorem CooledBy.stays (settings : Settings) (c : Nat) (time : Instant) :
    Stays settings c (fun x => ∀ cause, x.2 ≠ .cooldownTriggered c cause) (CooledBy time) := by
  refine ⟨?_⟩
  rintro scene a a' e rfl rfl told change cooled
  cases change with
  | coolDown cause => exact (told _ rfl cause rfl).elim
  | rescue => nofun
  | _ => exact cooled

/-! ## Holds -/

structure Out (a : Service) : Prop where
  weight : a.weight = 0.0
  held : a.held = true

theorem Out.of_holds {e : Event} (change : scene.Change a (some e) a') (holds : e.holds = true) :
    a'.Out := by
  cases change with
  | quarantine backoff => exact ⟨rfl, rfl⟩
  | begin epoch => exact ⟨rfl, rfl⟩
  | fail failures backoff => exact ⟨rfl, rfl⟩
  | _ => cases holds

/-- A held circuit keeps its zero weight until an event brings it back. -/
theorem Out.stays (settings : Settings) (c : Nat) :
    Stays settings c (fun x => x.2.circuit = c → x.2.returns = false) Out := by
  refine ⟨?_⟩
  rintro scene a a' e rfl rfl told change out
  cases change with
  | silent => exact out
  | ramp above below =>
      rw [out.weight] at above
      exact absurd above (by decide)
  | coolDown cause => exact ⟨by simp only [out.held, if_true, out.weight], out.held⟩
  | quarantine backoff => exact ⟨rfl, rfl⟩
  | begin epoch => exact ⟨rfl, rfl⟩
  | defer => exact out
  | fail failures backoff => exact ⟨rfl, rfl⟩
  | rescue => cases told _ rfl rfl
  | release => cases told _ rfl rfl
  | complete epoch => cases told _ rfl rfl

end Service

namespace Session

variable {settings : Settings} {call : CallId} {w : Session}

/-- A circuit that was cooled down is passed over until the cooldown has run out, and may be chosen from
then on unless it is held. -/
theorem cooled_out (opened : w.Opened settings call) {moves : List Move} (steady : w.Steady moves)
    {past since : Log} {time : Instant} {c : Nat} {cause : CooldownCause}
    (split : (w.run moves).log = past ++ (time, Event.cooldownTriggered c cause) :: since) :
    let u := (w.run moves).final
    let pick := u.scheduler.pick u.now
    let expiry := time + millis settings.cooldown.duration.toNat
    ((∀ x ∈ since, x.2 ≠ .rescued c) → .rescued c ∉ Notice.events pick.2.2 →
      u.scheduler.phase u.now ≠ .establishment → u.now < expiry → pick.1 ≠ c) ∧
    ((∀ x ∈ since, ∀ cause', x.2 ≠ .cooldownTriggered c cause') → expiry ≤ u.now →
      ∃ h, u.scheduler.circuits[c]? = some h ∧ (h.held = false → h.selectable u.now = true)) := by
  intro u pick expiry
  have sorted : ∀ x ∈ since, time ≤ x.1 := by
    have pairs := steady.log_sorted
    rw [split] at pairs
    exact (List.pairwise_cons.1 (List.pairwise_append.1 pairs).2.1).1
  constructor
  · intro unrescued unrescued' settled early
    obtain ⟨h, found, time', cooling, later⟩ :=
      opened.kept_since split (Service.CoolsUntil.stays settings c time)
        (fun x mem => ⟨sorted x mem, unrescued x mem⟩)
        (fun same now change =>
          ⟨_, Service.coolingUntil_of_cooldown change, Nat.le_of_eq (by rw [same, now])⟩)
    exact opened.passed_over moves settled unrescued' found
      (Health.not_selectable_of_cooling cooling (Nat.lt_of_lt_of_le early later))
  · intro latest late
    obtain ⟨h, found, cooled⟩ :=
      opened.kept_since split (Service.CooledBy.stays settings c expiry) latest
        (fun same now change time' cooling => by
          rw [Service.coolingUntil_of_cooldown change, same, now] at cooling
          cases cooling
          exact Nat.le_refl _)
    refine ⟨h, found, fun unheld => ?_⟩
    have above : 0.0 < h.weight := (opened.sound moves c h found).served.resolve_right (by
      change ¬ h.held = true
      simp [unheld])
    exact Health.selectable_of_cooled
      (fun time' cooling => Nat.le_trans (cooled time' cooling) late) above

def threeFailures (c : Nat) : List Move := List.replicate 3 (.ask (.sendFailed c))

/-- Circuit 0 cools down, and again halfway through. Circuit 1 does so too, and is the better of them. -/
def bothFail (wait : Nat) : List Move :=
  threeFailures 0 ++ Move.advance 4000000 ::
    (threeFailures 0 ++ threeFailures 1 ++ [Move.ask (.sendFailed 0), Move.advance wait])

theorem cooled_out_brisk :
    let u := (brisk.run (bothFail 3999999)).final
    let v := (brisk.run (bothFail 8000000)).final
    brisk.Opened .brisk ⟨"A"⟩ ∧ (u.scheduler.pick u.now).1 ≠ 0 ∧
      ∃ h, v.scheduler.circuits[0]? = some h ∧ (h.held = false → h.selectable v.now = true) := by
  have early : (brisk.run (bothFail 3999999)).log =
      [] ++ (0, Event.cooldownTriggered 0 .sendFailure) ::
        [(4000000, Event.cooldownTriggered 0 .sendFailure),
          (4000000, Event.cooldownTriggered 1 .sendFailure)] := rfl
  have late : (brisk.run (bothFail 8000000)).log =
      [(0, Event.cooldownTriggered 0 .sendFailure)] ++
        (4000000, Event.cooldownTriggered 0 .sendFailure) ::
          [(4000000, Event.cooldownTriggered 1 .sendFailure)] := rfl
  have passed := (cooled_out brisk_opened (steady_of_duration (by decide)) early).1
  have back := (cooled_out brisk_opened (steady_of_duration (by decide)) late).2
  exact ⟨brisk_opened, passed (by simp) (by decide +kernel) (by decide) (by decide),
    back (by simp) (by decide)⟩

/-- A circuit that is held has no weight, and is passed over, until it is brought back. -/
theorem held_out (opened : w.Opened settings call) {moves : List Move} {past since : Log}
    {time : Instant} {e : Event} (split : (w.run moves).log = past ++ (time, e) :: since)
    (holds : e.holds = true)
    (kept : ∀ x ∈ since, x.2.circuit = e.circuit → x.2.returns = false) :
    let u := (w.run moves).final
    let pick := u.scheduler.pick u.now
    (∃ h, u.scheduler.circuits[e.circuit]? = some h ∧ h.weight = 0.0) ∧
    (u.scheduler.phase u.now ≠ .establishment →
      .rescued e.circuit ∉ Notice.events pick.2.2 → pick.1 ≠ e.circuit) := by
  intro u pick
  obtain ⟨h, found, out⟩ :=
    opened.kept_since split (Service.Out.stays settings e.circuit) kept
      (fun _ _ change => Service.Out.of_holds change holds)
  exact ⟨⟨h, found, out.weight⟩, fun settled unrescued =>
    opened.passed_over moves settled unrescued found
      (Health.not_selectable_of_weightless out.weight)⟩

/-- Circuit 0 is held and then rebuilt, its cooldown is long over, and circuit 1 cools down. -/
def heldLong : List Move := toRebuild ++ [Move.advance 9000000, badWindow 1]

theorem held_out_brisk :
    let u := (brisk.run heldLong).final
    brisk.Opened .brisk ⟨"A"⟩ ∧ (∃ h, u.scheduler.circuits[0]? = some h ∧ h.weight = 0.0) ∧
      (u.scheduler.pick u.now).1 ≠ 0 := by
  have split : (brisk.run heldLong).log =
      [(0, Event.cooldownTriggered 0 .highConcealed)] ++ (0, Event.quarantined 0 1) ::
        [(1000, Event.rebuildRequested 0 1),
          (9001000, Event.cooldownTriggered 1 .highConcealed)] := rfl
  have out := held_out brisk_opened split rfl (by simp [Event.returns])
  exact ⟨brisk_opened, out.1, out.2 (by decide) (by decide +kernel)⟩

end Session

end Multipath
