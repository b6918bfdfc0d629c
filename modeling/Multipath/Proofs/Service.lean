import Multipath.Proofs.Doubles
import Multipath.Proofs.Timeline

/-! # Circuits in service

Whether a circuit may be chosen is written in four fields of its record: the end of its cooldown, its
weight, and the two flags that hold it. They are its service, and `Scene.Change` is all that a deed can
do to a service. What the changes of one circuit keep, a passage keeps (`Passage.kept`), where the
changes may be narrowed to those whose events are in the log.

The first such law is `Service.Sound`: the weight stays between zero and one, and is zero only while
a flag is up.
-/

namespace Multipath

structure Service where
  coolingUntil : Option Instant
  weight : Float
  quarantined : Bool
  rebuilding : Bool
  deriving DecidableEq

def Health.service (h : Health) : Service := ⟨h.coolingUntil, h.weight, h.quarantined, h.rebuilding⟩

def Service.held (a : Service) : Bool := a.quarantined || a.rebuilding

namespace Scene

/-- What one deed does to a service. -/
inductive Change (scene : Scene) (a : Service) : Option Event → Service → Prop
  | silent : Change scene a none a
  | ramp (above : 0.0 < a.weight) (below : a.weight < 1.0) :
      Change scene a none
        { a with
          weight := Health.lesser (a.weight * scene.settings.cooldown.rampFactor) 1.0 }
  | coolDown (cause : CooldownCause) :
      Change scene a (some (.cooldownTriggered scene.circuit cause))
        { a with
          coolingUntil := some (scene.now + millis scene.settings.cooldown.duration.toNat)
          weight := if a.held then a.weight else scene.minWeight }
  | rescue :
      Change scene a (some (.rescued scene.circuit))
        { a with coolingUntil := none, weight := scene.minWeight }
  | quarantine (backoff : Nat) :
      Change scene a (some (.quarantined scene.circuit backoff))
        { a with weight := 0.0, quarantined := true }
  | release :
      Change scene a (some (.quarantineReleased scene.circuit))
        { a with weight := scene.minWeight, quarantined := false }
  | begin (epoch : Nat) :
      Change scene a (some (.rebuildRequested scene.circuit epoch))
        { a with weight := 0.0, quarantined := false, rebuilding := true }
  | defer : Change scene a (some (.rebuildDeferred scene.circuit)) a
  | complete (epoch : Nat) :
      Change scene a (some (.rebuildSucceeded scene.circuit epoch))
        { a with weight := scene.minWeight, rebuilding := false }
  | fail (failures backoff : Nat) :
      Change scene a (some (.rebuildFailed scene.circuit failures backoff))
        { a with weight := 0.0, quarantined := true, rebuilding := false }

theorem Deed.change {scene : Scene} {h h' : Health} {e : Option Event} (deed : scene.Deed h e h') :
    scene.Change h.service e h'.service := by
  cases deed with
  | sent => exact .silent
  | failure =>
      obtain ⟨failures, he⟩ := h.countFailure_fst scene.settings.cooldown
      rw [he]
      exact .silent
  | lateToBuffer percent => exact .silent
  | report report => exact .silent
  | judged =>
      obtain ⟨lowDeliveries, he⟩ := h.judge_health scene.settings.cooldown scene.phase
      rw [he]
      exact .silent
  | coolDown cause => exact .coolDown cause
  | ramp running above below =>
      obtain ⟨cleanStreak, weight, he, rfl | rfl⟩ := h.ramp_fst scene.settings.cooldown
      · rw [he]
        exact .silent
      · rw [he]
        exact .ramp above below
  | window bad => exact .silent
  | rescue out => exact .rescue
  | quarantine unheld free => exact .quarantine _
  | release due => exact .release
  | begin due free => exact .begin _
  | defer due taken => exact .defer
  | complete awaited => exact .complete _
  | fail awaited => exact .fail _ _

end Scene

/-! ## Along a passage -/

/-- The changes of a circuit keep `P`, as long as what they tell is `Q`. -/
structure Service.Stays (settings : Settings) (c : Nat) (Q : Instant × Event → Prop)
    (P : Service → Prop) : Prop where
  keep : ∀ {scene : Scene} {a a' : Service} {e : Option Event}, scene.settings = settings →
    scene.circuit = c → (∀ x, e = some x → Q (scene.now, x)) → scene.Change a e a' → P a → P a'

namespace Scheduler

/-- Every record of this circuit, if there is one, is in a service that is `P`. -/
def Serves (s : Scheduler) (c : Nat) (P : Service → Prop) : Prop :=
  ∀ h, s.circuits[c]? = some h → P h.service

variable {now : Instant} {s s' : Scheduler} {c : Nat} {Q : Instant × Event → Prop}
  {P : Service → Prop}

theorem Stride.kept {e : Option Event} (stride : Stride now s e s')
    (stays : Service.Stays s.settings c Q P) (told : ∀ x, e = some x → Q (now, x))
    (start : s.Serves c P) : s'.Serves c P := by
  intro h' found'
  obtain ⟨h, found, rfl | deed⟩ := stride.record found'
  · exact start h' found
  · exact stays.keep rfl rfl told deed.change (start h found)

theorem Passage.kept {log : Log} (passage : Passage s log s')
    (stays : Service.Stays s.settings c Q P) (told : ∀ x ∈ log, Q x) (start : s.Serves c P) :
    s'.Serves c P := by
  induction passage with
  | refl s => exact start
  | @step now s s' s'' e log first rest ih =>
      have now_ : ∀ x, e = some x → Q (now, x) := by
        rintro x rfl
        exact told _ (by simp)
      rw [first.settings_eq] at ih
      exact ih stays (fun x mem => told x (by simp [mem])) (first.kept stays now_ start)

end Scheduler

namespace Session

variable {settings : Settings} {call : CallId} {w : Session}

/-- What an event makes of the service of its circuit, and what is told after it keeps, is so at the
end. -/
theorem Opened.kept_since (opened : w.Opened settings call) {moves : List Move} {past since : Log}
    {time : Instant} {e : Event} (split : (w.run moves).log = past ++ (time, e) :: since)
    {Q : Instant × Event → Prop} {P : Service → Prop}
    (stays : Service.Stays settings e.circuit Q P) (told : ∀ x ∈ since, Q x)
    (made : ∀ {scene : Scene} {a a' : Service}, scene.settings = settings → scene.now = time →
      scene.Change a (some e) a' → P a') :
    ∃ h, (w.run moves).final.scheduler.circuits[e.circuit]? = some h ∧ P h.service := by
  obtain ⟨before, after, led, stride, followed⟩ := (split ▸ w.run_passage moves).cut
  obtain ⟨h, h', -, found', deed⟩ := stride.told
  have same : before.settings = settings := led.settings_eq.trans (opened.settings_eq [])
  have start : after.Serves e.circuit P := by
    intro g found
    rw [found'] at found
    cases found
    exact made same rfl deed.change
  have kept := followed.kept (by rwa [stride.settings_eq, same]) told start
  have bound : e.circuit < (w.run moves).final.scheduler.size := by
    rw [followed.size_eq]
    exact (List.getElem?_eq_some_iff.1 found').1
  exact ⟨_, List.getElem?_eq_getElem bound, kept _ (List.getElem?_eq_getElem bound)⟩

end Session

/-! ## Weights -/

namespace Service

/-- A weight between zero and one, which is zero only while the circuit is held. -/
structure Sound (a : Service) : Prop where
  low : 0.0 ≤ a.weight
  high : a.weight ≤ 1.0
  served : 0.0 < a.weight ∨ a.held = true

variable {a : Service}

theorem Sound.of_weight (above : 0.0 < a.weight) (high : a.weight ≤ 1.0) : a.Sound :=
  ⟨Doubles.le_of_lt above, high, .inl above⟩

theorem Sound.of_held (zero : a.weight = 0.0) (held : a.held = true) : a.Sound :=
  ⟨by rw [zero]; decide, by rw [zero]; decide, .inr held⟩

theorem Sound.fresh (backoff : Nat) : (Health.fresh backoff).service.Sound :=
  .of_weight (show (0.0 : Float) < 1.0 by decide) (show (1.0 : Float) ≤ 1.0 by decide)

theorem Sound.stays {settings : Settings} (accepted : settings.check = .ok ()) (c : Nat) :
    Stays settings c (fun _ => True) Sound := by
  refine ⟨?_⟩
  rintro scene a a' e rfl - - change sound
  obtain ⟨least, most⟩ := Settings.minWeight_bounds accepted
  cases change with
  | silent => exact sound
  | ramp above below =>
      obtain ⟨grows, finite⟩ := Settings.rampFactor_bounds accepted
      have grown := Doubles.zero_lt_mul above below finite grows
      exact .of_weight (Health.zero_lt_lesser_one grown) (Health.lesser_one_le _)
  | coolDown cause =>
      cases held : a.held with
      | true => exact ⟨sound.low, sound.high, .inr held⟩
      | false => exact .of_weight least most
  | rescue => exact .of_weight least most
  | quarantine backoff => exact .of_held rfl rfl
  | release => exact .of_weight least most
  | begin epoch => exact .of_held rfl rfl
  | defer => exact sound
  | complete epoch => exact .of_weight least most
  | fail failures backoff => exact .of_held rfl rfl

end Service

namespace Session

variable {settings : Settings} {call : CallId} {w : Session}

theorem Opened.sound (opened : w.Opened settings call) (moves : List Move) (c : Nat) :
    (w.run moves).final.scheduler.Serves c Service.Sound := by
  have start : w.scheduler.Serves c Service.Sound := by
    obtain ⟨entropy, fresh⟩ := opened.scheduler_eq
    rw [fresh]
    intro h found
    rw [List.eq_of_mem_replicate (List.mem_of_getElem? found)]
    exact .fresh _
  refine (w.run_passage moves).kept ?_ (fun _ _ => trivial) start
  rw [show w.scheduler.settings = settings from opened.settings_eq []]
  exact Service.Sound.stays opened.accepted c

end Session

end Multipath
