import Mathlib.Algebra.Group.Nat.Defs
import Multipath.Proofs.Slot
import Multipath.Proofs.Timeline

/-! # How long a quarantine lasts

The record of a circuit doubles its backoff at every failed rebuild and cuts it off at the limit, and
it counts the failures with a counter that stops. `backoffAfter` is the same length in one formula,
without a history. That the two agree for any number of failures needs the limit to be reached before
the counter stops, which a positive first backoff takes care of.

`backoff_doubles` counts the failures in the events, and reads off every event what it says of the
length.
-/

namespace Multipath

namespace RebuildRules

variable {rules : RebuildRules}

/-- The first backoff, doubled once for every failure and cut off at the limit. -/
def backoffAfter (rules : RebuildRules) (failures : Nat) : Nat :=
  min (rules.initialBackoff.toNat * 2 ^ failures) rules.maxBackoff.toNat

theorem backoffAfter_zero (room : rules.initialBackoff.toNat ≤ rules.maxBackoff.toNat) :
    rules.backoffAfter 0 = rules.initialBackoff.toNat := by
  simp [backoffAfter, room]

/-- Doubling cannot be kept up for as long as failures are counted. -/
theorem maxBackoff_le_doubled (positive : 0 < rules.initialBackoff.toNat) :
    rules.maxBackoff.toNat ≤ rules.initialBackoff.toNat * 2 ^ Counter.limit := by
  have bits : 2 ^ 64 ≤ 2 ^ Counter.limit :=
    Nat.pow_le_pow_right (by decide) (show 64 ≤ Counter.limit by decide)
  have small : rules.maxBackoff.toNat < 2 ^ 64 := rules.maxBackoff.toNat_lt
  have least : 1 * 2 ^ Counter.limit ≤ rules.initialBackoff.toNat * 2 ^ Counter.limit :=
    Nat.mul_le_mul_right _ positive
  omega

theorem backoffAfter_bump (positive : 0 < rules.initialBackoff.toNat) {failures : Nat}
    (counted : failures ≤ Counter.limit) :
    min (2 * rules.backoffAfter failures) rules.maxBackoff.toNat =
      rules.backoffAfter (Counter.bump failures) := by
  unfold backoffAfter
  by_cases full : failures = Counter.limit
  · have reached := maxBackoff_le_doubled positive
    have stays : Counter.bump failures = Counter.limit := by
      rw [full]
      exact Nat.min_eq_right (Nat.le_succ _)
    rw [stays, full]
    generalize rules.initialBackoff.toNat * 2 ^ Counter.limit = doubled at reached ⊢
    omega
  · have next : Counter.bump failures = failures + 1 :=
      Counter.bump_of_lt (Nat.lt_of_le_of_ne counted full)
    have twice : rules.initialBackoff.toNat * 2 ^ (failures + 1) =
        2 * (rules.initialBackoff.toNat * 2 ^ failures) := by
      rw [Nat.pow_succ, ← Nat.mul_assoc, Nat.mul_comm]
    rw [next, twice]
    generalize rules.initialBackoff.toNat * 2 ^ failures = doubled
    omega

end RebuildRules

/-! ## Failures in the events -/

/-- The number of failures after an event, from the number before it. -/
def Event.lossesAfter (c losses : Nat) : Event → Nat
  | rebuildSucceeded circuit _ => if circuit = c then 0 else losses
  | rebuildFailed circuit _ _ => if circuit = c then losses + 1 else losses
  | _ => losses

/-- Failed rebuilds of a circuit since its last one that succeeded. -/
def losses (c : Nat) (events : List Event) : Nat := events.foldl (Event.lossesAfter c) 0

theorem Event.lossesAfter_of_ne {e : Event} {c : Nat} (other : e.circuit ≠ c) (n : Nat) :
    e.lossesAfter c n = n := by
  cases e with
  | rebuildSucceeded circuit epoch => exact if_neg other
  | rebuildFailed circuit failures backoff => exact if_neg other
  | _ => rfl

theorem losses_append (c : Nat) (events : List Event) (e : Option Event) :
    losses c (events ++ e.toList) = e.toList.foldl (Event.lossesAfter c) (losses c events) :=
  List.foldl_append

namespace Hold

/-- The counter holds as many failures as it can, and the backoff is theirs. -/
structure Tallied (rules : RebuildRules) (a : Hold) (losses : Nat) : Prop where
  failures : a.failures = min losses Counter.limit
  backoff : a.backoff = rules.backoffAfter a.failures

/-- In quarantine up to a time. -/
structure Waits (a : Hold) (time : Instant) : Prop where
  quarantined : a.quarantined = true
  unbuilt : a.rebuilding = false
  timed : a.heldUntil = some time

end Hold

/-- The quarantine is over with this event. -/
def Event.endsQuarantine : Event → Bool
  | quarantineReleased _ | rebuildRequested .. => true
  | _ => false

/-- The length of the quarantine that begins with an event. -/
def Event.backoff? : Event → Option Nat
  | quarantined _ backoff | rebuildFailed _ _ backoff => some backoff
  | _ => none

namespace Scene

variable {scene : Scene} {a a' : Hold} {e : Option Event}

theorem Shift.tallied (shift : scene.Shift a e a')
    (positive : 0 < scene.settings.rebuild.initialBackoff.toNat)
    (room : scene.settings.rebuild.initialBackoff.toNat ≤ scene.settings.rebuild.maxBackoff.toNat)
    {n : Nat} (tallied : a.Tallied scene.settings.rebuild n) :
    a'.Tallied scene.settings.rebuild (e.toList.foldl (Event.lossesAfter scene.circuit) n) := by
  have counted : a.failures ≤ Counter.limit := by
    rw [tallied.failures]
    exact Nat.min_le_right ..
  cases shift with
  | complete awaited =>
      refine ⟨?_, (RebuildRules.backoffAfter_zero room).symm⟩
      simp [Event.lossesAfter]
  | fail awaited time =>
      have failures : Counter.bump a.failures = min (n + 1) Counter.limit := by
        rw [tallied.failures, Counter.bump]
        omega
      refine ⟨?_, ?_⟩
      · simpa [Event.lossesAfter] using failures
      · rw [tallied.backoff]
        exact RebuildRules.backoffAfter_bump positive counted
  | _ => exact ⟨tallied.failures, tallied.backoff⟩

/-- Nothing else happens to a quarantine before its end. -/
theorem Shift.waits (shift : scene.Shift a e a') {time : Instant} (waits : a.Waits time)
    (told : ∀ x, e = some x → x.endsQuarantine = false) : a'.Waits time := by
  obtain ⟨quarantined, unbuilt, timed⟩ := waits
  cases shift with
  | quarantine unheld free time' =>
      rw [quarantined] at unheld
      cases unheld.1
  | release held => cases told _ rfl
  | begin held free => cases told _ rfl
  | complete awaited =>
      rw [unbuilt] at awaited
      cases awaited
  | fail awaited time' =>
      rw [unbuilt] at awaited
      cases awaited
  | _ => exact ⟨quarantined, unbuilt, timed⟩

/-- A quarantine begins with its length in the event and in the record. -/
theorem Deed.waits {h h' : Health} {x : Event} {backoff : Nat} (deed : scene.Deed h (some x) h')
    (told : x.backoff? = some backoff) :
    h'.backoff = backoff ∧ h'.hold.Waits (scene.now + millis backoff) := by
  cases deed with
  | quarantine unheld free =>
      cases told
      have unbuilt : h.rebuilding = false := by
        simp only [Health.held, Bool.or_eq_false_iff] at unheld
        exact unheld.2
      exact ⟨rfl, rfl, unbuilt, rfl⟩
  | fail awaited =>
      cases told
      exact ⟨rfl, rfl, rfl, rfl⟩
  | _ => cases told

end Scene

/-! ## Along a run -/

namespace Scheduler

variable {s s' : Scheduler} {now : Instant} {c : Nat} {e : Option Event} {events : List Event}
  {log : Log}

/-- The failures that a circuit counts are those among the events. -/
def Tallied (c : Nat) (events : List Event) (s : Scheduler) : Prop :=
  ∀ a, s.hold? c = some a → a.Tallied s.settings.rebuild (losses c events)

def Waits (c : Nat) (time : Instant) (s : Scheduler) : Prop :=
  ∀ a, s.hold? c = some a → a.Waits time

theorem Stride.tallied (stride : Stride now s e s') (accepted : s.settings.check = .ok ())
    (tallied : Tallied c events s) : Tallied c (events ++ e.toList) s' := by
  intro b found
  rw [stride.settings_eq, losses_append]
  rcases stride.hold_cases with ⟨rfl, holds, -⟩ | ⟨c', a, a', found', shift, holds, -⟩
  · exact tallied b ((holds c).symm.trans found)
  · obtain ⟨positive, room⟩ := Settings.backoff_bounds accepted
    rw [holds] at found
    by_cases same : c = c'
    · subst c'
      rw [if_pos rfl] at found
      cases found
      exact shift.tallied positive room (tallied a found')
    · rw [if_neg same] at found
      have untold : e.toList.foldl (Event.lossesAfter c) (losses c events) = losses c events := by
        cases e with
        | none => rfl
        | some e =>
            have circuit : e.circuit = c' := shift.circuit_eq
            exact Event.lossesAfter_of_ne (fun h => same (h.symm.trans circuit)) _
      rw [untold]
      exact tallied b found

theorem Passage.tallied (passage : Passage s log s') (accepted : s.settings.check = .ok ())
    (tallied : Tallied c events s) : Tallied c (events ++ log.map Prod.snd) s' := by
  induction passage generalizing events with
  | refl s => simpa using tallied
  | @step now s s' s'' e log first rest ih =>
      have told : (e.toList.map (now, ·) ++ log).map Prod.snd = e.toList ++ log.map Prod.snd := by
        simp [Function.comp_def]
      rw [told, ← List.append_assoc]
      exact ih (first.settings_eq ▸ accepted) (first.tallied accepted tallied)

theorem Tallied.fresh {settings : Settings} (accepted : settings.check = .ok ()) (call : CallId)
    (entropy : UInt64) (now : Instant) (c : Nat) :
    Tallied c [] (Scheduler.fresh settings call entropy now) := by
  intro a found
  obtain ⟨h, hh, rfl⟩ := hold?_eq_some.1 found
  rw [List.eq_of_mem_replicate (List.mem_of_getElem? hh)]
  exact ⟨rfl, (RebuildRules.backoffAfter_zero (Settings.backoff_bounds accepted).2).symm⟩

theorem Stride.waits (stride : Stride now s e s') {time : Instant} (waits : Waits c time s)
    (told : ∀ x, e = some x → x.circuit = c → x.endsQuarantine = false) : Waits c time s' := by
  intro b found
  rcases stride.hold_cases with ⟨-, holds, -⟩ | ⟨c', a, a', found', shift, holds, -⟩
  · exact waits b ((holds c).symm.trans found)
  · rw [holds] at found
    by_cases same : c = c'
    · subst c'
      rw [if_pos rfl] at found
      cases found
      refine shift.waits (waits a found') fun x hx => told x hx ?_
      subst hx
      exact shift.circuit_eq
    · rw [if_neg same] at found
      exact waits b found

theorem Passage.waits (passage : Passage s log s') {time : Instant} (waits : Waits c time s)
    (told : ∀ x ∈ log, x.2.circuit = c → x.2.endsQuarantine = false) : Waits c time s' := by
  induction passage with
  | refl s => exact waits
  | @step now s s' s'' e log first rest ih =>
      refine ih (first.waits waits ?_) fun x mem => told x (by simp [mem])
      rintro x rfl
      exact told (now, x) (by simp)

end Scheduler

namespace Session

open Scheduler

variable {settings : Settings} {call : CallId} {w : Session}

theorem Opened.tallied (opened : w.Opened settings call) {log : Log} {s : Scheduler}
    (passage : w.scheduler.Passage log s) (c : Nat) : Tallied c (log.map Prod.snd) s := by
  obtain ⟨entropy, start⟩ := opened.scheduler_eq
  have accepted : w.scheduler.settings.check = .ok () := by
    rw [start]
    exact opened.accepted
  have fresh : Tallied c [] w.scheduler := by
    rw [start]
    exact Tallied.fresh opened.accepted call entropy w.now c
  exact passage.tallied accepted fresh

/-- After any run the backoff of a circuit is the formula of its failed rebuilds, and so was the length
that each of its quarantines was told and held for. -/
theorem backoff_doubles (opened : w.Opened settings call) (moves : List Move) {c : Nat} {h : Health}
    (found : (w.run moves).final.scheduler.circuits[c]? = some h) :
    let rules := settings.rebuild
    h.rebuildFailures = min (losses c (w.run moves).events) Counter.limit ∧
    h.backoff = min (rules.initialBackoff.toNat * 2 ^ h.rebuildFailures) rules.maxBackoff.toNat ∧
    ∀ {past since : Log} {time : Instant} {e : Event} {backoff : Nat},
      (w.run moves).log = past ++ (time, e) :: since → e.circuit = c → e.backoff? = some backoff →
      let failures := min (losses c (past.map Prod.snd ++ [e])) Counter.limit
      backoff = min (rules.initialBackoff.toNat * 2 ^ failures) rules.maxBackoff.toNat ∧
      ((∀ x ∈ since, x.2.circuit = c → x.2.endsQuarantine = false) →
        h.quarantined = true ∧ h.heldUntil = some (time + millis backoff)) := by
  intro rules
  have same : (w.run moves).final.scheduler.settings = settings := opened.settings_eq moves
  have tally := opened.tallied (w.run_passage moves) c h.hold (hold?_of_found found)
  rw [Run.log_map_snd, same] at tally
  refine ⟨tally.failures, tally.backoff, ?_⟩
  rintro past since time e backoff split rfl told failures
  obtain ⟨before, after, led, stride, followed⟩ := (split ▸ w.run_passage moves).cut
  obtain ⟨g, g', -, found', deed⟩ := stride.told
  obtain ⟨own, waits⟩ := deed.waits told
  have led' : w.scheduler.Passage (past ++ [(time, e)]) after := led.trans (.step stride (.refl after))
  have settled : after.settings = settings := led'.settings_eq.trans (opened.settings_eq [])
  have tally' := opened.tallied led' e.circuit g'.hold (hold?_of_found found')
  rw [List.map_append, settled] at tally'
  refine ⟨?_, fun kept => ?_⟩
  · have length : g'.backoff = rules.backoffAfter failures :=
      tally'.backoff.trans (congrArg rules.backoffAfter tally'.failures)
    exact own.symm.trans length
  · have start : after.Waits e.circuit (time + millis backoff) := by
      intro a ha
      rw [hold?_of_found found'] at ha
      cases ha
      exact waits
    have still := followed.waits start kept h.hold (hold?_of_found found)
    exact ⟨still.quarantined, still.timed⟩

/-- Three rebuilds of circuit 0 fail, and the last quarantine goes on. -/
def threeLosses : List Move :=
  let lose (wait : Nat) : List Move := [.advance wait, badWindow 0, .ask (.rebuildFailed 0)]
  badWindow 0 :: (lose 1000 ++ lose 2000 ++ lose 4000) ++ [.advance 500]

theorem backoff_doubles_brisk :
    let r := brisk.run threeLosses
    brisk.Opened .brisk ⟨"A"⟩ ∧ losses 0 r.events = 3 ∧
      ∃ h, r.final.scheduler.circuits[0]? = some h ∧ h.rebuildFailures = 3 ∧
        h.backoff = min (1 * 2 ^ 3) 4 ∧ h.heldUntil = some (7000 + millis 4) := by
  intro r
  obtain ⟨h, found⟩ : ∃ h, r.final.scheduler.circuits[0]? = some h := ⟨_, rfl⟩
  have split : r.log =
      [(0, Event.cooldownTriggered 0 .highConcealed), (0, .quarantined 0 1),
        (1000, .rebuildRequested 0 1), (1000, .rebuildFailed 0 1 2),
        (3000, .rebuildRequested 0 2), (3000, .rebuildFailed 0 2 4),
        (7000, .rebuildRequested 0 3)] ++ (7000, .rebuildFailed 0 3 4) :: [] := rfl
  obtain ⟨counted, length, told⟩ := backoff_doubles brisk_opened threeLosses found
  have three : h.rebuildFailures = 3 := counted
  rw [three] at length
  exact ⟨brisk_opened, rfl, h, found, three, length, ((told split rfl rfl).2 (by simp)).2⟩

end Session

end Multipath
