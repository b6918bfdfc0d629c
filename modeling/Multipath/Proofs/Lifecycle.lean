import Mathlib.Data.List.Forall2
import Multipath.Proofs.Slot

/-! # Rebuilds as their events tell them

An observer of a call sees events and no records. A track is what it can know of one circuit, and
`Track.next?` says which events may come next and where they lead: it is written for the events alone,
without a rule of the scheduler in it. The tracks of all circuits go together, since a rebuild of one
of them holds up the others.

`events_retell` says that a run never tells an event that may not come, and that the tracks which
its events lead to are those of the records.
-/

namespace Multipath

inductive Stage where
  | normal
  | quarantined
  | rebuilding
  deriving DecidableEq, Repr

structure Track where
  stage : Stage := .normal
  epoch : Nat := 0
  failures : Nat := 0
  backoff : Nat
  deriving DecidableEq, Repr

/-- The track after an event, unless the event may not come. `busy` is whether any circuit is being
rebuilt; in quarantine that is another one. -/
def Track.next? (rules : RebuildRules) (busy : Bool) (t : Track) : Event → Option Track
  | .cooldownTriggered .. | .rescued _ => some t
  | .quarantined _ backoff =>
      if t.stage = .normal ∧ busy = false ∧ backoff = t.backoff then
        some { t with stage := .quarantined }
      else none
  | .quarantineReleased _ =>
      if t.stage = .quarantined then some { t with stage := .normal } else none
  | .rebuildRequested _ epoch =>
      if t.stage = .quarantined ∧ busy = false ∧ epoch = (t.epoch + 1) % UInt32.size then
        some { t with stage := .rebuilding, epoch }
      else none
  | .rebuildDeferred _ =>
      if t.stage = .quarantined ∧ busy = true then some t else none
  | .rebuildSucceeded _ epoch =>
      if t.stage = .rebuilding ∧ epoch = t.epoch then
        some { t with stage := .normal, failures := 0, backoff := rules.initialBackoff.toNat }
      else none
  | .rebuildFailed _ failures backoff =>
      if t.stage = .rebuilding ∧ failures = min (t.failures + 1) (UInt32.size - 1) ∧
          backoff = min (2 * t.backoff) rules.maxBackoff.toNat then
        some { t with stage := .quarantined, failures, backoff }
      else none

namespace Lifecycle

/-- The tracks before any event. -/
def start (settings : Settings) : List Track :=
  List.replicate settings.circuits.toNat { backoff := settings.rebuild.initialBackoff.toNat }

def busy (tracks : List Track) : Bool := tracks.any (·.stage = .rebuilding)

def next? (rules : RebuildRules) (tracks : List Track) (e : Event) : Option (List Track) := do
  let t ← tracks[e.circuit]?
  let t' ← t.next? rules (busy tracks) e
  return tracks.set e.circuit t'

def replay? (rules : RebuildRules) (tracks : List Track) (events : List Event) :
    Option (List Track) :=
  events.foldlM (next? rules) tracks

theorem next?_eq_some {rules : RebuildRules} {tracks : List Track} {t t' : Track} {e : Event}
    (found : tracks[e.circuit]? = some t) (next : t.next? rules (busy tracks) e = some t') :
    next? rules tracks e = some (tracks.set e.circuit t') := by
  simp [next?, found, next]

theorem replay?_append (rules : RebuildRules) (tracks : List Track) (es es' : List Event) :
    replay? rules tracks (es ++ es') = (replay? rules tracks es).bind (replay? rules · es') :=
  List.foldlM_append

end Lifecycle

/-! ## Tracks of holds -/

namespace Hold

def stage (a : Hold) : Stage :=
  if a.rebuilding then .rebuilding else if a.quarantined then .quarantined else .normal

def track (a : Hold) : Track := ⟨a.stage, a.epoch, a.failures, a.backoff⟩

theorem stage_rebuilding {a : Hold} : a.stage = .rebuilding ↔ a.rebuilding = true := by
  unfold stage
  split
  · simp [*]
  · split <;> simp [*]

theorem stage_quarantined {a : Hold} (apart : a.quarantined = true → a.rebuilding = false) :
    a.stage = .quarantined ↔ a.quarantined = true := by
  cases hq : a.quarantined with
  | false =>
      unfold stage
      split <;> simp [hq]
  | true => simp [stage, hq, apart hq]

end Hold

/-- What a deed does to a hold, its event does to the track. -/
theorem Scene.Shift.next? {scene : Scene} {a a' : Hold} {e : Event} (h : scene.Shift a (some e) a')
    (apart : a.quarantined = true → a.rebuilding = false) :
    a.track.next? scene.settings.rebuild scene.holder.isSome e = some a'.track := by
  cases h with
  | coolDown cause => rfl
  | rescue => rfl
  | quarantine unheld free time =>
      simp [Track.next?, Hold.track, Hold.stage, unheld, free]
  | release held =>
      simp [Track.next?, Hold.track, Hold.stage, held, apart held]
  | begin held free =>
      simp [Track.next?, Hold.track, Hold.stage, held, apart held, free, Counter.nextEpoch]
  | defer held taken =>
      simp [Track.next?, Hold.track, Hold.stage, held, apart held, taken]
  | complete awaited =>
      have unheld : a.quarantined = false := by
        cases hq : a.quarantined with
        | false => rfl
        | true =>
            rw [apart hq] at awaited
            cases awaited
      simp [Track.next?, Hold.track, Hold.stage, awaited, unheld]
  | fail awaited time =>
      simp [Track.next?, Hold.track, Hold.stage, awaited, Counter.bump, Counter.limit]

namespace Scheduler

def tracks (s : Scheduler) : List Track := s.circuits.map fun h => h.hold.track

theorem tracks_getElem? (s : Scheduler) (c : Nat) : s.tracks[c]? = (s.hold? c).map Hold.track := by
  simp [tracks, hold?, Function.comp_def]

theorem tracks_of_hold? {s : Scheduler} {c : Nat} {a : Hold} (found : s.hold? c = some a) :
    s.tracks[c]? = some a.track := by
  rw [tracks_getElem?, found, Option.map_some]

theorem tracks_congr {s s' : Scheduler} (holds : ∀ j, s'.hold? j = s.hold? j) :
    s'.tracks = s.tracks := by
  apply List.ext_getElem?
  intro j
  rw [tracks_getElem?, tracks_getElem?, holds]

theorem tracks_set {s s' : Scheduler} {c : Nat} {a a' : Hold} (found : s.hold? c = some a)
    (holds : ∀ j, s'.hold? j = if j = c then some a' else s.hold? j) :
    s'.tracks = s.tracks.set c a'.track := by
  have bound := (List.getElem?_eq_some_iff.1 (tracks_of_hold? found)).1
  apply List.ext_getElem?
  intro j
  rw [tracks_getElem?, holds]
  by_cases hj : j = c
  · subst j
    rw [if_pos rfl, List.getElem?_set_self bound]
    rfl
  · rw [if_neg hj, List.getElem?_set_ne (Ne.symm hj), tracks_getElem?]

/-- The observer knows when the slot is taken. -/
theorem SlotKept.busy_tracks {s : Scheduler} (kept : SlotKept s) :
    Lifecycle.busy s.tracks = s.inFlight.isSome := by
  rw [Bool.eq_iff_iff, Option.isSome_iff_exists]
  simp only [Lifecycle.busy, List.any_eq_true, decide_eq_true_eq]
  constructor
  · rintro ⟨t, mem, rebuilding⟩
    obtain ⟨c, track⟩ := List.mem_iff_getElem?.1 mem
    rw [tracks_getElem?] at track
    obtain ⟨a, found, rfl⟩ := Option.map_eq_some_iff.1 track
    exact ⟨_, kept.inFlight_of_rebuilding found (Hold.stage_rebuilding.1 rebuilding)⟩
  · rintro ⟨t, taken⟩
    obtain ⟨-, a, found, rebuilding, -⟩ := (kept.slot t).1 taken
    exact ⟨a.track, List.mem_of_getElem? (tracks_of_hold? found),
      Hold.stage_rebuilding.2 rebuilding⟩

/-- The events of a stride lead from the tracks before it to the tracks after it. -/
theorem Stride.retold {now : Instant} {s s' : Scheduler} {e : Option Event}
    (h : Stride now s e s') (kept : SlotKept s) :
    Lifecycle.replay? s.settings.rebuild s.tracks e.toList = some s'.tracks := by
  rcases h.hold_cases with ⟨rfl, holds, -⟩ | ⟨c, a, a', found, shift, holds, -⟩
  · rw [tracks_congr holds]
    rfl
  · have after := tracks_set found holds
    have track := tracks_of_hold? found
    cases e with
    | none =>
        -- Without an event the hold is the same, though the record need not be.
        cases shift
        obtain ⟨bound, at_⟩ := List.getElem?_eq_some_iff.1 track
        rw [after, ← at_, List.set_getElem_self]
        rfl
    | some e =>
        have circuit : e.circuit = c := shift.circuit_eq
        have busy : (s.scene now c).holder.isSome = Lifecycle.busy s.tracks := by
          rw [kept.busy_tracks]
          exact Option.isSome_map
        have next : a.track.next? s.settings.rebuild (Lifecycle.busy s.tracks) e = some a'.track :=
          busy ▸ shift.next? (kept.apart c a found)
        rw [after, ← circuit]
        simpa [Lifecycle.replay?] using Lifecycle.next?_eq_some (circuit ▸ track) next

end Scheduler

/-- A track tells all of a record that bears on its rebuilds. -/
structure Track.Tells (t : Track) (h : Health) : Prop where
  quarantined : h.quarantined = true ↔ t.stage = .quarantined
  rebuilding : h.rebuilding = true ↔ t.stage = .rebuilding
  epoch : h.epoch = t.epoch
  failures : h.rebuildFailures = t.failures
  backoff : h.backoff = t.backoff

theorem Scheduler.SlotKept.tracks_tell {s : Scheduler} (kept : SlotKept s) :
    List.Forall₂ Track.Tells s.tracks s.circuits := by
  rw [tracks, List.forall₂_map_left_iff, List.forall₂_same]
  intro h mem
  obtain ⟨c, found⟩ := List.mem_iff_getElem?.1 mem
  have apart := kept.apart c h.hold (hold?_of_found found)
  exact ⟨(Hold.stage_quarantined apart).symm, (Hold.stage_rebuilding (a := h.hold)).symm,
    rfl, rfl, rfl⟩

namespace Session

variable {settings : Settings} {call : CallId} {w : Session}

theorem run_retold (w : Session) (kept : w.scheduler.SlotKept) (moves : List Move) :
    Lifecycle.replay? w.scheduler.settings.rebuild w.scheduler.tracks (w.run moves).events =
      some (w.run moves).final.scheduler.tracks := by
  refine run_induction
    (R := fun s es s' => s.SlotKept →
      Lifecycle.replay? s.settings.rebuild s.tracks es = some s'.tracks)
    (fun _ _ => rfl) ?_ w moves kept
  intro now s s' s'' e es first rest kept
  rw [Lifecycle.replay?_append, first.retold kept, Option.bind_some, ← first.settings_eq]
  exact rest (kept.stride first)

theorem Opened.tracks_eq (opened : w.Opened settings call) :
    w.scheduler.tracks = Lifecycle.start settings := by
  obtain ⟨entropy, start⟩ := opened.scheduler_eq
  rw [start]
  exact List.map_replicate

/-- The events of a run are all that its rebuilds have to tell. -/
theorem events_retell (opened : w.Opened settings call) (moves : List Move) :
    ∃ tracks,
      Lifecycle.replay? settings.rebuild (Lifecycle.start settings) (w.run moves).events =
        some tracks ∧
      List.Forall₂ Track.Tells tracks (w.run moves).final.scheduler.circuits := by
  have retold := w.run_retold (opened.slotKept []) moves
  have same : w.scheduler.settings = settings := opened.settings_eq []
  rw [opened.tracks_eq, same] at retold
  exact ⟨_, retold, (opened.slotKept moves).tracks_tell⟩

/-- Both circuits are held. The first rebuild fails and the second succeeds, and each of them has the
other circuit wait. -/
def bothRebuilt : List Move :=
  [badWindow 0, badWindow 1, .advance 1000, badWindow 0, badWindow 1, .ask (.rebuildFailed 0),
    .advance 2000, badWindow 1, badWindow 0, .ask (.complete ⟨⟨"A"⟩, 1, 1⟩ .rebuilt)]

theorem events_retell_brisk :
    brisk.Opened .brisk ⟨"A"⟩ ∧
      (brisk.run bothRebuilt).events =
        [.cooldownTriggered 0 .highConcealed, .quarantined 0 1,
          .cooldownTriggered 1 .highConcealed, .quarantined 1 1,
          .rebuildRequested 0 1, .rebuildDeferred 1, .rebuildFailed 0 1 2,
          .rebuildRequested 1 1, .rebuildDeferred 0, .rebuildSucceeded 1 1] ∧
      ∃ tracks,
        Lifecycle.replay? Settings.brisk.rebuild (Lifecycle.start .brisk)
          (brisk.run bothRebuilt).events = some tracks ∧
        List.Forall₂ Track.Tells tracks (brisk.run bothRebuilt).final.scheduler.circuits :=
  ⟨brisk_opened, rfl, events_retell brisk_opened bothRebuilt⟩

/-- Two rebuilds at once would not be believed. -/
example : Lifecycle.replay? Settings.brisk.rebuild (Lifecycle.start .brisk)
    [.quarantined 0 1, .quarantined 1 1, .rebuildRequested 0 1, .rebuildRequested 1 1] = none := by
  decide

end Session

end Multipath
