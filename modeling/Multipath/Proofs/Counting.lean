import Multipath.Proofs.Diary
import Multipath.Proofs.Shares

/-! # What the counters count

A record has three counters of things in a row: failed frames, windows that were bad for the rebuild
rules, and windows of low delivery. Each is a `Streak`, which is read off a diary without any counter:
the pages of one kind since the last page of another. Every page moves the counters as it moves the
streaks (`Episode.counts_eq`), so that after any run the two agree (`Opened.reckoned`), up to the largest
number that a counter holds.

`failures_counted` and `bad_windows_counted` say, besides, which pages tell the event that a streak
leads to.
-/

namespace Multipath

/-! ## Streaks -/

/-- A count of pages of one kind that starts over at pages of another. -/
structure Streak where
  counts : Page → Bool
  restarts : Page → Bool

namespace Streak

/-- The pages that count, since the last one that starts the count over. -/
def length (k : Streak) (diary : Diary) : Nat :=
  (diary.reverse.takeWhile (!k.restarts ·)).countP k.counts

/-- A counter of the streak after one more page. -/
def next (k : Streak) (page : Page) (n : Nat) : Nat :=
  if k.restarts page then 0 else if k.counts page then Counter.bump n else n

variable {k : Streak} {page : Page} {n : Nat}

theorem length_concat (k : Streak) (diary : Diary) (page : Page) :
    k.length (diary ++ [page]) =
      if k.restarts page then 0 else if k.counts page then k.length diary + 1 else k.length diary := by
  unfold length
  rw [List.reverse_append, List.reverse_singleton, List.singleton_append, List.takeWhile_cons]
  cases again : k.restarts page with
  | true => rfl
  | false =>
      simp only [Bool.not_false, if_true, List.countP_cons, Bool.false_eq_true, if_false]
      split <;> rfl

/-- A counter that stops holds as much of a streak as it can. -/
theorem next_min (k : Streak) (diary : Diary) (page : Page) :
    k.next page (min (k.length diary) Counter.limit) =
      min (k.length (diary ++ [page])) Counter.limit := by
  rw [length_concat]
  unfold next Counter.bump
  split
  · rfl
  · split
    · omega
    · rfl

theorem next_of_lt {diary : Diary} (room : k.length diary < Counter.limit) :
    k.next page (k.length diary) = k.length (diary ++ [page]) := by
  rw [length_concat, next, Counter.bump_of_lt room]

/-- A page that does not count does not add to a counter. -/
theorem next_le (other : k.counts page = false) : k.next page n ≤ n := by
  unfold next
  rw [other]
  split
  · exact Nat.zero_le n
  · exact Nat.le_refl n

end Streak

namespace Sight

/-- Neither limit of the phase is exceeded. -/
def inLimits (sight : Sight) : Bool := !sight.missing && !sight.concealed

/-- The cause for a cooldown that a window gives, as the `n`th one of low delivery. -/
def cause? (sight : Sight) (rules : CooldownRules) (n : Nat) : Option CooldownCause :=
  if sight.missing then some .highMissing
  else if sight.concealed then some .highConcealed
  else if sight.low = some true ∧ (rules.lowDeliveryWindows.toNat ≤ n ∨ sight.audible) then
    some .deliveryRate
  else none

theorem cause?_ne_sendFailure (sight : Sight) (rules : CooldownRules) (n : Nat) :
    sight.cause? rules n ≠ some .sendFailure := by
  unfold cause?
  split
  · nofun
  · split
    · nofun
    · split <;> nofun

end Sight

namespace Streak

/-- Failed frames. One that goes out starts the count over, and so do the cooldown that they lead to
and the begin of a rebuild. -/
def failures : Streak where
  counts page := page.occasion = .failed
  restarts page := match page.told with
    | some (.cooldownTriggered _ .sendFailure) | some (.rebuildRequested ..) => true
    | _ => page.occasion = .sent

/-- Windows that were bad for the rebuild rules. A good one starts the count over, and so do the end of a
quarantine and the end of a rebuild. -/
def badWindows : Streak where
  counts page := match page.occasion with
    | .counted bad .. => bad
    | _ => false
  restarts page := match page.told with
    | some (.quarantineReleased _) | some (.rebuildRequested ..) | some (.rebuildSucceeded ..)
    | some (.rebuildFailed ..) => true
    | _ => match page.occasion with
      | .counted bad .. => !bad
      | _ => false

/-- Windows of low delivery with all else in its limits. One of good delivery starts the count over, and so
do a cooldown, the begin of a rebuild and its success. -/
def lowWindows : Streak where
  counts page := match page.occasion with
    | .judged sight => sight.inLimits && sight.low == some true
    | _ => false
  restarts page := match page.told with
    | some (.cooldownTriggered ..) | some (.rebuildRequested ..) | some (.rebuildSucceeded ..) => true
    | _ => match page.occasion with
      | .judged sight => sight.inLimits && sight.low == some false
      | _ => false

end Streak

/-! ## Episodes -/

/-- A share below the floor is one that is not at or above it. -/
theorem Health.deliveryRate_lt {settings : Settings} (accepted : settings.check = .ok ())
    {phase : Phase} {h : Health} (few : h.sent < UInt64.size) {minFrames : Nat} {floor rate : Float}
    (asked : settings.cooldown.delivery phase = some floor)
    (measured : h.deliveryRate minFrames = some rate) : rate < floor ↔ ¬ floor ≤ rate := by
  have number : rate.isNaN = false := by
    unfold deliveryRate at measured
    split at measured
    · cases measured
    · rename_i sent
      cases measured
      simp only [Bool.or_eq_true, decide_eq_true_eq, not_or] at sent
      have less : h.sentOnPath ≤ h.sent := Nat.sub_le ..
      exact Doubles.isNaN_share _ (Nat.pos_of_ne_zero sent.2) (Nat.lt_of_le_of_lt less few)
  exact Doubles.lt_iff_not_le number (Doubles.isNaN_of_ge (Settings.delivery_le_one accepted asked))

namespace Scene

variable {scene : Scene} {h h' : Health} {page : Page}

/-- Delivery is judged where all else is in its limits. -/
theorem judgeDelivery_sight (accepted : scene.settings.check = .ok ()) (few : h.sent < UInt64.size)
    (missing : (scene.sight h).missing = false) (concealed : (scene.sight h).concealed = false) :
    let verdict := h.judgeDelivery scene.settings.cooldown scene.phase
    verdict.health =
      { h with
        lowDeliveries := Streak.lowWindows.next ⟨.judged (scene.sight h), none⟩ h.lowDeliveries } ∧
    verdict.cause =
      (scene.sight h).cause? scene.settings.cooldown (Counter.bump h.lowDeliveries) := by
  have audible : (scene.sight h).audible =
      decide (scene.settings.cooldown.audibleConcealed < h.concealed) := rfl
  simp only [Health.judgeDelivery, Streak.next, Streak.lowWindows, Sight.inLimits, Sight.cause?,
    missing, concealed, audible]
  cases asked : scene.settings.cooldown.delivery scene.phase with
  | none =>
      have unseen : (scene.sight h).low = none := by simp [sight, asked]
      simp [unseen]
  | some floor =>
      cases measured : h.deliveryRate scene.settings.cooldown.minFrames.toNat with
      | none =>
          have unseen : (scene.sight h).low = none := by simp [sight, asked, minFrames, measured]
          simp [unseen]
      | some rate =>
          have seen : (scene.sight h).low = some (decide (rate < floor)) := by
            simp [sight, asked, minFrames, measured]
          have below := Health.deliveryRate_lt accepted few asked measured
          by_cases fine : floor ≤ rate
          · have above : ¬ rate < floor := fun low => below.1 low fine
            simp [seen, fine, above]
          · have low : rate < floor := below.2 fine
            simp [seen, fine, low]

/-- The verdict on a window goes by what is seen in it. -/
theorem judge_sight (accepted : scene.settings.check = .ok ()) (few : h.sent < UInt64.size) :
    let verdict := h.judge scene.settings.cooldown scene.phase
    verdict.health =
      { h with
        lowDeliveries := Streak.lowWindows.next ⟨.judged (scene.sight h), none⟩ h.lowDeliveries } ∧
    verdict.cause =
      (scene.sight h).cause? scene.settings.cooldown (Counter.bump h.lowDeliveries) := by
  -- A phase without limits has no floor either.
  have settled := scene.settings.cooldown.quality_isSome scene.phase
  rw [← scene.settings.cooldown.delivery_isSome scene.phase] at settled
  simp only [Health.judge]
  cases limits : scene.settings.cooldown.quality scene.phase with
  | none =>
      have unasked : scene.settings.cooldown.delivery scene.phase = none := by
        simpa [limits] using settled.symm
      have missing : (scene.sight h).missing = false := by simp [sight, limits]
      have concealed : (scene.sight h).concealed = false := by simp [sight, limits]
      have unseen : (scene.sight h).low = none := by simp [sight, unasked]
      simp [Streak.next, Streak.lowWindows, Sight.inLimits, Sight.cause?, missing, concealed, unseen]
  | some limits' =>
      obtain ⟨missing, concealed⟩ := limits'
      by_cases hm : missing < h.missing
      · have seen : (scene.sight h).missing = true := by simp [sight, limits, hm]
        simp [Streak.next, Streak.lowWindows, Sight.inLimits, Sight.cause?, seen, hm]
      · have seen : (scene.sight h).missing = false := by simp [sight, limits, hm]
        by_cases hc : concealed < h.concealed
        · have seen' : (scene.sight h).concealed = true := by simp [sight, limits, hc]
          simp [Streak.next, Streak.lowWindows, Sight.inLimits, Sight.cause?, seen, seen', hm, hc]
        · have seen' : (scene.sight h).concealed = false := by simp [sight, limits, hc]
          simpa only [hm, hc, if_false] using judgeDelivery_sight accepted few seen seen'

/-! What the pages of the rules tell. -/

variable (scene h)

theorem sendFailed_told :
    ((scene.sendFailed h).page .failed).told =
      if scene.settings.cooldown.failureThreshold.toNat ≤ Counter.bump h.failures then
        some (.cooldownTriggered scene.circuit .sendFailure)
      else none := by
  obtain ⟨reached, told, -⟩ | ⟨less, told, -⟩ := scene.sendFailed_cases h
  · rw [Turn.page, told, if_pos reached]
    rfl
  · rw [Turn.page, told, if_neg (Nat.not_le.2 less)]
    rfl

theorem judge_told (accepted : scene.settings.check = .ok ()) (few : h.sent < UInt64.size) :
    let sight := scene.sight h
    ((scene.judge h).page (.judged sight)).told =
      if sight.cooling then none
      else (sight.cause? scene.settings.cooldown (Counter.bump h.lowDeliveries)).map
        (.cooldownTriggered scene.circuit) := by
  intro sight
  obtain ⟨counted, called⟩ := scene.judge_sight accepted few
  have cooling : (h.judge scene.settings.cooldown scene.phase).health.cooling scene.now =
      sight.cooling := by
    rw [counted]
    rfl
  obtain ⟨cause, given, still, told, -⟩ | ⟨spared, told, -⟩ := scene.judge_outcome h
  · rw [cooling] at still
    rw [Turn.page, told, still, ← called, given]
    rfl
  · rw [cooling, called] at spared
    rw [Turn.page, told]
    rcases spared with unmoved | running
    · rw [unmoved]
      exact (ite_self none).symm
    · rw [if_pos running]
      rfl

theorem countedPage_told (lateToBuffer : Float) (due : scene.CountsWindow h) :
    (scene.countedPage lateToBuffer h).told =
      if scene.settings.rebuild.badStreak.toNat ≤
          (scene.countWindow lateToBuffer h).health.badStreak ∧ h.held = false ∧ scene.holder = none
      then some (.quarantined scene.circuit h.backoff) else none := by
  rw [countedPage, Turn.page, (scene.countWindow_eq h lateToBuffer due).2, apply_ite List.head?]
  rfl

end Scene

/-- The counters after one more page. -/
def Counts.next (page : Page) (a : Counts) : Counts where
  failures := Streak.failures.next page a.failures
  badStreak := Streak.badWindows.next page a.badStreak
  lowDeliveries := Streak.lowWindows.next page a.lowDeliveries
  sent := if page.occasion = .sent then Counter.nextTotal a.sent else a.sent

namespace Scene

variable {scene : Scene} {h h' : Health} {page : Page}

theorem sendFailed_counts :
    (scene.sendFailed h).health.counts = h.counts.next ((scene.sendFailed h).page .failed) := by
  obtain ⟨-, told, counts⟩ | ⟨-, told, counts⟩ := scene.sendFailed_cases h
  · rw [counts, Turn.page, told]
    rfl
  · rw [counts, Turn.page, told]
    rfl

theorem judge_counts (accepted : scene.settings.check = .ok ()) (few : h.sent < UInt64.size) :
    (scene.judge h).health.counts =
      h.counts.next ((scene.judge h).page (.judged (scene.sight h))) := by
  obtain ⟨counted, called⟩ := scene.judge_sight accepted few
  obtain ⟨cause, given, -, told, after⟩ | ⟨-, told, after⟩ := scene.judge_outcome h
  · -- The one cause that would start the count of failures over is never found in a window.
    have other : cause ≠ .sendFailure := by
      rintro rfl
      exact (scene.sight h).cause?_ne_sendFailure _ _ (called.symm.trans given)
    rw [after, Turn.page, told, counted]
    cases cause with
    | sendFailure => exact (other rfl).elim
    | _ => rfl
  · rw [after, Turn.page, told, counted]
    rfl

theorem countWindow_counts (lateToBuffer : Float) (due : scene.CountsWindow h) :
    (scene.countWindow lateToBuffer h).health.counts =
      h.counts.next (scene.countedPage lateToBuffer h) := by
  obtain ⟨counts, told⟩ := scene.countWindow_eq h lateToBuffer due
  rw [counts, countedPage, Turn.page]
  split at told
  · rw [told]
    cases h.badWindow scene.settings.rebuild lateToBuffer <;> rfl
  · rw [told]
    cases h.badWindow scene.settings.rebuild lateToBuffer <;> rfl

/-- Every page moves the counters as it moves the streaks. -/
theorem Episode.counts_eq (episode : scene.Episode h (some page) h')
    (accepted : scene.settings.check = .ok ()) (few : h.sent < UInt64.size) :
    h'.counts = h.counts.next page := by
  cases episode with
  | sent => rfl
  | failed => exact sendFailed_counts
  | judged => exact judge_counts accepted few
  | counted lateToBuffer due => exact countWindow_counts lateToBuffer due
  | other deed uncalled =>
      cases deed with
      | coolDown cause => cases uncalled
      | quarantine unheld free => cases uncalled
      | _ => rfl

/-- No failure count stands at the threshold: the failure that brings it there takes it back to zero. -/
theorem Episode.failures_lt (episode : scene.Episode h (some page) h')
    (accepted : scene.settings.check = .ok ()) (few : h.sent < UInt64.size)
    (below : h.failures < scene.settings.cooldown.failureThreshold.toNat) :
    h'.failures < scene.settings.cooldown.failureThreshold.toNat := by
  have counted : h'.failures = Streak.failures.next page h.failures :=
    congrArg Counts.failures (episode.counts_eq accepted few)
  cases episode with
  | failed =>
      obtain ⟨-, -, counts⟩ | ⟨less, -, counts⟩ := scene.sendFailed_cases h
      · have zero : (scene.sendFailed h).health.failures = 0 := congrArg Counts.failures counts
        rw [zero]
        exact Settings.failureThreshold_pos accepted
      · have more : (scene.sendFailed h).health.failures = Counter.bump h.failures :=
          congrArg Counts.failures counts
        rwa [more]
  | _ =>
      rw [counted]
      exact Nat.lt_of_le_of_lt (Streak.next_le rfl) below

/-! What a page tells, by what it is about. -/

theorem Episode.told_failed (episode : scene.Episode h (some page) h')
    (failed : page.occasion = .failed) :
    page.told =
      if scene.settings.cooldown.failureThreshold.toNat ≤ Counter.bump h.failures then
        some (.cooldownTriggered scene.circuit .sendFailure)
      else none := by
  cases episode with
  | failed => exact scene.sendFailed_told h
  | _ => cases failed

theorem Episode.told_judged (episode : scene.Episode h (some page) h') {sight : Sight}
    (judged : page.occasion = .judged sight) (accepted : scene.settings.check = .ok ())
    (few : h.sent < UInt64.size) :
    page.told =
      if sight.cooling then none
      else (sight.cause? scene.settings.cooldown (Counter.bump h.lowDeliveries)).map
        (.cooldownTriggered scene.circuit) := by
  cases episode with
  | judged =>
      cases judged
      exact scene.judge_told h accepted few
  | _ => cases judged

theorem Episode.told_counted (episode : scene.Episode h (some page) h') {bad held busy : Bool}
    (counted : page.occasion = .counted bad held busy) :
    page.told =
      if scene.settings.rebuild.badStreak.toNat ≤ h'.badStreak ∧ held = false ∧ busy = false then
        some (.quarantined scene.circuit h.backoff)
      else none := by
  cases episode with
  | counted lateToBuffer due =>
      cases counted
      simp only [Option.isSome_eq_false_iff, Option.isNone_iff_eq_none]
      exact scene.countedPage_told h lateToBuffer due
  | _ => cases counted

/-- Nothing else tells what only a failed frame or a window can call for. -/
theorem Episode.occasion_of_called (episode : scene.Episode h (some page) h') {e : Event}
    (told : page.told = some e) (called : e.called = true) :
    page.occasion = .failed ∨ (∃ sight, page.occasion = .judged sight) ∨
      ∃ bad held busy, page.occasion = .counted bad held busy := by
  cases episode with
  | sent => cases told
  | failed => exact .inl rfl
  | judged => exact .inr (.inl ⟨_, rfl⟩)
  | counted lateToBuffer due => exact .inr (.inr ⟨_, _, _, rfl⟩)
  | other deed uncalled =>
      cases told
      rw [uncalled] at called
      cases called

/-- A cooldown for failed frames is told by the failed frame that fills the count. -/
theorem Episode.told_sendFailure (episode : scene.Episode h (some page) h')
    (accepted : scene.settings.check = .ok ()) (few : h.sent < UInt64.size) :
    page.told = some (.cooldownTriggered scene.circuit .sendFailure) ↔
      page.occasion = .failed ∧
        scene.settings.cooldown.failureThreshold.toNat ≤ Counter.bump h.failures := by
  constructor
  · intro told
    obtain failed | ⟨sight, judged⟩ | ⟨bad, held, busy, counted⟩ :=
      episode.occasion_of_called told rfl
    · rw [episode.told_failed failed] at told
      split at told
      · exact ⟨failed, ‹_›⟩
      · cases told
    · rw [episode.told_judged judged accepted few] at told
      split at told
      · cases told
      · obtain ⟨cause, called, same⟩ := Option.map_eq_some_iff.1 told
        cases same
        exact (sight.cause?_ne_sendFailure _ _ called).elim
    · rw [episode.told_counted counted] at told
      split at told <;> cases told
  · rintro ⟨failed, reached⟩
    rw [episode.told_failed failed, if_pos reached]

/-- A quarantine is told by a window that leaves the count full, of a circuit that is not held, with no
rebuild in flight. -/
theorem Episode.told_quarantined (episode : scene.Episode h (some page) h')
    (accepted : scene.settings.check = .ok ()) (few : h.sent < UInt64.size) :
    (∃ backoff, page.told = some (.quarantined scene.circuit backoff)) ↔
      ∃ bad, page.occasion = .counted bad false false ∧
        scene.settings.rebuild.badStreak.toNat ≤ h'.badStreak := by
  constructor
  · rintro ⟨backoff, told⟩
    obtain failed | ⟨sight, judged⟩ | ⟨bad, held, busy, counted⟩ :=
      episode.occasion_of_called told rfl
    · rw [episode.told_failed failed] at told
      split at told <;> cases told
    · rw [episode.told_judged judged accepted few] at told
      split at told
      · cases told
      · obtain ⟨cause, -, same⟩ := Option.map_eq_some_iff.1 told
        cases same
    · rw [episode.told_counted counted] at told
      split at told
      · rename_i full
        obtain ⟨enough, rfl, rfl⟩ := full
        exact ⟨bad, counted, enough⟩
      · cases told
  · rintro ⟨bad, counted, enough⟩
    exact ⟨h.backoff, by rw [episode.told_counted counted, if_pos ⟨enough, rfl, rfl⟩]⟩

end Scene

/-! ## Runs -/

/-- No threshold is out of reach of a counter that stops. -/
theorem Counter.le_min_limit {threshold : UInt32} {n : Nat} :
    threshold.toNat ≤ min n Counter.limit ↔ threshold.toNat ≤ n := by
  have small : threshold.toNat < UInt32.size := threshold.toNat_lt_size
  simp only [Counter.limit]
  omega

/-- The counters of a record are what its diary says. -/
structure Reckoned (settings : Settings) (past : Diary) (h : Health) : Prop where
  failures : h.failures = Streak.failures.length past
  below : h.failures < settings.cooldown.failureThreshold.toNat
  badStreak : h.badStreak = min (Streak.badWindows.length past) Counter.limit
  lowDeliveries : h.lowDeliveries = min (Streak.lowWindows.length past) Counter.limit
  few : h.sent < UInt64.size

namespace Reckoned

variable {settings : Settings} {past : Diary} {h h' : Health}

theorem fresh (accepted : settings.check = .ok ()) (initialBackoff : Nat) :
    Reckoned settings [] (.fresh initialBackoff) :=
  ⟨rfl, Settings.failureThreshold_pos accepted, rfl, rfl, Nat.zero_lt_succ _⟩

theorem room (reckoned : Reckoned settings past h) : h.failures < Counter.limit := by
  have small : settings.cooldown.failureThreshold.toNat < UInt32.size := UInt32.toNat_lt_size _
  have below := reckoned.below
  simp only [Counter.limit]
  omega

theorem step {scene : Scene} {page : Option Page} (reckoned : Reckoned scene.settings past h)
    (accepted : scene.settings.check = .ok ()) (episode : scene.Episode h page h') :
    Reckoned scene.settings (past ++ page.toList) h' := by
  cases page with
  | none =>
      obtain ⟨same⟩ := episode
      rw [Option.toList_none, List.append_nil]
      exact {
        failures := (congrArg Counts.failures same).trans reckoned.failures
        below := (congrArg Counts.failures same).trans_lt reckoned.below
        badStreak := (congrArg Counts.badStreak same).trans reckoned.badStreak
        lowDeliveries := (congrArg Counts.lowDeliveries same).trans reckoned.lowDeliveries
        few := (congrArg Counts.sent same).trans_lt reckoned.few }
  | some page =>
      have next := episode.counts_eq accepted reckoned.few
      have failures : h'.failures = Streak.failures.next page h.failures :=
        congrArg Counts.failures next
      have badStreak : h'.badStreak = Streak.badWindows.next page h.badStreak :=
        congrArg Counts.badStreak next
      have lowDeliveries : h'.lowDeliveries = Streak.lowWindows.next page h.lowDeliveries :=
        congrArg Counts.lowDeliveries next
      have sent : h'.sent = if page.occasion = .sent then Counter.nextTotal h.sent else h.sent :=
        congrArg Counts.sent next
      refine {
        failures := ?_
        below := episode.failures_lt accepted reckoned.few reckoned.below
        badStreak := ?_
        lowDeliveries := ?_
        few := ?_ }
      · -- Below the threshold the counter has not stopped.
        rw [failures, reckoned.failures]
        exact Streak.next_of_lt (reckoned.failures ▸ reckoned.room)
      · rw [badStreak, reckoned.badStreak]
        exact Streak.next_min ..
      · rw [lowDeliveries, reckoned.lowDeliveries]
        exact Streak.next_min ..
      · rw [sent]
        split
        · exact Nat.mod_lt _ (by decide)
        · exact reckoned.few

theorem life {c : Nat} {pages : Diary} (reckoned : Reckoned settings past h)
    (accepted : settings.check = .ok ()) (life : Life settings c h pages h') :
    Reckoned settings (past ++ pages) h' := by
  refine life.law reckoned fun rules own episode before => ?_
  subst rules
  exact before.step accepted episode

end Reckoned

namespace Session

open Scheduler

variable {settings : Settings} {call : CallId} {w : Session}

/-- The life of a circuit, from the record of a new one to the record that it has after a run. -/
theorem Opened.life (opened : w.Opened settings call) (moves : List Move) {c : Nat} {h : Health}
    (found : (w.run moves).final.scheduler.circuits[c]? = some h) :
    Life settings c (.fresh settings.rebuild.initialBackoff.toNat) ((w.run moves).diary c) h := by
  obtain ⟨entropy, start⟩ := opened.scheduler_eq
  have size : (w.run moves).final.scheduler.circuits.length = w.scheduler.circuits.length :=
    run_invariant (I := fun s => s.circuits.length = w.scheduler.circuits.length)
      (fun stride same => stride.size_eq.trans same) rfl moves
  have inside : c < w.scheduler.circuits.length := size ▸ (List.getElem?_eq_some_iff.1 found).1
  have all : w.scheduler.circuits =
      List.replicate settings.circuits.toNat (.fresh settings.rebuild.initialBackoff.toNat) := by
    rw [start]
    rfl
  have new : w.scheduler.circuits[c]? = some (.fresh settings.rebuild.initialBackoff.toNat) := by
    rw [all, List.length_replicate] at inside
    rw [all, List.getElem?_replicate_of_lt inside]
  obtain ⟨h', found', life⟩ := (w.run_keeps moves c).life _ new
  rw [found] at found'
  cases found'
  have rules : w.scheduler.settings = settings := opened.settings_eq []
  rwa [rules] at life

/-- After any run the counters of a circuit are what its diary says, and so they were before each of its
pages. -/
theorem Opened.reckoned (opened : w.Opened settings call) (moves : List Move) {c : Nat} {h : Health}
    (found : (w.run moves).final.scheduler.circuits[c]? = some h) :
    Reckoned settings ((w.run moves).diary c) h ∧
    ∀ {past since : Diary} {page : Page}, (w.run moves).diary c = past ++ page :: since →
      ∃ (scene : Scene) (before after : Health), scene.settings = settings ∧ scene.circuit = c ∧
        Reckoned settings past before ∧ Reckoned settings (past ++ [page]) after ∧
        scene.Episode before (some page) after := by
  have accepted := opened.accepted
  have life := opened.life moves found
  have fresh := Reckoned.fresh accepted settings.rebuild.initialBackoff.toNat
  refine ⟨fresh.life accepted life, fun split => ?_⟩
  rw [split] at life
  obtain ⟨scene, before, after, rules, own, led, episode, -⟩ := life.cut
  subst rules
  have start := fresh.life accepted led
  exact ⟨scene, before, after, rfl, own, start, start.step accepted episode, episode⟩

/-- After any run the failure count of a circuit is the number of its failed frames since they were last
started over, which is below the threshold, and a cooldown for failed frames was told by exactly those that
brought the number there. -/
theorem failures_counted (opened : w.Opened settings call) (moves : List Move) {c : Nat} {h : Health}
    (found : (w.run moves).final.scheduler.circuits[c]? = some h) :
    let diary := (w.run moves).diary c
    let threshold := settings.cooldown.failureThreshold.toNat
    h.failures = Streak.failures.length diary ∧ h.failures < threshold ∧
    diary.filterMap Page.told = (w.run moves).events.filter (·.circuit = c) ∧
    ∀ {past since : Diary} {page : Page}, diary = past ++ page :: since →
      (page.told = some (.cooldownTriggered c .sendFailure) ↔
        page.occasion = .failed ∧ Streak.failures.length past + 1 = threshold) := by
  intro diary threshold
  obtain ⟨reckoned, pages⟩ := opened.reckoned moves found
  refine ⟨reckoned.failures, reckoned.below, (w.run_keeps moves c).told, ?_⟩
  intro past since page split
  obtain ⟨scene, before, after, rfl, rfl, counted, -, episode⟩ := pages split
  rw [episode.told_sendFailure opened.accepted counted.few, Counter.bump_of_lt counted.room,
    counted.failures]
  have below : Streak.failures.length past < threshold := counted.failures ▸ counted.below
  have reached : threshold ≤ Streak.failures.length past + 1 ↔
      Streak.failures.length past + 1 = threshold := by
    omega
  rw [← reached]

/-- Circuit 0 fails for the third time when it is cooled down and held already, and then once more. -/
def fourFailures : List Move :=
  [.ask (.sendFailed 0), .ask (.sendFailed 1), .ask (.sendFailed 0), badWindow 0,
    .ask (.sendFailed 0), .ask (.sendFailed 0)]

theorem failures_counted_brisk :
    let r := brisk.run fourFailures
    brisk.Opened .brisk ⟨"A"⟩ ∧
      ∃ h, r.final.scheduler.circuits[0]? = some h ∧ h.quarantined = true ∧ h.failures = 1 ∧
        ∃ past page since, r.diary 0 = past ++ page :: since ∧ Streak.failures.length past = 2 ∧
          page.told = some (.cooldownTriggered 0 .sendFailure) := by
  intro r
  obtain ⟨h, found⟩ : ∃ h, r.final.scheduler.circuits[0]? = some h := ⟨_, rfl⟩
  obtain ⟨counted, -, -, told⟩ := failures_counted brisk_opened fourFailures found
  have split : r.diary 0 =
      (r.diary 0).take 4 ++ ⟨.failed, some (.cooldownTriggered 0 .sendFailure)⟩ ::
        (r.diary 0).drop 5 := rfl
  have held : h.quarantined = true := by
    cases found
    rfl
  exact ⟨brisk_opened, h, found, held, counted, _, _, _, split, rfl, (told split).2 ⟨rfl, rfl⟩⟩

/-- After any run the bad streak of a circuit is the number of its bad windows since they were last
started over, as far as the counter goes, and a quarantine was told by exactly the windows that had filled
the streak of a circuit not held, with no rebuild in flight. -/
theorem bad_windows_counted (opened : w.Opened settings call) (moves : List Move) {c : Nat} {h : Health}
    (found : (w.run moves).final.scheduler.circuits[c]? = some h) :
    let diary := (w.run moves).diary c
    h.badStreak = min (Streak.badWindows.length diary) Counter.limit ∧
    diary.filterMap Page.told = (w.run moves).events.filter (·.circuit = c) ∧
    ∀ {past since : Diary} {page : Page}, diary = past ++ page :: since →
      ((∃ backoff, page.told = some (.quarantined c backoff)) ↔
        ∃ bad, page.occasion = .counted bad false false ∧
          settings.rebuild.badStreak.toNat ≤ Streak.badWindows.length (past ++ [page])) := by
  intro diary
  obtain ⟨reckoned, pages⟩ := opened.reckoned moves found
  refine ⟨reckoned.badStreak, (w.run_keeps moves c).told, fun split => ?_⟩
  obtain ⟨scene, g, g', rfl, rfl, before, counted, episode⟩ := pages split
  rw [episode.told_quarantined opened.accepted before.few, counted.badStreak, Counter.le_min_limit]

/-- The quarantine of circuit 1 is due while circuit 0 is rebuilt, and comes with the next window. -/
def blocked : List Move :=
  toRebuild ++ [badWindow 1, .ask (.rebuilt 0 1), badWindow 1]

theorem bad_windows_counted_brisk :
    let r := brisk.run blocked
    brisk.Opened .brisk ⟨"A"⟩ ∧
      ∃ h, r.final.scheduler.circuits[1]? = some h ∧ h.badStreak = 2 ∧
        ∃ past page since, r.diary 1 = past ++ page :: since ∧
          ⟨.counted true false true, none⟩ ∈ past ∧ Streak.badWindows.length past = 1 ∧
          ∃ backoff, page.told = some (.quarantined 1 backoff) := by
  intro r
  obtain ⟨h, found⟩ : ∃ h, r.final.scheduler.circuits[1]? = some h := ⟨_, rfl⟩
  obtain ⟨counted, -, told⟩ := bad_windows_counted brisk_opened blocked found
  have split : r.diary 1 =
      (r.diary 1).take 3 ++ ⟨.counted true false false, some (.quarantined 1 1)⟩ ::
        (r.diary 1).drop 4 := rfl
  exact ⟨brisk_opened, h, found, counted, _, _, _, split, by decide, rfl,
    (told split).2 ⟨true, rfl, by decide⟩⟩

end Session

end Multipath
