import Multipath.Proofs.Backoff

/-! # Quarantines are served out

A quarantine has one end, and it is fixed by the event that begins it. Windows go on being counted and
the end is asked for again and again, yet nothing resolves the quarantine before its time, and nothing
begins another one over it. `Passage.served` carries this over any row of strides in the order of
time: the first event that resolves the quarantine cannot come early, and all later ones come after
it.
-/

namespace Multipath

/-- The quarantine was found to be over: with a release, with a rebuild, or with a rebuild that has to
wait for another one. -/
def Event.resolves : Event → Bool
  | quarantineReleased _ | rebuildRequested .. | rebuildDeferred _ => true
  | _ => false

theorem Event.resolves_of_endsQuarantine {x : Event} (ends : x.endsQuarantine = true) :
    x.resolves = true := by
  cases x with
  | quarantineReleased circuit => rfl
  | rebuildRequested circuit epoch => rfl
  | _ => cases ends

/-- A quarantine that is called over has come to its end. -/
theorem Health.heldUntil_le_of_holdVerdict {h : Health} {rules : RebuildRules} {now time : Instant}
    {verdict : HoldVerdict} (timed : h.heldUntil = some time)
    (due : h.holdVerdict rules now = verdict) (called : verdict ≠ .pending) : time ≤ now := by
  by_cases early : now < time
  · have pending : h.holdVerdict rules now = .pending := by
      simp [holdVerdict, timed, early]
    exact (called (due.symm.trans pending)).elim
  · exact Nat.le_of_not_lt early

namespace Scene

variable {scene : Scene} {h h' : Health} {x : Event} {time : Instant}

theorem Deed.heldUntil_le (deed : scene.Deed h (some x) h') (resolves : x.resolves = true)
    (waits : h.hold.Waits time) : time ≤ scene.now := by
  have timed : h.heldUntil = some time := waits.timed
  cases deed with
  | release due => exact Health.heldUntil_le_of_holdVerdict timed due nofun
  | begin due free => exact Health.heldUntil_le_of_holdVerdict timed due nofun
  | defer due taken => exact Health.heldUntil_le_of_holdVerdict timed due nofun
  | _ => cases resolves

theorem Deed.not_quarantined {c backoff : Nat} (deed : scene.Deed h (some (.quarantined c backoff)) h') :
    h.quarantined = false := by
  cases deed with
  | quarantine unheld free =>
      simp only [Health.held, Bool.or_eq_false_iff] at unheld
      exact unheld.1

end Scene

namespace Scheduler

variable {s s' : Scheduler} {now time : Instant} {c : Nat} {log : Log}

theorem Stride.heldUntil_le {x : Event} (stride : Stride now s (some x) s')
    (resolves : x.resolves = true) (waits : Waits x.circuit time s) : time ≤ now := by
  obtain ⟨h, h', found, -, deed⟩ := stride.told
  exact deed.heldUntil_le resolves (waits _ (hold?_of_found found))

/-- What resolves a quarantine comes when it is over. -/
theorem Passage.served (passage : Passage s log s') (sorted : log.Pairwise fun x y => x.1 ≤ y.1)
    (waits : Waits c time s) :
    ∀ x ∈ log, x.2.circuit = c → x.2.resolves = true → time ≤ x.1 := by
  induction passage with
  | refl s => nofun
  | @step now s s' s'' e log first rest ih =>
      obtain ⟨-, later, after⟩ := List.pairwise_append.1 sorted
      intro x mem own resolves
      cases e with
      | none => exact ih later (first.waits waits nofun) x mem own resolves
      | some y =>
          by_cases ends : y.circuit = c ∧ y.endsQuarantine = true
          · obtain ⟨rfl, ends⟩ := ends
            have due : time ≤ now :=
              first.heldUntil_le (Event.resolves_of_endsQuarantine ends) waits
            rcases List.mem_append.1 mem with here | there
            · rw [List.mem_singleton.1 here]
              exact due
            · exact Nat.le_trans due (after _ (List.mem_singleton_self _) x there)
          · rcases List.mem_append.1 mem with here | there
            · rw [List.mem_singleton.1 here] at own resolves ⊢
              subst own
              exact first.heldUntil_le resolves waits
            · refine ih later (first.waits waits ?_) x there own resolves
              rintro y ⟨⟩ same
              exact Bool.eq_false_iff.2 fun h => ends ⟨same, h⟩

/-- Another quarantine begins only after the end of this one. -/
theorem Passage.ended (waits : Waits c time s) {before since : Log} {backoff : Nat}
    (passage : Passage s (before ++ (now, .quarantined c backoff) :: since) s') :
    ∃ x ∈ before, x.2.circuit = c ∧ x.2.endsQuarantine = true := by
  refine Classical.byContradiction fun none_ => ?_
  obtain ⟨u, v, led, stride, -⟩ := passage.cut
  have still : Waits c time u := by
    refine led.waits waits fun x mem own => ?_
    exact Bool.eq_false_iff.2 fun ends => none_ ⟨x, mem, own, ends⟩
  obtain ⟨h, h', found, -, deed⟩ := stride.told
  have quarantined : h.quarantined = true := (still _ (hold?_of_found found)).quarantined
  rw [deed.not_quarantined] at quarantined
  cases quarantined

end Scheduler

namespace Session

variable {w : Session}

/-- A quarantine lasts as long as its event says. It is not resolved before that, no other one begins
before it has ended, and until then the record shows the same end of it. -/
theorem quarantine_served {moves : List Move} (steady : w.Steady moves) {past since : Log}
    {time : Instant} {e : Event} {backoff : Nat}
    (split : (w.run moves).log = past ++ (time, e) :: since) (told : e.backoff? = some backoff) :
    let deadline := time + millis backoff
    (∀ x ∈ since, x.2.circuit = e.circuit → x.2.resolves = true → deadline ≤ x.1) ∧
    (∀ {before later : Log} {time' : Instant} {backoff' : Nat},
      since = before ++ (time', .quarantined e.circuit backoff') :: later →
        ∃ x ∈ before, x.2.circuit = e.circuit ∧ x.2.endsQuarantine = true) ∧
    ((∀ x ∈ since, x.2.circuit = e.circuit → x.2.endsQuarantine = false) →
      ∃ h, (w.run moves).final.scheduler.circuits[e.circuit]? = some h ∧
        h.quarantined = true ∧ h.heldUntil = some deadline) := by
  intro deadline
  obtain ⟨before, after, -, stride, followed⟩ := (split ▸ w.run_passage moves).cut
  obtain ⟨g, g', -, found', deed⟩ := stride.told
  have start : after.Waits e.circuit deadline := by
    intro a ha
    rw [Scheduler.hold?_of_found found'] at ha
    cases ha
    exact (deed.waits told).2
  have sorted : since.Pairwise fun x y => x.1 ≤ y.1 := by
    have pairs := steady.log_sorted
    rw [split] at pairs
    exact (List.pairwise_cons.1 (List.pairwise_append.1 pairs).2.1).2
  refine ⟨followed.served sorted start, ?_, fun unended => ?_⟩
  · rintro mid later time' backoff' rfl
    exact followed.ended start
  · have bound : e.circuit < (w.run moves).final.scheduler.size := by
      rw [followed.size_eq]
      exact (List.getElem?_eq_some_iff.1 found').1
    have found := List.getElem?_eq_getElem bound
    have still := followed.waits start unended _ (Scheduler.hold?_of_found found)
    exact ⟨_, found, still.quarantined, still.timed⟩

/-- The rebuild of circuit 0 fails. In the quarantine that follows are a bad window, a cooldown and a
quarantine of the other circuit, a rescue, a check, and a good window. -/
def servedOut : List Move :=
  toRebuild ++ [.ask (.rebuildFailed 0), badWindow 0, badWindow 1, .ask .pick, .advance 1999,
    .ask (.checkQuarantine 0), window 0.0]

theorem quarantine_served_brisk :
    let late := brisk.run (servedOut ++ [.advance 1, .ask (.checkQuarantine 0), badWindow 0])
    brisk.Steady servedOut ∧
      (∃ h, (brisk.run servedOut).final.scheduler.circuits[0]? = some h ∧
        h.quarantined = true ∧ h.heldUntil = some (1000 + millis 2)) ∧
      ∃ past since, late.log = past ++ (1000, Event.rebuildFailed 0 1 2) :: since ∧
        (3000, Event.quarantineReleased 0) ∈ since ∧ (3000, Event.quarantined 0 2) ∈ since ∧
        ∀ x ∈ since, x.2.circuit = 0 → x.2.resolves = true → 1000 + millis 2 ≤ x.1 := by
  have steady : brisk.Steady servedOut := steady_of_duration (by decide)
  have split : (brisk.run servedOut).log =
      [(0, Event.cooldownTriggered 0 .highConcealed), (0, .quarantined 0 1),
        (1000, .rebuildRequested 0 1)] ++ (1000, Event.rebuildFailed 0 1 2) ::
        [(1000, .cooldownTriggered 1 .highConcealed), (1000, .quarantined 1 1),
          (1000, .rescued 0)] := by
    decide +kernel
  have split' :
      (brisk.run (servedOut ++ [.advance 1, .ask (.checkQuarantine 0), badWindow 0])).log =
        [(0, Event.cooldownTriggered 0 .highConcealed), (0, .quarantined 0 1),
          (1000, .rebuildRequested 0 1)] ++ (1000, Event.rebuildFailed 0 1 2) ::
          [(1000, .cooldownTriggered 1 .highConcealed), (1000, .quarantined 1 1),
            (1000, .rescued 0), (3000, .quarantineReleased 0),
            (3000, .cooldownTriggered 0 .highConcealed), (3000, .quarantined 0 2)] := by
    decide +kernel
  refine ⟨steady, (quarantine_served steady split rfl).2.2 (by decide), _, _, split', by decide,
    by decide, ?_⟩
  exact (quarantine_served (steady_of_duration (by decide)) split' rfl).1

end Session

end Multipath
