import Multipath.Proofs.Streak

/-! # A weight is earned

`Scheduler.Vouches` is what the history of a circuit and its record say together: every growth was
earned, and the streak will do for the next one as long as the history is mended. Every operation keeps
it. The one that might not is the rescue of a circuit, which raises the weight and leaves the streak
alone: out of a running cooldown the streak is zero, and otherwise the history has a lapse.
-/

namespace Multipath

namespace Scheduler

/-- The history of a circuit is honest, and its record is vouched for as long as the history is
mended. -/
structure Vouches (n : Nat) (c : Nat) (now : Instant) (marks : List Mark) (s : Scheduler) : Prop where
  honest : Honest n marks
  vouched : Mended marks → ∀ h, s.circuits[c]? = some h → Vouched now h marks

variable {s s' : Scheduler} {n c i : Nat} {now : Instant} {marks : List Mark} {h : Health}

theorem cools_of_found (found : s.circuits[c]? = some h) (now : Instant) :
    s.cools now c = h.cooling now := by
  simp [cools, found]

namespace Vouches

/-- Nothing happens to the record. -/
theorem same (vouches : Vouches n c now marks s) (record : s'.circuits[c]? = s.circuits[c]?) :
    Vouches n c now marks s' :=
  ⟨vouches.honest, fun mended h found => vouches.vouched mended h (record ▸ found)⟩

/-- Nothing is told, and nothing happens to the record. -/
theorem quietly (vouches : Vouches n c now marks s) (cooling : Bool)
    (record : s'.circuits[c]? = s.circuits[c]?) :
    Vouches n c now (marks ++ Event.marks c cooling []) s' := by
  have none_ : Event.marks c cooling [] = [] := rfl
  rw [none_, List.append_nil]
  exact vouches.same record

/-- A circuit takes a turn that is no window. -/
theorem turn (vouches : Vouches n c now marks s) {t : Turn} (found : s.circuits[i]? = some h)
    (own : ∀ e ∈ t.events, e.circuit = i) (spares : t.Spares h) (cooling : Bool) :
    Vouches n c now (marks ++ Event.marks c cooling t.events) (s.apply i t) := by
  by_cases mine : i = c
  · subst i
    rw [Event.marks_of_eq own]
    refine ⟨vouches.honest.append (t.marks_plain cooling), fun mended h' found' => ?_⟩
    rw [apply_circuit? found, if_pos rfl] at found'
    cases found'
    exact spares.vouched (fun mended => vouches.vouched mended h found) mended
  · have others : ∀ e ∈ t.events, e.circuit ≠ c := fun e mem => own e mem ▸ mine
    rw [Event.marks_of_ne others, List.append_nil]
    refine vouches.same ?_
    rw [apply_circuit? found, if_neg (Ne.symm mine)]

theorem act (vouches : Vouches n c now marks s) {operation : String} {turn : Scene → Health → Turn}
    (course : ∀ h, s.circuits[i]? = some h → (s.scene now i).Course h (turn (s.scene now i) h))
    (spares : ∀ h, (turn (s.scene now i) h).Spares h) (cooling : Bool) :
    let r := s.act now i operation turn
    Vouches n c now (marks ++ Event.marks c cooling (Notice.events r.2)) r.1 := by
  intro r
  cases found : s.circuits[i]? with
  | none =>
      have ignored : r = _ := act_of_stray found
      rw [ignored]
      exact vouches.quietly cooling rfl
  | some h =>
      have acted : r = _ := act_of_found found
      rw [acted]
      exact vouches.turn found (course h found).circuit_eq (spares h) cooling

/-- A window of the circuit. -/
theorem judged (vouches : Vouches n c now marks s) {t : Turn} {window : List Mark}
    (found : s.circuits[c]? = some h) (plain : .grew ∉ window)
    (judged : Judged n now (marks ++ window) t) (cooling : Bool) :
    Vouches n c now (marks ++ (window ++ t.growth ++ t.marks cooling)) (s.apply c t) := by
  have opened : Honest n (marks ++ window) := vouches.honest.append plain
  have grown : Honest n (marks ++ window ++ t.growth) := by
    unfold Turn.growth
    split
    · rename_i grows
      exact opened.grew (judged.earned grows)
    · rw [List.append_nil]
      exact opened
  rw [← List.append_assoc, ← List.append_assoc]
  refine ⟨grown.append (t.marks_plain cooling), fun mended h' found' => ?_⟩
  rw [apply_circuit? found, if_pos rfl] at found'
  cases found'
  exact judged.vouched cooling mended

/-- A report is marked for its own circuit only. -/
theorem report (vouches : Vouches (max 1 s.settings.cooldown.cleanStreak.toNat) c now marks s)
    (lasts : 0 < s.settings.cooldown.duration.toNat) (i : Nat) (report : PeerReport)
    (operation : String) :
    Vouches (max 1 s.settings.cooldown.cleanStreak.toNat) c now
      (marks ++ if i = c then s.circuits[c]?.elim [] ((s.scene now c).reportMarks report) else [])
      (s.act now i operation (·.feedback report)).1 := by
  by_cases mine : i = c
  · subst i
    rw [if_pos rfl]
    cases found : s.circuits[c]? with
    | none =>
        rw [act_of_stray found, Option.elim_none, List.append_nil]
        exact vouches
    | some h =>
        have plain : .grew ∉ (s.scene now c).window report h := by
          unfold Scene.window
          split <;> simp
        rw [act_of_found found]
        exact vouches.judged found plain ((s.scene now c).feedback_judged h report lasts
          fun mended => vouches.vouched mended h found) _
  · rw [if_neg mine, List.append_nil]
    refine vouches.same ?_
    cases found : s.circuits[i]? with
    | none => rw [act_of_stray found]
    | some h => rw [act_of_found found, apply_circuit? found, if_neg (Ne.symm mine)]

theorem act_settings (s : Scheduler) (now : Instant) (i : Nat) (operation : String)
    (turn : Scene → Health → Turn) : (s.act now i operation turn).1.settings = s.settings := by
  unfold Scheduler.act
  split
  · rfl
  · exact apply_settings ..

theorem takeReports (reports : List (Nat × PeerReport))
    (vouches : Vouches (max 1 s.settings.cooldown.cleanStreak.toNat) c now marks s)
    (lasts : 0 < s.settings.cooldown.duration.toNat) :
    Vouches (max 1 s.settings.cooldown.cleanStreak.toNat) c now
      (marks ++ s.feedbackMarks now c reports) (s.takeReports now reports).1 := by
  induction reports generalizing s marks with
  | nil =>
      rw [feedbackMarks, List.append_nil]
      exact vouches
  | cons item rest ih =>
      obtain ⟨i, report⟩ := item
      have first := vouches.report lasts i report "update_from_receiver_feedback"
      have same : (s.act now i "update_from_receiver_feedback" (·.feedback report)).1.settings =
          s.settings := act_settings ..
      rw [← same] at first lasts ⊢
      have all := ih first lasts
      rw [List.append_assoc] at all
      exact all

theorem rebuilt (vouches : Vouches n c now marks s) (i epoch : Nat) (cooling : Bool) :
    let r := s.rebuilt now i epoch
    Vouches n c now (marks ++ Event.marks c cooling (Notice.events r.notices)) r.scheduler := by
  unfold Scheduler.rebuilt
  cases awaited : s.awaiting i epoch with
  | error refusal => cases refusal <;> exact vouches.quietly cooling rfl
  | ok h =>
      obtain ⟨found, rebuilding, rfl⟩ := awaiting_eq_ok.1 awaited
      exact vouches.turn found (Scene.rebuilt_course _ h rebuilding).circuit_eq
        (Scene.rebuilt_spares _ h _) cooling

theorem rebuildFailed (vouches : Vouches n c now marks s) (i : Nat) (cooling : Bool) :
    let r := s.rebuildFailed now i
    Vouches n c now (marks ++ Event.marks c cooling (Notice.events r.2)) r.1 :=
  vouches.act (fun h _ => Scene.rebuildFailed_course _ h) (Scene.rebuildFailed_spares _) cooling

theorem complete (vouches : Vouches n c now marks s) (ticket : Ticket) (outcome : Outcome)
    (cooling : Bool) :
    let r := s.complete now ticket outcome
    Vouches n c now (marks ++ Event.marks c cooling (Notice.events r.notices)) r.scheduler := by
  unfold Scheduler.complete
  split
  · exact vouches.quietly cooling rfl
  · cases outcome with
    | rebuilt => exact vouches.rebuilt ticket.circuit ticket.epoch cooling
    | failed =>
        cases s.awaiting ticket.circuit ticket.epoch with
        | error refusal => exact vouches.quietly cooling rfl
        | ok h => exact vouches.rebuildFailed ticket.circuit cooling

/-- Out of a running cooldown a circuit is rescued with its streak at zero. -/
theorem rescued (vouches : Vouches n c now marks s) (found : s.circuits[c]? = some h)
    (record : s'.circuits[c]? = some (h.rescued s.settings.selection.minWeight)) :
    Vouches n c now (marks ++ [.rescued (h.cooling now)]) s' := by
  refine ⟨vouches.honest.append (by simp), fun mended h' found' => ?_⟩
  rw [record] at found'
  cases found'
  cases running : h.cooling now with
  | false =>
      -- The streak may be stale, but then the history says so.
      rw [running] at mended
      exact absurd mended (Mended.not_of_lapse rfl)
  | true =>
      have before := vouches.vouched (mended.of_append (by simp)) h found
      have zero : (h.rescued s.settings.selection.minWeight).cleanStreak = 0 := before.cooled running
      exact .of_restart zero now _

theorem choose (vouches : Vouches n c now marks s) :
    let r := s.choose now
    Vouches n c now (marks ++ Event.marks c (s.cools now c) (Notice.events r.2.2)) r.2.1 := by
  intro r
  rcases s.choose_cases now with ⟨i, generator, choice⟩ | ⟨h, found, -, choice⟩
  · have drawn : r = _ := choice
    rw [drawn]
    exact vouches.quietly _ rfl
  · have bound := (List.getElem?_eq_some_iff.1 found).1
    have least : r = _ := choice
    rw [least]
    -- The mark is made from the record before the rescue, which ends the cooldown.
    by_cases mine : s.leastBad = c
    · have told : Event.marks c (s.cools now c) [.rescued s.leastBad] =
          [.rescued (h.cooling now)] := by
        rw [← mine, cools_of_found found, Event.marks_of_eq (by simp [Event.circuit])]
        rfl
      refine told ▸ vouches.rescued (mine ▸ found) ?_
      simp [← mine, bound]
    · have told : Event.marks c (s.cools now c) [.rescued s.leastBad] = [] :=
        Event.marks_of_ne (by simpa [Event.circuit] using mine)
      have record : (s.circuits.set s.leastBad (h.rescued s.settings.selection.minWeight))[c]? =
          s.circuits[c]? := List.getElem?_set_ne mine
      change Vouches n c now (marks ++ Event.marks c (s.cools now c) [.rescued s.leastBad]) _
      rw [told, List.append_nil]
      exact vouches.same record

theorem pick (vouches : Vouches n c now marks s) :
    let r := s.pick now
    Vouches n c now (marks ++ Event.marks c (s.cools now c) (Notice.events r.2.2)) r.2.1 := by
  intro r
  rcases s.pick_cases now with ⟨-, he⟩ | ⟨-, -, -, he⟩ | ⟨-, -, he⟩
  · have probe : r = _ := he
    rw [probe]
    exact vouches.quietly _ rfl
  · have next : r = _ := he
    rw [next]
    exact vouches.quietly _ rfl
  · have chosen : r = _ := he
    rw [chosen]
    exact vouches.choose.same rfl

end Vouches

theorem Vouches.step (vouches : Vouches (max 1 s.settings.cooldown.cleanStreak.toNat) c now marks s)
    (lasts : 0 < s.settings.cooldown.duration.toNat) (operation : Operation) :
    Vouches (max 1 s.settings.cooldown.cleanStreak.toNat) c now (marks ++ s.marks now c operation)
      (s.step now operation).scheduler := by
  cases operation with
  | pick => exact vouches.pick
  | sent i =>
      exact vouches.act (fun h _ => .deed .sent rfl rfl)
        (fun h => .quiet rfl (fun _ => rfl) rfl rfl rfl) _
  | sendFailed i =>
      exact vouches.act (fun h _ => Scene.sendFailed_course _ h) (Scene.sendFailed_spares _) _
  | lateToBuffer i percent =>
      exact vouches.act (fun h _ => .deed (.lateToBuffer percent) rfl rfl)
        (fun h => .quiet rfl (fun _ => rfl) rfl rfl rfl) _
  | feedback reports => exact vouches.takeReports reports lasts
  | lateness percents => exact vouches.takeReports _ lasts
  | countWindow i lateToBuffer =>
      exact vouches.act (fun h _ => Scene.countWindow_course _ lateToBuffer h)
        (fun h => Scene.countWindow_spares _ h lateToBuffer) _
  | checkQuarantine i =>
      exact vouches.act (fun h _ => Scene.checkQuarantine_course _ h) (Scene.checkQuarantine_spares _) _
  | rebuilt i epoch => exact vouches.rebuilt i epoch _
  | rebuildFailed i => exact vouches.rebuildFailed i _
  | complete ticket outcome => exact vouches.complete ticket outcome _
  | takeRequests => exact vouches.quietly _ rfl

/-- Time passes. A cooldown that begins anew is a lapse. -/
theorem Vouches.later (vouches : Vouches n c now marks s) (now' : Instant) :
    Vouches n c now'
      (marks ++ if !s.cools now c && s.cools now' c then [.revived] else []) s := by
  split
  · refine ⟨vouches.honest.append (by simp), fun mended => ?_⟩
    exact absurd mended (Mended.not_of_lapse rfl)
  · rename_i steady
    rw [List.append_nil]
    refine ⟨vouches.honest, fun mended h found => ?_⟩
    have before := vouches.vouched mended h found
    refine ⟨fun running => before.cooled ?_, before.earned⟩
    rw [cools_of_found found, cools_of_found found, running] at steady
    simpa using steady

theorem Vouches.fresh (n c : Nat) (settings : Settings) (call : CallId) (entropy : UInt64)
    (now : Instant) : Vouches n c now [] (Scheduler.fresh settings call entropy now) := by
  refine ⟨.nil, fun _ h found => ?_⟩
  rw [List.eq_of_mem_replicate (List.mem_of_getElem? found)]
  exact .of_restart rfl now []

end Scheduler

/-! ## Runs -/

namespace Session

open Scheduler

variable {settings : Settings} {call : CallId} {w : Session} {c : Nat}

end Session

end Multipath
