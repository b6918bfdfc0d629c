import Multipath.Proofs.Choice
import Multipath.Proofs.Exclusion

/-! # Bursts

A pick reads the burst, and no other operation writes it. So the picks of a run hand the burst on from
one to the next (`picks_first`, `picks_next`), whatever is asked in between and however much time goes
by. What a pick does with it is `pick_in_burst`: it goes on while there is room and the circuit may be
chosen, and begins another burst otherwise.

The end mark of a burst is the largest size that a burst can have, so that it leaves no room at any
size; a burst of that size is not mistaken for an ended one, since it is over at the same number.
-/

namespace Multipath

namespace Transition

def isPick (t : Transition) : Bool :=
  match t.move with
  | .ask .pick => true
  | _ => false

/-- The phase in which a move was made. -/
def phase (t : Transition) : Phase := t.before.scheduler.phase t.before.now

/-- The circuit could be chosen when the move was made. -/
def offers (t : Transition) (c : Nat) : Bool :=
  t.before.scheduler.circuits[c]?.any (·.selectable t.before.now)

/-- The pick is frame `n` of a burst: no draw was taken, and nothing but the burst has changed. -/
def Continues (t : Transition) (c n : Nat) : Prop :=
  t.answer = .circuit c ∧ t.notices = [] ∧
    t.after.scheduler = { t.before.scheduler with burst := ⟨c, n⟩ }

/-- The pick is a fresh choice, which begins a burst. -/
def ChoosesAfresh (t : Transition) : Prop :=
  let choice := t.before.scheduler.choose t.before.now
  t.answer = .circuit choice.1 ∧ t.notices = choice.2.2 ∧
    t.after.scheduler = { choice.2.1 with burst := .start choice.1 }

end Transition

/-- The picks of a run, in their order. -/
def Run.picks (r : Run) : List Transition := r.transitions.filter Transition.isPick

namespace Scheduler

variable {s : Scheduler} {now : Instant} {c n : Nat}

/-! ## What touches the burst -/

theorem act_burst (s : Scheduler) (now : Instant) (c : Nat) (operation : String)
    (turn : Scene → Health → Turn) : (s.act now c operation turn).1.burst = s.burst := by
  unfold act
  cases s.circuits[c]? with
  | none => rfl
  | some h => exact apply_burst ..

theorem takeReports_burst (s : Scheduler) (now : Instant) (reports : List (Nat × PeerReport)) :
    (s.takeReports now reports).1.burst = s.burst := by
  induction reports generalizing s with
  | nil => rfl
  | cons item rest ih =>
      obtain ⟨c, report⟩ := item
      rw [takeReports]
      exact (ih _).trans (act_burst s now c _ _)

theorem rebuilt_burst (s : Scheduler) (now : Instant) (c epoch : Nat) :
    (s.rebuilt now c epoch).scheduler.burst = s.burst := by
  unfold rebuilt
  cases s.awaiting c epoch with
  | error refusal => rfl
  | ok h => exact apply_burst ..

theorem complete_burst (s : Scheduler) (now : Instant) (t : Ticket) (outcome : Outcome) :
    (s.complete now t outcome).scheduler.burst = s.burst := by
  unfold complete
  split
  · rfl
  · cases outcome with
    | rebuilt => exact s.rebuilt_burst now t.circuit t.epoch
    | failed =>
        cases s.awaiting t.circuit t.epoch with
        | error refusal => rfl
        | ok h => exact act_burst ..

/-! ## What a pick does with it -/

/-- After the establishment a pick goes on with the burst or makes a fresh choice. -/
theorem pick_in_burst (settled : s.phase now ≠ .establishment) (burst : s.burst = ⟨c, n⟩) :
    (s.burstHolds now = true → n < s.settings.selection.burstSize.toNat →
      s.pick now = (c, { s with burst := ⟨c, n + 1⟩ }, [])) ∧
    ((s.burstHolds now = true → s.settings.selection.burstSize.toNat ≤ n) →
      s.pick now = ((s.choose now).1,
        { (s.choose now).2.1 with burst := .start (s.choose now).1 }, (s.choose now).2.2)) := by
  rcases s.pick_cases now with ⟨probing, -⟩ | ⟨-, holds, room, picked⟩ | ⟨-, ended, picked⟩
  · exact (settled probing).elim
  · rw [burst] at room picked
    exact ⟨fun _ _ => picked, fun ended => absurd (ended holds) (Nat.not_le.2 room)⟩
  · rw [burst] at ended
    exact ⟨fun holds room => absurd (ended holds) (Nat.not_le.2 room), fun _ => picked⟩

/-- A fresh choice gives a circuit that may not be chosen only by its rescue. -/
theorem choose_eq_iff_rescued (nonempty : s.circuits ≠ [])
    (out : ∀ h, s.circuits[c]? = some h → h.selectable now = false) :
    (s.choose now).1 = c ↔ .rescued c ∈ Notice.events (s.choose now).2.2 := by
  by_cases none_ : s.ranked now = []
  · obtain ⟨h, found, -⟩ := leastBad_spec nonempty
    have told : Notice.events s.rescue.2.2 = [.rescued s.leastBad] := by
      rw [rescue_eq found]
      rfl
    have chosen : s.rescue.1 = s.leastBad := by rw [rescue_eq found]
    rw [choose_of_none none_, told, chosen, List.mem_singleton, Event.rescued.injEq, eq_comm]
  · obtain ⟨c', h, generator, found, may, choice⟩ := choose_of_selectable none_
    rw [choice]
    constructor
    · rintro rfl
      rw [out h found] at may
      cases may
    · nofun

end Scheduler

namespace Session

variable {w : Session} {moves : List Move} {t : Transition} {k : Nat}

/-! ## One pick -/

theorem make_pick_continues {c n : Nat} (settled : (w.make (.ask .pick)).phase ≠ .establishment)
    (burst : w.scheduler.burst = ⟨c, n⟩)
    (offered : (w.make (.ask .pick)).offers c = true)
    (room : n < w.scheduler.settings.selection.burstSize.toNat) :
    (w.make (.ask .pick)).Continues c (n + 1) := by
  have holds : w.scheduler.burstHolds w.now = true := by
    unfold Scheduler.burstHolds
    rw [burst]
    exact offered
  have picked : w.scheduler.pick w.now = (c, { w.scheduler with burst := ⟨c, n + 1⟩ }, []) :=
    (Scheduler.pick_in_burst settled burst).1 holds room
  simp only [Transition.Continues, make, Scheduler.step, picked]
  exact ⟨trivial, trivial, trivial⟩

theorem make_pick_choosesAfresh {c n : Nat}
    (settled : (w.make (.ask .pick)).phase ≠ .establishment)
    (burst : w.scheduler.burst = ⟨c, n⟩)
    (ended : (w.make (.ask .pick)).offers c = true →
      w.scheduler.settings.selection.burstSize.toNat ≤ n) :
    (w.make (.ask .pick)).ChoosesAfresh := by
  have full : w.scheduler.burstHolds w.now = true →
      w.scheduler.settings.selection.burstSize.toNat ≤ n := by
    unfold Scheduler.burstHolds
    rw [burst]
    exact ended
  have picked : w.scheduler.pick w.now = ((w.scheduler.choose w.now).1,
      { (w.scheduler.choose w.now).2.1 with burst := .start (w.scheduler.choose w.now).1 },
      (w.scheduler.choose w.now).2.2) :=
    (Scheduler.pick_in_burst settled burst).2 full
  simp only [Transition.ChoosesAfresh, make, Scheduler.step, picked]
  exact ⟨trivial, trivial, trivial⟩

/-- The next pick after frame `n` of a burst. -/
theorem make_pick_in_burst {c n size : Nat} (range : w.scheduler.InRange)
    (sized : w.scheduler.settings.selection.burstSize.toNat = size)
    (settled : (w.make (.ask .pick)).phase ≠ .establishment) (burst : w.scheduler.burst = ⟨c, n⟩) :
    let t := w.make (.ask .pick)
    (t.offers c = true → if n < size then t.Continues c (n + 1) else t.ChoosesAfresh) ∧
      (t.offers c = false →
        t.ChoosesAfresh ∧ (t.answer = .circuit c ↔ .rescued c ∈ t.events)) := by
  subst size
  intro t
  constructor
  · intro offered
    split
    · rename_i room
      exact make_pick_continues settled burst offered room
    · rename_i full
      exact make_pick_choosesAfresh settled burst fun _ => Nat.le_of_not_lt full
  · intro out
    have afresh : t.ChoosesAfresh := make_pick_choosesAfresh settled burst fun offered =>
      absurd (out.symm.trans offered) Bool.false_ne_true
    refine ⟨afresh, ?_⟩
    obtain ⟨answered, told, -⟩ := afresh
    rw [answered, Answer.circuit.injEq, Transition.events, told]
    refine Scheduler.choose_eq_iff_rescued range.nonempty fun h found => ?_
    rw [Transition.offers, found] at out
    exact out

/-! ## The picks of a run -/

theorem make_burst {move : Move} (other : (w.make move).isPick = false) :
    (w.make move).after.scheduler.burst = w.scheduler.burst := by
  cases move with
  | advance us => rfl
  | ask operation =>
      cases operation with
      | pick => cases other
      | feedback reports => exact w.scheduler.takeReports_burst w.now reports
      | lateness percents => exact w.scheduler.takeReports_burst w.now _
      | rebuilt c epoch => exact w.scheduler.rebuilt_burst w.now c epoch
      | complete ticket outcome => exact w.scheduler.complete_burst w.now ticket outcome
      | takeRequests => rfl
      | _ => exact Scheduler.act_burst ..

theorem run_cons_picks (w : Session) (move : Move) (moves : List Move) :
    (w.run (move :: moves)).picks =
      if (w.make move).isPick then w.make move :: ((w.make move).after.run moves).picks
      else ((w.make move).after.run moves).picks :=
  List.filter_cons

/-- A pick is made from where the moves before it lead. -/
theorem of_mem_picks (mem : t ∈ (w.run moves).picks) :
    ∃ past, t = (w.run past).final.make (.ask .pick) := by
  obtain ⟨mem, isPick⟩ := List.mem_filter.1 mem
  obtain ⟨k, at_⟩ := List.mem_iff_getElem?.1 mem
  obtain ⟨move, -, rfl⟩ := run_transition_at at_
  refine ⟨moves.take k, ?_⟩
  simp only [Transition.isPick, make_move] at isPick
  split at isPick
  · rfl
  · cases isPick

/-- The first pick finds the burst that the run began with. -/
theorem picks_first (at_ : (w.run moves).picks[0]? = some t) :
    t.before.scheduler.burst = w.scheduler.burst := by
  induction moves generalizing w with
  | nil => cases at_
  | cons move moves ih =>
      rw [run_cons_picks] at at_
      cases isPick : (w.make move).isPick with
      | true =>
          rw [isPick, if_pos rfl, List.getElem?_cons_zero, Option.some.injEq] at at_
          subst t
          cases move <;> rfl
      | false =>
          rw [isPick, if_neg Bool.false_ne_true] at at_
          exact (ih at_).trans (make_burst isPick)

/-- Every other one finds the burst that the pick before it left. -/
theorem picks_next (at_ : (w.run moves).picks[k + 1]? = some t) :
    ∃ t₀, (w.run moves).picks[k]? = some t₀ ∧
      t.before.scheduler.burst = t₀.after.scheduler.burst := by
  induction moves generalizing w k with
  | nil => cases at_
  | cons move moves ih =>
      rw [run_cons_picks] at at_ ⊢
      cases isPick : (w.make move).isPick with
      | true =>
          rw [isPick, if_pos rfl, List.getElem?_cons_succ] at at_
          rw [if_pos rfl]
          cases k with
          | zero => exact ⟨w.make move, rfl, picks_first at_⟩
          | succ k => exact ih at_
      | false =>
          rw [isPick, if_neg Bool.false_ne_true] at at_
          rw [if_neg Bool.false_ne_true]
          exact ih at_

theorem picks_mem (at_ : (w.run moves).picks[k]? = some t) :
    t ∈ (w.run moves).picks.take (k + 1) :=
  List.mem_of_getElem? ((List.getElem?_take_of_lt (Nat.lt_succ_self k)).trans at_)

/-- While its circuit may be chosen, a burst grows by one with each pick, up to its size. -/
theorem picks_burst {c : Nat} (burst : w.scheduler.burst = ⟨c, 1⟩)
    (at_ : (w.run moves).picks[k]? = some t)
    (room : k < w.scheduler.settings.selection.burstSize.toNat)
    (settled : ∀ t' ∈ (w.run moves).picks.take k, t'.phase ≠ .establishment)
    (offered : ∀ t' ∈ (w.run moves).picks.take k, t'.offers c = true) :
    t.before.scheduler.burst = ⟨c, k + 1⟩ := by
  induction k generalizing t with
  | zero => exact (picks_first at_).trans burst
  | succ k ih =>
      obtain ⟨t₀, at₀, handed⟩ := picks_next at_
      have mem := picks_mem at₀
      have earlier := List.take_subset_take_left (w.run moves).picks (Nat.le_succ k)
      have before := ih at₀ (Nat.lt_of_succ_lt room) (fun t' h => settled t' (earlier h))
        fun t' h => offered t' (earlier h)
      obtain ⟨past, rfl⟩ := of_mem_picks (List.mem_of_getElem? at₀)
      obtain ⟨-, -, after⟩ := make_pick_continues (settled _ mem) before (offered _ mem)
        (by rw [run_settings_eq]; exact room)
      rw [handed, after]

variable {settings : Settings} {call : CallId}

/-- The picks after a fresh choice, whatever is done between them. -/
theorem burst_lasts (opened : w.Opened settings call) (moves later : List Move) {c k : Nat}
    {t : Transition} :
    let first := (w.run moves).final.make (.ask .pick)
    let picks := (first.after.run later).picks
    let size := settings.selection.burstSize.toNat
    first.ChoosesAfresh → first.answer = .circuit c → picks[k]? = some t → k < size →
      (∀ t' ∈ picks.take (k + 1), t'.phase ≠ .establishment) →
      (∀ t' ∈ picks.take k, t'.offers c = true) →
      (t.offers c = true → if k + 1 < size then t.Continues c (k + 2) else t.ChoosesAfresh) ∧
        (t.offers c = false →
          t.ChoosesAfresh ∧ (t.answer = .circuit c ↔ .rescued c ∈ t.events)) := by
  intro first picks size afresh answer at_ room settled offered
  have started : first.after.scheduler.burst = ⟨c, 1⟩ := by
    obtain ⟨answered, -, after⟩ := afresh
    rw [answer, Answer.circuit.injEq] at answered
    rw [after, answered]
    rfl
  have sized : first.after.scheduler.settings = settings := by
    have same := opened.settings_eq (moves ++ [.ask .pick])
    rwa [run_append_final] at same
  have mem : t ∈ picks.take (k + 1) := picks_mem at_
  have earlier := List.take_subset_take_left picks (Nat.le_succ k)
  have burst : t.before.scheduler.burst = ⟨c, k + 1⟩ :=
    picks_burst started at_ (sized ▸ room) (fun t' h => settled t' (earlier h)) offered
  obtain ⟨past, rfl⟩ := of_mem_picks (List.mem_of_getElem? at_)
  have range := opened.inRange (moves ++ .ask .pick :: past)
  rw [run_append_final] at range
  have same : (first.after.run past).final.scheduler.settings = settings :=
    (run_settings_eq first.after past).trans sized
  exact make_pick_in_burst range (by rw [same]) (settled _ mem) burst

/-- A burst on circuit 0 that time does not end, but three failed sends do. -/
def cutShort : List Move :=
  [.ask .pick, .advance 1000000, .ask .pick] ++ threeFailures 0 ++ [.ask .pick]

/-- Circuit 1 cools down as well, so that there is nothing but circuit 0 to choose and to rescue. -/
theorem burst_lasts_brisk :
    let first := (brisk.run (threeFailures 1)).final.make (.ask .pick)
    let picks := (first.after.run cutShort).picks
    brisk.Opened .brisk ⟨"A"⟩ ∧ first.ChoosesAfresh ∧ ∃ second third,
      picks[1]? = some second ∧ picks[2]? = some third ∧ second.Continues 0 3 ∧
        third.ChoosesAfresh ∧ .rescued 0 ∈ third.events := by
  intro first picks
  have afresh : first.ChoosesAfresh := ⟨rfl, rfl, rfl⟩
  have settled : ∀ t ∈ picks, t.phase ≠ .establishment := by decide +kernel
  have offered : ∀ t ∈ picks.take 2, t.offers 0 = true := by decide +kernel
  have chosen : ((brisk.run (threeFailures 1)).final.scheduler.pick
      (brisk.run (threeFailures 1)).final.now).1 = 0 := by decide +kernel
  have answer : first.answer = .circuit 0 := congrArg Answer.circuit chosen
  have second := (burst_lasts brisk_opened (threeFailures 1) cutShort afresh answer
    (k := 1) rfl (by decide) (fun t h => settled t (List.mem_of_mem_take h))
    fun t h => offered t (List.take_subset_take_left picks (by decide) h)).1 (by decide +kernel)
  have third := (burst_lasts brisk_opened (threeFailures 1) cutShort afresh answer
    (k := 2) rfl (by decide) (fun t h => settled t (List.mem_of_mem_take h)) offered).2 (by decide +kernel)
  exact ⟨brisk_opened, afresh, _, _, rfl, rfl, second, third.1, by decide +kernel⟩

end Session

end Multipath
