import Multipath.Proofs.Slot

/-! # Where the frames go

A pick always lands on a circuit, and after the establishment on one that may be chosen. When there
is none, the least bad circuit is made one: it is the only record that a pick ever changes. That a
circuit is not rescued out of its rebuild, unless it is the only one, rests on there being one rebuild
at a time.
-/

namespace Multipath

namespace Scheduler

/-- No circuit may be chosen. -/
def Out (s : Scheduler) (now : Instant) : Prop :=
  ∀ (c : Nat) (h : Health), s.circuits[c]? = some h → h.selectable now = false

/-- The circuit to rescue: the first in the order of the scores among those not being rebuilt. -/
structure LeastBad (s : Scheduler) (c : Nat) (h : Health) : Prop where
  found : s.circuits[c]? = some h
  alone : h.rebuilding = true → s.settings.circuits.toNat = 1
  first : ∀ (c' : Nat) (h' : Health), s.circuits[c']? = some h' → h'.rebuilding = false →
    h.standing < h'.standing ∨ h.standing = h'.standing ∧ c ≤ c'

/-- What a pick after the establishment does, from the circuit it gives, the records it leaves and
the events it tells. -/
structure Picked (s : Scheduler) (now : Instant) (c : Nat) (records : List Health)
    (events : List Event) : Prop where
  lands : ∃ h, records[c]? = some h ∧ h.selectable now = true
  told : s.Out now → events = [.rescued c]
  quiet : ¬ s.Out now → events = []
  kept : ¬ s.Out now → records = s.circuits
  rescued : s.Out now → ∃ h, s.LeastBad c h ∧
    records = s.circuits.set c
      { h with coolingUntil := none, weight := s.settings.selection.minWeight }
  only : s.Out now → ∀ (c' : Nat) (h' : Health), records[c']? = some h' →
    h'.selectable now = true → c' = c

/-- A burst stands on a circuit, and there are as many as the settings say. -/
structure InRange (s : Scheduler) : Prop where
  size : s.size = s.settings.circuits.toNat
  burst : s.burst.circuit < s.size

variable {s s' : Scheduler} {now : Instant}

theorem InRange.stride (range : InRange s) {e : Option Event} (h : Stride now s e s') :
    InRange s' := by
  refine ⟨by rw [h.size_eq, h.settings_eq, range.size], ?_⟩
  rw [h.size_eq]
  cases h with
  | deed found deed =>
      rw [apply_burst]
      exact range.burst
  | turnTo burst generator inRange => exact inRange range.burst
  | handOut => exact range.burst

theorem InRange.fresh {settings : Settings} (accepted : settings.check = .ok ()) (call : CallId)
    (entropy : UInt64) (now : Instant) : InRange (Scheduler.fresh settings call entropy now) := by
  have size : (Scheduler.fresh settings call entropy now).size = settings.circuits.toNat :=
    List.length_replicate
  refine ⟨size, ?_⟩
  rw [size]
  exact Nat.sub_lt (Settings.circuits_pos accepted) Nat.one_pos

theorem InRange.nonempty (range : InRange s) : s.circuits ≠ [] :=
  List.length_pos_iff.1 (Nat.zero_lt_of_lt range.burst)

/-! ## The least bad circuit -/

/-- Where every circuit is being rebuilt, there is only one. -/
theorem SlotKept.size_le_one (kept : SlotKept s)
    (all : ∀ (c : Nat) (h : Health), s.circuits[c]? = some h → h.rebuilding = true) :
    s.size ≤ 1 := by
  by_cases several : 1 < s.size
  · obtain ⟨h, found⟩ : ∃ h, s.circuits[0]? = some h :=
      ⟨_, List.getElem?_eq_getElem (Nat.zero_lt_of_lt several)⟩
    obtain ⟨h', found'⟩ : ∃ h, s.circuits[1]? = some h := ⟨_, List.getElem?_eq_getElem several⟩
    have same : 0 = 1 :=
      kept.unique (hold?_of_found found) (hold?_of_found found')
        (all 0 h found) (all 1 h' found')
    cases same
  · exact Nat.le_of_not_lt several

theorem leastBad_leastBad (range : InRange s) (kept : SlotKept s) :
    ∃ h, s.LeastBad s.leastBad h := by
  obtain ⟨h, found, spared, first⟩ := leastBad_spec range.nonempty
  refine ⟨h, found, ?_, ?_⟩
  · intro rebuilding
    -- It would have been passed over for any circuit that is not.
    have all : ∀ (c : Nat) (h' : Health), s.circuits[c]? = some h' → h'.rebuilding = true := by
      intro c h' found'
      cases hr : h'.rebuilding with
      | true => rfl
      | false =>
          rw [spared ⟨c, h', found', hr⟩] at rebuilding
          cases rebuilding
    have one := kept.size_le_one all
    have positive := range.burst
    have size := range.size
    omega
  · intro c h' found' unbuilt
    have ranked := first c h' found' (.inl unbuilt)
    simpa only [better_iff] using ranked

theorem selectable_rescued {h : Health} {minWeight : Float} (positive : 0.0 < minWeight) :
    (h.rescued minWeight).selectable now = true := by
  simp [Health.selectable, Health.cooling, Health.rescued, positive]

/-! ## Picks -/

theorem rescue_picked (range : InRange s) (kept : SlotKept s)
    (positive : 0.0 < s.settings.selection.minWeight) (out : s.Out now) :
    s.Picked now s.rescue.1 s.rescue.2.1.circuits (Notice.events s.rescue.2.2) := by
  obtain ⟨h, least⟩ := leastBad_leastBad range kept
  have bound := (List.getElem?_eq_some_iff.1 least.found).1
  rw [rescue_eq least.found]
  constructor
  · exact ⟨_, List.getElem?_set_self bound, selectable_rescued positive⟩
  · exact fun _ => rfl
  · exact fun some_ => (some_ out).elim
  · exact fun some_ => (some_ out).elim
  · exact fun _ => ⟨h, least, rfl⟩
  · intro _ c' h' found' may
    by_cases same : s.leastBad = c'
    · exact same.symm
    · rw [List.getElem?_set_ne same] at found'
      rw [out c' h' found'] at may
      cases may

/-- A pick that leaves the records alone on a circuit that may be chosen. -/
theorem Picked.of_selectable {c : Nat} {h : Health} (found : s.circuits[c]? = some h)
    (may : h.selectable now = true) : s.Picked now c s.circuits [] := by
  have in_ : ¬ s.Out now := by
    intro out
    rw [out c h found] at may
    cases may
  exact ⟨⟨h, found, may⟩, fun out => (in_ out).elim, fun _ => rfl, fun _ => rfl,
    fun out => (in_ out).elim, fun out => (in_ out).elim⟩

theorem choose_picked (range : InRange s) (kept : SlotKept s)
    (positive : 0.0 < s.settings.selection.minWeight) :
    s.Picked now (s.choose now).1 (s.choose now).2.1.circuits
      (Notice.events (s.choose now).2.2) := by
  by_cases hr : s.ranked now = []
  · rw [choose_of_none hr]
    exact rescue_picked range kept positive (ranked_eq_nil.1 hr)
  · obtain ⟨c, h, generator, found, may, he⟩ := choose_of_selectable hr
    rw [he]
    exact .of_selectable found may

theorem pick_picked (range : InRange s) (kept : SlotKept s)
    (positive : 0.0 < s.settings.selection.minWeight) (settled : s.phase now ≠ .establishment) :
    s.Picked now (s.pick now).1 (s.pick now).2.1.circuits (Notice.events (s.pick now).2.2) := by
  rcases s.pick_cases now with ⟨probing, -⟩ | ⟨-, holds, -, he⟩ | ⟨-, -, he⟩
  · exact (settled probing).elim
  · rw [he]
    simp only [burstHolds, Option.any_eq_true_iff_get] at holds
    obtain ⟨some_, may⟩ := holds
    exact .of_selectable (Option.some_get some_).symm may
  · rw [he]
    exact choose_picked range kept positive

/-- A circuit that may not be chosen is passed over, unless it is rescued. -/
theorem Picked.ne_of_out {c c' : Nat} {h : Health} {records : List Health} {events : List Event}
    (picked : s.Picked now c' records events) (unrescued : .rescued c ∉ events)
    (found : s.circuits[c]? = some h) (out : h.selectable now = false) : c' ≠ c := by
  rintro rfl
  obtain ⟨h', found', may⟩ := picked.lands
  by_cases none_ : s.Out now
  · rw [picked.told none_] at unrescued
    exact unrescued List.mem_cons_self
  · rw [picked.kept none_, found] at found'
    cases found'
    rw [out] at may
    cases may

theorem pick_lt (range : InRange s) : (s.pick now).1 < s.size := by
  rcases s.pick_cases now with ⟨-, he⟩ | ⟨-, -, -, he⟩ | ⟨-, -, he⟩
  · rw [he]
    exact Nat.mod_lt _ (Nat.zero_lt_of_lt range.burst)
  · rw [he]
    exact range.burst
  · rw [he]
    exact choose_lt now range.nonempty

end Scheduler

namespace Session

variable {settings : Settings} {call : CallId} {w : Session}

theorem Opened.inRange (opened : w.Opened settings call) (moves : List Move) :
    (w.run moves).final.scheduler.InRange := by
  obtain ⟨entropy, start⟩ := opened.scheduler_eq
  exact run_invariant (fun stride range => range.stride stride)
    (start ▸ .fresh opened.accepted ..) moves

theorem Opened.size_eq (opened : w.Opened settings call) (moves : List Move) :
    (w.run moves).final.scheduler.size = settings.circuits.toNat :=
  (opened.inRange moves).size.trans (by rw [opened.settings_eq moves])

theorem Opened.passed_over (opened : w.Opened settings call) (moves : List Move) {c : Nat}
    {h : Health} :
    let u := (w.run moves).final
    u.scheduler.phase u.now ≠ .establishment →
      .rescued c ∉ Notice.events (u.scheduler.pick u.now).2.2 →
      u.scheduler.circuits[c]? = some h → h.selectable u.now = false →
      (u.scheduler.pick u.now).1 ≠ c := by
  intro u settled
  have same : u.scheduler.settings = settings := opened.settings_eq moves
  have positive : 0.0 < u.scheduler.settings.selection.minWeight :=
    same ▸ Settings.minWeight_pos opened.accepted
  exact (Scheduler.pick_picked (opened.inRange moves) (opened.slotKept moves) positive settled).ne_of_out

/-- After any run, the next frame has a circuit to go to. -/
theorem pick_lands (opened : w.Opened settings call) (moves : List Move) :
    let u := (w.run moves).final
    let pick := u.scheduler.pick u.now
    u.scheduler.burst.circuit < settings.circuits.toNat ∧
      pick.1 < settings.circuits.toNat ∧
      (u.scheduler.phase u.now ≠ .establishment →
        u.scheduler.Picked u.now pick.1 pick.2.1.circuits (Notice.events pick.2.2)) := by
  intro u pick
  have range : u.scheduler.InRange := opened.inRange moves
  have same : u.scheduler.settings = settings := opened.settings_eq moves
  rw [← same, ← range.size]
  refine ⟨range.burst, Scheduler.pick_lt range,
    Scheduler.pick_picked range (opened.slotKept moves) ?_⟩
  rw [same]
  exact Settings.minWeight_pos opened.accepted

/-- Circuit 0 is being rebuilt and circuit 1 cools down. -/
def noneLeft : List Move := toRebuild ++ [badWindow 1]

theorem pick_lands_brisk :
    let u := (brisk.run noneLeft).final
    let pick := u.scheduler.pick u.now
    brisk.Opened .brisk ⟨"A"⟩ ∧ (∀ h ∈ u.scheduler.circuits, h.selectable u.now = false) ∧
      u.scheduler.phase u.now ≠ .establishment ∧
      u.scheduler.Picked u.now pick.1 pick.2.1.circuits (Notice.events pick.2.2) :=
  ⟨brisk_opened, by decide, by decide, (pick_lands brisk_opened noneLeft).2.2 (by decide)⟩

end Session

end Multipath
