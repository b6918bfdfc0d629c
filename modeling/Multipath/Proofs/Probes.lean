import Mathlib.Order.Interval.Finset.Nat
import Multipath.Proofs.Bursts

/-! # Probes

While a call is being established its circuits are probed in turn. The burst is the cursor: it stands
on the last circuit at first, and a probe moves it on by one. Since nothing but a pick writes it, the
turn depends on nothing else, and a circuit that cools down or is held is probed like any other.
-/

namespace Multipath

/-- The pick gave the circuit and left the burst ended there; nothing else has changed. -/
def Transition.Probes (t : Transition) (c : Nat) : Prop :=
  t.answer = .circuit c ∧ t.notices = [] ∧
    t.after.scheduler = { t.before.scheduler with burst := (Burst.start c).spent }

namespace Session

variable {settings : Settings} {call : CallId} {w : Session} {moves : List Move} {k : Nat}
  {t : Transition}

theorem make_pick_probes (probing : (w.make (.ask .pick)).phase = .establishment) :
    (w.make (.ask .pick)).Probes ((w.scheduler.burst.circuit + 1) % w.scheduler.size) := by
  rcases w.scheduler.pick_cases w.now with ⟨-, picked⟩ | ⟨settled, -⟩ | ⟨settled, -⟩
  · simp only [Transition.Probes, make, Scheduler.step, picked]
    exact ⟨trivial, trivial, trivial⟩
  · exact (settled probing).elim
  · exact (settled probing).elim

/-- Before pick `k` the cursor stands one circuit before the one whose turn it is. -/
theorem picks_cursor (opened : w.Opened settings call) (at_ : (w.run moves).picks[k]? = some t)
    (probing : ∀ t' ∈ (w.run moves).picks.take k, t'.phase = .establishment) :
    (t.before.scheduler.burst.circuit + 1) % settings.circuits.toNat =
      k % settings.circuits.toNat := by
  induction k generalizing t with
  | zero =>
      obtain ⟨entropy, start⟩ := opened.scheduler_eq
      have last : t.before.scheduler.burst.circuit = settings.circuits.toNat - 1 := by
        rw [picks_first at_, start]
        rfl
      rw [last, Nat.sub_add_cancel (Settings.circuits_pos opened.accepted), Nat.mod_self,
        Nat.zero_mod]
  | succ k ih =>
      obtain ⟨t₀, at₀, handed⟩ := picks_next at_
      have mem := picks_mem at₀
      have earlier := List.take_subset_take_left (w.run moves).picks (Nat.le_succ k)
      have cursor := ih at₀ fun t' h => probing t' (earlier h)
      obtain ⟨past, rfl⟩ := of_mem_picks (List.mem_of_getElem? at₀)
      obtain ⟨-, -, after⟩ := make_pick_probes (probing _ mem)
      have moved : t.before.scheduler.burst.circuit = k % settings.circuits.toNat := by
        rw [handed, after, opened.size_eq past]
        exact cursor
      rw [moved, Nat.mod_add_mod]

/-- A pick at its turn probes the circuit whose turn it is. -/
theorem picks_probe (opened : w.Opened settings call) (at_ : (w.run moves).picks[k]? = some t)
    (probing : ∀ t' ∈ (w.run moves).picks.take (k + 1), t'.phase = .establishment) :
    t.Probes (k % settings.circuits.toNat) := by
  have mem := picks_mem at_
  have earlier := List.take_subset_take_left (w.run moves).picks (Nat.le_succ k)
  have cursor := picks_cursor opened at_ fun t' h => probing t' (earlier h)
  obtain ⟨past, rfl⟩ := of_mem_picks (List.mem_of_getElem? at_)
  rw [← cursor, ← opened.size_eq past]
  exact make_pick_probes (probing _ mem)

theorem picks_answers (opened : w.Opened settings call)
    (bound : k + settings.circuits.toNat ≤ (w.run moves).picks.length)
    (probing : ∀ t' ∈ (w.run moves).picks.take (k + settings.circuits.toNat),
      t'.phase = .establishment) :
    (((w.run moves).picks.drop k).take settings.circuits.toNat).map Transition.answer =
      ((List.range' k settings.circuits.toNat).map (· % settings.circuits.toNat)).map
        .circuit := by
  refine List.ext_getElem (by simp; omega) fun i below below' => ?_
  have inside : i < settings.circuits.toNat := by simpa using below'
  have at_ : (w.run moves).picks[k + i]? = some (w.run moves).picks[k + i] :=
    List.getElem?_eq_getElem (by omega)
  have earlier := List.take_subset_take_left (w.run moves).picks
    (show k + i + 1 ≤ k + settings.circuits.toNat by omega)
  obtain ⟨answer, -⟩ := picks_probe opened at_ fun t' h => probing t' (earlier h)
  simpa using answer

theorem range'_mod_perm (k n : Nat) : ((List.range' k n).map (· % n)).Perm (List.range n) := by
  have whole := Nat.multiset_Ico_map_mod k n
  rw [Multiset.Ico, Nat.Ico_eq_range', Nat.add_sub_cancel_left] at whole
  exact Multiset.coe_eq_coe.1 whole

/-- Whatever happens between them, the picks of the establishment probe the circuits in turn, so that
as many in a row as there are circuits probe each of them once. -/
theorem probes_rotate (opened : w.Opened settings call) (moves : List Move) :
    let picks := (w.run moves).picks
    let n := settings.circuits.toNat
    (∀ (k : Nat) (t : Transition), picks[k]? = some t →
      (∀ t' ∈ picks.take (k + 1), t'.phase = .establishment) → t.Probes (k % n)) ∧
    ∀ k, k + n ≤ picks.length → (∀ t' ∈ picks.take (k + n), t'.phase = .establishment) →
      (((picks.drop k).take n).map Transition.answer).Perm ((List.range n).map .circuit) := by
  intro picks n
  refine ⟨fun k t at_ probing => picks_probe opened at_ probing, fun k bound probing => ?_⟩
  rw [picks_answers opened bound probing]
  exact (range'_mod_perm k n).map _

def patient : Session := ⟨{}, .fresh {} ⟨"A"⟩ 0 0⟩

theorem patient_opened : patient.Opened {} ⟨"A"⟩ := opened_of_check rfl ⟨"A"⟩ 0 {}

/-- Circuit 1 cools down before its turn. -/
def probed : List Move :=
  [.ask .pick] ++ threeFailures 1 ++ [.ask .pick, .advance 1000000, badWindow 2,
    .ask (.rebuildFailed 2), .ask .pick, .ask (.sent 2), .ask .pick]

theorem probes_rotate_patient :
    let picks := (patient.run probed).picks
    patient.Opened {} ⟨"A"⟩ ∧ picks.length = 4 ∧ (∀ t ∈ picks, t.phase = .establishment) ∧
      (∃ t, picks[1]? = some t ∧ t.offers 1 = false ∧ t.Probes 1) ∧
      (((picks.drop 1).take 3).map Transition.answer).Perm ((List.range 3).map .circuit) := by
  intro picks
  have probing : ∀ t ∈ picks, t.phase = .establishment := by decide +kernel
  have rotate := probes_rotate patient_opened probed
  refine ⟨patient_opened, rfl, probing, ⟨_, rfl, by decide +kernel, ?_⟩, ?_⟩
  · exact rotate.1 1 _ rfl fun t h => probing t (List.mem_of_mem_take h)
  · exact rotate.2 1 (by decide) fun t h => probing t (List.mem_of_mem_take h)

end Session

end Multipath
