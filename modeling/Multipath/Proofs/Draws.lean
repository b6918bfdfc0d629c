import Multipath.Proofs.Pick

/-! # The circuit that a draw gives

A draw falls on a position in the line of the candidates, best first. Said without the line: a
candidate stands where as many others are ahead of it (`ranked_rank`), since no two of them are at the
same place, whatever their scores. `drawn_by_rank` says which candidate a draw gives, and that every
other pick leaves the generator alone.
-/

namespace Multipath.Scheduler

/-- A lower score, or an equal one and a lower number. -/
def Ahead (a b : Ranked) : Prop :=
  a.1.standing < b.1.standing ∨ a.1.standing = b.1.standing ∧ a.2 < b.2

instance (a b : Ranked) : Decidable (Ahead a b) := inferInstanceAs (Decidable (_ ∨ _))

/-- The circuits that may be chosen. -/
def candidates (s : Scheduler) (now : Instant) : List Ranked :=
  s.circuits.zipIdx.filter (·.1.selectable now)

/-- How many candidates are better. -/
def rank (s : Scheduler) (now : Instant) (a : Ranked) : Nat :=
  (s.candidates now).countP (Ahead · a)

/-- The burst goes on. -/
def Continues (s : Scheduler) (now : Instant) : Prop :=
  s.burstHolds now = true ∧ s.burst.frames < s.settings.selection.burstSize.toNat

instance (s : Scheduler) (now : Instant) : Decidable (s.Continues now) :=
  inferInstanceAs (Decidable (_ ∧ _))

/-- A pick has a choice to make. -/
def Chooses (s : Scheduler) (now : Instant) : Prop :=
  s.phase now ≠ .establishment ∧ ¬ s.Continues now ∧ 2 ≤ (s.candidates now).length

instance (s : Scheduler) (now : Instant) : Decidable (s.Chooses now) :=
  inferInstanceAs (Decidable (_ ∧ _))

variable {s : Scheduler} {now : Instant} {a b : Ranked}

/-! ## The line of the candidates -/

theorem Ahead.irrefl (a : Ranked) : ¬ Ahead a a := by
  simp [Ahead]

theorem Ahead.asymm (h : Ahead a b) : ¬ Ahead b a := by
  unfold Ahead at *
  omega

theorem ahead_of_better (h : better a b = true) (apart : a.2 ≠ b.2) : Ahead a b := by
  rw [better_iff] at h
  unfold Ahead
  omega

theorem ranked_perm (s : Scheduler) (now : Instant) : (s.ranked now).Perm (s.candidates now) :=
  List.mergeSort_perm ..

theorem candidates_apart (s : Scheduler) (now : Instant) :
    (s.candidates now).Pairwise (·.2 ≠ ·.2) := by
  have numbers : (s.circuits.zipIdx.map Prod.snd).Nodup := by
    rw [List.zipIdx_map_snd]
    exact List.nodup_range'
  have apart : s.circuits.zipIdx.Pairwise (·.2 ≠ ·.2) := List.pairwise_map.1 numbers
  exact apart.sublist List.filter_sublist

theorem ranked_pairwise (s : Scheduler) (now : Instant) : (s.ranked now).Pairwise Ahead := by
  have total : ∀ a b : Ranked, (better a b || better b a) = true := by
    intro a b
    rw [Bool.or_eq_true]
    by_cases h : better b a = true
    · exact .inr h
    · exact .inl (better_of_not h)
  have ordered : (s.ranked now).Pairwise (fun a b => better a b = true) :=
    @List.pairwise_mergeSort Ranked better (fun _ _ _ => better_trans) total (s.candidates now)
  -- Equal scores are told apart by the numbers, no two of which are equal.
  have apart : (s.ranked now).Pairwise (·.2 ≠ ·.2) :=
    (s.ranked_perm now).symm.pairwise (s.candidates_apart now) fun h => h.symm
  exact (ordered.and apart).imp fun h => ahead_of_better h.1 h.2

/-- In a row everyone has as many ahead of them as their place says. -/
theorem countP_ahead {row : List Ranked} (ordered : row.Pairwise Ahead) {p : Nat}
    (at_ : row[p]? = some a) : row.countP (Ahead · a) = p := by
  induction row generalizing p with
  | nil => simp at at_
  | cons first rest ih =>
      rw [List.pairwise_cons] at ordered
      obtain ⟨before, ordered⟩ := ordered
      cases p with
      | zero =>
          obtain rfl : first = a := by simpa using at_
          rw [List.countP_eq_zero]
          intro b mem
          rw [decide_eq_true_eq]
          rcases List.mem_cons.1 mem with rfl | mem
          · exact Ahead.irrefl b
          · exact (before b mem).asymm
      | succ p =>
          rw [List.getElem?_cons_succ] at at_
          have ahead : Ahead first a := before a (List.mem_of_getElem? at_)
          rw [List.countP_cons_of_pos (by simpa using ahead), ih ordered at_]

/-- The place of a candidate is the number of better ones. -/
theorem rank_of_ranked {p : Nat} (at_ : (s.ranked now)[p]? = some a) : s.rank now a = p := by
  unfold rank
  rw [← (s.ranked_perm now).countP_eq]
  exact countP_ahead (s.ranked_pairwise now) at_

theorem ranked_rank (mem : a ∈ s.candidates now) : (s.ranked now)[s.rank now a]? = some a := by
  obtain ⟨p, at_⟩ := List.mem_iff_getElem?.1 ((s.ranked_perm now).mem_iff.2 mem)
  rwa [rank_of_ranked at_]

/-! ## Draws -/

/-- The place that a draw falls on. -/
def drawn (s : Scheduler) (now : Instant) (draw : Float) : Nat :=
  pickWeighted
    (normalizedWeights s.settings.selection.rankWeights ((s.ranked now).map (·.1.weight))) draw

theorem choose_of_several (several : 2 ≤ (s.candidates now).length) :
    ∃ a, (s.ranked now)[s.drawn now s.generator.unit.1]? = some a ∧
      s.choose now = (a.2, { s with generator := s.generator.unit.2 }, []) := by
  have length := (s.ranked_perm now).length_eq
  unfold drawn choose
  match line : s.ranked now with
  | [] => simp [line] at length; omega
  | [_] => simp [line] at length; omega
  | a :: b :: rest =>
      obtain ⟨c, -, at_⟩ := drawn_mem (List.cons_ne_nil a (b :: rest))
        s.settings.selection.rankWeights s.generator.unit.1
      exact ⟨c, at_, by simp only [at_, Option.elim_some]⟩

theorem choose_of_few (few : ¬ 2 ≤ (s.candidates now).length) :
    (s.choose now).2.1.generator = s.generator := by
  have length := (s.ranked_perm now).length_eq
  unfold choose
  match line : s.ranked now with
  | [] =>
      simp only [rescue]
      split <;> rfl
  | [_] => rfl
  | a :: b :: rest => simp [line] at length; omega

/-- Of several candidates the choice gives the one with as many better ones as the place that the draw
falls on. -/
theorem choose_rank (several : 2 ≤ (s.candidates now).length) (c : Nat) :
    (s.choose now).1 = c ↔ ∃ h, s.circuits[c]? = some h ∧ h.selectable now = true ∧
      s.rank now (h, c) = s.drawn now s.generator.unit.1 := by
  obtain ⟨⟨h, chosen⟩, at_, choice⟩ := choose_of_several several
  rw [choice]
  constructor
  · rintro rfl
    obtain ⟨found, may⟩ := mem_ranked.1 (List.mem_of_getElem? at_)
    exact ⟨h, found, may, rank_of_ranked at_⟩
  · rintro ⟨h', found, may, place⟩
    -- A candidate with as many ahead of it stands at the same place.
    have at' : (s.ranked now)[s.rank now (h', c)]? = some (h', c) :=
      ranked_rank ((s.ranked_perm now).mem_iff.1 (mem_ranked.2 ⟨found, may⟩))
    rw [place, at_] at at'
    cases at'
    rfl

theorem choose_generator (several : 2 ≤ (s.candidates now).length) :
    (s.choose now).2.1.generator = { s.generator with drawn := s.generator.drawn + 1 } := by
  obtain ⟨a, -, choice⟩ := choose_of_several several
  rw [choice]
  rfl

/-- A pick that has a choice to make gives the candidate with as many better ones as the place that its
draw falls on, and takes no other draw. Every other pick takes none. -/
theorem drawn_by_rank (s : Scheduler) (now : Instant) :
    let pick := s.pick now
    (s.ranked now).Perm (s.candidates now) ∧ (s.ranked now).Pairwise Ahead ∧
    (s.Chooses now →
      (∀ c, pick.1 = c ↔ ∃ h, s.circuits[c]? = some h ∧ h.selectable now = true ∧
        s.rank now (h, c) = s.drawn now s.generator.unit.1) ∧
      pick.2.1.generator = { s.generator with drawn := s.generator.drawn + 1 }) ∧
    (¬ s.Chooses now → pick.2.1.generator = s.generator) := by
  refine ⟨s.ranked_perm now, s.ranked_pairwise now, fun chooses => ?_, fun idle => ?_⟩
  · obtain ⟨settled, ended, several⟩ := chooses
    rcases s.pick_cases now with ⟨probing, -⟩ | ⟨-, holds, room, -⟩ | ⟨-, -, picked⟩
    · exact (settled probing).elim
    · exact (ended ⟨holds, room⟩).elim
    · rw [picked]
      exact ⟨choose_rank several, choose_generator several⟩
  · rcases s.pick_cases now with ⟨-, picked⟩ | ⟨-, -, -, picked⟩ | ⟨settled, ended, picked⟩
    · rw [picked]
    · rw [picked]
    · rw [picked]
      refine choose_of_few fun several => idle ⟨settled, fun ⟨holds, room⟩ => ?_, several⟩
      exact Nat.not_le.2 room (ended holds)

/-- A call that is a minute old and has sent nothing. -/
example : (Scheduler.fresh {} ⟨"A"⟩ 0 0).Chooses 60000000 := by decide

end Multipath.Scheduler
