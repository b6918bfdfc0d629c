import Multipath.Proofs.Deeds
import Multipath.Scheduler.Pick

/-! # What a choice chooses

`mem_ranked` says who may be chosen, `best?_spec` that the order of the ranks has a first one, and
`choose_cases` is all that a fresh choice can be: one of the circuits that may be chosen, or the
rescue of the least bad circuit when there is none. Draws stay undetermined here.
-/

namespace Multipath.Scheduler

/-! ## The order of the ranks -/

theorem better_iff {a b : Ranked} :
    better a b = true ↔
      a.1.standing < b.1.standing ∨ a.1.standing = b.1.standing ∧ a.2 ≤ b.2 := by
  simp [better]

theorem better_refl (a : Ranked) : better a a = true := by
  simp [better]

theorem better_of_not {a b : Ranked} (h : ¬ better b a = true) : better a b = true := by
  rw [better_iff] at h ⊢
  omega

theorem better_trans {a b c : Ranked} (hab : better a b = true) (hbc : better b c = true) :
    better a c = true := by
  rw [better_iff] at *
  omega

theorem foldl_better (rest : List Ranked) (a : Ranked) :
    let first := rest.foldl (fun b c => if better b c then b else c) a
    first ∈ a :: rest ∧ ∀ b ∈ a :: rest, better first b = true := by
  induction rest generalizing a with
  | nil => simp [better_refl]
  | cons c rest ih =>
      obtain ⟨hmem, hall⟩ := ih (if better a c then a else c)
      simp only [List.foldl_cons]
      generalize rest.foldl (fun b c => if better b c then b else c)
        (if better a c then a else c) = first at hmem hall ⊢
      have hhead : better first (if better a c then a else c) = true := hall _ (by simp)
      have hrest : ∀ b ∈ rest, better first b = true := fun b hb => hall b (by simp [hb])
      by_cases hac : better a c = true
      · rw [if_pos hac] at hmem hhead
        refine ⟨?_, ?_⟩
        · rcases List.mem_cons.1 hmem with h | h
          · simp [h]
          · simp [h]
        · intro b hb
          rcases List.mem_cons.1 hb with rfl | hb
          · exact hhead
          · rcases List.mem_cons.1 hb with rfl | hb
            · exact better_trans hhead hac
            · exact hrest b hb
      · rw [if_neg hac] at hmem hhead
        refine ⟨List.mem_cons_of_mem _ hmem, ?_⟩
        intro b hb
        rcases List.mem_cons.1 hb with rfl | hb
        · exact better_trans hhead (better_of_not hac)
        · rcases List.mem_cons.1 hb with rfl | hb
          · exact hhead
          · exact hrest b hb

theorem best?_spec {l : List Ranked} {a : Ranked} (h : best? l = some a) :
    a ∈ l ∧ ∀ b ∈ l, better a b = true := by
  cases l with
  | nil => simp [best?] at h
  | cons b rest =>
      simp only [best?, Option.some.injEq] at h
      subst a
      exact foldl_better rest b

theorem best?_eq_none {l : List Ranked} : best? l = none ↔ l = [] := by
  cases l <;> simp [best?]

/-! ## Who may be chosen -/

theorem mem_circuits {s : Scheduler} {h : Health} {c : Nat} :
    (h, c) ∈ s.circuits.zipIdx ↔ s.circuits[c]? = some h :=
  List.mem_zipIdx_iff_getElem?

theorem mem_ranked {s : Scheduler} {now : Instant} {h : Health} {c : Nat} :
    (h, c) ∈ s.ranked now ↔ s.circuits[c]? = some h ∧ h.selectable now = true := by
  simp [ranked, mem_circuits]

theorem ranked_eq_nil {s : Scheduler} {now : Instant} :
    s.ranked now = [] ↔
      ∀ (c : Nat) (h : Health), s.circuits[c]? = some h → h.selectable now = false := by
  rw [List.eq_nil_iff_forall_not_mem]
  constructor
  · intro empty c h found
    have out := empty (h, c)
    simpa [mem_ranked, found] using out
  · rintro out ⟨h, c⟩ mem
    obtain ⟨found, may⟩ := mem_ranked.1 mem
    simp [out c h found] at may

/-- The least bad circuit exists. It is not being rebuilt if there is any that is not, and it is the
first one in the order of the ranks among those. -/
theorem leastBad_spec {s : Scheduler} (nonempty : s.circuits ≠ []) :
    ∃ h, s.circuits[s.leastBad]? = some h ∧
      ((∃ (c : Nat) (h' : Health), s.circuits[c]? = some h' ∧ h'.rebuilding = false) →
        h.rebuilding = false) ∧
      ∀ (c : Nat) (h' : Health), s.circuits[c]? = some h' →
        (h'.rebuilding = false ∨ h.rebuilding = true) → better (h, s.leastBad) (h', c) = true := by
  unfold leastBad
  cases idle : best? (s.circuits.zipIdx.filter (!·.1.rebuilding)) with
  | some a =>
      obtain ⟨h, c⟩ := a
      obtain ⟨hmem, hfirst⟩ := best?_spec idle
      simp only [List.mem_filter, Bool.not_eq_true', mem_circuits] at hmem
      simp only [idle, Option.some_or]
      refine ⟨h, hmem.1, fun _ => hmem.2, ?_⟩
      rintro c' h' found (unbuilt | built)
      · exact hfirst (h', c') (by simp [mem_circuits, found, unbuilt])
      · rw [hmem.2] at built
        cases built
  | none =>
      have all_built : ∀ (c : Nat) (h' : Health), s.circuits[c]? = some h' →
          h'.rebuilding = true := by
        intro c h' found
        have out := List.filter_eq_nil_iff.1 (best?_eq_none.1 idle) (h', c) (mem_circuits.2 found)
        simpa using out
      cases all : best? s.circuits.zipIdx with
      | none => exact (nonempty (List.zipIdx_eq_nil_iff.1 (best?_eq_none.1 all))).elim
      | some a =>
          obtain ⟨h, c⟩ := a
          obtain ⟨hmem, hfirst⟩ := best?_spec all
          simp only [idle, all, Option.none_or]
          refine ⟨h, mem_circuits.1 hmem, ?_, fun c' h' found _ =>
            hfirst (h', c') (mem_circuits.2 found)⟩
          rintro ⟨c', h', found, unbuilt⟩
          rw [all_built c' h' found] at unbuilt
          cases unbuilt

/-! ## Fresh choices -/

theorem rescue_eq {s : Scheduler} {h : Health} (found : s.circuits[s.leastBad]? = some h) :
    s.rescue =
      let rescued := h.rescued s.settings.selection.minWeight
      (s.leastBad, { s with circuits := s.circuits.set s.leastBad rescued },
        [.rescue s.leastBad rescued.score, .event (.rescued s.leastBad)]) := by
  simp only [rescue, found, Health.rescued]

/-- The position that a draw falls on is one of the candidates. -/
theorem drawn_mem {candidates : List Ranked} (nonempty : candidates ≠ []) (ranks : List Float)
    (draw : Float) :
    ∃ a ∈ candidates,
      candidates[pickWeighted (normalizedWeights ranks (candidates.map (·.1.weight))) draw]? =
        some a := by
  generalize hw : normalizedWeights ranks (candidates.map (·.1.weight)) = weights
  have hlen : weights.length = candidates.length := by
    rw [← hw, length_normalizedWeights, List.length_map]
  have hne : weights ≠ [] := by
    rw [← List.length_pos_iff, hlen]
    exact List.length_pos_iff.2 nonempty
  have hlt := pickWeighted_lt draw hne
  rw [hlen] at hlt
  exact ⟨candidates[pickWeighted weights draw], List.getElem_mem hlt,
    List.getElem?_eq_getElem hlt⟩

/-- A fresh choice changes nothing but the generator when a circuit may be chosen. -/
theorem choose_of_selectable {s : Scheduler} {now : Instant} (some_ : s.ranked now ≠ []) :
    ∃ c h generator, s.circuits[c]? = some h ∧ h.selectable now = true ∧
      s.choose now = (c, { s with generator }, []) := by
  unfold choose
  match hr : s.ranked now with
  | [] => exact (some_ hr).elim
  | [(h, c)] =>
      obtain ⟨found, may⟩ := mem_ranked.1 (hr ▸ List.mem_singleton_self (h, c))
      exact ⟨c, h, s.generator, found, may, rfl⟩
  | a :: b :: rest =>
      obtain ⟨⟨h, c⟩, mem, drawn⟩ := drawn_mem (List.cons_ne_nil a (b :: rest))
        s.settings.selection.rankWeights s.generator.unit.1
      obtain ⟨found, may⟩ := mem_ranked.1 (hr ▸ mem)
      exact ⟨c, h, s.generator.unit.2, found, may, by simp only [drawn, Option.elim_some]⟩

theorem choose_of_none {s : Scheduler} {now : Instant} (none_ : s.ranked now = []) :
    s.choose now = s.rescue := by
  simp only [choose, none_]

/-- A fresh choice changes the generator at most, or it rescues a circuit. -/
theorem choose_cases (s : Scheduler) (now : Instant) :
    (∃ c generator, s.choose now = (c, { s with generator }, [])) ∨
    ∃ h, s.circuits[s.leastBad]? = some h ∧ h.selectable now = false ∧
      s.choose now =
        let rescued := h.rescued s.settings.selection.minWeight
        (s.leastBad, { s with circuits := s.circuits.set s.leastBad rescued },
          [.rescue s.leastBad rescued.score, .event (.rescued s.leastBad)]) := by
  by_cases none_ : s.ranked now = []
  · rw [choose_of_none none_]
    cases found : s.circuits[s.leastBad]? with
    | none => exact .inl ⟨s.leastBad, s.generator, by simp only [rescue, found]⟩
    | some h => exact .inr ⟨h, rfl, ranked_eq_nil.1 none_ _ h found, rescue_eq found⟩
  · obtain ⟨c, -, generator, -, -, choice⟩ := choose_of_selectable none_
    exact .inl ⟨c, generator, choice⟩

/-- The chosen circuit exists. -/
theorem choose_lt {s : Scheduler} (now : Instant) (nonempty : s.circuits ≠ []) :
    (s.choose now).1 < s.size := by
  by_cases hr : s.ranked now = []
  · obtain ⟨h, found, -⟩ := leastBad_spec nonempty
    rw [choose_of_none hr, rescue_eq found]
    exact (List.getElem?_eq_some_iff.1 found).1
  · obtain ⟨c, h, generator, found, -, he⟩ := choose_of_selectable hr
    rw [he]
    exact (List.getElem?_eq_some_iff.1 found).1

/-! ## Picks -/

theorem spent_next? (burst : Burst) (size : UInt32) : burst.spent.next? size.toNat = none := by
  have hsize : size.toNat ≤ Counter.limit := Nat.le_sub_one_of_lt size.toNat_lt
  exact if_neg (Nat.not_lt.2 hsize)

/-- A pick is a probe, one more frame of a burst whose circuit may be chosen, or a fresh choice. -/
theorem pick_cases (s : Scheduler) (now : Instant) :
    (s.phase now = .establishment ∧
      let probe := (s.burst.circuit + 1) % s.size
      s.pick now = (probe, { s with burst := (Burst.start probe).spent }, [])) ∨
    (s.phase now ≠ .establishment ∧ s.burstHolds now = true ∧
      s.burst.frames < s.settings.selection.burstSize.toNat ∧
      s.pick now =
        (s.burst.circuit, { s with burst := ⟨s.burst.circuit, s.burst.frames + 1⟩ }, [])) ∨
    (s.phase now ≠ .establishment ∧
      (s.burstHolds now = true → s.settings.selection.burstSize.toNat ≤ s.burst.frames) ∧
      s.pick now = ((s.choose now).1,
        { (s.choose now).2.1 with burst := .start (s.choose now).1 }, (s.choose now).2.2)) := by
  unfold pick
  by_cases probing : s.phase now = .establishment
  · exact .inl ⟨probing, by simp only [probing, if_true]⟩
  · right
    simp only [probing, if_false]
    cases holds : s.burstHolds now with
    | false => exact .inr ⟨probing, nofun, by simp [spent_next?]⟩
    | true =>
        by_cases room : s.burst.frames < s.settings.selection.burstSize.toNat
        · exact .inl ⟨probing, rfl, room, by simp [Burst.next?, room]⟩
        · exact .inr ⟨probing, fun _ => Nat.le_of_not_lt room, by simp [Burst.next?, room]⟩

end Multipath.Scheduler
