import Multipath.Proofs.Accepted
import Multipath.Proofs.Amounts

/-! # Weights in proportion

The weight of a rank is what it is worth, times what its circuit has earned, over the sum of all these
products. On paper it is above zero exactly when the rank is worth anything. With doubles there are three
outcomes (`Weighed`): the sum is infinite and leaves nothing to anybody; all products are lost and everybody
gets the same; or each weight is its part of the sum, which is lost if it is no more than half of the least
double. The weights are finite and not below zero in any case, and in proportion as long as the sum is
finite and no part of it is lost (`weights_proportioned`).
-/

namespace Multipath

open Doubles

namespace Doubles

variable {x : Float} {a : ℚ}

/-! ## Sums -/

theorem foldl_infinity {xs : List Float} (infinite : parts x = .infinity .positive)
    (amounts : ∀ y ∈ xs, ∃ b, Amount y b) : parts (xs.foldl (· + ·) x) = .infinity .positive := by
  induction xs generalizing x with
  | nil => exact infinite
  | cons y ys ih =>
      obtain ⟨⟨b, hy⟩, rest⟩ := List.forall_mem_cons.1 amounts
      exact ih (infinity_add infinite hy) rest

/-- A sum of amounts is infinite, or no smaller than any of them. -/
theorem foldl_amounts {xs : List Float} (hx : Amount x a) (amounts : ∀ y ∈ xs, ∃ b, Amount y b) :
    parts (xs.foldl (· + ·) x) = .infinity .positive ∨
      ∃ t, Amount (xs.foldl (· + ·) x) t ∧ a ≤ t ∧ ∀ y ∈ xs, ∀ b, Amount y b → b ≤ t := by
  induction xs generalizing x a with
  | nil => exact .inr ⟨a, hx, le_rfl, nofun⟩
  | cons y ys ih =>
      obtain ⟨⟨b, hy⟩, rest⟩ := List.forall_mem_cons.1 amounts
      rcases hx.add hy with infinite | ⟨c, sum, first, second⟩
      · exact .inl (foldl_infinity (x := x + y) infinite rest)
      · refine (ih sum rest).imp_right ?_
        rintro ⟨t, total, least, most⟩
        refine ⟨t, total, first.trans least, List.forall_mem_cons.2 ⟨fun b' hy' => ?_, most⟩⟩
        rw [hy'.unique hy]
        exact second.trans least

end Doubles

/-! ## One weight -/

/-- What the ranks are worth times what their circuits have earned. -/
def worths (ranks earned : List Float) : List Float :=
  earned.zipIdx.map fun (e, rank) => ranks.getD rank 0.0 * e

def totalWorth (ranks earned : List Float) : Float := (worths ranks earned).foldl (· + ·) 0.0

/-- How a weight comes about from the product of its rank and from the sum of all of them. -/
inductive Weighed (total product weight : Float) : Prop
  | swamped (infinite : parts total = .infinity .positive) (nothing : Amount weight 0)
  | shared {t c v : ℚ} (sum : Amount total t) (some_ : 0 < t) (part : Amount product c)
      (amount : Amount weight v) (kept : 0 < v ↔ halfLeast < c / t)
  | equal {v : ℚ} (nothing : Amount total 0) (amount : Amount weight v) (some_ : 0 < v)

section Weights

variable {ranks earned : List Float} {rank : Nat} {weight e : Float}

theorem worths_getElem? (ranks earned : List Float) (rank : Nat) :
    (worths ranks earned)[rank]? = earned[rank]?.map (ranks.getD rank 0.0 * ·) := by
  rw [worths, List.getElem?_map, List.getElem?_zipIdx, Option.map_map, Nat.zero_add]
  rfl

theorem normalizedWeights_eq (ranks earned : List Float) :
    normalizedWeights ranks earned =
      if 0.0 < totalWorth ranks earned then (worths ranks earned).map (· / totalWorth ranks earned)
      else earned.map fun _ => 1.0 / (max earned.length 1).toUInt64.toFloat := rfl

/-- A product is worth something only if its rank is. -/
theorem exists_worth (ranked : ∀ w ∈ ranks, ∃ a, Amount w a) (share : 0.0 < e ∧ e ≤ 1.0) (rank : Nat) :
    ∃ c, Amount (ranks.getD rank 0.0 * e) c ∧ (0 < c → 0.0 < ranks.getD rank 0.0) := by
  obtain ⟨b, hb, some_, le⟩ := amount_of_share share.1 share.2
  obtain ⟨a, ha⟩ : ∃ a, Amount (ranks.getD rank 0.0) a := by
    rw [List.getD_eq_getElem?_getD]
    cases found : ranks[rank]? with
    | none => exact ⟨0, amount_zero⟩
    | some w => exact ranked w (List.mem_of_getElem? found)
  obtain ⟨c, product, kept⟩ := ha.mul hb le
  refine ⟨c, product, fun above => ha.zero_lt_iff.2 ?_⟩
  exact pos_of_mul_pos_left (pos_of_above (kept.1 above)) some_.le

/-- Where one of two lists of the same length has an element, the other one has one too. -/
theorem exists_beside {xs ys : List Float} {x : Float} (length : xs.length = ys.length)
    (found : xs[rank]? = some x) : ∃ y, ys[rank]? = some y :=
  ⟨_, List.getElem?_eq_getElem (length ▸ (List.getElem?_eq_some_iff.1 found).1)⟩

theorem mem_worths (has : earned[rank]? = some e) : ranks.getD rank 0.0 * e ∈ worths ranks earned :=
  List.mem_of_getElem? (by rw [worths_getElem?, has]; rfl)

theorem worths_amounts (ranked : ∀ w ∈ ranks, ∃ a, Amount w a)
    (shares : ∀ e ∈ earned, 0.0 < e ∧ e ≤ 1.0) : ∀ y ∈ worths ranks earned, ∃ c, Amount y c := by
  intro y mem
  obtain ⟨rank, there⟩ := List.mem_iff_getElem?.1 mem
  rw [worths_getElem?] at there
  obtain ⟨e, has, rfl⟩ := Option.map_eq_some_iff.1 there
  obtain ⟨c, product, -⟩ := exists_worth ranked (shares e (List.mem_of_getElem? has)) rank
  exact ⟨c, product⟩

theorem weighed (ranked : ∀ w ∈ ranks, ∃ a, Amount w a) (shares : ∀ e ∈ earned, 0.0 < e ∧ e ≤ 1.0)
    (few : earned.length < UInt64.size) (has : earned[rank]? = some e)
    (found : (normalizedWeights ranks earned)[rank]? = some weight) :
    Weighed (totalWorth ranks earned) (ranks.getD rank 0.0 * e) weight := by
  have amounts := worths_amounts ranked shares
  obtain ⟨c, product⟩ := amounts _ (mem_worths has)
  have parted (above : 0.0 < totalWorth ranks earned) :
      ranks.getD rank 0.0 * e / totalWorth ranks earned = weight := by
    rw [normalizedWeights_eq, if_pos above, List.getElem?_map, worths_getElem?, has] at found
    exact Option.some.inj found
  rcases foldl_amounts amount_zero amounts with infinite | ⟨t, sum, least, most⟩
  · rw [← parted (zero_lt_iff.2 (infinite ▸ rfl))]
    exact .swamped infinite (product.div_infinity infinite)
  · have part : c ≤ t := most _ (mem_worths has) c product
    rcases least.lt_or_eq with some_ | rfl
    · obtain ⟨v, amount, kept⟩ := product.div sum some_ part
      rw [← parted (sum.zero_lt_iff.2 some_)]
      exact .shared sum some_ product amount kept
    · have none_ : ¬ 0.0 < totalWorth ranks earned := fun above => lt_irrefl 0 (sum.zero_lt_iff.1 above)
      rw [normalizedWeights_eq, if_neg none_, List.getElem?_map, has] at found
      have count : max earned.length 1 < UInt64.size := max_lt few (by decide)
      obtain ⟨v, amount, some_⟩ := amount_one_div (lt_max_of_lt_right one_pos) count
      rw [← Option.some.inj found]
      exact .equal sum amount some_

/-- A part that is too small for a double is lost. -/
example : normalizedWeights [1.0, 5e-324] [1.0, 0.05] = [1.0, 0.0] := by decide +kernel

/-- When all products are lost, a rank that is worth nothing gets as much as the others. -/
example : normalizedWeights [5e-324] [0.5, 1.0] = [0.5, 0.5] := by decide +kernel

end Weights

/-! ## All weights -/

/-- A weight is above zero exactly when its rank is worth anything. -/
def InProportion (ranks weights : List Float) : Prop :=
  ∀ rank w, weights[rank]? = some w → (0.0 < w ↔ 0.0 < ranks.getD rank 0.0)

/-- Rounding leaves a rank that is worth anything a part of the sum. If there is no sum to be parted, the
rank must be worth something. -/
def Spared (total product base : Float) : Prop :=
  if 0.0 < total then 0.0 < base → halfLeast < value product / value total else 0.0 < base

instance (total product base : Float) : Decidable (Spared total product base) :=
  inferInstanceAs (Decidable (if 0.0 < total then _ → _ else _))

/-- The sum is finite, and all ranks are spared. -/
def Discernible (ranks earned : List Float) : Prop :=
  (totalWorth ranks earned).isFinite = true ∧ ∀ p ∈ earned.zipIdx,
    Spared (totalWorth ranks earned) (ranks.getD p.2 0.0 * p.1) (ranks.getD p.2 0.0)

instance (ranks earned : List Float) : Decidable (Discernible ranks earned) :=
  inferInstanceAs (Decidable (_ ∧ ∀ p ∈ earned.zipIdx, _))

namespace Weighed

variable {total product weight base : Float}

theorem exists_amount (outcome : Weighed total product weight) : ∃ v, Amount weight v := by
  cases outcome with
  | swamped infinite nothing => exact ⟨0, nothing⟩
  | shared sum some_ part amount kept => exact ⟨_, amount⟩
  | equal nothing amount some_ => exact ⟨_, amount⟩

/-- A weight above zero is a part of a finite sum. -/
theorem isFinite (outcome : Weighed total product weight) (above : 0.0 < weight) :
    total.isFinite = true := by
  cases outcome with
  | swamped infinite nothing => exact absurd (nothing.zero_lt_iff.1 above) (lt_irrefl 0)
  | shared sum some_ part amount kept => exact sum.isFinite
  | equal nothing amount some_ => exact nothing.isFinite

theorem spared_iff (outcome : Weighed total product weight) {c : ℚ} (hc : Amount product c)
    (worth : 0 < c → 0.0 < base) (finite : total.isFinite = true) :
    (0.0 < weight ↔ 0.0 < base) ↔ Spared total product base := by
  unfold Spared
  cases outcome with
  | swamped infinite nothing =>
      change (parts total).isFinite = true at finite
      rw [infinite] at finite
      cases finite
  | shared sum some_ part amount kept =>
      rw [part.unique hc] at kept
      rw [if_pos (sum.zero_lt_iff.2 some_), amount.zero_lt_iff, kept, hc.value_eq, sum.value_eq]
      refine ⟨fun same => same.2, fun spared => ⟨fun above => worth ?_, spared⟩⟩
      exact (div_pos_iff_of_pos_right some_).1 (pos_of_above above)
  | equal nothing amount some_ =>
      have none_ : ¬ 0.0 < total := fun above => lt_irrefl 0 (nothing.zero_lt_iff.1 above)
      rw [if_neg none_]
      exact iff_true_left (amount.zero_lt_iff.2 some_)

end Weighed

namespace Settings

variable {settings : Settings}

theorem rankWeights_amounts (accepted : settings.check = .ok ()) :
    ∀ w ∈ settings.selection.rankWeights, ∃ a, Amount w a := by
  intro w mem
  obtain ⟨finite, above⟩ := rankWeights_bounds accepted mem
  exact amount_of_finite finite above

theorem firstRank_pos (accepted : settings.check = .ok ()) :
    0.0 < settings.selection.rankWeights.getD 0 0.0 := by
  obtain ⟨w, found, more⟩ := firstRankWeight accepted
  obtain ⟨a, hw⟩ := rankWeights_amounts accepted w (List.mem_of_getElem? found)
  rw [List.getD_eq_getElem?_getD, found, Option.getD_some, hw.zero_lt_iff]
  cases hw with
  | none zero => exact absurd (by rw [le_iff, zero]; rfl) more
  | some finite => positivity

end Settings

/-- The weights are as many as the circuits. Each is finite and above zero or zero. They are in proportion
to what the ranks are worth exactly when rounding spares the sum and its parts. -/
theorem weights_proportioned {settings : Settings} {earned : List Float}
    (accepted : settings.check = .ok ()) (some_ : earned ≠ []) (few : earned.length < UInt64.size)
    (shares : ∀ e ∈ earned, 0.0 < e ∧ e ≤ 1.0) :
    let ranks := settings.selection.rankWeights
    let weights := normalizedWeights ranks earned
    weights.length = earned.length ∧
      (∀ w ∈ weights, w.isFinite = true ∧ (0.0 < w ∨ (w == 0.0) = true)) ∧
      (InProportion ranks weights ↔ Discernible ranks earned) := by
  intro ranks weights
  have ranked := Settings.rankWeights_amounts accepted
  have length : weights.length = earned.length := length_normalizedWeights ranks earned
  have spared_iff : ∀ {rank w e}, weights[rank]? = some w → earned[rank]? = some e →
      (totalWorth ranks earned).isFinite = true →
      ((0.0 < w ↔ 0.0 < ranks.getD rank 0.0) ↔
        Spared (totalWorth ranks earned) (ranks.getD rank 0.0 * e) (ranks.getD rank 0.0)) := by
    intro rank w e found has finite
    obtain ⟨c, product, worth⟩ := exists_worth ranked (shares e (List.mem_of_getElem? has)) rank
    exact (weighed ranked shares few has found).spared_iff product worth finite
  refine ⟨length, fun w mem => ?_, fun inProportion => ?_, fun ⟨finite, spared⟩ rank w found => ?_⟩
  · obtain ⟨rank, found⟩ := List.mem_iff_getElem?.1 mem
    obtain ⟨e, has⟩ := exists_beside length found
    obtain ⟨v, amount⟩ := (weighed ranked shares few has found).exists_amount
    refine ⟨amount.isFinite, (em (0.0 < w)).imp_right fun none_ => ?_⟩
    exact amount.beq_zero (mt amount.zero_lt_iff.2 none_)
  · have finite : (totalWorth ranks earned).isFinite = true := by
      have has := List.getElem?_eq_getElem (List.length_pos_iff.2 some_)
      obtain ⟨w, found⟩ := exists_beside length.symm has
      have above := (inProportion 0 w found).2 (Settings.firstRank_pos accepted)
      exact (weighed ranked shares few has found).isFinite above
    refine ⟨finite, fun ⟨e, rank⟩ mem => ?_⟩
    have has : earned[rank]? = some e := List.mem_zipIdx_iff_getElem?.1 mem
    obtain ⟨w, found⟩ := exists_beside length.symm has
    exact (spared_iff found has finite).1 (inProportion rank w found)
  · obtain ⟨e, has⟩ := exists_beside length found
    exact (spared_iff found has finite).2 (spared (e, rank) (List.mem_zipIdx_iff_getElem?.2 has))

/-- The default weights, for a circuit in full service and one that has just come back. -/
theorem weights_proportioned_default :
    let settings : Settings := {}
    let ranks := settings.selection.rankWeights
    let weights := normalizedWeights ranks [1.0, 0.05]
    settings.check = .ok () ∧ Discernible ranks [1.0, 0.05] ∧ weights.length = 2 ∧
      (∀ w ∈ weights, w.isFinite = true ∧ (0.0 < w ∨ (w == 0.0) = true)) ∧
      InProportion ranks weights := by
  intro settings ranks weights
  have accepted : settings.check = .ok () := Settings.check_eq_ok.2 (by decide +kernel)
  have shares : ∀ e ∈ [1.0, 0.05], (0.0 : Float) < e ∧ e ≤ 1.0 := by decide
  have discernible : Discernible ranks [1.0, 0.05] := by decide +kernel
  have some_ : ([1.0, 0.05] : List Float) ≠ [] := nofun
  obtain ⟨length, numbers, inProportion⟩ := weights_proportioned accepted some_ (by decide) shares
  exact ⟨accepted, discernible, length, numbers, inProportion.2 discernible⟩

/-- The sum of two weights that are accepted is infinite, and nothing is left to either circuit. -/
theorem weights_swamped :
    let settings : Settings := { selection := { rankWeights := [1e308, 1e308] } }
    let ranks := settings.selection.rankWeights
    let weights := normalizedWeights ranks [1.0, 1.0]
    settings.check = .ok () ∧ (∀ e ∈ [1.0, 1.0], (0.0 : Float) < e ∧ e ≤ 1.0) ∧
      weights = [0.0, 0.0] ∧ ¬ InProportion ranks weights := by
  intro settings ranks weights
  have accepted : settings.check = .ok () := Settings.check_eq_ok.2 (by decide +kernel)
  have lost : weights = [0.0, 0.0] := by decide +kernel
  refine ⟨accepted, by decide, lost, fun inProportion => ?_⟩
  have above : (0.0 : Float) < ranks.getD 0 0.0 := by decide +kernel
  have kept : (0.0 : Float) < 0.0 := (inProportion 0 0.0 (by rw [lost]; rfl)).2 above
  exact absurd kept (by decide)

end Multipath
