import Multipath.Proofs.Proportions
import Multipath.Proofs.Shares

/-! # Where a draw lands

A draw goes along the running sums of the weights and lands on the first one that exceeds it
(`firstAbove_eq_some`). The sums need not rise for that, and neither the weights nor the draw need be
numbers. A larger draw passes every sum that a smaller one passes, because the order of doubles is
transitive (`lt_of_lt_of_lt`); so it lands no earlier, unless it lands nowhere.
-/

namespace Multipath

namespace Doubles

open Float.Model (UnpackedFloat)

/-! ## Transitivity -/

/-- The place of a number in the line of all numbers: first by its side, then by its exponent and its
digits, which count the other way below zero. -/
def place : UnpackedFloat → Int × Int × Int
  | .infinity .negative => (-2, 0, 0)
  | .finite .negative m e _ => (-1, -e, -m)
  | .zero _ | .notANumber => (0, 0, 0)
  | .finite .positive m e _ => (1, e, m)
  | .infinity .positive => (2, 0, 0)

/-- One place comes before another. -/
def Before (p q : Int × Int × Int) : Prop :=
  p.1 < q.1 ∨ p.1 = q.1 ∧ (p.2.1 < q.2.1 ∨ p.2.1 = q.2.1 ∧ p.2.2 < q.2.2)

instance (p q : Int × Int × Int) : Decidable (Before p q) := inferInstanceAs (Decidable (_ ∨ _))

theorem Before.trans {p q r : Int × Int × Int} (first : Before p q) (second : Before q r) :
    Before p r := by
  unfold Before at *
  omega

theorem compare_eq_lt {a b : UnpackedFloat} :
    a.compare b = some .lt ↔ a.isNaN = false ∧ b.isNaN = false ∧ Before (place a) (place b) := by
  have digits (m n : Nat) (e q : Int) :
      (compare e q).then (compare m n) = .lt ↔ e < q ∨ e = q ∧ m < n := by
    rw [Ordering.then_eq_lt, Int.compare_eq_lt, Int.compare_eq_eq, Nat.compare_eq_lt]
  cases a with
  | notANumber => simp [UnpackedFloat.compare, UnpackedFloat.isNaN]
  | zero s =>
      cases b with
      | finite s' n q h' =>
          cases s' <;> simp [UnpackedFloat.compare, UnpackedFloat.isNaN, place, Before]
      | infinity s' => cases s' <;> simp [UnpackedFloat.compare, UnpackedFloat.isNaN, place, Before]
      | _ => simp [UnpackedFloat.compare, UnpackedFloat.isNaN, place, Before]
  | infinity s =>
      cases b with
      | notANumber => simp [UnpackedFloat.compare, UnpackedFloat.isNaN]
      | infinity s' => cases s <;> cases s' <;> decide
      | finite s' n q h' =>
          cases s <;> cases s' <;> simp [UnpackedFloat.compare, UnpackedFloat.isNaN, place, Before]
      | zero s' => cases s <;> simp [UnpackedFloat.compare, UnpackedFloat.isNaN, place, Before]
  | finite s m e h =>
      cases b with
      | notANumber => simp [UnpackedFloat.compare, UnpackedFloat.isNaN]
      | zero s' => cases s <;> simp [UnpackedFloat.compare, UnpackedFloat.isNaN, place, Before]
      | infinity s' =>
          cases s <;> cases s' <;> simp [UnpackedFloat.compare, UnpackedFloat.isNaN, place, Before]
      | finite s' n q h' =>
          cases s with
          | positive =>
              cases s' with
              | positive =>
                  simp [UnpackedFloat.compare, UnpackedFloat.isNaN, place, Before, digits]
              | negative => simp [UnpackedFloat.compare, UnpackedFloat.isNaN, place, Before]
          | negative =>
              cases s' with
              | positive => simp [UnpackedFloat.compare, UnpackedFloat.isNaN, place, Before]
              | negative =>
                  have turned : ((compare e q).then (compare m n)).swap = .lt ↔
                      q < e ∨ e = q ∧ n < m := by
                    rw [Ordering.swap_then, Int.compare_swap, Nat.compare_swap, digits,
                      eq_comm]
                  simp [UnpackedFloat.compare, UnpackedFloat.isNaN, place, Before, turned]

theorem lt_of_lt_of_lt {x y z : Float} (first : x < y) (second : y < z) : x < z := by
  rw [lt_iff, compare_eq_lt] at *
  exact ⟨first.1, second.2.1, first.2.2.trans second.2.2⟩

/-- A sum of amounts is a number. -/
theorem isNaN_sum {xs : List Float} (amounts : ∀ y ∈ xs, ∃ b, Amount y b) :
    (xs.foldl (· + ·) 0.0).isNaN = false := by
  change (parts (xs.foldl (· + ·) 0.0)).isNaN = false
  rcases foldl_amounts amount_zero amounts with infinite | ⟨t, total, -, -⟩
  · rw [infinite]
    rfl
  · cases total with
    | none found => rw [found]; rfl
    | some found => rw [found]; rfl

end Doubles

open Doubles

/-! ## Running sums -/

/-- The sum of the weights up to a position, that position included, added to a number from left to
right. -/
def sumFrom (sum : Float) (weights : List Float) (position : Nat) : Float :=
  (weights.take (position + 1)).foldl (· + ·) sum

abbrev runningSum (weights : List Float) (position : Nat) : Float := sumFrom 0.0 weights position

/-- The sum at a position exceeds the draw, and no sum before it does. -/
def Exceeds (sums : Nat → Float) (draw : Float) (position : Nat) : Prop :=
  draw < sums position ∧ ∀ earlier < position, ¬ draw < sums earlier

section Landing

variable {weights : List Float} {draw sum : Float}

theorem Exceeds.unique {sums : Nat → Float} {p q : Nat} (first : Exceeds sums draw p)
    (second : Exceeds sums draw q) : p = q := by
  rcases Nat.lt_trichotomy p q with less | same | more
  · exact absurd first.1 (second.2 p less)
  · exact same
  · exact absurd second.1 (first.2 q more)

/-- Behind the first weight the sums go on from the first sum. -/
theorem exceeds_cons {w : Float} {rest : List Float} (passed : ¬ draw < sum + w) {position : Nat}
    (exceeds : Exceeds (sumFrom (sum + w) rest) draw position) :
    Exceeds (sumFrom sum (w :: rest)) draw (position + 1) := by
  refine ⟨exceeds.1, fun earlier before => ?_⟩
  cases earlier with
  | zero => exact passed
  | succ earlier => exact exceeds.2 earlier (Nat.lt_of_succ_lt_succ before)

/-- The search stops at the first sum that exceeds the draw. -/
theorem firstAbove_eq_some {position found : Nat}
    (stops : firstAbove draw sum position weights = some found) :
    ∃ ahead, found = position + ahead ∧ ahead < weights.length ∧
      Exceeds (sumFrom sum weights) draw ahead := by
  induction weights generalizing sum position with
  | nil => cases stops
  | cons w rest ih =>
      simp only [firstAbove] at stops
      by_cases above : draw < sum + w
      · rw [if_pos above] at stops
        cases stops
        exact ⟨0, rfl, Nat.succ_pos _, above, fun earlier before => absurd before (Nat.not_lt_zero earlier)⟩
      · rw [if_neg above] at stops
        obtain ⟨ahead, rfl, inside, exceeds⟩ := ih stops
        exact ⟨ahead + 1, by omega, Nat.succ_lt_succ inside, exceeds_cons above exceeds⟩

/-- The search goes on to the end if no sum exceeds the draw. -/
theorem firstAbove_eq_none {position : Nat} (ends : firstAbove draw sum position weights = none) :
    ∀ p < weights.length, ¬ draw < sumFrom sum weights p := by
  induction weights generalizing sum position with
  | nil => exact fun p inside => absurd inside (Nat.not_lt_zero p)
  | cons w rest ih =>
      simp only [firstAbove] at ends
      by_cases above : draw < sum + w
      · rw [if_pos above] at ends
        cases ends
      · rw [if_neg above] at ends
        intro p inside
        cases p with
        | zero => exact above
        | succ p => exact ih ends p (Nat.lt_of_succ_lt_succ inside)

/-- A draw lands on the first sum that exceeds it, and on the first position if there is none. -/
theorem pickWeighted_cases (weights : List Float) (draw : Float) :
    (pickWeighted weights draw < weights.length ∧
      Exceeds (runningSum weights) draw (pickWeighted weights draw)) ∨
    (pickWeighted weights draw = 0 ∧ ∀ p < weights.length, ¬ draw < runningSum weights p) := by
  unfold pickWeighted
  cases search : firstAbove draw 0.0 0 weights with
  | none => exact .inr ⟨rfl, firstAbove_eq_none search⟩
  | some found =>
      obtain ⟨ahead, rfl, inside, exceeds⟩ := firstAbove_eq_some search
      rw [Nat.zero_add]
      exact .inl ⟨inside, exceeds⟩

/-- A larger draw lands no earlier, if there is a sum that exceeds it. -/
theorem pickWeighted_le {larger : Float} (more : draw < larger) {p : Nat} (inside : p < weights.length)
    (above : larger < runningSum weights p) :
    pickWeighted weights draw ≤ pickWeighted weights larger := by
  rcases pickWeighted_cases weights larger with ⟨lands, exceeds⟩ | ⟨-, passed⟩
  · rcases pickWeighted_cases weights draw with ⟨-, first⟩ | ⟨nowhere, -⟩
    · refine Nat.le_of_not_lt fun earlier => first.2 _ earlier ?_
      exact lt_of_lt_of_lt more exceeds.1
    · rw [nowhere]
      exact Nat.zero_le _
  · exact absurd above (passed p inside)

theorem runningSum_isNaN (amounts : ∀ w ∈ weights, w.isFinite = true ∧ 0.0 ≤ w) (p : Nat) :
    (runningSum weights p).isNaN = false := by
  refine isNaN_sum fun w mem => ?_
  obtain ⟨finite, above⟩ := amounts w (List.mem_of_mem_take mem)
  exact amount_of_finite finite (not_lt_zero_of_le above)

/-- A draw lands on the first position whose running sum exceeds it, and on position 0 if there is no such
position: in any case within the list, if it has any. Weights that are finite and not below zero let a
larger draw land no earlier, unless it is at or above every running sum. -/
theorem draw_lands (weights : List Float) (draw : Float) :
    (∀ position, pickWeighted weights draw = position ↔
      (position < weights.length ∧ Exceeds (runningSum weights) draw position) ∨
      (position = 0 ∧ ∀ p < weights.length, ¬ draw < runningSum weights p)) ∧
    (weights ≠ [] → pickWeighted weights draw < weights.length) ∧
    ((∀ w ∈ weights, w.isFinite = true ∧ 0.0 ≤ w) → ∀ larger, draw < larger →
      pickWeighted weights draw ≤ pickWeighted weights larger ∨
      ∀ p < weights.length, runningSum weights p ≤ larger) := by
  have lands := pickWeighted_cases weights draw
  refine ⟨fun position => ⟨?_, ?_⟩, pickWeighted_lt draw, fun amounts larger more => ?_⟩
  · rintro rfl
    exact lands
  · rintro (⟨inside, exceeds⟩ | ⟨rfl, passed⟩)
    · rcases lands with ⟨-, exceeds'⟩ | ⟨-, passed⟩
      · exact exceeds'.unique exceeds
      · exact absurd exceeds.1 (passed position inside)
    · rcases lands with ⟨inside, exceeds⟩ | ⟨nowhere, -⟩
      · exact absurd exceeds.1 (passed _ inside)
      · exact nowhere
  · by_cases all : ∀ p < weights.length, runningSum weights p ≤ larger
    · exact .inr all
    · push Not at all
      obtain ⟨p, inside, above⟩ := all
      have number : larger.isNaN = false := isNaN_of_le (le_of_lt more)
      exact .inl (pickWeighted_le more inside
        ((lt_iff_not_le number (runningSum_isNaN amounts p)).2 above))

/-- Just below a sum and just above it, and above all of them. -/
theorem draw_lands_default :
    let weights : List Float := [0.7, 0.2, 0.1]
    pickWeighted weights 0.69 = 0 ∧ pickWeighted weights 0.71 = 1 ∧ pickWeighted weights 1.0 = 0 ∧
      pickWeighted weights (0.0 / 0.0) = 0 ∧
      (pickWeighted weights 0.69 ≤ pickWeighted weights 0.71 ∨
        ∀ p < weights.length, runningSum weights p ≤ 0.71) := by
  intro weights
  have amounts : ∀ w ∈ weights, w.isFinite = true ∧ 0.0 ≤ w := by decide +kernel
  have below := (draw_lands weights 0.69).2.2 amounts 0.71 (by decide +kernel)
  exact ⟨by decide +kernel, by decide +kernel, by decide +kernel, by decide +kernel, below⟩

end Landing

end Multipath
