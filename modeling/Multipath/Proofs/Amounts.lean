import Multipath.Proofs.Growth

/-! # Amounts

Doubles that are neither below zero nor infinite, with what they are worth. To calculate with them is to
calculate with numbers and to round. Every number rounds to a double, unless it is no more than half of
the least one, which is lost (`exists_rounds`); and rounding keeps numbers in order (`Rounded.le`,
`Rounded.ge`). So a product with a share is an amount again (`Amount.mul`), a sum is infinite or no smaller
than its parts (`Amount.add`), and a part over the whole is an amount (`Amount.div`).
-/

namespace Multipath.Doubles

open Float.Model (Format UnpackedFloat totalExponent)
open Float.Model.UnpackedFloat

/-! ## There is a nearest double -/

/-- Half of the least double. What is no more than that is rounded to zero. -/
def halfLeast : ℚ := 2 ^ (-1074 : ℤ) / 2

theorem halfLeast_pos : 0 < halfLeast := by
  unfold halfLeast
  positivity

theorem halfLeast_lt_least : halfLeast < 2 ^ (-1074 : ℤ) := half_lt_self (by positivity)

theorem pos_of_above {v : ℚ} (above : halfLeast < v) : 0 < v := halfLeast_pos.trans above

theorem exists_nearest {u : ℚ} (nonneg : 0 ≤ u) : ∃ n, Nearest u n := by
  have low := Nat.floor_le nonneg
  have high := Nat.lt_floor_add_one u
  generalize ⌊u⌋₊ = k at low high
  rcases lt_trichotomy u (k + 1 / 2) with less | tie | more
  · exact ⟨k, by linarith, less.le, fun _ => ⟨by linarith, less⟩⟩
  · rcases Nat.mod_two_eq_zero_or_one k with even | odd
    · exact ⟨k, by linarith, tie.le, fun odd => by omega⟩
    · exact ⟨k + 1, by push_cast; linarith, by push_cast; linarith, fun odd' => by omega⟩
  · refine ⟨k + 1, ?_, ?_, fun _ => ⟨?_, ?_⟩⟩ <;> push_cast <;> linarith

section Nearest

variable {v : ℚ} {m n : ℕ} {e q t : ℤ}

/-- The nearest whole number of units is a double, if the unit is that of the number's length. One unit
too many is the next length. -/
theorem rounds_of_nearest (nearest : Nearest (v / 2 ^ t) n) (low : -1074 ≤ t) (above : halfLeast < v)
    (short : v < 2 ^ (53 + t)) (full : (2 : ℚ) ^ (52 + t) ≤ v ∨ t = -1074) :
    ∃ n q, Canonical n q ∧ Rounds v n q := by
  have unit : (0 : ℚ) < 2 ^ t := by positivity
  obtain ⟨near, far, odd⟩ := nearest
  rw [le_div_iff₀ unit] at near
  rw [div_le_iff₀ unit] at far
  rw [lt_div_iff₀ unit, div_lt_iff₀ unit] at odd
  rw [zpow_add₀ (by norm_num)] at short full
  norm_num at short full
  have most : n ≤ 2 ^ 53 := by
    have units := lt_of_mul_lt_mul_right (near.trans_lt short) unit.le
    have digits : (n : ℚ) < 2 ^ 53 + 1 := by linarith
    exact Nat.le_of_lt_succ (by exact_mod_cast digits)
  have long : 2 ^ 52 ≤ n ∨ t = -1074 := by
    refine full.imp_left fun all => ?_
    have units := le_of_mul_le_mul_right (all.trans far) unit
    have digits : (2 : ℚ) ^ 52 < n + 1 := by linarith
    exact Nat.le_of_lt_succ (by exact_mod_cast digits)
  rcases most.lt_or_eq with fits | rfl
  · refine ⟨n, t, ⟨?_, fits, low, long⟩, ?_⟩
    · rcases long with all | rfl
      · omega
      · refine Nat.pos_of_ne_zero fun none_ => ?_
        rw [none_, Nat.cast_zero] at far
        unfold halfLeast at above
        linarith
    · by_cases least : n = 2 ^ 52 ∧ t ≠ -1074
      · have all := full.resolve_right least.2
        have near' : reach n t = 1 / 4 := if_pos least
        refine ⟨?_, far, fun odd' => by omega⟩
        rw [near', least.1]
        refine le_trans ?_ all
        exact mul_le_mul_of_nonneg_right (by norm_num) unit.le
      · have near' : reach n t = 1 / 2 := if_neg least
        exact ⟨by rw [near']; exact near, far, by rw [near']; exact odd⟩
  · have double_ : (2 : ℚ) ^ (t + 1) = 2 * 2 ^ t := by
      rw [add_comm, zpow_one_add₀ (by norm_num)]
    have near' : reach (2 ^ 52) (t + 1) = 1 / 4 := if_pos ⟨rfl, by omega⟩
    refine ⟨2 ^ 52, t + 1, ⟨by decide, by decide, by omega, .inl le_rfl⟩, ?_, ?_, nofun⟩
    · rw [near', double_]
      push_cast at near ⊢
      linarith
    · rw [double_]
      push_cast
      linarith

/-- Everything above half of the least double rounds to a double. -/
theorem exists_rounds (above : halfLeast < v) : ∃ n q, Canonical n q ∧ Rounds v n q := by
  have pos := pos_of_above above
  have least := Int.zpow_log_le_self (by norm_num : 1 < 2) pos
  have most := Int.lt_zpow_succ_log_self (by norm_num : 1 < 2) v
  push_cast at least most
  generalize Int.log 2 v = l at least most
  obtain ⟨n, nearest⟩ := exists_nearest (u := v / 2 ^ max (l - 52) (-1074)) (by positivity)
  refine rounds_of_nearest nearest (le_max_right _ _) above ?_ ?_
  · exact most.trans_le (zpow_le_zpow_right₀ (by norm_num) (by omega))
  · rcases le_total (-1074) (l - 52) with long | least_
    · refine .inl (le_trans (zpow_le_zpow_right₀ (by norm_num) ?_) least)
      omega
    · exact .inr (max_eq_right least_)

end Nearest

/-! ## Rounding keeps the order -/

section Order

variable {v : ℚ} {m n : ℕ} {e q : ℤ}

theorem reach_le (n : ℕ) (q : ℤ) : reach n q ≤ 1 / 2 := by
  unfold reach
  split <;> norm_num

/-- What rounds to a double is above half of the least one. -/
theorem Rounds.above (rounds : Rounds v n q) (canonical : Canonical n q) : halfLeast < v := by
  have unit : (2 : ℚ) ^ (-1074 : ℤ) ≤ 2 ^ q := zpow_le_zpow_right₀ (by norm_num) canonical.low
  have pos : (0 : ℚ) < 2 ^ (-1074 : ℤ) := by positivity
  have near := reach_le n q
  unfold halfLeast
  rcases Nat.lt_or_ge 1 n with more | one
  · have digits : (2 : ℚ) ≤ n := by exact_mod_cast more
    have low := rounds.low
    nlinarith
  · obtain rfl : n = 1 := le_antisymm one canonical.pos
    have low := (rounds.odd rfl).1
    push_cast at low
    nlinarith

/-- A double that is no larger has no higher exponent. -/
theorem Canonical.exponent_le (canonical : Canonical m e) (canonical' : Canonical n q)
    (le : (m : ℚ) * 2 ^ e ≤ n * 2 ^ q) : e ≤ q :=
  (canonical.le_target le).trans canonical'.exponent_eq.ge

theorem two_mul_zpow (q : ℤ) : 2 * (2 : ℚ) ^ (q - 1) = 2 ^ q := by
  rw [← zpow_one_add₀ (by norm_num)]
  congr 1
  omega

/-- A smaller double is below everything that rounds to the larger one. -/
theorem Canonical.lt_reach (canonical : Canonical m e) (canonical' : Canonical n q)
    (less : (m : ℚ) * 2 ^ e < n * 2 ^ q) : (m : ℚ) * 2 ^ e < (n - reach n q) * 2 ^ q := by
  have unit : (0 : ℚ) < 2 ^ q := by positivity
  rcases (canonical.exponent_le canonical' less.le).eq_or_lt with rfl | lower
  · have digits : (m : ℚ) + 1 ≤ n := by exact_mod_cast lt_of_mul_lt_mul_right less unit.le
    have near := reach_le n e
    exact mul_lt_mul_of_pos_right (by linarith) unit
  · -- The larger one has all its digits, and the smaller one one digit less.
    have normal : q ≠ -1074 := by
      have low := canonical.low
      omega
    have short : (m : ℚ) + 1 ≤ 2 ^ 53 := by exact_mod_cast canonical.short
    have finer : (2 : ℚ) ^ e ≤ 2 ^ (q - 1) := zpow_le_zpow_right₀ (by norm_num) (by omega)
    have below : (m : ℚ) * 2 ^ e ≤ (2 ^ 52 - 1 / 2) * 2 ^ q :=
      calc (m : ℚ) * 2 ^ e ≤ (2 ^ 53 - 1) * 2 ^ (q - 1) :=
            mul_le_mul (by linarith) finer (by positivity) (by norm_num)
        _ = (2 ^ 52 - 1 / 2) * 2 ^ q := by
          rw [← two_mul_zpow q]
          ring
    refine below.trans_lt (mul_lt_mul_of_pos_right ?_ unit)
    rcases (canonical'.full.resolve_right normal).eq_or_lt with rfl | more
    · have near : reach (2 ^ 52) q = 1 / 4 := if_pos ⟨rfl, normal⟩
      rw [near]
      norm_num
    · have near := reach_le n q
      have digits : (2 : ℚ) ^ 52 + 1 ≤ n := by exact_mod_cast more
      linarith

/-- A larger double is above everything that rounds to the smaller one. -/
theorem Canonical.half_lt (canonical : Canonical m e) (canonical' : Canonical n q)
    (less : (n : ℚ) * 2 ^ q < m * 2 ^ e) : ((n : ℚ) + 1 / 2) * 2 ^ q < m * 2 ^ e := by
  have unit : (0 : ℚ) < 2 ^ q := by positivity
  have short : (n : ℚ) + 1 ≤ 2 ^ 53 := by exact_mod_cast canonical'.short
  rcases (canonical'.exponent_le canonical less.le).eq_or_lt with rfl | lower
  · have digits : (n : ℚ) + 1 ≤ m := by exact_mod_cast lt_of_mul_lt_mul_right less unit.le
    exact mul_lt_mul_of_pos_right (by linarith) unit
  · have normal : e ≠ -1074 := by
      have low := canonical'.low
      omega
    have long : (2 : ℚ) ^ 52 ≤ m := by exact_mod_cast canonical.full.resolve_right normal
    have coarser : 2 * (2 : ℚ) ^ q ≤ 2 ^ e := by
      rw [← two_mul_zpow e]
      exact mul_le_mul_of_nonneg_left (zpow_le_zpow_right₀ (by norm_num) (by omega)) (by norm_num)
    calc ((n : ℚ) + 1 / 2) * 2 ^ q < 2 ^ 53 * 2 ^ q := mul_lt_mul_of_pos_right (by linarith) unit
      _ = 2 ^ 52 * (2 * 2 ^ q) := by ring
      _ ≤ m * 2 ^ e := mul_le_mul long coarser (by positivity) (by positivity)

/-- What is no larger than a double rounds to no larger one. -/
theorem Rounds.le (rounds : Rounds v n q) (canonical : Canonical n q) (canonical' : Canonical m e)
    (le : v ≤ m * 2 ^ e) : (n : ℚ) * 2 ^ q ≤ m * 2 ^ e :=
  not_lt.1 fun more =>
    absurd (le.trans_lt (canonical'.lt_reach canonical more)) rounds.low.not_gt

/-- What is no smaller than a double rounds to no smaller one. -/
theorem Rounds.ge (rounds : Rounds v n q) (canonical : Canonical n q) (canonical' : Canonical m e)
    (le : (m : ℚ) * 2 ^ e ≤ v) : (m : ℚ) * 2 ^ e ≤ n * 2 ^ q :=
  not_lt.1 fun less =>
    absurd ((canonical'.half_lt canonical less).trans_le le) rounds.high.not_gt

end Order

/-! ## What becomes of a number -/

section Rounded

variable {x : Float} {v : ℚ} {m : ℕ} {e : ℤ} {acc : Accuracy}

/-- All digits of a number, if a double keeps no more of them. -/
theorem digits_exact (pos : 0 < m) (fine : e ≤ Format.binary64.targetExponent (totalExponent m e)) :
    Digits (m * 2 ^ e) m e .exact := by
  refine ⟨?_, fine, lt_totalExponent m e, .inl (totalExponent_le pos e)⟩
  have unit : (2 : ℚ) ^ e ≠ 0 := by positivity
  exact mul_div_cancel_right₀ (m : ℚ) unit

/-- What is no more than half of the least double is lost. -/
theorem round_lost (s : Sign) (digits : Digits v m e acc) (nonneg : 0 ≤ v) (low : v ≤ halfLeast) :
    roundWithAccuracy Format.binary64 s m e acc = .zero s := by
  obtain ⟨tracks, fine, -, below⟩ := digits
  have small : totalExponent m e ≤ -1021 := by
    refine below.elim (fun least => ?_) id
    have less : (2 : ℚ) ^ (totalExponent m e - 1) < 2 ^ (-1074 : ℤ) :=
      (least.trans low).trans_lt halfLeast_lt_least
    have exponent := (zpow_lt_zpow_iff_right₀ (by norm_num : (1 : ℚ) < 2)).1 less
    omega
  have target : Format.binary64.targetExponent (totalExponent m e) = -1074 := by
    rw [targetExponent_eq]
    omega
  obtain ⟨em, first, shifted⟩ := tracks.shifted target (target ▸ fine)
  have unit : (0 : ℚ) < 2 ^ (-1074 : ℤ) := by positivity
  have nothing : em.roundedMantissa = 0 := by
    refine shifted.roundedMantissa ⟨?_, ?_, nofun⟩
    · rw [Nat.cast_zero, zero_sub]
      exact le_trans (by norm_num) (div_nonneg nonneg unit.le)
    · rw [div_le_iff₀ unit, Nat.cast_zero, zero_add]
      exact low.trans_eq (div_eq_inv_mul _ _ |>.trans (by rw [one_div]))
  have settled := shift_settled (m := 0) (e := -1074) (by decide)
  simp only [roundWithAccuracy, first, nothing, settled, dite_true]

/-- What becomes of a number that is not below zero when it is made a double. -/
inductive Rounded (x : Float) (v : ℚ) : Prop
  | lost (zero : parts x = .zero .positive) (low : v ≤ halfLeast)
  | kept {n : ℕ} {q : ℤ} (canonical : Canonical n q)
      (found : parts x = .finite .positive n q canonical.pos) (rounds : Rounds v n q)
  | beyond {n : ℕ} {q : ℤ} (canonical : Canonical n q) (high : 971 < q)
      (infinite : parts x = .infinity .positive) (rounds : Rounds v n q)

theorem rounded_pack (digits : Digits v m e acc) (nonneg : 0 ≤ v)
    (packed : x = .ofModel (.pack (roundWithAccuracy Format.binary64 .positive m e acc))) :
    Rounded x v := by
  subst packed
  rcases le_or_gt v halfLeast with low | above
  · rw [round_lost _ digits nonneg low]
    exact .lost rfl low
  · obtain ⟨n, q, canonical, rounds⟩ := exists_rounds above
    rw [roundWithAccuracy_eq _ canonical rounds digits]
    rcases le_or_gt q 971 with fits | high
    · exact .kept canonical (parts_pack canonical fits) rounds
    · exact .beyond canonical high (parts_pack_high .positive canonical.pos high) rounds

end Rounded

/-! ## Amounts -/

/-- The double is finite and not below zero, and this is what it is worth. -/
inductive Amount (x : Float) : ℚ → Prop
  | none {s : Sign} (found : parts x = .zero s) : Amount x 0
  | some {m : ℕ} {e : ℤ} {h : 0 < m} (found : parts x = .finite .positive m e h) :
      Amount x (m * 2 ^ e)

section Amounts

variable {x y : Float} {a b v : ℚ}

theorem amount_zero : Amount 0.0 0 := .none parts_zero

theorem amount_one : Amount 1.0 1 := by
  have worth : ((2 ^ 52 : ℕ) : ℚ) * 2 ^ (-52 : ℤ) = 1 := by norm_num
  rw [← worth]
  exact .some parts_one

theorem Amount.nonneg (hx : Amount x a) : 0 ≤ a := by
  cases hx with
  | none found => exact le_rfl
  | some found => positivity

theorem Amount.zero_lt_iff (hx : Amount x a) : 0.0 < x ↔ 0 < a := by
  rw [Doubles.zero_lt_iff]
  cases hx with
  | none found => simp [found, positive]
  | @some m e h found =>
      have worth : (0 : ℚ) < m * 2 ^ e := by positivity
      simp [found, positive, worth]

theorem Amount.isFinite (hx : Amount x a) : x.isFinite = true := by
  change (parts x).isFinite = true
  cases hx with
  | none found => rw [found]; rfl
  | some found => rw [found]; rfl

theorem Amount.beq_zero (hx : Amount x a) (nothing : ¬ 0 < a) : (x == 0.0) = true := by
  change (parts x).beq (.zero .positive) = true
  cases hx with
  | none found => rw [found]; rfl
  | some found => exact absurd (by positivity) nothing

theorem amount_of_finite (finite : x.isFinite = true) (above : ¬ x < 0.0) : ∃ a, Amount x a := by
  change (parts x).isFinite = true at finite
  rw [lt_iff, parts_zero] at above
  cases found : parts x with
  | notANumber => simp [found, UnpackedFloat.isFinite] at finite
  | infinity s => simp [found, UnpackedFloat.isFinite] at finite
  | zero s => exact ⟨0, .none found⟩
  | finite s m e h =>
      cases s with
      | positive => exact ⟨_, .some found⟩
      | negative => simp [found, UnpackedFloat.compare] at above

/-- What a double above zero is worth, and nothing for all others. -/
def value (x : Float) : ℚ :=
  match parts x with
  | .finite .positive m e _ => m * 2 ^ e
  | _ => 0

theorem Amount.value_eq (hx : Amount x a) : value x = a := by
  unfold value
  cases hx with
  | none found => rw [found]
  | some found => rw [found]

theorem Amount.unique (hx : Amount x a) (hx' : Amount x b) : a = b :=
  hx.value_eq.symm.trans hx'.value_eq

theorem Amount.not_infinite (hx : Amount x a) (s : Sign) : parts x ≠ .infinity s := by
  cases hx with
  | none found => rw [found]; nofun
  | some found => rw [found]; nofun

/-- A double no larger than another one is worth no more. -/
theorem Amount.le (hx : Amount x a) (hy : Amount y b) (le : x ≤ y) : a ≤ b := by
  cases hx with
  | none found => exact hy.nonneg
  | @some m e h found =>
      cases hy with
      | none found' =>
          rw [le_iff, found, found'] at le
          cases le
      | @some n q h' found' =>
          rw [le_iff_exponent found found'] at le
          by_contra more
          have exponent := (canonical_parts found').1.exponent_le (canonical_parts found).1
            (not_le.1 more).le
          obtain ⟨rfl, digits⟩ : e = q ∧ m ≤ n := by omega
          exact more (mul_le_mul_of_nonneg_right (by exact_mod_cast digits) (by positivity))

theorem amount_of_share (above : 0.0 < x) (share : x ≤ 1.0) : ∃ a, Amount x a ∧ 0 < a ∧ a ≤ 1 := by
  rcases parts_of_above above with infinite | ⟨m, e, h, found⟩
  · rw [le_iff, infinite, parts_one] at share
    cases share
  · exact ⟨_, .some found, by positivity, Amount.le (.some found) amount_one share⟩

/-- No double above zero is lost. -/
theorem Amount.halfLeast_lt (hx : Amount x a) (above : 0 < a) : halfLeast < a := by
  cases hx with
  | none found => exact absurd above (lt_irrefl 0)
  | @some m e h found =>
      have low := (canonical_parts found).1.low
      have one : (1 : ℚ) ≤ m := by exact_mod_cast h
      calc halfLeast < 2 ^ (-1074 : ℤ) := halfLeast_lt_least
        _ ≤ 2 ^ e := zpow_le_zpow_right₀ (by norm_num) low
        _ ≤ m * 2 ^ e := le_mul_of_one_le_left (by positivity) one

/-! ## Rounding keeps amounts in order -/

theorem Rounded.infinite_or_amount (rounded : Rounded x v) :
    parts x = .infinity .positive ∨ ∃ a, Amount x a := by
  cases rounded with
  | lost zero low => exact .inr ⟨0, .none zero⟩
  | kept canonical found rounds => exact .inr ⟨_, .some found⟩
  | beyond canonical high infinite rounds => exact .inl infinite

theorem Rounded.zero_lt_iff (rounded : Rounded x v) (hx : Amount x a) : 0 < a ↔ halfLeast < v := by
  cases rounded with
  | lost zero low =>
      rw [hx.unique (.none zero)]
      exact iff_of_false (lt_irrefl 0) low.not_gt
  | @kept n q canonical found rounds =>
      have pos := canonical.pos
      rw [hx.unique (.some found)]
      exact iff_of_true (by positivity) (rounds.above canonical)
  | beyond canonical high infinite rounds => exact absurd infinite (hx.not_infinite _)

theorem Rounded.le (rounded : Rounded x v) (hx : Amount x a) (hy : Amount y b) (le : v ≤ b) :
    a ≤ b := by
  cases rounded with
  | lost zero low =>
      rw [hx.unique (.none zero)]
      exact hy.nonneg
  | kept canonical found rounds =>
      rw [hx.unique (.some found)]
      cases hy with
      | none found' => exact absurd (pos_of_above (rounds.above canonical)) le.not_gt
      | some found' => exact rounds.le canonical (canonical_parts found').1 le
  | beyond canonical high infinite rounds => exact absurd infinite (hx.not_infinite _)

theorem Rounded.ge (rounded : Rounded x v) (hx : Amount x a) (hy : Amount y b) (le : b ≤ v) :
    b ≤ a := by
  cases rounded with
  | lost zero low =>
      by_contra more
      have above := hy.halfLeast_lt (hx.nonneg.trans_lt (not_le.1 more))
      exact absurd above (le.trans low).not_gt
  | kept canonical found rounds =>
      have bound := hx.nonneg
      rw [hx.unique (.some found)] at bound ⊢
      cases hy with
      | none found' => exact bound
      | some found' => exact rounds.ge canonical (canonical_parts found').1 le
  | beyond canonical high infinite rounds => exact absurd infinite (hx.not_infinite _)

/-- A number no larger than an amount becomes an amount. -/
theorem Rounded.amount (rounded : Rounded x v) (hy : Amount y b) (le : v ≤ b) : ∃ a, Amount x a := by
  refine rounded.infinite_or_amount.resolve_left fun infinite => ?_
  cases rounded with
  | lost zero low => exact (Amount.none zero).not_infinite _ infinite
  | kept canonical found rounds => exact (Amount.some found).not_infinite _ infinite
  | beyond canonical high infinite rounds =>
      cases hy with
      | none found => exact absurd (pos_of_above (rounds.above canonical)) le.not_gt
      | some found =>
          obtain ⟨canonical', fits⟩ := canonical_parts found
          have exponent := canonical.exponent_le canonical' (rounds.le canonical canonical' le)
          omega

end Amounts

/-! ## Operations -/

theorem mul_packed (x y : Float) :
    x * y = .ofModel (.pack (UnpackedFloat.mul Format.binary64 (parts x) (parts y))) := rfl

theorem add_packed (x y : Float) :
    x + y = .ofModel (.pack (UnpackedFloat.add Format.binary64 (parts x) (parts y))) := rfl

theorem div_packed (x y : Float) :
    x / y = .ofModel (.pack (UnpackedFloat.div Format.binary64 (parts x) (parts y))) := rfl

theorem parts_of_zero {x : Float} {u : UnpackedFloat} {s : Sign} (packed : x = .ofModel (.pack u))
    (zero : u = .zero s) : parts x = .zero s := by
  rw [packed, zero]
  cases s <;> rfl

section Operations

variable {x y : Float} {a b : ℚ} {m n : ℕ} {e q : ℤ} {h : 0 < m} {h' : 0 < n}

/-- A whole number of units becomes what it rounds to. -/
theorem rounded_round (pos : 0 < m) (e : ℤ) :
    Rounded (.ofModel (.pack (UnpackedFloat.round Format.binary64 .positive m e))) (m * 2 ^ e) := by
  generalize shift : (e - Format.binary64.targetExponent (totalExponent m e)).toNat = k
  have longer : (m <<< k).log2 = m.log2 + k := log2_shiftLeft pos.ne' k
  have worth : (m : ℚ) * 2 ^ e = (m <<< k : ℕ) * 2 ^ (e - k) := by
    rw [Nat.shiftLeft_eq, zpow_sub₀ (by norm_num), zpow_natCast]
    push_cast
    field_simp
  rw [worth]
  refine rounded_pack (digits_exact ?_ ?_) (by positivity) ?_
  · rw [Nat.shiftLeft_eq]
    positivity
  · rw [targetExponent_eq, totalExponent] at shift ⊢
    omega
  · simp only [UnpackedFloat.round, decreaseExponent, shift]

theorem rounded_mul (hx : parts x = .finite .positive m e h) (hy : parts y = .finite .positive n q h') :
    Rounded (x * y) (m * 2 ^ e * (n * 2 ^ q)) := by
  have worth : (m * 2 ^ e * (n * 2 ^ q) : ℚ) = (m * n : ℕ) * 2 ^ (e + q) := by
    rw [zpow_add₀ (by norm_num)]
    push_cast
    ring
  rw [worth]
  refine rounded_pack (digits_exact (Nat.mul_pos h h') ?_) (by positivity) ?_
  · -- The product has all digits, or both are of the least exponent.
    have fullₓ := (canonical_parts hx).1.full
    have fullᵧ := (canonical_parts hy).1.full
    rw [targetExponent_eq, totalExponent]
    rcases Nat.lt_or_ge (m * n) (2 ^ 52) with few | all
    · have least := Nat.le_mul_of_pos_right m h'
      have least' := Nat.le_mul_of_pos_left n h
      omega
    · have digits : 52 ≤ (m * n).log2 := (Nat.le_log2 (Nat.mul_pos h h').ne').2 all
      omega
  · rw [mul_packed, hx, hy]
    rfl

theorem rounded_add (hx : parts x = .finite .positive m e h) (hy : parts y = .finite .positive n q h') :
    Rounded (x + y) (m * 2 ^ e + n * 2 ^ q) := by
  obtain ⟨k, exponent⟩ := Int.le.dest (min_le_left e q)
  obtain ⟨l, exponent'⟩ := Int.le.dest (min_le_right e q)
  generalize least : min e q = t at exponent exponent'
  have worth : (m * 2 ^ e + n * 2 ^ q : ℚ) = (m <<< k + n <<< l : ℕ) * 2 ^ t := by
    rw [← exponent, ← exponent', zpow_add₀ (by norm_num), zpow_add₀ (by norm_num), zpow_natCast,
      zpow_natCast, Nat.shiftLeft_eq, Nat.shiftLeft_eq]
    push_cast
    ring
  have pos : 0 < m <<< k + n <<< l := by
    rw [Nat.shiftLeft_eq]
    positivity
  have sum : UnpackedFloat.add Format.binary64 (parts x) (parts y) =
      UnpackedFloat.round Format.binary64 .positive (m <<< k + n <<< l) t := by
    have first : (e - t).toNat = k := by omega
    have second : (q - t).toNat = l := by omega
    have more : compare ((m <<< k : ℕ) + (n <<< l : ℕ) : ℤ) 0 = .gt := Int.compare_eq_gt.2 (by omega)
    have whole : ((m <<< k : ℕ) + (n <<< l : ℕ) : ℤ).toNat = m <<< k + n <<< l := by omega
    rw [hx, hy]
    simp only [UnpackedFloat.add, least, decreaseExponent, first, second, Sign.apply,
      UnpackedFloat.normalize, more, whole]
  rw [worth, add_packed, sum]
  exact rounded_round pos t

theorem rounded_div (hx : parts x = .finite .positive m e h) (hy : parts y = .finite .positive n q h') :
    Rounded (x / y) (m * 2 ^ e / (n * 2 ^ q)) := by
  obtain ⟨r, t, acc, core, digits⟩ := digits_quotient h h' e q
  refine rounded_pack digits (by positivity) ?_
  rw [div_packed, hx, hy]
  simp only [UnpackedFloat.div, core]
  rfl

theorem rounded_count {n : ℕ} (some_ : 0 < n) (few : n < UInt64.size) : Rounded n.toUInt64.toFloat n := by
  have worth : (n : ℚ) = n * 2 ^ (0 : ℤ) := by simp
  rw [worth, toFloat_eq some_ few]
  exact rounded_round some_ 0

/-- A product with a share is an amount. -/
theorem Amount.mul (hx : Amount x a) (hy : Amount y b) (share : b ≤ 1) :
    ∃ c, Amount (x * y) c ∧ (0 < c ↔ halfLeast < a * b) := by
  have nothing : ∀ {s}, UnpackedFloat.mul Format.binary64 (parts x) (parts y) = .zero s → a * b = 0 →
      ∃ c, Amount (x * y) c ∧ (0 < c ↔ halfLeast < a * b) := by
    intro s zero none_
    refine ⟨0, .none (parts_of_zero (mul_packed x y) zero), ?_⟩
    rw [none_]
    exact iff_of_false (lt_irrefl 0) halfLeast_pos.not_gt
  cases hx with
  | @none s found =>
      cases hy with
      | @none s' found' => exact nothing (s := s * s') (by rw [found, found']; rfl) (zero_mul _)
      | some found' => exact nothing (s := s * .positive) (by rw [found, found']; rfl) (zero_mul _)
  | some found =>
      cases hy with
      | @none s' found' =>
          exact nothing (s := .positive * s') (by rw [found, found']; rfl) (mul_zero _)
      | some found' =>
          have rounded := rounded_mul found found'
          obtain ⟨c, product⟩ :=
            rounded.amount (.some found) (mul_le_of_le_one_right (by positivity) share)
          exact ⟨c, product, rounded.zero_lt_iff product⟩

theorem add_of_zero {s : Sign} (zero : parts x = .zero s) (hy : Amount y b) : Amount (x + y) b := by
  cases hy with
  | @none s' found =>
      have sum : UnpackedFloat.add Format.binary64 (parts x) (parts y) =
          .zero (if s == s' then s else .positive) := by
        rw [zero, found]
        cases s <;> cases s' <;> rfl
      exact .none (parts_of_zero (add_packed x y) sum)
  | some found =>
      have sum : UnpackedFloat.add Format.binary64 (parts x) (parts y) = parts y := by
        rw [zero, found]
        rfl
      rw [add_packed, sum, pack_parts]
      exact .some found

/-- A sum is infinite or no smaller than its parts. -/
theorem Amount.add (hx : Amount x a) (hy : Amount y b) :
    parts (x + y) = .infinity .positive ∨ ∃ c, Amount (x + y) c ∧ a ≤ c ∧ b ≤ c := by
  have bound := hy.nonneg
  cases hx with
  | none found => exact .inr ⟨b, add_of_zero found hy, bound, le_rfl⟩
  | some found =>
      cases hy with
      | none found' =>
          have sum : UnpackedFloat.add Format.binary64 (parts x) (parts y) = parts x := by
            rw [found, found']
            rfl
          refine .inr ⟨_, ?_, le_rfl, by positivity⟩
          rw [add_packed, sum, pack_parts]
          exact .some found
      | some found' =>
          have rounded := rounded_add found found'
          refine rounded.infinite_or_amount.imp_right ?_
          rintro ⟨c, sum⟩
          exact ⟨c, sum, rounded.ge sum (.some found) (le_add_of_nonneg_right bound),
            rounded.ge sum (.some found') (le_add_of_nonneg_left (by positivity))⟩

/-- A part of an amount is a share. -/
theorem Amount.div (hx : Amount x a) (hy : Amount y b) (some_ : 0 < b) (le : a ≤ b) :
    ∃ c, Amount (x / y) c ∧ (0 < c ↔ halfLeast < a / b) := by
  cases hy with
  | none found' => exact absurd some_ (lt_irrefl 0)
  | some found' =>
      cases hx with
      | @none s found =>
          have zero : UnpackedFloat.div Format.binary64 (parts x) (parts y) = .zero (s / .positive) := by
            rw [found, found']
            rfl
          refine ⟨0, .none (parts_of_zero (div_packed x y) zero), ?_⟩
          exact iff_of_false (lt_irrefl 0) fun above =>
            (pos_of_above above).ne' (div_eq_zero_iff.2 (.inl rfl))
      | some found =>
          have rounded := rounded_div found found'
          obtain ⟨c, quotient⟩ := rounded.amount amount_one ((div_le_one some_).2 le)
          exact ⟨c, quotient, rounded.zero_lt_iff quotient⟩

/-- No part of what is infinite is left. -/
theorem Amount.div_infinity (hx : Amount x a) (infinite : parts y = .infinity .positive) :
    Amount (x / y) 0 := by
  cases hx with
  | @none s found =>
      have zero : UnpackedFloat.div Format.binary64 (parts x) (parts y) = .zero (s / .positive) := by
        rw [found, infinite]
        rfl
      exact .none (parts_of_zero (div_packed x y) zero)
  | some found =>
      have zero : UnpackedFloat.div Format.binary64 (parts x) (parts y) =
          .zero (.positive / .positive) := by
        rw [found, infinite]
        rfl
      exact .none (parts_of_zero (div_packed x y) zero)

theorem infinity_add (infinite : parts x = .infinity .positive) (hy : Amount y b) :
    parts (x + y) = .infinity .positive := by
  have sum : UnpackedFloat.add Format.binary64 (parts x) (parts y) = .infinity .positive := by
    rw [infinite]
    cases hy with
    | none found => rw [found]; rfl
    | some found => rw [found]; rfl
  rw [add_packed, sum]
  rfl

/-- One over a count. -/
theorem amount_one_div {n : ℕ} (some_ : 0 < n) (few : n < UInt64.size) :
    ∃ c, Amount (1.0 / n.toUInt64.toFloat) c ∧ 0 < c := by
  have limit : Amount 18446744073709551616.0 ((2 ^ 52 : ℕ) * 2 ^ (12 : ℤ)) := .some (h := by decide) rfl
  have rounded := rounded_count some_ few
  have below : (n : ℚ) ≤ (2 ^ 52 : ℕ) * 2 ^ (12 : ℤ) := by
    have less : (n : ℚ) < UInt64.size := by exact_mod_cast few
    norm_num [UInt64.size] at less ⊢
    exact less.le
  obtain ⟨d, count⟩ := rounded.amount limit below
  have most := rounded.le count limit below
  have least := rounded.ge count amount_one (by exact_mod_cast some_)
  obtain ⟨c, share, kept⟩ := amount_one.div count (by linarith) least
  refine ⟨c, share, kept.2 ?_⟩
  have small : halfLeast < 2 ^ (-64 : ℤ) :=
    halfLeast_lt_least.trans (zpow_lt_zpow_right₀ (by norm_num) (by norm_num))
  rw [lt_div_iff₀ (by linarith)]
  calc halfLeast * d ≤ halfLeast * ((2 ^ 52 : ℕ) * 2 ^ (12 : ℤ)) :=
        mul_le_mul_of_nonneg_left most halfLeast_pos.le
    _ < 2 ^ (-64 : ℤ) * ((2 ^ 52 : ℕ) * 2 ^ (12 : ℤ)) :=
        mul_lt_mul_of_pos_right small (by positivity)
    _ = 1 := by norm_num

end Operations

end Multipath.Doubles
